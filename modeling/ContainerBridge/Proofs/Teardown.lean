import ContainerBridge.Connector
import ContainerBridge.Proofs.Removal
import ContainerBridge.Proofs.Retry
import ContainerBridge.Proofs.World

/-! What a removal takes from a cluster, one resource at a time. Four references lead from the pod
to what goes with it; whatever else there is stays as it is, whichever names and labels it has. -/

namespace ContainerBridge.Cluster.State

/-- Every service stands under its own key. -/
def ServicesKeyed (c : State) : Prop := ∀ k sv, c.services.get? k = some sv → sv.key = k

variable {c : State}

theorem ServicesKeyed.createService (h : ServicesKeyed c) (sv : Service) :
    ServicesKeyed (c.createService sv).2 := by
  unfold State.createService
  split
  · exact h
  · intro k sv' hsv'
    rcases OrderedMap.get?_insert_cases hsv' with ⟨rfl, rfl⟩ | hold
    · rfl
    · exact h k sv' hold

/-- No call to a cluster puts a service under another key than its own. -/
theorem ServicesKeyed.answer (h : ServicesKeyed c) (q : Request) :
    ServicesKeyed (c.answer q).2 := by
  cases q with
  | createService sv => exact h.createService sv
  | deleteService project name =>
    intro k sv hsv
    exact h k sv (OrderedMap.get?_of_get?_erase hsv).2
  | listPods project selector =>
    show ServicesKeyed (c.listPods project selector).2
    unfold State.listPods
    split
    · exact h
    · have hleft := (LeftByListing.refl c).tick
      rw [ServicesKeyed, hleft.services]
      exact h
  | labelPod project name key value =>
    show ServicesKeyed (c.labelPod project name key value).2
    unfold State.labelPod
    dsimp only
    split
    · exact h
    · exact h
  | createJobPod pod =>
    show ServicesKeyed (c.createJobPod pod).2
    unfold State.createJobPod
    dsimp only
    split
    · exact h
    · exact h
  | podPhase project name =>
    show ServicesKeyed (c.podPhase project name).2
    unfold State.podPhase
    split
    · exact h
    · split
      · exact h
      · exact h
  | _ => exact h

end ContainerBridge.Cluster.State

namespace ContainerBridge.Lifecycle

open Cluster Cluster.State

/-- The second map is the first without the entries of a kind. -/
def Without {κ α : Type} [KeyOrder κ] (gone : κ → α → Prop) (m m' : OrderedMap κ α) : Prop :=
  ∀ k v, m'.get? k = some v ↔ m.get? k = some v ∧ ¬ gone k v

/-- The pod carries the identity of the container. -/
def Carries (s : Settings) (containerId : String) (p : Pod) : Prop :=
  p.project = s.project ∧ p.labels.get? identityLabel = some (shortId containerId)

instance (s : Settings) (containerId : String) (p : Pod) : Decidable (Carries s containerId p) :=
  inferInstanceAs (Decidable (_ ∧ _))

/-- The pods that carry the identity of a container. -/
def carriers (s : Settings) (containerId : String) (c : State) : List Pod :=
  c.pods.values.filter fun p => Carries s containerId p

/-- The key is that of the first service by name that selects a deployment. -/
structure FirstService (s : Settings) (deployment : String) (c : State) (k : Key) : Prop where
  project : k.project = s.project
  selects : ∃ sv, c.services.get? k = some sv ∧
    sv.selector.get? deploymentLabel = some deployment
  first : ∀ k' sv, c.services.get? k' = some sv → k'.project = s.project →
    sv.selector.get? deploymentLabel = some deployment → ¬ k'.name < k.name

/-- The second cluster is the first without what belongs to a pod's deployment, and without the
pod. -/
structure TornDown (s : Settings) (pod : Pod) (deployment : String) (c c' : State) : Prop where
  services : Without (fun k _ => FirstService s deployment c k) c.services c'.services
  routes : Without (fun k r => s.routes.enabled = true ∧ k.project = s.project ∧
    r.labels.get? deploymentLabel = some deployment) c.routes c'.routes
  deployments : Without (fun k _ => k = ⟨s.project, deployment⟩) c.deployments c'.deployments
  controllers : Without (fun k _ => k.project = s.project ∧
    pod.labels.get? controllerLabel = some k.name)
    c.replicationControllers c'.replicationControllers
  pods : Without (fun k _ => k = ⟨s.project, pod.name⟩) c.pods c'.pods
  jobs : Without (fun k _ => k = ⟨s.project, pod.name⟩) c.jobs c'.jobs
  /-- All else is as before, but for what is noted of calls. -/
  rest : c' = { c with
    services := c'.services, routes := c'.routes, deployments := c'.deployments
    replicationControllers := c'.replicationControllers, pods := c'.pods, jobs := c'.jobs
    calls := c'.calls }

variable {s : Settings} {c c' : State} {pod : Pod} {deployment containerId : String} {k : Key}

/-! One map -/

theorem without_erase {κ α : Type} [KeyOrder κ] (m : OrderedMap κ α) (k : κ) :
    Without (fun k' _ => k' = k) m (m.erase k) := by
  intro k' v
  by_cases hk : k' = k <;> simp [OrderedMap.get?_erase, hk]

theorem without_filter {κ α : Type} [KeyOrder κ] (m : OrderedMap κ α) {gone : κ → α → Prop}
    {p : κ → α → Bool} (h : ∀ k v, p k v = true ↔ ¬ gone k v) : Without gone m (m.filter p) := by
  intro k v
  rw [OrderedMap.get?_filter, Option.filter_eq_some_iff, h]

theorem without_none {κ α : Type} [KeyOrder κ] (m : OrderedMap κ α) {gone : κ → α → Prop}
    (h : ∀ k v, m.get? k = some v → ¬ gone k v) : Without gone m m := by
  intro k v
  constructor
  · intro hv
    exact ⟨hv, h k v hv⟩
  · intro hv
    exact hv.1

/-! The parts of a teardown -/

/-- The service that is found is the first by name. -/
theorem firstService_of_serviceOf (hkeyed : ServicesKeyed c) {sv : Service}
    (h : serviceOf s deployment c = some sv) :
    FirstService s deployment c ⟨s.project, sv.name⟩ := by
  rw [serviceOf, listServices, List.find?_filter] at h
  obtain ⟨k, hsv, hp, hfirst⟩ := OrderedMap.find?_values_eq_some h
  simp only [decide_eq_true_eq] at hp hfirst
  obtain rfl : sv.key = k := hkeyed k sv hsv
  obtain ⟨hproject, hsel⟩ := hp
  rw [← hproject]
  refine ⟨hproject, ⟨sv, hsv, hsel⟩, ?_⟩
  intro k' sv' hsv' hproject' hsel' hlt
  obtain rfl : sv'.key = k' := hkeyed k' sv' hsv'
  exact hfirst _ sv' hsv' ⟨hproject', hsel'⟩ (.inr ⟨hproject'.trans hproject.symm, hlt⟩)

theorem FirstService.unique {k' : Key} (h : FirstService s deployment c k)
    (h' : FirstService s deployment c k') : k' = k := by
  obtain ⟨sv, hsv, hsel⟩ := h.selects
  obtain ⟨sv', hsv', hsel'⟩ := h'.selects
  have hname : k'.name = k.name := KeyOrder.eq_of_not_lt
    (h.first k' sv' hsv' h'.project hsel') (h'.first k sv hsv h.project hsel)
  have hproject : k'.project = k.project := h'.project.trans h.project.symm
  exact congrArg₂ Key.mk hproject hname

theorem without_servicesWithout (s : Settings) (deployment : String) (hkeyed : ServicesKeyed c) :
    Without (fun k _ => FirstService s deployment c k) c.services
      (servicesWithout s deployment c) := by
  cases hs : serviceOf s deployment c with
  | some sv =>
    have hfirst := firstService_of_serviceOf hkeyed hs
    have hgone : ∀ k, FirstService s deployment c k ↔ k = ⟨s.project, sv.name⟩ := by
      intro k
      constructor
      · exact hfirst.unique
      · rintro rfl
        exact hfirst
    simp only [hgone, servicesWithout_of_some hs]
    exact without_erase _ _
  | none =>
    rw [servicesWithout_of_none hs]
    refine without_none _ ?_
    rintro k - - hfirst
    obtain ⟨sv, hsv, hsel⟩ := hfirst.selects
    have hproject : sv.project = s.project := by
      rw [← hfirst.project, ← hkeyed k sv hsv]
      rfl
    have hno := List.find?_eq_none.1 hs sv (mem_listServices.2 ⟨⟨k, hsv⟩, hproject⟩)
    simp [hsel] at hno

theorem without_routesWithout (s : Settings) (deployment : String) (c : State) :
    Without (fun k r => s.routes.enabled = true ∧ k.project = s.project ∧
      r.labels.get? deploymentLabel = some deployment) c.routes (routesWithout s deployment c) := by
  unfold routesWithout
  split
  · rename_i henabled
    refine without_filter _ fun k r => ?_
    rw [isSelected_deployment]
    simp [henabled, imp_iff_not_or]
  · rename_i hdisabled
    exact without_none _ fun k r _ hgone => hdisabled hgone.1

theorem without_controllersWithout (s : Settings) (pod : Pod) (c : State) :
    Without (fun k _ => k.project = s.project ∧ pod.labels.get? controllerLabel = some k.name)
      c.replicationControllers (controllersWithout s pod c) := by
  unfold controllersWithout
  cases hl : pod.labels.get? controllerLabel with
  | some name =>
    have hgone : ∀ k : Key, (k.project = s.project ∧ some name = some k.name) ↔
        k = ⟨s.project, name⟩ := by
      rintro ⟨project, name'⟩
      simp [eq_comm]
    simp only [hgone]
    exact without_erase _ _
  | none =>
    refine without_none _ ?_
    rintro k - - ⟨-, hgone⟩
    cases hgone

theorem tornDown_dismantle (s : Settings) (pod : Pod) (deployment : String) (calls : List String)
    (hkeyed : ServicesKeyed c) :
    TornDown s pod deployment c (dismantle s pod deployment calls c) where
  services := without_servicesWithout s deployment hkeyed
  routes := without_routesWithout s deployment c
  deployments := without_erase _ _
  controllers := without_controllersWithout s pod c
  pods := without_erase _ _
  jobs := without_erase _ _
  rest := rfl

theorem podsOf_identitySelector (s : Settings) (containerId : String) (c : State) :
    c.podsOf s.project (identitySelector containerId) = carriers s containerId c := by
  refine List.filter_congr fun p _ => ?_
  rw [Bool.eq_iff_iff, decide_eq_true_eq]
  simp [Carries, identitySelector]

/-- What a removal comes to where no rollout is pending. -/
inductive Teardown (s : Settings) (containerId : String) (c : State) :
    Except BridgeError Unit → State → Prop
  | failed {e : BridgeError} (h : c.listingFailure.isSome ∨ (carriers s containerId c).length ≠ 1 ∨
    ∃ pod ∈ carriers s containerId c, pod.labels.get? deploymentLabel = none) :
    Teardown s containerId c (.error e) c
  | removed {pod : Pod} {deployment : String} {c' : State} (h : c.listingFailure = none)
    (hp : carriers s containerId c = [pod])
    (hd : pod.labels.get? deploymentLabel = some deployment)
    (hc : TornDown s pod deployment c c') : Teardown s containerId c (.ok ()) c'

theorem ensures_remove_teardown {images : OrderedMap String ImageInfo} (hkeyed : ServicesKeyed c)
    (hpending : c.pending = .empty) :
    Operation.Ensures images Answers (fun u => Teardown s containerId c (.ok u))
      (fun e => Teardown s containerId c (.error e)) (remove s containerId) c := by
  have htick := tick_of_no_pending hpending
  refine ensures_remove_of_tearDown (ensures_tearDown_of ?_ ?_)
  · intro e c' h
    cases h with
    | unlisted h => exact .failed (.inl (by simp [h]))
    | ambiguous _ hp hn =>
      rw [htick, podsOf_identitySelector] at hp
      rw [htick]
      exact .failed (.inr (.inl (hp ▸ hn)))
    | @unlabelled pod _ hp hd =>
      rw [htick, podsOf_identitySelector] at hp
      rw [htick]
      exact .failed (.inr (.inr ⟨pod, by simp [hp], hd⟩))
  · intro pod deployment calls hm hp hd
    rw [htick, podsOf_identitySelector] at hp
    rw [htick]
    exact .removed hm hp hd (tornDown_dismantle s pod deployment calls hkeyed)

/-- A removal of a container whose identity not exactly one pod of the project carries, or whose pod
is of no deployment, fails and changes nothing. Any other takes away what belongs to the pod's
deployment, and nothing else; only if pods cannot be listed it changes nothing either. -/
theorem remove_tornDown {w : World} (hcalm : w.clusterOutages = [])
    (hkeyed : ServicesKeyed w.cluster) (hpending : w.cluster.pending = .empty) (waits : Waits)
    (s : Settings) (containerId : String) (force volumes : Bool) :
    let res := World.runUnder waits (Connector.remove containerId force volumes (.cluster s)) w
    let c' := res.2.cluster
    ((carriers s containerId w.cluster).length ≠ 1 →
      (∃ e, res.1 = .error e) ∧ c' = w.cluster) ∧
    ∀ pod, carriers s containerId w.cluster = [pod] →
      (pod.labels.get? deploymentLabel = none → (∃ e, res.1 = .error e) ∧ c' = w.cluster) ∧
      ∀ deployment, pod.labels.get? deploymentLabel = some deployment →
        (w.cluster.listingFailure = none →
          res.1 = .ok () ∧ TornDown s pod deployment w.cluster c') ∧
        (w.cluster.listingFailure ≠ none → (∃ e, res.1 = .error e) ∧ c' = w.cluster) := by
  intro res c'
  have h : Teardown s containerId w.cluster res.1 c' := (World.runUnder_of_ensures
    (fun r c' => Teardown s containerId w.cluster r c') waits hcalm
    (ensures_remove_teardown hkeyed hpending)).1
  generalize res.1 = r at h
  generalize c' = c' at h
  cases h with
  | @failed e h =>
    have hfailed : (∃ e', (.error e : Except BridgeError Unit) = .error e') ∧
        w.cluster = w.cluster := ⟨⟨e, rfl⟩, rfl⟩
    refine ⟨fun _ => hfailed, fun pod hp => ⟨fun _ => hfailed, fun deployment hd => ?_⟩⟩
    refine ⟨fun hlisted => ?_, fun _ => hfailed⟩
    rcases h with h | h | ⟨pod', hpod', hl⟩
    · simp [hlisted] at h
    · simp [hp] at h
    · rw [hp, List.mem_singleton] at hpod'
      rw [hpod', hd] at hl
      cases hl
  | @removed pod deployment _ hlisted hp hd hc =>
    refine ⟨fun hne => (hne (by simp [hp])).elim, fun pod' hp' => ?_⟩
    obtain rfl : pod' = pod := by simpa [hp, eq_comm] using hp'
    refine ⟨fun hno => ?_, fun deployment' hd' => ⟨fun _ => ?_, fun hno => (hno hlisted).elim⟩⟩
    · rw [hd] at hno
      cases hno
    · obtain rfl := Option.some.inj (hd.symm.trans hd')
      exact ⟨rfl, hc⟩

/-! A deployment that two services select, and another project with the same names -/

/-- A second service of the deployment, which no removal knows of. -/
def debugService : Service := { sampleService with name := "che-ws-k6-debug" }

def crowdedWorld : World where
  cluster := { sampleCluster with
    services := .ofList [(debugService.key, debugService), (sampleService.key, sampleService),
      (⟨"dev", "che-ws-k6"⟩, { sampleService with project := "dev" })]
    pods := .ofList [(otherPod.key, otherPod), (samplePod.key, samplePod),
      (⟨"dev", samplePod.name⟩, { samplePod with project := "dev" })] }

theorem remove_tornDown_crowdedWorld :
    let res := World.runUnder Clock.wait
      (Connector.remove "8d5e2f0c41a7b3e9" false false (.cluster sampleSettings)) crowdedWorld
    res.1 = .ok () ∧
    TornDown sampleSettings samplePod "che-ws-k6" crowdedWorld.cluster res.2.cluster ∧
    res.2.cluster.services.get? debugService.key = some debugService ∧
    res.2.cluster.pods.contains ⟨"dev", samplePod.name⟩ = true := by
  have hkeyed : ServicesKeyed crowdedWorld.cluster := OrderedMap.forall_get?_iff.2 (by decide)
  have hcarriers : carriers sampleSettings "8d5e2f0c41a7b3e9" crowdedWorld.cluster =
      [samplePod] := by decide
  intro res
  obtain ⟨-, hremoved⟩ := remove_tornDown (w := crowdedWorld) rfl hkeyed rfl Clock.wait
    sampleSettings "8d5e2f0c41a7b3e9" false false
  obtain ⟨hok, hdown⟩ := ((hremoved samplePod hcarriers).2 "che-ws-k6" (by decide)).1 rfl
  refine ⟨hok, hdown, (hdown.services _ _).2 ⟨by decide, ?_⟩, ?_⟩
  · intro hfirst
    exact hfirst.first sampleService.key sampleService (by decide) rfl (by decide) (by decide)
  · exact OrderedMap.contains_iff.2 ⟨_, (hdown.pods _ _).2 ⟨rfl, by decide⟩⟩

end ContainerBridge.Lifecycle
