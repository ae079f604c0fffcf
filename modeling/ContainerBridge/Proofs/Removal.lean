import ContainerBridge.Lifecycle.Remove
import ContainerBridge.Proofs.Discovery

/-! What the removal of a container may come to on a cluster kept in memory: its pod is not found,
or all that belongs to the pod's deployment is gone. -/

namespace ContainerBridge.Lifecycle

open Cluster Cluster.State

/-- The service by which a removal finds a deployment. -/
def serviceOf (s : Settings) (deployment : String) (c : State) : Option Service :=
  (c.listServices s.project).find? fun sv => sv.selector.get? deploymentLabel = some deployment

def servicesWithout (s : Settings) (deployment : String) (c : State) : OrderedMap Key Service :=
  match serviceOf s deployment c with
  | some sv => c.services.erase ⟨s.project, sv.name⟩
  | none => c.services

def routesWithout (s : Settings) (deployment : String) (c : State) : OrderedMap Key Route :=
  if s.routes.enabled then
    c.routes.filter fun k r => !isSelected s.project (deploymentSelector deployment) k r
  else c.routes

def controllersWithout (s : Settings) (pod : Pod) (c : State) : OrderedSet Key :=
  match pod.labels.get? controllerLabel with
  | some name => c.replicationControllers.erase ⟨s.project, name⟩
  | none => c.replicationControllers

/-- The second cluster is the first without what belongs to a pod's deployment, and without the
pod. -/
structure Dismantled (s : Settings) (pod : Pod) (deployment : String) (c c' : State) : Prop where
  services : c'.services = servicesWithout s deployment c
  routes : c'.routes = routesWithout s deployment c
  deployments : c'.deployments = c.deployments.erase ⟨s.project, deployment⟩
  controllers : c'.replicationControllers = controllersWithout s pod c
  pods : c'.pods = c.pods.erase ⟨s.project, pod.name⟩
  jobs : c'.jobs = c.jobs.erase ⟨s.project, pod.name⟩
  pending : c'.pending = c.pending
  rollout : c'.rollout = c.rollout
  listingFailure : c'.listingFailure = c.listingFailure
  projects : c'.projects = c.projects

/-- The clusters have the same resources. -/
structure SameResources (c c' : State) : Prop where
  services : c'.services = c.services
  deployments : c'.deployments = c.deployments
  controllers : c'.replicationControllers = c.replicationControllers
  pods : c'.pods = c.pods
  jobs : c'.jobs = c.jobs
  routes : c'.routes = c.routes

/-- What a removal may come to on a cluster that was `c` before. -/
inductive Removal (s : Settings) (containerId : String) (c : State) :
    Except BridgeError Unit → State → Prop
  | unlisted {message : String} (h : c.listingFailure = some message) :
    Removal s containerId c (.error (.cluster (.api 500 message))) c
  | ambiguous {pods : List Pod} (h : c.listingFailure = none)
    (hp : c.tick.podsOf s.project (identitySelector containerId) = pods) (hn : pods.length ≠ 1) :
    Removal s containerId c
      (.error (.ambiguousDiscovery (identitySelector containerId).text pods.length)) c.tick
  | unlabelled {pod : Pod} (h : c.listingFailure = none)
    (hp : c.tick.podsOf s.project (identitySelector containerId) = [pod])
    (hd : pod.labels.get? deploymentLabel = none) :
    Removal s containerId c (.error (.resourceNotFound .deploymentConfig
      ("label " ++ deploymentLabel ++ " on pod " ++ pod.name))) c.tick
  | removed {pod : Pod} {deployment : String} {c' : State} (h : c.listingFailure = none)
    (hp : c.tick.podsOf s.project (identitySelector containerId) = [pod])
    (hd : pod.labels.get? deploymentLabel = some deployment)
    (hc : Dismantled s pod deployment c.tick c') : Removal s containerId c (.ok ()) c'

variable {images : OrderedMap String ImageInfo} {s : Settings} {c : State}
variable {bad : BridgeError → State → Prop}

/-- The service that alone selects a deployment is found. -/
theorem serviceOf_eq_some {deployment : String} {k : Key} {sv : Service}
    (h : c.services.get? k = some sv) (hp : sv.project = s.project)
    (hs : sv.selector.get? deploymentLabel = some deployment)
    (hu : ∀ k' sv', c.services.get? k' = some sv' → sv'.project = s.project →
      sv'.selector.get? deploymentLabel = some deployment → k' = k) :
    serviceOf s deployment c = some sv := by
  have he : c.services.values.filter (fun sv => decide (sv.project = s.project) &&
      decide (sv.selector.get? deploymentLabel = some deployment)) = [sv] := by
    refine OrderedMap.filter_values_eq_singleton h (by simp [hp, hs]) fun k' sv' hk' hsv' => ?_
    simp only [Bool.and_eq_true, decide_eq_true_eq] at hsv'
    exact hu k' sv' hk' hsv'.1 hsv'.2
  rw [serviceOf, ← List.head?_filter, listServices, List.filter_filter]
  simp only [Bool.and_comm] at he ⊢
  rw [he]
  rfl

/-- Where no service selected a deployment, one that is put there and does is found. -/
theorem serviceOf_insert {deployment : String} {k : Key} {sv : Service} {c' : State}
    (h : c'.services = c.services.insert k sv) (hp : sv.project = s.project)
    (hs : sv.selector.get? deploymentLabel = some deployment)
    (hu : ∀ k' sv', c.services.get? k' = some sv' → sv'.project = s.project →
      sv'.selector.get? deploymentLabel ≠ some deployment) :
    serviceOf s deployment c' = some sv := by
  refine serviceOf_eq_some (k := k) ?_ hp hs fun k' sv' hsv' hproject hsel => ?_
  · rw [h, OrderedMap.get?_insert_self]
  · rw [h] at hsv'
    rcases OrderedMap.get?_insert_cases hsv' with ⟨rfl, -⟩ | hold
    · rfl
    · exact (hu k' sv' hold hproject hsel).elim

theorem servicesWithout_of_none {deployment : String} (h : serviceOf s deployment c = none) :
    servicesWithout s deployment c = c.services := by
  rw [servicesWithout, h]

theorem servicesWithout_of_some {deployment : String} {sv : Service}
    (h : serviceOf s deployment c = some sv) :
    servicesWithout s deployment c = c.services.erase ⟨s.project, sv.name⟩ := by
  rw [servicesWithout, h]

theorem ensures_reportGone {σ : Type} {calls : Calls σ} {c : σ} {bad : BridgeError → σ → Prop}
    {good : Unit → σ → Prop} (kind : ResourceKind) (name : String) (removed : Bool)
    (h : good () c) :
    Operation.Ensures images calls good bad (reportGone s kind name removed) c := by
  unfold reportGone
  cases removed with
  | true => exact h
  | false => exact (Operation.ensures_log _).2 h

theorem ensures_owningService (s : Settings) (deployment : String) :
    Operation.Ensures images Answers (fun sv c' => c' = c ∧ sv = serviceOf s deployment c) bad
      (owningService s.project deployment) c := by
  refine (Operation.ensures_bind _ _).2 (Operation.ensures_cluster.2 ?_)
  rintro _ _ ⟨⟩
  exact ⟨rfl, rfl⟩

theorem ensures_removeService (s : Settings) (deployment : String) :
    Operation.Ensures images Answers
      (fun _ c' => ∃ calls,
        c' = { c with services := servicesWithout s deployment c, calls := calls })
      bad (removeService s deployment) c := by
  refine (Operation.ensures_bind _ _).2 ((ensures_owningService s deployment).imp ?_ fun _ _ h => h)
  rintro sv c ⟨rfl, rfl⟩
  unfold servicesWithout
  cases serviceOf s deployment c with
  | none => exact ensures_reportGone _ _ _ ⟨_, rfl⟩
  | some sv =>
    refine (Operation.ensures_bind _ _).2 (Operation.ensures_cluster.2 ?_)
    rintro _ _ ⟨⟩
    exact ensures_reportGone _ _ _ ⟨_, rfl⟩

theorem ensures_removeRoutes (s : Settings) (deployment : String) :
    Operation.Ensures images Answers
      (fun _ c' => ∃ calls, c' = { c with routes := routesWithout s deployment c, calls := calls })
      bad (removeRoutes s deployment) c := by
  unfold removeRoutes routesWithout
  cases s.routes.enabled with
  | false => exact ⟨_, rfl⟩
  | true =>
    refine (Operation.ensures_bind _ _).2 (Operation.ensures_cluster.2 ?_)
    rintro _ _ ⟨⟩
    exact ⟨_, rfl⟩

theorem ensures_removeController (s : Settings) (pod : Pod) (deployment : String) :
    Operation.Ensures images Answers
      (fun _ c' => ∃ calls, c' =
        { c with replicationControllers := controllersWithout s pod c, calls := calls })
      bad (removeController s pod deployment) c := by
  unfold removeController controllersWithout
  cases pod.labels.get? controllerLabel with
  | none => exact ensures_reportGone _ _ _ ⟨_, rfl⟩
  | some name =>
    refine (Operation.ensures_bind _ _).2 (Operation.ensures_cluster.2 ?_)
    rintro _ _ ⟨⟩
    exact ensures_reportGone _ _ _ ⟨_, rfl⟩

/-- The listing of the pods that carry a container's identity fails, or shows exactly one pod, or
does not. -/
theorem ensures_owningPod {containerId : String} {good : Pod → State → Prop}
    (hunlisted : ∀ m, c.listingFailure = some m → bad (.cluster (.api 500 m)) c)
    (hambiguous : ∀ pods, c.listingFailure = none →
      c.tick.podsOf s.project (identitySelector containerId) = pods → pods.length ≠ 1 →
        bad (.ambiguousDiscovery (identitySelector containerId).text pods.length) c.tick)
    (hgood : ∀ pod, c.listingFailure = none →
      c.tick.podsOf s.project (identitySelector containerId) = [pod] → good pod c.tick) :
    Operation.Ensures images Answers good bad (owningPod s.project containerId) c := by
  unfold owningPod
  refine (Operation.ensures_bind _ _).2 (Operation.ensures_cluster.2 fun r c' h => ?_)
  obtain ⟨m, hm, rfl, rfl⟩ | ⟨hm, rfl, rfl⟩ := answers_listPods h
  · exact hunlisted m hm
  · generalize hp : c.tick.podsOf s.project (identitySelector containerId) = pods
    rcases pods with _ | ⟨pod, _ | ⟨pod', rest⟩⟩
    · exact hambiguous [] hm hp (by simp)
    · exact hgood pod hm hp
    · exact hambiguous (pod :: pod' :: rest) hm hp (by simp)

theorem ensures_deploymentOf {σ : Type} {calls : Calls σ} {c : σ} {bad : BridgeError → σ → Prop}
    {good : String → σ → Prop} {pod : Pod} (hunlabelled : pod.labels.get? deploymentLabel = none →
      bad (.resourceNotFound .deploymentConfig
        ("label " ++ deploymentLabel ++ " on pod " ++ pod.name)) c)
    (hgood : ∀ d, pod.labels.get? deploymentLabel = some d → good d c) :
    Operation.Ensures images calls good bad (liftM (deploymentOf pod) : Operation String) c := by
  unfold deploymentOf
  split
  · exact hgood _ (by assumption)
  · exact hunlabelled (by assumption)

/-- The cluster without what belongs to a pod's deployment, and without the pod. -/
def dismantle (s : Settings) (pod : Pod) (deployment : String) (calls : List String) (c : State) :
    State :=
  { c with
    services := servicesWithout s deployment c
    routes := routesWithout s deployment c
    deployments := c.deployments.erase ⟨s.project, deployment⟩
    replicationControllers := controllersWithout s pod c
    pods := c.pods.erase ⟨s.project, pod.name⟩
    jobs := c.jobs.erase ⟨s.project, pod.name⟩
    calls := calls }

/-- A teardown fails in one of the ways listed, or takes away what belongs to the pod's deployment
and nothing else. -/
theorem ensures_tearDown_of {containerId : String} {good : Unit → State → Prop}
    (hbad : ∀ e c', Removal s containerId c (.error e) c' → bad e c')
    (hgood : ∀ pod deployment calls, c.listingFailure = none →
      c.tick.podsOf s.project (identitySelector containerId) = [pod] →
      pod.labels.get? deploymentLabel = some deployment →
      good () (dismantle s pod deployment calls c.tick)) :
    Operation.Ensures images Answers good bad (tearDown s containerId) c := by
  unfold tearDown
  refine (Operation.ensures_bind _ _).2 (ensures_owningPod (fun _ hm => hbad _ _ (.unlisted hm))
    (fun _ hm hp hn => hbad _ _ (.ambiguous hm hp hn)) fun pod hm hp => ?_)
  refine (Operation.ensures_bind _ _).2
    (ensures_deploymentOf (fun hl => hbad _ _ (.unlabelled hm hp hl)) fun d hd => ?_)
  refine (Operation.ensures_bind _ _).2 ((ensures_removeService s d).imp ?_ fun _ _ h => h)
  rintro _ _ ⟨log₁, rfl⟩
  refine (Operation.ensures_bind _ _).2 ((ensures_removeRoutes s d).imp ?_ fun _ _ h => h)
  rintro _ _ ⟨log₂, rfl⟩
  refine (Operation.ensures_bind _ _).2 (Operation.ensures_cluster.2 ?_)
  rintro _ _ ⟨⟩
  refine (Operation.ensures_bind _ _).2 (ensures_reportGone _ _ _ ?_)
  refine (Operation.ensures_bind _ _).2 ((ensures_removeController s pod d).imp ?_ fun _ _ h => h)
  rintro _ _ ⟨log₃, rfl⟩
  refine (Operation.ensures_bind _ _).2 (Operation.ensures_cluster.2 ?_)
  rintro _ _ ⟨⟩
  refine (Operation.ensures_bind _ _).2 (ensures_reportGone _ _ _ ?_)
  exact (Operation.ensures_log _).2 (hgood pod d _ hm hp hd)

/-- What holds after every teardown holds after every removal. -/
theorem ensures_remove_of_tearDown {containerId : String} {good : Unit → State → Prop}
    (h : Operation.Ensures images Answers good bad (tearDown s containerId) c) :
    Operation.Ensures images Answers good bad (remove s containerId) c := by
  refine Operation.ensures_concluding ?_
  simp only [Task.ensures_measure]
  exact h

/-- Every removal ends in one of the ways listed. -/
theorem ensures_remove (s : Settings) (containerId : String) :
    Operation.Ensures images Answers (fun u => Removal s containerId c (.ok u))
      (fun e => Removal s containerId c (.error e)) (remove s containerId) c := by
  refine ensures_remove_of_tearDown (ensures_tearDown_of (fun _ _ h => h) ?_)
  intro pod deployment calls hm hp hd
  exact .removed hm hp hd ⟨rfl, rfl, rfl, rfl, rfl, rfl, rfl, rfl, rfl, rfl⟩

/-- Where a listing shows exactly one pod with the container's identity, and the pod names its
deployment, a removal takes both away. -/
theorem Removal.dismantled_tick {containerId deployment : String} {pod : Pod}
    {res : Except BridgeError Unit} {c' : State} (h : Removal s containerId c res c')
    (hlisted : c.listingFailure = none)
    (hpod : c.tick.podsOf s.project (identitySelector containerId) = [pod])
    (hd : pod.labels.get? deploymentLabel = some deployment) :
    res = .ok () ∧ Dismantled s pod deployment c.tick c' := by
  cases h with
  | unlisted h =>
    rw [hlisted] at h
    cases h
  | ambiguous _ hp hn =>
    rw [hpod] at hp
    simp [← hp] at hn
  | unlabelled _ hp hl =>
    rw [hpod] at hp
    obtain rfl := (List.cons.inj hp).1
    rw [hd] at hl
    cases hl
  | removed _ hp hl hc =>
    rw [hpod] at hp
    obtain rfl := (List.cons.inj hp).1
    rw [hd] at hl
    obtain rfl := Option.some.inj hl
    exact ⟨rfl, hc⟩

/-- Where exactly one pod carries the container's identity and names its deployment, a removal takes
both away. -/
theorem Removal.dismantled {containerId deployment : String} {pod : Pod}
    {res : Except BridgeError Unit} {c' : State} (h : Removal s containerId c res c')
    (hlisted : c.listingFailure = none) (hpending : c.pending = .empty)
    (hpod : c.podsOf s.project (identitySelector containerId) = [pod])
    (hd : pod.labels.get? deploymentLabel = some deployment) :
    res = .ok () ∧ Dismantled s pod deployment c c' := by
  have htick := tick_of_no_pending hpending
  have hdown := h.dismantled_tick hlisted (htick.symm ▸ hpod) hd
  rwa [htick] at hdown

end ContainerBridge.Lifecycle
