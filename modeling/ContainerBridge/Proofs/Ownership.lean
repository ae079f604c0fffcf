import ContainerBridge.Connector
import ContainerBridge.Proofs.Inspection
import ContainerBridge.Proofs.Quiescence

/-! Finding the pod of a container that was just created. A discovery labels the pod that it finds
without a look at the other pods, of which one may carry the same twelve characters. -/

namespace ContainerBridge.Lifecycle

open Cluster Cluster.State

variable {images : OrderedMap String ImageInfo} {s : Settings} {spec : ContainerSpec}
variable {c c' : State} {deployment containerId : String} {pod : Pod}

/-- The pod in which a deployment's container was found, and which has got its identity: every other
identity was there before. -/
structure Located (s : Settings) (deployment containerId : String) (c c' : State) (pod : Pod) :
    Prop where
  stored : c'.pods.get? pod.key = some pod
  project : pod.project = s.project
  deployed : pod.labels.get? deploymentLabel = some deployment
  container : pod.containerIds.head?.map stripRuntimeScheme = some containerId
  identity : pod.labels.get? identityLabel = some (shortId containerId)
  others : ∀ k p v, k ≠ pod.key → c'.pods.get? k = some p →
    p.labels.get? identityLabel = some v → c.pods.get? k = some p

/-- No other pod of the project carries the identity. -/
def Sole (project identity : String) (k : Key) (c : State) : Prop :=
  ∀ k' p, c.pods.get? k' = some p → p.project = project →
    p.labels.get? identityLabel = some identity → k' = k

/-- The pods of a project stay as they are, and can be listed. -/
structure Listable (project : String) (c : State) : Prop where
  keyed : Keyed c
  quiet : Quiet project c
  listed : c.listingFailure = none

/-- An identity that no pod carried before is that of one pod. -/
theorem Located.sole_of_unseen (h : Located s deployment containerId c c' pod)
    (hu : Unseen s.project (shortId containerId) c) :
    Sole s.project (shortId containerId) pod.key c' := by
  intro k p hp hproject hl
  by_contra hne
  have hold : c.pods.get? k = some p := h.others k p _ hne hp hl
  exact hu k p hold hproject hl

theorem Located.mem_podsOf (h : Located s deployment containerId c c' pod) :
    pod ∈ c'.podsOf s.project (identitySelector containerId) :=
  State.mem_podsOf.2 ⟨⟨_, h.stored⟩, h.project, by simp [identitySelector, h.identity]⟩

theorem Located.podsOf_of_sole (h : Located s deployment containerId c c' pod)
    (hs : Sole s.project (shortId containerId) pod.key c') :
    c'.podsOf s.project (identitySelector containerId) = [pod] := by
  refine podsOf_eq_singleton h.stored h.project (by simp [identitySelector, h.identity]) ?_
  intro k p hp hproject hsel
  exact hs k p hp hproject (by simpa [identitySelector] using hsel)

/-- A second pod with the identity is listed next to the one that was found. -/
theorem Located.two_le_length (h : Located s deployment containerId c c' pod) (hk : Keyed c')
    (hs : ¬ Sole s.project (shortId containerId) pod.key c') :
    2 ≤ (c'.podsOf s.project (identitySelector containerId)).length := by
  simp only [Sole, not_forall] at hs
  obtain ⟨k, p, hp, hproject, hl, hne⟩ := hs
  have hpod : pod ∈ c'.podsOf s.project (identitySelector containerId) := h.mem_podsOf
  have hrival : p ∈ c'.podsOf s.project (identitySelector containerId) :=
    State.mem_podsOf.2 ⟨⟨k, hp⟩, hproject, by simp [identitySelector, hl]⟩
  have hdistinct : p ≠ pod := by
    rintro rfl
    exact hne (hk k p hp).symm
  generalize c'.podsOf s.project (identitySelector containerId) = pods at hpod hrival
  rcases pods with _ | ⟨x, _ | ⟨y, rest⟩⟩
  · simp at hpod
  · rw [List.mem_singleton] at hpod hrival
    exact (hdistinct (hrival.trans hpod.symm)).elim
  · simp

/-- The search for the owner of an identity shows what the cluster holds. -/
theorem runUnder_owningPod {w : World} (waits : Waits) (hcalm : w.clusterOutages = [])
    (hl : Listable s.project w.cluster) (containerId : String) :
    let pods := w.cluster.podsOf s.project (identitySelector containerId)
    let res := (World.runUnder waits (owningPod s.project containerId) w).1
    (∃ pod, pods = [pod] ∧ res = .ok pod) ∨
      (pods.length ≠ 1 ∧
        res = .error (.ambiguousDiscovery (identitySelector containerId).text pods.length)) := by
  have hpods := hl.quiet.podsOf_tick hl.keyed (identitySelector containerId)
  intro pods
  refine (World.runUnder_of_ensures (fun res _ => (∃ pod, pods = [pod] ∧ res = .ok pod) ∨
    (pods.length ≠ 1 ∧ res = .error (.ambiguousDiscovery (identitySelector containerId).text
      pods.length))) waits hcalm (ensures_owningPod ?_ ?_ ?_)).1
  · intro m hm
    rw [hl.listed] at hm
    cases hm
  · rintro pods' - hp hn
    obtain rfl : pods = pods' := hpods.symm.trans hp
    exact .inr ⟨hn, rfl⟩
  · rintro pod - hp
    exact .inl ⟨pod, hpods.symm.trans hp, rfl⟩

/-- A pod is located once it is labelled, if the identities of the others are old. -/
theorem Located.of_labelled {c₀ : State} {p : Pod} (hproject : p.project = s.project)
    (hdeployed : p.labels.get? deploymentLabel = some deployment)
    (hcontainer : p.containerIds.head?.map stripRuntimeScheme = some containerId)
    (hold : ∀ k q v, c.pods.get? k = some q → q.labels.get? identityLabel = some v →
      c₀.pods.get? k = some q) :
    let pod := withLabel identityLabel (shortId containerId) p
    Located s deployment containerId c₀ { c with pods := c.pods.insert p.key pod } pod := by
  constructor
  case stored => exact OrderedMap.get?_insert_self ..
  case project => exact hproject
  case deployed => exact (OrderedMap.get?_insert_of_ne _ _ (by decide)).trans hdeployed
  case container => exact hcontainer
  case identity => exact OrderedMap.get?_insert_self ..
  case others =>
    intro k q v hne hq hv
    rcases OrderedMap.get?_insert_cases hq with ⟨rfl, -⟩ | hq
    · exact (hne rfl).elim
    · exact hold k q v hq hv

/-- A discovery that succeeds labels the pod that it found, in a project that has come to rest. -/
theorem Discovery.located {d : Discovered} (h : Discovery s deployment c (.ok d) c')
    (hk : Keyed c) :
    (∃ pod, Located s deployment d.containerId c c' pod) ∧ Listable s.project c' := by
  cases h with
  | @found n _ _ hn hlisted hbefore hd hlabel =>
    have hkt : Keyed (ticks (n + 1) c) := hk.ticks (n + 1)
    obtain ⟨p, raw, hp, hproject, hname, hdeployed, hraw, hid⟩ := findContainer_keyed hkt hd
    have hkey : p.key = ⟨s.project, d.pod⟩ := congrArg₂ Key.mk hproject hname
    -- the listing that showed the container showed no deployer in the project
    have hquiet : Quiet s.project (ticks (n + 1) c) := by
      rw [sighted, ticks_succ] at hd
      rw [ticks_succ]
      exact quiet_of_findContainer hd
    have hlisted' : (ticks (n + 1) c).listingFailure = none :=
      (left_by_ticks c (n + 1)).listingFailure.trans hlisted
    obtain ⟨e, he, -⟩ | ⟨q, hq, -, rfl⟩ := labelPod_cases hlabel
    · cases he
    · obtain rfl : p = q := Option.some.inj (hp.symm.trans hq)
      rw [← hkey]
      refine ⟨⟨_, .of_labelled hproject hdeployed ?_ fun _ _ _ => ticks_identity⟩, ?_⟩
      · rw [hid, hraw]
        rfl
      · exact ⟨hkt.insert rfl, hquiet, hlisted'⟩

/-- What a creation that succeeds leaves where every pod stood under its own key. -/
theorem Creation.located {id : String} {created : ContainerCreated}
    (h : Creation s spec images c (.ok created) c') (hid : Workspace.idOf spec.env = .ok id)
    (hk : Keyed c) :
    (∃ pod, Located s (Workspace.resourceName id) created.id c c' pod) ∧
      Listable s.project c' := by
  cases h with
  | @created p d _ hp hs hd =>
    have hname := hp.resource hid
    have hb := provisioned_of_new hs
    obtain ⟨⟨pod, hl⟩, hlistable⟩ := hd.located (hb.keyed hk)
    rw [hname] at hl
    refine ⟨⟨pod, { hl with others := ?_ }⟩, hlistable⟩
    rw [← hb.pods]
    exact hl.others

/-- After a successful creation the pod of the container is found by its identity unless another pod
of the project carries the same one; then the search fails, although the creation did not. An
identity that no pod carried before is never ambiguous. -/
theorem owningPod_created {w w₁ : World} {id : String} {created : ContainerCreated}
    (waits waits' : Waits) (hcalm : w.clusterOutages = []) (hk : Keyed w.cluster)
    (hid : Workspace.idOf spec.env = .ok id)
    (hcreate : World.runUnder waits (Connector.create spec (.cluster s)) w = (.ok created, w₁)) :
    ∃ pod, Located s (Workspace.resourceName id) created.id w.cluster w₁.cluster pod ∧
      (Sole s.project (shortId created.id) pod.key w₁.cluster →
        (World.runUnder waits' (owningPod s.project created.id) w₁).1 = .ok pod) ∧
      (¬ Sole s.project (shortId created.id) pod.key w₁.cluster →
        ∃ n, 2 ≤ n ∧ (World.runUnder waits' (owningPod s.project created.id) w₁).1 =
          .error (.ambiguousDiscovery (identitySelector created.id).text n)) ∧
      (Unseen s.project (shortId created.id) w.cluster →
        Sole s.project (shortId created.id) pod.key w₁.cluster) := by
  obtain ⟨hc, hcalm₁⟩ := World.runUnder_of_ensures
    (fun res c' => Creation s spec w.engine.images w.cluster res c') waits hcalm
    (ensures_create s spec)
  rw [show create s spec = Connector.create spec (.cluster s) from rfl, hcreate] at hc hcalm₁
  obtain ⟨⟨pod, hl⟩, hlistable⟩ := hc.located hid hk
  have hrun := runUnder_owningPod waits' hcalm₁ hlistable created.id
  refine ⟨pod, hl, fun hs => ?_, fun hs => ?_, hl.sole_of_unseen⟩
  · rw [hl.podsOf_of_sole hs] at hrun
    obtain ⟨pod', he, hres⟩ | ⟨hn, -⟩ := hrun
    · obtain rfl : pod = pod' := (List.cons.inj he).1
      exact hres
    · exact (hn rfl).elim
  · have htwo := hl.two_le_length hlistable.keyed hs
    obtain ⟨pod', he, -⟩ | ⟨-, hres⟩ := hrun
    · rw [he] at htwo
      simp at htwo
    · exact ⟨_, htwo, hres⟩

theorem owningPod_created_sampleWorld :
    let w₁ := (World.runUnder Clock.wait (create sampleSettings sampleSpec) sampleWorld).2
    ∃ pod, Located sampleSettings "che-ws-k6" "8d5e2f0c41a7b3e9" sampleWorld.cluster w₁.cluster
      pod ∧
    (World.runUnder Clock.wait (owningPod "che" "8d5e2f0c41a7b3e9") w₁).1 = .ok pod := by
  have hid : Workspace.idOf sampleSpec.env = .ok "k6" := by rfl
  have hk : Keyed sampleWorld.cluster := OrderedMap.forall_get?_iff.2 (by decide)
  have hnew : Unseen "che" (shortId "8d5e2f0c41a7b3e9") sampleWorld.cluster :=
    OrderedMap.forall_get?_iff.2 (by decide)
  obtain ⟨pod, hl, hfound, -, hsole⟩ := owningPod_created Clock.wait Clock.wait rfl hk hid
    (Prod.ext create_sampleWorld rfl)
  exact ⟨pod, hl, hfound (hsole hnew)⟩

/-- A pod of another workspace whose identity is that of the container to come. -/
def rivalPod : Pod := withLabel identityLabel (shortId "8d5e2f0c41a7b3e9") otherPod

def clashWorld : World :=
  { sampleWorld with
    cluster := { sampleWorld.cluster with pods := .singleton rivalPod.key rivalPod } }

/-- Stamping may make an identity ambiguous: the creation succeeds all the same, and the container
is not found again. -/
theorem create_clashWorld :
    let res := World.runUnder Clock.wait (create sampleSettings sampleSpec) clashWorld
    res.1 = .ok ⟨"8d5e2f0c41a7b3e9", []⟩ ∧
    (res.2.cluster.podsOf "che" (identitySelector "8d5e2f0c41a7b3e9")).length = 2 ∧
    (World.runUnder Clock.wait (owningPod "che" "8d5e2f0c41a7b3e9") res.2).1 =
      .error (.ambiguousDiscovery "cheContainerIdentifier=8d5e2f0c41a7" 2) := by
  decide +kernel

end ContainerBridge.Lifecycle
