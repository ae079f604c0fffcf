import ContainerBridge.Proofs.Creation

/-! Identities of pods. A pod gets one only from a discovery that found it; rollouts bring about
pods without one, and may take a pod away that has one. -/

namespace ContainerBridge.Cluster.State

/-- Every pod stands under its own key. -/
def Keyed (c : State) : Prop := ∀ k p, c.pods.get? k = some p → p.key = k

variable {r : Rollout} {c : State} {k k' : Key} {p : Pod}

theorem Keyed.insert (h : Keyed c) (hp : p.key = k) :
    Keyed { c with pods := c.pods.insert k p } := by
  intro k' q hq
  rcases OrderedMap.get?_insert_cases hq with ⟨rfl, rfl⟩ | hold
  · exact hp
  · exact h k' q hold

theorem Keyed.erase (h : Keyed c) (k : Key) : Keyed { c with pods := c.pods.erase k } := by
  intro k' q hq
  exact h k' q (OrderedMap.get?_of_get?_erase hq).2

theorem Keyed.advance (h : Keyed c) : Keyed (advance r c k) := by
  intro k' q hq
  rcases advance_pods hq with hold | ⟨rfl, rfl⟩ | ⟨rfl, rfl, -⟩
  · exact h k' q hold
  · rfl
  · rfl

theorem Keyed.tick (h : Keyed c) : Keyed c.tick :=
  tick_induction h fun _ _ _ _ hs => hs.advance

theorem Keyed.ticks (h : Keyed c) (n : Nat) : Keyed (State.tick^[n] c) :=
  ticks_induction h (fun _ _ _ _ hs => hs.advance) n

theorem Keyed.labelPod (h : Keyed c) (project name key value : String) :
    Keyed (c.labelPod project name key value).2 := by
  unfold State.labelPod
  dsimp only
  split
  · exact h
  · rename_i pod hpod
    have hk : pod.key = ⟨project, name⟩ := h _ pod hpod
    exact h.insert (p := { pod with labels := pod.labels.insert key value }) hk

/-- No call to a cluster puts a pod under another key than its own. -/
theorem Keyed.answer (h : Keyed c) (q : Request) : Keyed (c.answer q).2 := by
  cases q with
  | createService service =>
    show Keyed (c.createService service).2
    unfold State.createService
    split
    · exact h
    · exact h
  | listPods project selector =>
    show Keyed (c.listPods project selector).2
    unfold State.listPods
    split
    · exact h
    · exact h.tick
  | labelPod project name key value => exact h.labelPod project name key value
  | deletePod project name => exact h.erase ⟨project, name⟩
  | createJobPod pod =>
    show Keyed (c.createJobPod pod).2
    unfold State.createJobPod
    dsimp only
    split
    · exact h
    · exact h
  | podPhase project name =>
    show Keyed (c.podPhase project name).2
    unfold State.podPhase
    split
    · exact h
    · split
      · exact h
      · exact h
  | _ => exact h

end ContainerBridge.Cluster.State

namespace ContainerBridge.Lifecycle

open Cluster Cluster.State

variable {c c' : State} {project deployment : String} {d : Discovered}

/-- The resources of a plan leave the pods as they are. -/
theorem Provisioned.keyed {s : Settings} {spec : ContainerSpec} {p : Plan}
    (h : Provisioned s spec p c c') (hk : Keyed c) : Keyed c' := by
  rw [Keyed, h.pods]
  exact hk

/-- The pod in which a container is found is the one that is labelled for it. -/
theorem findContainer_keyed (h : Keyed c)
    (hd : findContainer (c.podsOf project .empty) deployment = some d) :
    ∃ p raw, c.pods.get? ⟨project, d.pod⟩ = some p ∧ p.project = project ∧ p.name = d.pod ∧
      p.labels.get? deploymentLabel = some deployment ∧ p.containerIds.head? = some raw ∧
      d.containerId = stripRuntimeScheme raw := by
  obtain ⟨p, raw, hp, hl, hraw, rfl⟩ := findContainer_eq_some hd
  obtain ⟨⟨k, hk⟩, rfl, -⟩ := mem_podsOf.1 hp
  have hkey : k = p.key := (h k p hk).symm
  rw [hkey] at hk
  exact ⟨p, raw, hk, rfl, rfl, hl, hraw, rfl⟩

/-- A container that is found can be labelled: its pod is there. -/
theorem labelPod_keyed (h : Keyed c)
    (hd : findContainer (c.podsOf project .empty) deployment = some d) (key value : String) :
    (c.labelPod project d.pod key value).1 = .ok () := by
  obtain ⟨p, -, hp, -⟩ := findContainer_keyed h hd
  rw [labelPod_of_get? hp]

end ContainerBridge.Lifecycle
