import ContainerBridge.Connector
import ContainerBridge.Proofs.Inspection
import ContainerBridge.Proofs.Retry

/-! The ids by which containers are inspected and removed. An inspection asks the engine first,
which also takes the start of an id, and looks for the pod by the id that the engine gives. A
removal looks for the pod by the id as it was given, of which it needs as many characters as the pod
carries. -/

namespace ContainerBridge

/-- Every container stands under its own id. -/
def Engine.State.Keyed (e : Engine.State) : Prop :=
  ∀ k info, e.containers.get? k = some info → info.id = k

/-- A container that is found has an id that begins as was asked. -/
theorem Engine.State.prefix_of_find {e : Engine.State} {id : String} {info : ContainerInfo}
    (hkeyed : e.Keyed) (h : e.find id = some info) : id.toList <+: info.id.toList := by
  unfold find at h
  cases hget : e.containers.get? id with
  | some found =>
    rw [hget] at h
    obtain rfl : found = info := Option.some.inj h
    simp [hkeyed id found hget]
  | none =>
    rw [hget, Option.none_or] at h
    obtain ⟨⟨k, found⟩, hfind, rfl⟩ := Option.map_eq_some_iff.1 h
    have hget' : e.containers.get? k = some found :=
      OrderedMap.get?_eq_some_iff.2 (List.mem_of_find?_eq_some hfind)
    have hstart : Text.startsWith id k = true := by simpa using List.find?_some hfind
    rw [hkeyed k found hget']
    exact List.isPrefixOf_iff_prefix.1 hstart

namespace Lifecycle

open Cluster Cluster.State

variable {images : OrderedMap String ImageInfo} {s : Settings} {w : World} {c : State}
variable {id : String} {info report : ContainerInfo} {pod : Pod} {deployment : String}

/-- The start of an id has the same short form only if it is long enough, or the whole id. -/
theorem shortId_eq_iff {full : String} (h : id.toList <+: full.toList) :
    shortId id = shortId full ↔ 12 ≤ id.toList.length ∨ id = full := by
  obtain ⟨rest, hfull⟩ := h
  have hshort : shortId id = shortId full ↔ id.toList.take 12 = full.toList.take 12 := by
    rw [shortId, shortId, Text.takeChars, Text.takeChars, String.ofList_inj]
  rw [hshort]
  constructor
  · intro htake
    by_contra! hno
    obtain ⟨hlt, hne⟩ := hno
    have hlen := congrArg List.length htake
    rw [← hfull, List.length_take, List.length_take, List.length_append] at hlen
    have hrest : rest = [] := List.eq_nil_of_length_eq_zero (by omega)
    rw [hrest, List.append_nil] at hfull
    exact hne (String.toList_inj.1 hfull)
  · rintro (hle | rfl)
    · rw [← hfull, List.take_append_of_le_length hle]
    · rfl

/-! The owning pod -/

theorem runUnder_owningPod_eq_ok_iff (waits : Waits) (hcalm : w.clusterOutages = []) :
    (World.runUnder waits (owningPod s.project id) w).1 = .ok pod ↔
      w.cluster.listingFailure = none ∧
        w.cluster.tick.podsOf s.project (identitySelector id) = [pod] := by
  refine (World.runUnder_of_ensures (fun res _ => res = .ok pod ↔
    w.cluster.listingFailure = none ∧
      w.cluster.tick.podsOf s.project (identitySelector id) = [pod]) waits hcalm
    (ensures_owningPod ?_ ?_ ?_)).1
  · intro m hm
    simp [hm]
  · rintro pods - hp hn
    have hne : pods ≠ [pod] := by
      rintro rfl
      exact hn rfl
    simp [hp, hne]
  · intro pod' hm hp
    simp [hm, hp]

/-- One pod, which is of a deployment, carries the identity of a container that can be inspected. -/
theorem ensures_inspected :
    Operation.Ensures images Answers
      (fun _ _ => c.listingFailure = none ∧ ∃ pod deployment,
        c.tick.podsOf s.project (identitySelector info.id) = [pod] ∧
          pod.labels.get? deploymentLabel = some deployment)
      (fun _ _ => True) (do
        let deployment ← deploymentOf (← owningPod s.project info.id)
        match ← owningService s.project deployment with
        | none => throw (.resourceNotFound .service deployment)
        | some service => return withService s info service) c := by
  refine (Operation.ensures_bind _ _).2 (ensures_owningPod (fun _ _ => trivial)
    (fun _ _ _ _ => trivial) fun pod hm hp => ?_)
  refine (Operation.ensures_bind _ _).2 (ensures_deploymentOf (fun _ => trivial) fun d hd => ?_)
  refine (Operation.ensures_bind _ _).2 ((ensures_owningService s d).imp ?_ fun _ _ h => h)
  rintro sv _ -
  cases sv with
  | none => exact trivial
  | some sv => exact ⟨hm, pod, d, hp, hd⟩

theorem inspected_of_ok (waits : Waits) (hcalm : w.clusterOutages = [])
    (hengine : w.engineOutages = [])
    (h : (World.runUnder waits (Connector.inspectContainer id (.cluster s)) w).1 = .ok report) :
    ∃ info pod deployment, w.engine.find id = some info ∧ w.cluster.listingFailure = none ∧
      w.cluster.tick.podsOf s.project (identitySelector info.id) = [pod] ∧
      pod.labels.get? deploymentLabel = some deployment := by
  change (World.runUnder waits (inspectContainer s id) w).1 = .ok report at h
  rw [inspectContainer, World.runUnder_inspectContainer_bind waits hengine] at h
  cases hfind : w.engine.find id with
  | none =>
    rw [hfind] at h
    cases h
  | some info =>
    rw [hfind] at h
    have hres := (World.runUnder_of_ensures
      (fun res _ => ∀ r, res = .ok r → w.cluster.listingFailure = none ∧ ∃ pod deployment,
        w.cluster.tick.podsOf s.project (identitySelector info.id) = [pod] ∧
          pod.labels.get? deploymentLabel = some deployment) waits hcalm
      (ensures_inspected.imp (fun _ _ hi _ _ => hi) (by rintro e _ - r ⟨⟩))).1
    obtain ⟨hm, pod, deployment, hp, hd⟩ := hres report h
    exact ⟨info, pod, deployment, rfl, hm, hp, hd⟩

/-- Where a container can be inspected, a removal by the same id finds the same pod if the id is the
whole id of the container or has the twelve characters that the pod carries of it. By a shorter
start of the id, which the engine takes as well, it does not. -/
theorem remove_inspected (waits waits' : Waits) (hcalm : w.clusterOutages = [])
    (hengine : w.engineOutages = []) (hkeyed : w.engine.Keyed) (force volumes : Bool)
    (h : (World.runUnder waits (Connector.inspectContainer id (.cluster s)) w).1 = .ok report) :
    let res := World.runUnder waits' (Connector.remove id force volumes (.cluster s)) w
    ∃ info pod deployment, w.engine.find id = some info ∧
      (World.runUnder waits' (owningPod s.project info.id) w).1 = .ok pod ∧
      pod.labels.get? deploymentLabel = some deployment ∧
      ((World.runUnder waits' (owningPod s.project id) w).1 = .ok pod ↔
        12 ≤ id.toList.length ∨ id = info.id) ∧
      (12 ≤ id.toList.length ∨ id = info.id →
        res.1 = .ok () ∧ Dismantled s pod deployment w.cluster.tick res.2.cluster) := by
  intro res
  obtain ⟨info, pod, deployment, hfind, hlisted, hpods, hd⟩ :=
    inspected_of_ok waits hcalm hengine h
  have hshort := shortId_eq_iff (Engine.State.prefix_of_find hkeyed hfind)
  refine ⟨info, pod, deployment, hfind,
    (runUnder_owningPod_eq_ok_iff waits' hcalm).2 ⟨hlisted, hpods⟩, hd, ?_, ?_⟩
  · rw [runUnder_owningPod_eq_ok_iff waits' hcalm, ← hshort]
    constructor
    · rintro ⟨-, hpods'⟩
      have hid : ∀ id', w.cluster.tick.podsOf s.project (identitySelector id') = [pod] →
          pod.labels.get? identityLabel = some (shortId id') := by
        intro id' hp
        have hmem := State.mem_podsOf.1 (hp ▸ List.mem_singleton_self pod)
        simpa [identitySelector] using hmem.2.2
      exact Option.some.inj ((hid id hpods').symm.trans (hid info.id hpods))
    · intro he
      rw [identitySelector, he]
      exact ⟨hlisted, hpods⟩
  · intro hlong
    have hremoval : Removal s id w.cluster res.1 res.2.cluster := (World.runUnder_of_ensures
      (fun r c' => Removal s id w.cluster r c') waits' hcalm (ensures_remove s id)).1
    refine hremoval.dismantled_tick hlisted ?_ hd
    rw [identitySelector, hshort.2 hlong]
    exact hpods

/-- A world with one workspace. -/
def inhabitedWorld : World where
  cluster := sampleCluster
  engine := ({} : Engine.State).withContainer { id := "8d5e2f0c41a7b3e9" }

theorem remove_inspected_inhabitedWorld :
    let res := World.runUnder Clock.wait
      (Connector.remove "8d5e2f0c41a7" false false (.cluster sampleSettings)) inhabitedWorld
    res.1 = .ok () := by
  have hkeyed : inhabitedWorld.engine.Keyed := OrderedMap.forall_get?_iff.2 (by decide)
  obtain ⟨report, hreport⟩ := Option.isSome_iff_exists.1 (show (World.runUnder Clock.wait
    (Connector.inspectContainer "8d5e2f0c41a7" (.cluster sampleSettings))
      inhabitedWorld).1.toOption.isSome = true by decide +kernel)
  obtain ⟨info, pod, deployment, -, -, -, -, hremoved⟩ := remove_inspected Clock.wait Clock.wait rfl
    rfl hkeyed false false (World.eq_ok_of_toOption hreport)
  exact (hremoved (.inl (by decide))).1

/-- Six characters do for an inspection, and not for a removal. -/
theorem remove_six_characters :
    let inspected := World.runUnder Clock.wait
      (Connector.inspectContainer "8d5e2f" (.cluster sampleSettings)) inhabitedWorld
    let removed := World.runUnder Clock.wait
      (Connector.remove "8d5e2f" false false (.cluster sampleSettings)) inhabitedWorld
    inspected.1.toOption.map ContainerInfo.id = some "8d5e2f0c41a7b3e9" ∧
    (World.runUnder Clock.wait (owningPod "che" "8d5e2f0c41a7b3e9") inhabitedWorld).1 =
      .ok samplePod ∧
    removed.1 = .error (.ambiguousDiscovery "cheContainerIdentifier=8d5e2f" 0) := by
  decide +kernel

end Lifecycle
end ContainerBridge
