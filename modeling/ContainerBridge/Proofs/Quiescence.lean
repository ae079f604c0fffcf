import ContainerBridge.Proofs.Identity

/-! Projects in which nothing is being rolled out. While a rollout of a project is pending, every
listing shows its deployer; so once a container is found there, later listings leave the pods of the
project as they are. -/

namespace ContainerBridge.OrderedMap

variable {κ α : Type} [KeyOrder κ]

theorem values_filter (m : OrderedMap κ α) (p : α → Bool) :
    (m.filter fun _ v => p v).values = m.values.filter p := by
  simp [values, filter, List.filter_map, Function.comp_def]

end ContainerBridge.OrderedMap

namespace ContainerBridge.Cluster.State

variable {r : Rollout} {s c c' : State} {k k' : Key} {project : String}

theorem deployerKey_eq_iff : (deployerPod k).key = (deployerPod k').key ↔ k = k' := by
  cases k
  cases k'
  simp [deployerPod, Pod.key, deployerName, controllerName, String.append_left_inj]

/-- The deployer of the rollout is at work. -/
def Manned (k : Key) (s : State) : Prop :=
  s.pods.get? (deployerPod k).key = some (deployerPod k)

theorem manned_foldl_advance {ks : List Key}
    (h : ∀ k, s.pending.contains k = true → k ∈ ks ∨ Manned k s) :
    ∀ k, (ks.foldl (advance r) s).pending.contains k = true →
      Manned k (ks.foldl (advance r) s) := by
  induction ks generalizing s with
  | nil =>
    intro k hk
    simpa using h k hk
  | cons k ks ih =>
    refine ih fun k' hk' => ?_
    by_cases hne : k' = k
    · -- the rollout of this step has its deployer now, or is over
      subst hne
      obtain ⟨polls, he⟩ | he := advance_cases r s k'
      · exact .inr (by simp [he, Manned])
      · simp [he, OrderedMap.contains_erase] at hk'
    · rw [advance_pending_of_ne hne] at hk'
      rcases h k' hk' with hm | hm
      · exact .inl ((List.mem_cons.1 hm).resolve_left hne)
      · refine .inr ((advance_pods_of_ne ?_ (deployerKey_ne_podKey r k' k)).trans hm)
        exact fun he => hne (deployerKey_eq_iff.1 he)

/-- A listing shows the deployer of every rollout that is still pending. -/
theorem manned_tick (hr : s.rollout = some r) (hk : s.tick.pending.contains k = true) :
    Manned k s.tick := by
  have ht : s.tick = s.pending.keys.foldl (advance r) s := by
    unfold tick
    rw [hr]
  rw [ht] at hk ⊢
  exact manned_foldl_advance (fun k hk => .inl (OrderedMap.mem_keys_iff.2 hk)) k hk

/-- No rollout of the project is under way. -/
def Quiet (project : String) (c : State) : Prop :=
  c.rollout.isSome = true → ∀ k, c.pending.contains k = true → k.project ≠ project

theorem advance_pods_of_project (h : k.project ≠ k'.project) :
    (advance r s k').pods.get? k = s.pods.get? k := by
  refine advance_pods_of_ne ?_ ?_
  · rintro rfl
    exact h rfl
  · rintro rfl
    exact h rfl

/-- Where a project is quiet, a listing leaves its pods as they are. -/
theorem Quiet.tick_pods (h : Quiet project c) (hk : k.project = project) :
    c.tick.pods.get? k = c.pods.get? k := by
  cases hr : c.rollout with
  | none => rw [tick, hr]
  | some r =>
    have hquiet := h (by rw [hr]; rfl)
    refine (tick_induction (P := fun s => (∀ k', s.pending.contains k' = true →
      k'.project ≠ project) ∧ s.pods.get? k = c.pods.get? k) ⟨hquiet, rfl⟩ ?_).2
    rintro r s k' hk' ⟨hs, hp⟩
    constructor
    · intro k'' hk''
      by_cases he : k'' = k'
      · rw [he]
        exact hs k' hk'
      · rw [advance_pending_of_ne he] at hk''
        exact hs k'' hk''
    · rw [advance_pods_of_project, hp]
      rw [hk]
      exact (hs k' hk').symm

/-- A listing of a project depends on nothing but the pods under its keys. -/
theorem podsOf_congr (hk : Keyed c) (hk' : Keyed c')
    (h : ∀ k, k.project = project → c'.pods.get? k = c.pods.get? k) (selector : Selector) :
    c'.podsOf project selector = c.podsOf project selector := by
  have hmap : (c'.pods.filter fun _ p => p.project = project && selector.selects p.labels) =
      c.pods.filter fun _ p => p.project = project && selector.selects p.labels := by
    apply OrderedMap.ext_get?
    intro k
    rw [OrderedMap.get?_filter, OrderedMap.get?_filter]
    by_cases hp : k.project = project
    · rw [h k hp]
    · have hnone : ∀ {s : State}, Keyed s → (s.pods.get? k).filter (fun p =>
          p.project = project && selector.selects p.labels) = none := by
        intro s hs
        refine Option.filter_eq_none_iff.2 fun p hget => ?_
        have hkey : p.project = k.project := congrArg Key.project (hs k p hget)
        simp [hkey, hp]
      rw [hnone hk, hnone hk']
  rw [podsOf, podsOf, ← OrderedMap.values_filter, ← OrderedMap.values_filter, hmap]

theorem Quiet.podsOf_tick (h : Quiet project c) (hk : Keyed c) (selector : Selector) :
    c.tick.podsOf project selector = c.podsOf project selector :=
  podsOf_congr hk hk.tick (fun _ hp => h.tick_pods hp) selector

end ContainerBridge.Cluster.State

namespace ContainerBridge.Lifecycle

open Cluster Cluster.State

variable {c : State} {project deployment : String} {d : Discovered}

theorem findContainer_of_deployer {pods : List Pod} {p : Pod} (hp : p ∈ pods)
    (hl : p.labels.contains deployerLabel = true) : findContainer pods deployment = none := by
  unfold findContainer
  rw [if_pos (List.any_eq_true.2 ⟨p, hp, hl⟩)]

/-- A container is found only where no rollout of its project is under way. -/
theorem quiet_of_findContainer
    (hd : findContainer (c.tick.podsOf project .empty) deployment = some d) :
    Quiet project c.tick := by
  intro hr k hk hproject
  rw [((LeftByListing.refl c).tick).rollout] at hr
  obtain ⟨r, hr⟩ := Option.isSome_iff_exists.1 hr
  have hm : deployerPod k ∈ c.tick.podsOf project .empty :=
    mem_podsOf.2 ⟨⟨_, manned_tick hr hk⟩, hproject, rfl⟩
  rw [findContainer_of_deployer hm (by
    rw [OrderedMap.contains, deployerPod, get?_singleton]
    rfl)] at hd
  cases hd

end ContainerBridge.Lifecycle
