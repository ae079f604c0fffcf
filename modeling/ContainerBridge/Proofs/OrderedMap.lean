import ContainerBridge.OrderedMap
import Mathlib.Data.List.Basic

/-! What lookup sees of an ordered map. A map is known by its lookups, so that equations between
maps are proved one key at a time. -/

namespace ContainerBridge.OrderedMap

variable {κ α β : Type} [KeyOrder κ] {m n : OrderedMap κ α} {k k' : κ} {v v' : α}

theorem lookup_eq_some_iff {l : List (κ × α)} (h : l.Pairwise (fun a b => a.1 < b.1)) :
    lookup k l = some v ↔ (k, v) ∈ l := by
  induction l with
  | nil => simp [lookup]
  | cons e l ih =>
    have hlt : ∀ a ∈ l, e.1 < a.1 := fun a ha => List.rel_of_pairwise_cons h ha
    by_cases hk : e.1 = k
    · have hl : (k, v) ∉ l := by
        intro hm
        have hlt := hlt _ hm
        rw [hk] at hlt
        exact KeyOrder.irrefl k hlt
      simp [lookup, hk, hl, Prod.ext_iff, eq_comm]
    · have he : (k, v) ≠ e := fun he => hk (congrArg Prod.fst he).symm
      simp [lookup, hk, he, ih h.of_cons]

theorem get?_eq_some_iff : m.get? k = some v ↔ (k, v) ∈ m.entries := lookup_eq_some_iff m.ascending

/-- What holds of every entry can be checked one entry at a time. -/
theorem forall_get?_iff {P : κ → α → Prop} :
    (∀ k v, m.get? k = some v → P k v) ↔ ∀ e ∈ m.entries, P e.1 e.2 := by
  simp [get?_eq_some_iff]

theorem mem_values_iff : v ∈ m.values ↔ ∃ k, m.get? k = some v := by
  simp [values, get?_eq_some_iff]

theorem contains_iff : m.contains k = true ↔ ∃ v, m.get? k = some v := Option.isSome_iff_exists

theorem mem_keys_iff : k ∈ m.keys ↔ m.contains k = true := by
  simp [keys, contains_iff, get?_eq_some_iff]

theorem ascending_keys (m : OrderedMap κ α) : m.keys.Pairwise (· < ·) :=
  List.pairwise_map.2 m.ascending

theorem contains_eq_false_iff : m.contains k = false ↔ m.get? k = none := by
  simp [contains]

theorem nodup_entries (m : OrderedMap κ α) : m.entries.Nodup := by
  refine List.Pairwise.imp ?_ m.ascending
  rintro a _ h rfl
  exact KeyOrder.irrefl a.1 h

/-- Maps with the same lookups are the same map. -/
theorem ext_get? (h : ∀ k, m.get? k = n.get? k) : m = n := by
  apply ext_entries
  have hp : m.entries.Perm n.entries := by
    refine (List.perm_ext_iff_of_nodup (nodup_entries m) (nodup_entries n)).2 fun e => ?_
    rw [show e = (e.1, e.2) from rfl, ← get?_eq_some_iff, ← get?_eq_some_iff, h]
  refine hp.eq_of_pairwise (fun a b _ _ hab hba => ?_) m.ascending n.ascending
  exact (KeyOrder.irrefl a.1 (KeyOrder.trans hab hba)).elim

theorem get?_insert (m : OrderedMap κ α) (k k' : κ) (v : α) :
    (m.insert k v).get? k' = if k' = k then some v else m.get? k' := by
  by_cases h : k' = k
  · simp [h]
  · simp [h, get?_insert_of_ne m v h]

theorem get?_filter (m : OrderedMap κ α) (p : κ → α → Bool) (k : κ) :
    (m.filter p).get? k = (m.get? k).filter (p k) := by
  apply Option.ext
  intro v
  rw [get?_eq_some_iff, Option.filter_eq_some_iff, get?_eq_some_iff]
  simp [filter]

theorem get?_erase (m : OrderedMap κ α) (k k' : κ) :
    (m.erase k).get? k' = if k' = k then none else m.get? k' := by
  rw [erase, get?_filter]
  by_cases h : k' = k <;> cases m.get? k' <;> simp [h, Option.filter]

/-- Where an entry comes from that is there after an insertion. -/
theorem get?_insert_cases (h : (m.insert k v).get? k' = some v') :
    (k' = k ∧ v' = v) ∨ m.get? k' = some v' := by
  rw [get?_insert] at h
  split at h
  · exact .inl ⟨by assumption, (Option.some.inj h).symm⟩
  · exact .inr h

/-- What is there after an erasure was there before, under another key. -/
theorem get?_of_get?_erase (h : (m.erase k).get? k' = some v) : k' ≠ k ∧ m.get? k' = some v := by
  rw [get?_erase] at h
  split at h
  · cases h
  · exact ⟨by assumption, h⟩

theorem contains_insert (m : OrderedMap κ α) (k k' : κ) (v : α) :
    (m.insert k v).contains k' = (decide (k' = k) || m.contains k') := by
  by_cases h : k' = k <;> simp [contains, get?_insert, h]

theorem contains_erase (m : OrderedMap κ α) (k k' : κ) :
    (m.erase k).contains k' = (!decide (k' = k) && m.contains k') := by
  by_cases h : k' = k <;> simp [contains, get?_erase, h]

theorem erase_of_get?_none (h : m.get? k = none) : m.erase k = m := by
  apply ext_get?
  intro k'
  rw [get?_erase]
  split
  · simp_all
  · rfl

/-- Erasing undoes an insertion under a new key. -/
theorem erase_insert (h : m.get? k = none) (v : α) : (m.insert k v).erase k = m := by
  apply ext_get?
  intro k'
  rw [get?_erase, get?_insert]
  split <;> simp_all

theorem erase_erase (m : OrderedMap κ α) (k : κ) : (m.erase k).erase k = m.erase k := by
  apply erase_of_get?_none
  simp [get?_erase]

theorem insert_insert (m : OrderedMap κ α) (k : κ) (v v' : α) :
    (m.insert k v).insert k v' = m.insert k v' := by
  apply ext_get?
  intro k'
  simp only [get?_insert]
  split <;> rfl

theorem filter_filter (m : OrderedMap κ α) (p q : κ → α → Bool) :
    (m.filter p).filter q = m.filter fun k v => p k v && q k v := by
  apply ext_entries
  simp [filter, List.filter_filter, Bool.and_comm]

theorem filter_of_forall {p : κ → α → Bool} (h : ∀ k v, m.get? k = some v → p k v) :
    m.filter p = m := by
  apply ext_entries
  refine List.filter_eq_self.2 fun e he => h e.1 e.2 ?_
  exact get?_eq_some_iff.2 he

/-- A value that alone satisfies `p` is all that is left when `p` filters the values. -/
theorem filter_values_eq_singleton {p : α → Bool} (h : m.get? k = some v) (hp : p v = true)
    (hu : ∀ k' v', m.get? k' = some v' → p v' = true → k' = k) : m.values.filter p = [v] := by
  have he : m.entries.filter (p ∘ Prod.snd) = [(k, v)] := by
    refine List.perm_singleton.1 ?_
    refine (List.perm_ext_iff_of_nodup ((nodup_entries m).filter _) (by simp)).2 fun e => ?_
    simp only [List.mem_filter, Function.comp_apply, List.mem_singleton]
    constructor
    · rintro ⟨hm, hpe⟩
      have hke : e.1 = k := hu e.1 e.2 (get?_eq_some_iff.2 hm) hpe
      have hve : m.get? k = some e.2 := get?_eq_some_iff.2 (hke ▸ hm)
      rw [h] at hve
      exact Prod.ext hke (Option.some.inj hve).symm
    · rintro rfl
      exact ⟨get?_eq_some_iff.1 h, hp⟩
  rw [values, List.filter_map, he]
  rfl

/-! Maps made of lists and of other maps -/

/-- Of several entries with one key the last is the one that is looked up. -/
theorem get?_insertAll (m : OrderedMap κ α) (l : List (κ × α)) (k : κ) : (m.insertAll l).get? k =
    ((l.filter fun e => e.1 = k).getLast?.map Prod.snd).or (m.get? k) := by
  induction l generalizing m with
  | nil => rfl
  | cons e l ih =>
    rw [insertAll, List.foldl_cons, ← insertAll, ih, get?_insert]
    by_cases hk : e.1 = k
    · rw [List.filter_cons_of_pos (by simp [hk]), List.getLast?_cons, if_pos hk.symm]
      cases (l.filter fun e => e.1 = k).getLast? <;> rfl
    · rw [List.filter_cons_of_neg (by simp [hk]), if_neg (Ne.symm hk)]

theorem get?_ofList (l : List (κ × α)) (k : κ) : (ofList l).get? k =
    (l.filter fun e => e.1 = k).getLast?.map Prod.snd := by
  rw [ofList, get?_insertAll, get?_empty, Option.or_none]

theorem insertAll_append (m : OrderedMap κ α) (l l' : List (κ × α)) :
    m.insertAll (l ++ l') = (m.insertAll l).insertAll l' :=
  List.foldl_append

/-- The last member with a property is one after which no other has it. -/
theorem getLast?_filter_eq_some_iff_append {p : α → Bool} {l : List α} {a : α} :
    (l.filter p).getLast? = some a ↔
      p a = true ∧ ∃ before after, l = before ++ a :: after ∧ ∀ b ∈ after, p b = false := by
  rw [List.getLast?_filter, List.find?_eq_some_iff_append]
  simp only [Bool.not_eq_true']
  refine and_congr_right fun _ => ?_
  constructor
  · rintro ⟨after, before, h, hafter⟩
    refine ⟨before.reverse, after.reverse, ?_, by simpa using hafter⟩
    rw [← List.reverse_inj, h]
    simp
  · rintro ⟨before, after, rfl, hafter⟩
    exact ⟨after.reverse, before.reverse, by simp, by simpa using hafter⟩

/-- The entry that is looked up is the last one of its key. -/
theorem get?_ofList_eq_some_iff_append {l : List (κ × α)} : (ofList l).get? k = some v ↔
    ∃ before after, l = before ++ (k, v) :: after ∧ ∀ e ∈ after, e.1 ≠ k := by
  rw [get?_ofList, Option.map_eq_some_iff]
  simp only [getLast?_filter_eq_some_iff_append, decide_eq_true_eq, decide_eq_false_iff_not]
  constructor
  · rintro ⟨e, ⟨rfl, h⟩, rfl⟩
    exact h
  · intro h
    exact ⟨(k, v), ⟨rfl, h⟩, rfl⟩

theorem get?_ofList_eq_none_iff {l : List (κ × α)} :
    (ofList l).get? k = none ↔ ∀ e ∈ l, e.1 ≠ k := by
  rw [get?_ofList, Option.map_eq_none_iff, List.getLast?_eq_none_iff, List.filter_eq_nil_iff]
  simp

theorem mem_keys_ofList {l : List (κ × α)} : k ∈ (ofList l).keys ↔ ∃ v, (k, v) ∈ l := by
  rw [mem_keys_iff, ← Bool.not_eq_false, contains_eq_false_iff, get?_ofList_eq_none_iff]
  simp

/-- Entries of a map that have one key are one entry. -/
theorem eq_of_mem_entries {e e' : κ × α} (he : e ∈ m.entries) (he' : e' ∈ m.entries)
    (hk : e.1 = e'.1) : e = e' := by
  have h : m.get? e.1 = some e.2 := get?_eq_some_iff.2 he
  have h' : m.get? e'.1 = some e'.2 := get?_eq_some_iff.2 he'
  rw [hk, h'] at h
  exact Prod.ext hk (Option.some.inj h).symm

/-- Where the entries of a list differ in their keys each of them is looked up. -/
theorem get?_ofList_eq_some_iff {l : List (κ × α)}
    (h : ∀ e ∈ l, ∀ e' ∈ l, e.1 = e'.1 → e = e') : (ofList l).get? k = some v ↔ (k, v) ∈ l := by
  rw [get?_ofList, Option.map_eq_some_iff]
  constructor
  · rintro ⟨e, he, rfl⟩
    obtain ⟨hl, hk⟩ := List.mem_filter.1 (List.mem_of_getLast? he)
    obtain rfl : e.1 = k := by simpa using hk
    exact hl
  · intro hm
    cases hlast : (l.filter fun e => e.1 = k).getLast? with
    | none =>
      rw [List.getLast?_eq_none_iff, List.filter_eq_nil_iff] at hlast
      exact (hlast _ hm (by simp)).elim
    | some e =>
      obtain ⟨hl, hk⟩ := List.mem_filter.1 (List.mem_of_getLast? hlast)
      obtain rfl : e = (k, v) := h e hl _ hm (by simpa using hk)
      exact ⟨_, rfl, rfl⟩

theorem ofList_entries (m : OrderedMap κ α) : ofList m.entries = m := by
  apply ext_get?
  intro k
  apply Option.ext
  intro v
  rw [get?_ofList_eq_some_iff fun _ he _ he' hk => eq_of_mem_entries he he' hk, get?_eq_some_iff]

/-- The entries of a second map go before those of the first. -/
theorem get?_insertAll_entries (m n : OrderedMap κ α) (k : κ) :
    (m.insertAll n.entries).get? k = (n.get? k).or (m.get? k) := by
  rw [get?_insertAll, ← get?_ofList, ofList_entries]

theorem get?_mapValues (m : OrderedMap κ α) (f : κ → α → β) (k : κ) :
    (m.mapValues f).get? k = (m.get? k).map (f k) := by
  apply Option.ext
  intro v
  rw [get?_eq_some_iff, Option.map_eq_some_iff]
  simp only [get?_eq_some_iff, mapValues, List.mem_map, Prod.mk.injEq, Prod.exists]
  constructor
  · rintro ⟨_, a, ha, rfl, rfl⟩
    exact ⟨a, ha, rfl⟩
  · rintro ⟨a, ha, rfl⟩
    exact ⟨k, a, ha, rfl, rfl⟩

theorem get?_filterMap (m : OrderedMap κ α) (f : κ → α → Option β) (k : κ) :
    (m.filterMap f).get? k = (m.get? k).bind (f k) := by
  apply Option.ext
  intro v
  rw [get?_eq_some_iff, Option.bind_eq_some_iff]
  simp only [get?_eq_some_iff, filterMap, List.mem_filterMap, Option.map_eq_some_iff,
    Prod.mk.injEq, Prod.exists]
  constructor
  · rintro ⟨_, a, ha, _, hf, rfl, rfl⟩
    exact ⟨a, ha, hf⟩
  · rintro ⟨a, ha, hf⟩
    exact ⟨k, a, ha, v, hf, rfl, rfl⟩

/-- A search through the values finds that of the least key. -/
theorem find?_values_eq_some {p : α → Bool} (h : m.values.find? p = some v) :
    ∃ k, m.get? k = some v ∧ p v = true ∧
      ∀ k' v', m.get? k' = some v' → p v' = true → ¬ k' < k := by
  rw [values, List.find?_map] at h
  obtain ⟨⟨k, v⟩, he, rfl⟩ := Option.map_eq_some_iff.1 h
  obtain ⟨hp, before, after, hentries, hbefore⟩ := List.find?_eq_some_iff_append.1 he
  refine ⟨k, get?_eq_some_iff.2 (by simp [hentries]), hp, ?_⟩
  intro k' v' hv' hp' hlt
  rw [get?_eq_some_iff, hentries, List.mem_append] at hv'
  have hsorted := m.ascending
  rw [hentries] at hsorted
  rcases hv' with hv' | hv'
  · have hno := hbefore _ hv'
    simp [hp'] at hno
  · rcases List.mem_cons.1 hv' with he' | hv'
    · cases he'
      exact KeyOrder.irrefl k hlt
    · have hgt : k < k' := List.rel_of_pairwise_cons (List.pairwise_append.1 hsorted).2.1 hv'
      exact KeyOrder.irrefl k (KeyOrder.trans hgt hlt)

end ContainerBridge.OrderedMap

namespace ContainerBridge.OrderedSet

variable {κ : Type} [KeyOrder κ] {k : κ} {l : List κ}

theorem nodup_members (s : OrderedSet κ) : s.members.Nodup := by
  refine (OrderedMap.ascending_keys s).imp ?_
  rintro a _ h rfl
  exact KeyOrder.irrefl a h

theorem mem_members_foldl (s : OrderedSet κ) :
    k ∈ (l.foldl add s).members ↔ k ∈ l ∨ k ∈ s.members := by
  induction l generalizing s with
  | nil => simp
  | cons a l ih =>
    have hadd : k ∈ (s.add a).members ↔ k = a ∨ k ∈ s.members := by
      simp [members, add, OrderedMap.mem_keys_iff, OrderedMap.contains_insert]
    rw [List.foldl_cons, ih, hadd, List.mem_cons, or_left_comm, or_assoc]

theorem mem_members_ofMembers : k ∈ (ofMembers l).members ↔ k ∈ l := by
  rw [ofMembers, mem_members_foldl]
  simp [members, OrderedMap.mem_keys_iff, OrderedMap.contains]

end ContainerBridge.OrderedSet
