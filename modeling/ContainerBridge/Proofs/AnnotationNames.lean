import ContainerBridge.Proofs.Label
import Mathlib.Data.List.Nodup

/-! The names of annotations that carry labels. Each label with a value has one of its own, and the
name is made of what the cluster accepts in names just if the label's key is made of that and of the
characters that are exchanged. -/

namespace ContainerBridge.Label

variable {c : Char} {cs : List Char}

/-- What the name of an annotation may be made of. -/
def IsNameChar (c : Char) : Prop := c.isAlphanum = true ∨ c = '.' ∨ c = '-' ∨ c = '_'

/-- What the key of a label may be made of that is to have such a name. -/
def IsKeyChar (c : Char) : Prop := IsNameChar c ∨ c = ':' ∨ c = '/'

instance (c : Char) : Decidable (IsNameChar c) :=
  inferInstanceAs (Decidable (c.isAlphanum = true ∨ c = '.' ∨ c = '-' ∨ c = '_'))

instance (c : Char) : Decidable (IsKeyChar c) :=
  inferInstanceAs (Decidable (IsNameChar c ∨ c = ':' ∨ c = '/'))

theorem forall_mem_escapeChar_iff :
    (∀ d ∈ escapeChar keyExchange c, IsNameChar d) ↔ IsKeyChar c := by
  by_cases hc : c ∈ [':', '/', '_', '.', '-']
  · have hall : [':', '/', '_', '.', '-'].all (fun c =>
        (escapeChar keyExchange c).all (fun d => decide (IsNameChar d)) && decide (IsKeyChar c)) =
        true := by decide
    obtain ⟨hwritten, hkey⟩ := Bool.and_eq_true_iff.1 (List.all_eq_true.1 hall c hc)
    exact iff_of_true (fun d hd => of_decide_eq_true (List.all_eq_true.1 hwritten d hd))
      (of_decide_eq_true hkey)
  · -- All else stays as it is.
    simp only [List.mem_cons, List.not_mem_nil, or_false, not_or] at hc
    obtain ⟨hcolon, hslash, hu, hdot, hdash⟩ := hc
    have hkept : escapeChar keyExchange c = [c] := by
      simp [escapeChar, keyExchange, hcolon, hslash, hu, hdot, hdash]
    rw [hkept, List.forall_mem_singleton, IsKeyChar]
    simp [hcolon, hslash]

theorem forall_mem_escape_iff :
    (∀ d ∈ escape keyExchange cs, IsNameChar d) ↔ ∀ c ∈ cs, IsKeyChar c := by
  simp only [escape, List.mem_flatMap, forall_exists_index, and_imp, ← forall_mem_escapeChar_iff]
  exact ⟨fun h c hc d hd => h d c hc hd, fun h d c hc hd => h c hc d hd⟩

theorem forall_mem_encodeKey_iff (k : String) :
    (∀ c ∈ (encodeKey k).toList, IsNameChar c) ↔ ∀ c ∈ k.toList, IsKeyChar c := by
  have hzero : IsNameChar '0' := by decide
  rw [← forall_mem_escape_iff, encodeKey, encodeWith, String.toList_ofList, pad,
    List.forall_mem_append, List.forall_mem_cons, List.forall_mem_singleton]
  exact ⟨fun h => h.1.2, fun h => ⟨⟨hzero, h⟩, hzero⟩⟩

/-- No annotation takes the place of another. -/
theorem perm_encode (labels : OrderedMap String (Option String)) :
    (encode labels).entries.Perm
      (labels.entries.filterMap fun e => e.2.map fun v => (encodeKey e.1, encodeValue v)) := by
  have hdistinct : (labels.entries.filterMap fun e =>
      e.2.map fun v => (encodeKey e.1, encodeValue v)).Nodup := by
    refine labels.nodup_entries.filterMap ?_
    rintro ⟨k, v⟩ ⟨k', v'⟩ e he he'
    obtain ⟨t, rfl, rfl⟩ := Option.map_eq_some_iff.1 he
    obtain ⟨t', rfl, ht⟩ := Option.map_eq_some_iff.1 he'
    obtain ⟨hk, hv⟩ := Prod.mk.inj ht
    obtain rfl : k' = k := encodeWith_injective reversible_keyExchange hk
    obtain rfl : t' = t := encodeWith_injective reversible_valueExchange hv
    rfl
  refine (List.perm_ext_iff_of_nodup (OrderedMap.nodup_entries _) hdistinct).2 ?_
  rintro ⟨k, v⟩
  rw [← OrderedMap.get?_eq_some_iff, get?_encode_eq_some_iff]
  simp only [OrderedMap.get?_eq_some_iff, List.mem_filterMap, Option.map_eq_some_iff, Prod.exists,
    Prod.mk.injEq]
  constructor
  · rintro ⟨l, t, hl, rfl, rfl⟩
    exact ⟨l, some t, hl, t, rfl, rfl, rfl⟩
  · rintro ⟨l, _, hl, t, rfl, rfl, rfl⟩
    exact ⟨l, t, hl, rfl, rfl⟩

theorem size_encode (labels : OrderedMap String (Option String)) :
    (encode labels).size = labels.values.countP Option.isSome := by
  rw [OrderedMap.size, (perm_encode labels).length_eq, List.length_filterMap_eq_countP,
    OrderedMap.values, List.countP_map]
  simp [Function.comp_def]

/-- No two keys have one annotation name. Each name stands between zeros and is made of what the
cluster accepts just if its key is made of what is exchanged for that; there are as many annotations
as there are labels with values. -/
theorem faithful_encodeKey :
    Function.Injective encodeKey ∧
      (∀ k, (∃ inner, (encodeKey k).toList = '0' :: inner ++ ['0']) ∧
        ((∀ c ∈ (encodeKey k).toList, IsNameChar c) ↔ ∀ c ∈ k.toList, IsKeyChar c)) ∧
      ∀ labels, (encode labels).size = labels.values.countP Option.isSome :=
  ⟨encodeWith_injective reversible_keyExchange,
    fun k => ⟨⟨_, String.toList_ofList⟩, forall_mem_encodeKey_iff k⟩, size_encode⟩

end ContainerBridge.Label
