import ContainerBridge.Label
import ContainerBridge.Proofs.OrderedMap

/-! Labels on their way through annotations: reading undoes writing, except that a text with a line
feed is written and not read back. Annotations of others are told apart by their shape. -/

namespace ContainerBridge.Label

/-- The reading of an exchange undoes its writing. Dots and dashes are all that is exchanged for, so
that neither the escape sign nor a line feed comes about. -/
structure Exchange.Reversible (x : Exchange) : Prop where
  read_write : ∀ {c d}, x.write c = some d → x.read d = some c
  mark_of_write : ∀ {c d}, x.write c = some d → d = '.' ∨ d = '-'
  mark_of_read : ∀ {c d}, x.read c = some d → c = '.' ∨ c = '-'
  write_newline : x.write '\n' = none

theorem reversible_keyExchange : keyExchange.Reversible where
  read_write h := by
    simp only [keyExchange] at h ⊢
    grind
  mark_of_write h := by
    simp only [keyExchange] at h
    grind
  mark_of_read h := by
    simp only [keyExchange] at h
    grind
  write_newline := by decide

theorem reversible_valueExchange : valueExchange.Reversible where
  read_write h := by
    simp only [valueExchange] at h ⊢
    grind
  mark_of_write h := by
    simp only [valueExchange] at h
    grind
  mark_of_read h := by
    simp only [valueExchange] at h
    grind
  write_newline := by decide

variable {x : Exchange} {c : Char} {cs inner : List Char} {s k v : String}

/-! One text -/

theorem unescape_cons_of_ne (h : c ≠ '_') (rest : List Char) :
    unescape x (c :: rest) = (x.read c).getD c :: unescape x rest := by
  cases rest with
  | nil => simp [unescape, h]
  | cons d rest => rw [unescape, if_neg h]

/-- The ways in which a character may be escaped. -/
inductive Escaped (x : Exchange) (c : Char) : List Char → Prop
  | exchanged {d : Char} (hw : x.write c = some d) : Escaped x c [d]
  | marked {m : Char} (h : (c = '_' ∧ m = '_') ∨ (c = '.' ∧ m = 'd') ∨ (c = '-' ∧ m = 'h')) :
    Escaped x c ['_', m]
  | kept (hu : c ≠ '_') (hdot : c ≠ '.') (hdash : c ≠ '-') : Escaped x c [c]

theorem escaped_escapeChar (x : Exchange) (c : Char) : Escaped x c (escapeChar x c) := by
  unfold escapeChar
  cases hw : x.write c with
  | some d => exact .exchanged hw
  | none =>
    dsimp only
    by_cases hu : c = '_'
    · rw [if_pos hu]
      exact .marked (.inl ⟨hu, rfl⟩)
    by_cases hdot : c = '.'
    · rw [if_neg hu, if_pos hdot]
      exact .marked (.inr (.inl ⟨hdot, rfl⟩))
    by_cases hdash : c = '-'
    · rw [if_neg hu, if_neg hdot, if_pos hdash]
      exact .marked (.inr (.inr ⟨hdash, rfl⟩))
    · rw [if_neg hu, if_neg hdot, if_neg hdash]
      exact .kept hu hdot hdash

/-- Whatever follows it, an escaped character is read back as it was. -/
theorem unescape_escapeChar (hx : x.Reversible) (c : Char) (rest : List Char) :
    unescape x (escapeChar x c ++ rest) = c :: unescape x rest := by
  have he := escaped_escapeChar x c
  generalize escapeChar x c = written at he ⊢
  cases he with
  | @exchanged d hw =>
    have hd : d ≠ '_' := by
      rcases hx.mark_of_write hw with rfl | rfl <;> decide
    show unescape x (d :: rest) = _
    rw [unescape_cons_of_ne hd, hx.read_write hw, Option.getD_some]
  | marked h => rcases h with ⟨rfl, rfl⟩ | ⟨rfl, rfl⟩ | ⟨rfl, rfl⟩ <;> rfl
  | kept hu hdot hdash =>
    have hr : x.read c = none := by
      refine Option.eq_none_iff_forall_ne_some.2 fun d hd => ?_
      exact (hx.mark_of_read hd).elim hdot hdash
    show unescape x (c :: rest) = _
    rw [unescape_cons_of_ne hu, hr, Option.getD_none]

theorem unescape_escape (hx : x.Reversible) (cs : List Char) : unescape x (escape x cs) = cs := by
  induction cs with
  | nil => rfl
  | cons c cs ih =>
    show unescape x (escapeChar x c ++ escape x cs) = _
    rw [unescape_escapeChar hx, ih]

theorem newline_mem_escapeChar (hx : x.Reversible) : '\n' ∈ escapeChar x c ↔ c = '\n' := by
  have he := escaped_escapeChar x c
  generalize escapeChar x c = written at he ⊢
  cases he with
  | @exchanged d hw =>
    have hc : c ≠ '\n' := by
      rintro rfl
      rw [hx.write_newline] at hw
      cases hw
    have hd : d ≠ '\n' := by
      rcases hx.mark_of_write hw with rfl | rfl <;> decide
    simp [hc, hd.symm]
  | marked h => rcases h with ⟨rfl, rfl⟩ | ⟨rfl, rfl⟩ | ⟨rfl, rfl⟩ <;> decide
  | kept => rw [List.mem_singleton, eq_comm]

/-- A line feed stays a line feed, and none is added. -/
theorem newline_mem_escape (hx : x.Reversible) : '\n' ∈ escape x cs ↔ '\n' ∈ cs := by
  simp [escape, newline_mem_escapeChar hx]

theorem pad_injective : Function.Injective pad := by
  intro a b h
  exact List.append_cancel_right (List.cons.inj h).2

theorem unpad?_eq_some_iff : unpad? cs = some inner ↔ cs = pad inner ∧ '\n' ∉ inner := by
  constructor
  · intro h
    unfold unpad? at h
    split at h
    · next rest =>
      split at h
      · next hrest =>
        obtain rfl := Option.some.inj h
        simp only [Bool.and_eq_true, decide_eq_true_eq, Bool.not_eq_true',
          List.contains_eq_mem, decide_eq_false_iff_not] at hrest
        exact ⟨congrArg _ (List.dropLast_append_getLast? _ hrest.1).symm, hrest.2⟩
      · cases h
    · cases h
  · rintro ⟨rfl, h⟩
    simp [pad, unpad?, h]

/-- The shape of an annotation that carries a text. -/
structure Padded (s : String) : Prop where
  length : 2 ≤ s.toList.length
  first : s.toList.head? = some '0'
  last : s.toList.getLast? = some '0'
  line : '\n' ∉ s.toList

instance (s : String) : Decidable (Padded s) :=
  decidable_of_iff (2 ≤ s.toList.length ∧ s.toList.head? = some '0' ∧
      s.toList.getLast? = some '0' ∧ '\n' ∉ s.toList)
    ⟨fun ⟨hn, hf, hl, hr⟩ => ⟨hn, hf, hl, hr⟩, fun ⟨hn, hf, hl, hr⟩ => ⟨hn, hf, hl, hr⟩⟩

theorem padded_of_unpad? (h : unpad? s.toList = some inner) : Padded s := by
  obtain ⟨hs, hn⟩ := unpad?_eq_some_iff.1 h
  constructor
  case length => simp [hs, pad]
  case first => simp [hs, pad]
  case last => exact hs ▸ List.getLast?_concat ..
  case line => simp [hs, pad, hn]

/-- A text without the shape carries nothing. -/
theorem padded_of_decodeWith (h : decodeWith x s = some v) : Padded s := by
  obtain ⟨inner, hi, -⟩ := Option.map_eq_some_iff.1 h
  exact padded_of_unpad? hi

theorem encodeWith_injective (hx : x.Reversible) : Function.Injective (encodeWith x) := by
  intro s t h
  have he : escape x s.toList = escape x t.toList := pad_injective (String.ofList_injective h)
  rw [← String.toList_inj, ← unescape_escape hx s.toList, he, unescape_escape hx]

theorem decodeWith_encodeWith (hx : x.Reversible) (s : String) :
    decodeWith x (encodeWith x s) = if '\n' ∈ s.toList then none else some s := by
  rw [decodeWith, encodeWith, String.toList_ofList]
  split
  · next h =>
    rw [Option.map_eq_none_iff, Option.eq_none_iff_forall_ne_some]
    intro inner hi
    obtain ⟨hp, hn⟩ := unpad?_eq_some_iff.1 hi
    rw [← pad_injective hp, newline_mem_escape hx] at hn
    exact hn h
  · next h =>
    have hp : unpad? (pad (escape x s.toList)) = some (escape x s.toList) :=
      unpad?_eq_some_iff.2 ⟨rfl, fun hn => h ((newline_mem_escape hx).1 hn)⟩
    rw [hp, Option.map_some, unescape_escape hx, String.ofList_toList]

theorem decodeWith_encodeWith_eq_some_iff (hx : x.Reversible) {t : String} :
    decodeWith x (encodeWith x s) = some t ↔ s = t ∧ '\n' ∉ t.toList := by
  rw [decodeWith_encodeWith hx]
  by_cases h : '\n' ∈ s.toList
  · rw [if_pos h]
    simp only [reduceCtorEq, false_iff, not_and_not_right]
    rintro rfl
    exact h
  · rw [if_neg h, Option.some.injEq]
    exact ⟨fun he => ⟨he, he ▸ h⟩, And.left⟩

/-! Maps of labels -/

variable {labels : OrderedMap String (Option String)} {annotations : OrderedMap String String}

/-- Every label with a value has an annotation of its own. -/
theorem get?_encode_eq_some_iff : (encode labels).get? k = some v ↔
    ∃ l t, labels.get? l = some (some t) ∧ k = encodeKey l ∧ v = encodeValue t := by
  have hmem : ∀ e, e ∈ labels.entries.filterMap (fun e => e.2.map fun v => (encodeKey e.1,
      encodeValue v)) ↔ ∃ l t, (l, some t) ∈ labels.entries ∧ e = (encodeKey l, encodeValue t) := by
    intro e
    simp only [List.mem_filterMap, Option.map_eq_some_iff, Prod.exists]
    constructor
    · rintro ⟨l, _, hl, t, rfl, rfl⟩
      exact ⟨l, t, hl, rfl⟩
    · rintro ⟨l, t, hl, rfl⟩
      exact ⟨l, some t, hl, t, rfl, rfl⟩
  rw [encode, OrderedMap.get?_ofList_eq_some_iff]
  · simp only [hmem, Prod.mk.injEq, OrderedMap.get?_eq_some_iff]
  · intro e he e' he' hk
    obtain ⟨l, t, hl, rfl⟩ := (hmem e).1 he
    obtain ⟨l', t', hl', rfl⟩ := (hmem e').1 he'
    obtain rfl : l = l' := encodeWith_injective reversible_keyExchange hk
    have ht : (l, some t) = (l, some t') := OrderedMap.eq_of_mem_entries hl hl' rfl
    rw [Option.some.inj (Prod.mk.inj ht).2]

/-- An entry that survives the trip: the label has a value, and no line feed stands in it. -/
structure Carried (labels : OrderedMap String (Option String)) (k v : String) : Prop where
  value : labels.get? k = some (some v)
  key_line : '\n' ∉ k.toList
  value_line : '\n' ∉ v.toList

/-- Annotations among which those of the labels alone have the shape are read as these labels. -/
theorem get?_decode_eq_some_iff
    (hall : ∀ a t, (encode labels).get? a = some t → annotations.get? a = some t)
    (honly : ∀ a t, annotations.get? a = some t → Padded a → Padded t →
      (encode labels).get? a = some t) :
    (decode annotations).get? k = some v ↔ Carried labels k v := by
  have hmem : ∀ e, e ∈ annotations.entries.filterMap (fun e => do
      let k ← decodeKey e.1
      let v ← decodeValue e.2
      some (k, v)) ↔ Carried labels e.1 e.2 := by
    rintro ⟨k, v⟩
    simp only [List.mem_filterMap, Option.bind_eq_bind, Option.bind_eq_some_iff, Option.some.injEq,
      Prod.mk.injEq, Prod.exists]
    constructor
    · rintro ⟨a, t, ha, _, hk, _, hv, rfl, rfl⟩
      have ha' : (encode labels).get? a = some t :=
        honly a t (OrderedMap.get?_eq_some_iff.2 ha) (padded_of_decodeWith hk)
          (padded_of_decodeWith hv)
      obtain ⟨l, u, hl, rfl, rfl⟩ := get?_encode_eq_some_iff.1 ha'
      obtain ⟨rfl, hk⟩ := (decodeWith_encodeWith_eq_some_iff reversible_keyExchange).1 hk
      obtain ⟨rfl, hv⟩ := (decodeWith_encodeWith_eq_some_iff reversible_valueExchange).1 hv
      exact ⟨hl, hk, hv⟩
    · rintro ⟨hl, hk, hv⟩
      have ha : (encode labels).get? (encodeKey k) = some (encodeValue v) :=
        get?_encode_eq_some_iff.2 ⟨k, v, hl, rfl, rfl⟩
      have hk' : decodeKey (encodeKey k) = some k :=
        (decodeWith_encodeWith_eq_some_iff reversible_keyExchange).2 ⟨rfl, hk⟩
      have hv' : decodeValue (encodeValue v) = some v :=
        (decodeWith_encodeWith_eq_some_iff reversible_valueExchange).2 ⟨rfl, hv⟩
      exact ⟨_, _, OrderedMap.get?_eq_some_iff.1 (hall _ _ ha), k, hk', v, hv', rfl, rfl⟩
  rw [decode, OrderedMap.get?_ofList_eq_some_iff]
  · exact hmem (k, v)
  · rintro ⟨k, v⟩ he ⟨_, v'⟩ he' rfl
    have hv : some (some v) = some (some v') :=
      ((hmem _).1 he).value.symm.trans ((hmem _).1 he').value
    rw [Option.some.inj (Option.some.inj hv)]

/-- The labels that are read are those that were written, whatever annotations of others stand next
to theirs: an entry gets lost only for a line feed, and none is altered, merged or added. -/
theorem decode_encode_insertAll {foreign : OrderedMap String String}
    (hkeys : ∀ a ∈ foreign.keys, a ∉ (encode labels).keys)
    (hshape : ∀ a t, foreign.get? a = some t → ¬ (Padded a ∧ Padded t)) (k v : String) :
    (decode ((encode labels).insertAll foreign.entries)).get? k = some v ↔ Carried labels k v := by
  refine get?_decode_eq_some_iff (fun a t ha => ?_) fun a t ha hka hta => ?_
  · have hforeign : foreign.get? a = none := by
      by_contra hne
      have hf : a ∈ foreign.keys := OrderedMap.mem_keys_iff.2 (Option.isSome_iff_ne_none.2 hne)
      exact hkeys a hf (OrderedMap.mem_keys_iff.2 (OrderedMap.contains_iff.2 ⟨t, ha⟩))
    rw [OrderedMap.get?_insertAll_entries, hforeign, Option.none_or, ha]
  · rw [OrderedMap.get?_insertAll_entries] at ha
    cases hf : foreign.get? a with
    | none => rwa [hf, Option.none_or] at ha
    | some t' =>
      rw [hf, Option.some_or] at ha
      exact (hshape a t (hf.trans ha) ⟨hka, hta⟩).elim

/-- Labels of which one has no value and one a line feed. -/
def sampleLabels : OrderedMap String (Option String) :=
  .ofList [("che:server:22/tcp:ref", some "0_ß.-0"), ("che:server:22/tcp:path", some "/a\n"),
    ("0maintainer_", none)]

/-- Annotations that lack the shape in their key, in their value or in both. -/
def sampleForeign : OrderedMap String String :=
  .ofList [("openshift.io/generated-by", "0x0"), ("0che.server.22-tcp.protocol0", "ssh"),
    ("0", "0\n0")]

theorem decode_encode_insertAll_sampleLabels :
    let decoded := decode ((encode sampleLabels).insertAll sampleForeign.entries)
    decoded.get? "che:server:22/tcp:ref" = some "0_ß.-0" ∧
      decoded.get? "che:server:22/tcp:path" = none := by
  have hkeys : ∀ a ∈ sampleForeign.keys, a ∉ (encode sampleLabels).keys := by decide +kernel
  have hshape : ∀ a t, sampleForeign.get? a = some t → ¬ (Padded a ∧ Padded t) :=
    OrderedMap.forall_get?_iff.2 (by decide +kernel)
  have hread := decode_encode_insertAll hkeys hshape
  constructor
  · exact (hread _ _).2 ⟨by decide +kernel, by decide, by decide⟩
  · refine Option.eq_none_iff_forall_ne_some.2 fun v hv => ?_
    obtain ⟨hvalue, -, hline⟩ := (hread _ v).1 hv
    obtain rfl : v = "/a\n" := by
      have hsample : sampleLabels.get? "che:server:22/tcp:path" = some (some "/a\n") := by
        decide +kernel
      exact Option.some.inj (Option.some.inj (hvalue.symm.trans hsample))
    exact hline (by decide)

end ContainerBridge.Label
