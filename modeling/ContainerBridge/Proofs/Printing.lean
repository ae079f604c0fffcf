import ContainerBridge.Json.Decoder
import ContainerBridge.Json.Printer
import ContainerBridge.Proofs.Decimal
import ContainerBridge.Proofs.OrderedMap

/-! Values as texts. What is printed is read back, down to the last character. -/

namespace ContainerBridge.Json

open Source

variable {c : Char} {cs rest : List Char} {n : Nat}

/-! Strings -/

/-- How a character of a string can be printed, and the piece that is read. -/
inductive Printed (c : Char) : List Char → Piece → Prop
  | escaped {d : Char} (hd : d ≠ 'u') (h : plainEscape d = some c) : Printed c ['\\', d] (.char c)
  | unit {a b : Char} (hc : c.toNat < 0x20) (h : hexUnit '0' '0' a b = some c.toNat) :
      Printed c ['\\', 'u', '0', '0', a, b] (.unit c.toNat)
  | plain (hquote : c ≠ '"') (hslash : c ≠ '\\') (hc : 0x20 ≤ c.toNat) : Printed c [c] (.char c)

theorem hexUnit_of_lt (h : n < 0x20) :
    ∃ a b, (if n < 0x10 then ['0'] else []) ++ Nat.toDigits 16 n = [a, b] ∧
      hexUnit '0' '0' a b = some n := by
  have hall : ∀ m < 0x20, (if m < 0x10 then ['0'] else []) ++ Nat.toDigits 16 m =
      [Nat.digitChar (m / 16), Nat.digitChar (m % 16)] ∧
        hexUnit '0' '0' (Nat.digitChar (m / 16)) (Nat.digitChar (m % 16)) = some m := by
    decide +kernel
  exact ⟨_, _, hall n h⟩

theorem printed_escape (c : Char) : ∃ p, Printed c (escape c) p := by
  unfold escape
  -- the seven characters that have an escape of their own
  iterate 7
    split
    · next h => exact ⟨_, .escaped (by decide) (by subst h; rfl)⟩
  split
  · next h =>
    obtain ⟨a, b, hdigits, hunit⟩ := hexUnit_of_lt h
    refine ⟨.unit c.toNat, ?_⟩
    rw [List.cons_append, List.cons_append, List.cons_append, List.cons_append, hdigits]
    exact .unit h hunit
  · next hquote hslash _ _ _ _ _ hc => exact ⟨_, .plain hquote hslash (Nat.not_lt.1 hc)⟩

theorem Printed.pieces {p : Piece} (h : Printed c cs p) (rest : List Char) :
    Source.pieces (cs ++ rest) = (Source.pieces rest).map fun r => (p :: r.1, r.2) := by
  cases h with
  | escaped hd h =>
    rw [List.cons_append, List.cons_append, List.nil_append,
      Source.pieces.eq_4 _ _ fun _ _ _ _ _ hu _ => hd hu, h]
    cases Source.pieces rest <;> rfl
  | unit hc h =>
    show Source.pieces ('\\' :: 'u' :: '0' :: '0' :: _ :: _ :: rest) = _
    rw [Source.pieces, h]
    cases Source.pieces rest <;> rfl
  | plain hquote hslash hc =>
    have hkept : ¬ (c.toNat < 0x20 || c = '\\') = true := by simp [hc, hslash]
    rw [List.singleton_append, Source.pieces.eq_5 _ _ hquote
      (fun _ _ _ _ _ h _ => hslash h) fun _ _ h _ => hslash h, if_neg hkept]
    cases Source.pieces rest <;> rfl

theorem Printed.join {p : Piece} (h : Printed c cs p) (ps : List Piece) :
    Source.join (p :: ps) = (Source.join ps).map (c :: ·) := by
  cases h with
  | escaped | plain => rfl
  | unit hc h =>
    have hhigh : isHigh c.toNat = false := by simp [isHigh]; omega
    have hlow : isLow c.toNat = false := by simp [isLow]; omega
    have hself : Char.ofNat c.toNat = c := Char.ofNat_toNat c
    cases ps with
    | nil => simp [Source.join, hhigh, hlow, hself]
    | cons q ps =>
      cases q <;> simp [Source.join, hhigh, hlow, hself]

theorem exists_pieces (cs rest : List Char) :
    ∃ ps, pieces (cs.flatMap escape ++ '"' :: rest) = some (ps, rest) ∧ join ps = some cs := by
  induction cs with
  | nil => exact ⟨[], rfl, rfl⟩
  | cons c cs ih =>
    obtain ⟨ps, hps, hjoin⟩ := ih
    obtain ⟨p, hp⟩ := printed_escape c
    refine ⟨p :: ps, ?_, ?_⟩
    · rw [List.flatMap_cons, List.append_assoc, hp.pieces, hps]
      rfl
    · rw [hp.join, hjoin]
      rfl

theorem readString_escape (s : String) (rest : List Char) :
    readString (s.toList.flatMap escape ++ '"' :: rest) = some (some s, rest) := by
  obtain ⟨ps, hps, hjoin⟩ := exists_pieces s.toList rest
  rw [readString, hps]
  show some ((join ps).map String.ofList, rest) = _
  rw [hjoin, Option.map_some, String.ofList_toList]

/-! Whole numbers -/

/-- What can stand behind a number: none of the characters that it goes on with. -/
def Ended (rest : List Char) : Prop :=
  ∀ c ∈ rest.head?, c.isDigit = false ∧ c ≠ '.' ∧ c ≠ 'e' ∧ c ≠ 'E'

/-- Digits whose number fits a word are all taken into it. -/
theorem takeDigits_of_lt {word taken : Nat} (h : Nat.ofDigitChars 10 cs word < UInt64.size) :
    takeDigits word taken cs = (Nat.ofDigitChars 10 cs word, taken + cs.length, []) := by
  induction cs generalizing word taken with
  | nil => rfl
  | cons c cs ih =>
    have hword : word * 10 + digitValue c = 10 * word + (c.toNat - '0'.toNat) := by
      rw [Nat.mul_comm]
      rfl
    rw [Nat.ofDigitChars_cons, ← hword] at h ⊢
    have hle : word * 10 + digitValue c ≤ Nat.ofDigitChars 10 cs (word * 10 + digitValue c) := by
      rw [Nat.ofDigitChars_eq_ofDigitChars_zero]
      exact (Nat.le_mul_of_pos_left _ (Nat.pow_pos (by decide))).trans (Nat.le_add_right ..)
    rw [takeDigits, if_pos (hle.trans_lt h), ih h, List.length_cons, Nat.add_assoc,
      Nat.add_comm 1]

/-- No zero begins the digits of a number, unless it is zero. -/
theorem head?_toString (hn : 0 < n) : (toString n).toList.head? ≠ some '0' := by
  rw [Text.toList_toString]
  induction n using Nat.strongRecOn with
  | ind n ih =>
    rcases Nat.lt_or_ge n 10 with hlt | hge
    · have hall : ∀ m < 10, 0 < m → Nat.digitChar m ≠ '0' := by decide
      rw [Nat.toDigits_of_lt_base hlt]
      simpa using hall n hlt hn
    · rw [Nat.toDigits_of_base_le (by decide) hge,
        List.head?_append_of_ne_nil _ Nat.toDigits_ne_nil]
      exact ih (n / 10) (by omega) (by omega)

theorem readWhole_toString (n : Nat) (hrest : Ended rest) :
    readWhole ((toString n).toList ++ rest) = some ((toString n).toList, rest) := by
  have hspan : takeWhileDigit ((toString n).toList ++ rest) = ((toString n).toList, rest) :=
    Text.span_isDigit (fun _ => Text.isDigit_of_mem_toString) fun c hc => (hrest c hc).1
  rw [readWhole, hspan]
  split
  · next h => exact absurd (Prod.mk.inj h).1 (Text.toString_ne_nil n)
  · next h =>
    have hdigits := (Prod.mk.inj h).1
    rcases Nat.eq_zero_or_pos n with rfl | hn
    · cases hdigits
    · exact absurd (congrArg List.head? hdigits) (head?_toString hn)
  · rfl

theorem readNumber_toString (n : Nat) (hrest : Ended rest) (negative : Bool) :
    readNumber negative ((toString n).toList ++ rest) =
      some (((Numeral.mk negative (toString n).toList [] none).value?.map .number).getD
        .unreadable, rest) := by
  have hfraction : readFraction rest = some ([], rest) := by
    unfold readFraction
    split
    · exact absurd rfl (hrest '.' rfl).2.1
    · rfl
  have hexponent : readExponent rest = some (none, rest) := by
    cases rest with
    | nil => rfl
    | cons c rest =>
      obtain ⟨-, -, he, hE⟩ := hrest c rfl
      simp [readExponent, he, hE]
  simp only [readNumber, readWhole_toString n hrest, hfraction, hexponent, Option.bind_eq_bind,
    Option.bind_some]

theorem value?_toString (hn : n < UInt64.size) :
    (Numeral.mk false (toString n).toList [] none).value? = some (.int n) := by
  have hvalue := (Text.isDecimal_toString n).value
  have htake : takeDigits 0 0 (toString n).toList = _ := takeDigits_of_lt (hvalue.symm ▸ hn)
  rw [hvalue] at htake
  simp only [Numeral.value?, htake]
  rfl

theorem value?_negative (hn : 0 < n) (hle : n ≤ signBit) :
    (Numeral.mk true (toString n).toList [] none).value? = some (.int (-(n : Int))) := by
  have hvalue := (Text.isDecimal_toString n).value
  have htake : takeDigits 0 0 (toString n).toList = _ :=
    takeDigits_of_lt (hvalue.symm ▸ hle.trans_lt (by decide : signBit < UInt64.size))
  rw [hvalue] at htake
  have hinteger : ¬ (n = 0 || signBit < n) = true := by simp; omega
  simp only [Numeral.value?, htake]
  exact if_neg hinteger

theorem readScalar_of_isDigit (hc : c.isDigit = true) :
    readScalar (c :: cs) = readNumber false (c :: cs) := by
  unfold readScalar
  split
  all_goals first
    | rfl
    | exact absurd hc (by simp_all)

theorem toList_toString_negSucc (n : Nat) :
    (toString (Int.negSucc n)).toList = '-' :: (toString (n + 1)).toList := by
  show ("-" ++ toString (n + 1)).toList = _
  simp

theorem readScalar_int {i : Int} (hlow : -0x8000000000000000 ≤ i) (hhigh : i < 0x10000000000000000)
    (hrest : Ended rest) :
    readScalar ((toString i).toList ++ rest) = some (.number (.int i), rest) := by
  cases i with
  | ofNat n =>
    have hn : n < UInt64.size := by
      have : (n : Int) < 0x10000000000000000 := hhigh
      have : UInt64.size = 0x10000000000000000 := rfl
      omega
    obtain ⟨c, cs, hcs⟩ := List.exists_cons_of_ne_nil (Text.toString_ne_nil n)
    have hc : c.isDigit = true := Text.isDigit_of_mem_toString (hcs ▸ List.mem_cons_self ..)
    show readScalar ((toString n).toList ++ rest) = _
    have hread := readNumber_toString n hrest false
    rw [hcs, List.cons_append] at hread ⊢
    rw [readScalar_of_isDigit hc, hread, ← hcs, value?_toString hn]
    rfl
  | negSucc n =>
    have hle : n + 1 ≤ signBit := by
      have : signBit = 0x8000000000000000 := rfl
      omega
    rw [toList_toString_negSucc, List.cons_append]
    show readNumber true _ = _
    rw [readNumber_toString (n + 1) hrest true, value?_negative n.succ_pos hle]
    rfl

/-! Values -/

mutual

/-- The numbers in a value are whole and fit sixty-four bits, so that their texts are exact. -/
def Value.Exact : Value → Prop
  | .number (.int n) => -0x8000000000000000 ≤ n ∧ n < 0x10000000000000000
  | .number (.double _) => False
  | .array items => Value.ExactItems items
  | .object members => Value.ExactMembers members
  | _ => True

def Value.ExactItems : List Value → Prop
  | [] => True
  | v :: rest => v.Exact ∧ Value.ExactItems rest

def Value.ExactMembers : List (String × Value) → Prop
  | [] => True
  | (_, v) :: rest => v.Exact ∧ Value.ExactMembers rest

end

theorem Value.exactMembers_iff {l : List (String × Value)} :
    Value.ExactMembers l ↔ ∀ e ∈ l, e.2.Exact := by
  induction l with
  | nil => simp [Value.ExactMembers]
  | cons e l ih => simp [Value.ExactMembers, ih]

theorem Value.exact_ofMembers {l : List (String × Option Value)}
    (h : ∀ e ∈ l, ∀ v, e.2 = some v → v.Exact) : (Value.ofMembers l).Exact := by
  refine exactMembers_iff.2 fun ⟨k, v⟩ he => ?_
  obtain ⟨before, after, hl, -⟩ :=
    OrderedMap.get?_ofList_eq_some_iff_append.1 (OrderedMap.get?_eq_some_iff.2 he)
  have hmem : (k, v) ∈ l.filterMap fun e => e.2.map (e.1, ·) := by simp [hl]
  obtain ⟨e, hel, hv⟩ := List.mem_filterMap.1 hmem
  obtain ⟨v', hv', heq⟩ := Option.map_eq_some_iff.1 hv
  cases heq
  exact h e hel v hv'

/-- The text inside the brackets of an array. -/
def itemsText (items : List Value) : List Char := (",".intercalate (printItems items)).toList

/-- The text inside the braces of an object. -/
def membersText (members : List (String × Value)) : List Char :=
  (",".intercalate (printMembers members)).toList

variable {v w : Value} {items : List Value} {members : List (String × Value)} {name : String}

theorem itemsText_singleton (v : Value) : itemsText [v] = (print v).toList := by
  simp [itemsText, printItems]

theorem itemsText_cons (h : items ≠ []) :
    itemsText (v :: items) = (print v).toList ++ ',' :: itemsText items := by
  obtain ⟨w, items, rfl⟩ := List.exists_cons_of_ne_nil h
  simp [itemsText, printItems]

/-- The text of a member. -/
def memberText (e : String × Value) : List Char :=
  '"' :: (e.1.toList.flatMap escape ++ '"' :: ':' :: (print e.2).toList)

theorem membersText_singleton (e : String × Value) : membersText [e] = memberText e := by
  simp [membersText, printMembers, memberText, printString]

theorem membersText_cons {e : String × Value} (h : members ≠ []) :
    membersText (e :: members) = memberText e ++ ',' :: membersText members := by
  obtain ⟨e', members, rfl⟩ := List.exists_cons_of_ne_nil h
  simp [membersText, printMembers, memberText, printString]

theorem toList_print_array : (print (.array items)).toList = '[' :: (itemsText items ++ [']']) := by
  simp [print, itemsText]

theorem toList_print_object :
    (print (.object members)).toList = '\x7b' :: (membersText members ++ ['\x7d']) := by
  simp [print, membersText, openBrace, closeBrace]

theorem readScalar_print (h : v.Exact) (harray : ∀ items, v ≠ .array items)
    (hobject : ∀ members, v ≠ .object members) (hrest : Ended rest) :
    readScalar ((print v).toList ++ rest) = some (ofValue v, rest) := by
  cases v with
  | null => rfl
  | bool b => cases b <;> rfl
  | number m =>
    cases m with
    | int i => exact readScalar_int h.1 h.2 hrest
    | double d => exact h.elim
  | string s =>
    have htext : (print (.string s)).toList ++ rest =
        '"' :: (s.toList.flatMap escape ++ '"' :: rest) := by
      simp [print, printString]
    rw [htext]
    show (readString (s.toList.flatMap escape ++ '"' :: rest)).map _ = _
    rw [readString_escape]
    rfl
  | array items => exact (harray items rfl).elim
  | object members => exact (hobject members rfl).elim

/-- Neither blanks nor brackets begin what is read without them. -/
theorem head_of_readScalar {r : Source × List Char} (h : readScalar cs = some r) :
    ∃ c rest, cs = c :: rest ∧ isSpace c = false ∧ c ∉ ['[', ']', '\x7b', '\x7d'] := by
  cases cs with
  | nil => cases h
  | cons c rest =>
    refine ⟨c, rest, rfl, ?_, ?_⟩
    · rw [← Bool.not_eq_true]
      intro hspace
      simp only [isSpace, Bool.or_eq_true, decide_eq_true_eq] at hspace
      obtain ((rfl | rfl) | rfl) | rfl := hspace <;> cases h
    · intro hc
      simp only [List.mem_cons, List.not_mem_nil, or_false] at hc
      obtain rfl | rfl | rfl | rfl := hc <;> cases h

/-- A value begins neither with a blank nor with the end of what encloses it. -/
theorem head_print (h : v.Exact) : ∃ c cs, (print v).toList = c :: cs ∧
    isSpace c = false ∧ c ∉ [']', '\x7d'] := by
  by_cases harray : ∃ items, v = .array items
  · obtain ⟨items, rfl⟩ := harray
    exact ⟨_, _, toList_print_array, by decide⟩
  by_cases hobject : ∃ members, v = .object members
  · obtain ⟨members, rfl⟩ := hobject
    exact ⟨_, _, toList_print_object, by decide⟩
  have hread : readScalar ((print v).toList ++ []) = _ :=
    readScalar_print h (not_exists.1 harray) (not_exists.1 hobject) (by rintro c ⟨⟩)
  rw [List.append_nil] at hread
  obtain ⟨c, cs, hcs, hspace, hbracket⟩ := head_of_readScalar hread
  exact ⟨c, cs, hcs, hspace, fun hc => hbracket (by simp at hc ⊢; tauto)⟩

theorem skipSpace_cons (h : isSpace c = false) : skipSpace (c :: cs) = c :: cs :=
  List.dropWhile_cons_of_neg (by simp [h])

theorem readValue_scalar {steps : Nat} {s : Source} (h : readScalar cs = some (s, rest)) :
    readValue (steps + 1) cs = (s, some rest) := by
  obtain ⟨c, cs, rfl, hspace, hbracket⟩ := head_of_readScalar h
  rw [readValue, skipSpace_cons hspace]
  split
  · next heq => exact absurd (List.cons.inj heq).1 fun hc => hbracket (by simp [hc])
  · next heq => exact absurd (List.cons.inj heq).1 fun hc => hbracket (by simp [hc])
  · rw [h]

theorem readValue_array {steps : Nat} {items : List Source} (hspace : isSpace c = false)
    (hend : c ≠ ']') (h : readItems steps (c :: cs) = (items, some rest)) :
    readValue (steps + 1) ('[' :: c :: cs) = (.array items true, some rest) := by
  have hopen : skipSpace ('[' :: c :: cs) = '[' :: c :: cs := rfl
  simp only [readValue, hopen, skipSpace_cons hspace]
  split
  · next heq => exact absurd (List.cons.inj heq).1 hend
  · rw [h]
    rfl

theorem readValue_object {steps : Nat} {members : List (Option String × Source)}
    (h : readMembers steps ('"' :: cs) = (members, some rest)) :
    readValue (steps + 1) ('\x7b' :: '"' :: cs) = (.object members true, some rest) := by
  show (Source.object (readMembers steps ('"' :: cs)).1 (readMembers steps ('"' :: cs)).2.isSome,
    (readMembers steps ('"' :: cs)).2) = _
  rw [h]
  rfl

theorem readItems_last {steps : Nat} {s : Source}
    (h : readValue steps cs = (s, some (']' :: rest))) :
    readItems (steps + 1) cs = ([s], some rest) := by
  rw [readItems, h]
  rfl

theorem readItems_next {steps : Nat} {s : Source} {items : List Source} {ds : List Char}
    (h : readValue steps cs = (s, some (',' :: ds)))
    (hitems : readItems steps ds = (items, some rest)) :
    readItems (steps + 1) cs = (s :: items, some rest) := by
  rw [readItems, h]
  show (s :: (readItems steps ds).1, (readItems steps ds).2) = _
  rw [hitems]

theorem readMembers_named {steps : Nat} :
    readMembers (steps + 1) ('"' :: (name.toList.flatMap escape ++ '"' :: ':' :: cs)) =
      match readValue steps cs with
      | (s, none) => ([(some name, s)], none)
      | (s, some rest) => match skipSpace rest with
        | '\x7d' :: rest => ([(some name, s)], some rest)
        | ',' :: rest =>
          ((some name, s) :: (readMembers steps rest).1, (readMembers steps rest).2)
        | _ => ([(some name, s)], none) := by
  rw [readMembers, skipSpace_cons (by decide)]
  simp only [readString_escape]
  rfl

theorem readMembers_last {steps : Nat} {s : Source}
    (h : readValue steps cs = (s, some ('\x7d' :: rest))) :
    readMembers (steps + 1) ('"' :: (name.toList.flatMap escape ++ '"' :: ':' :: cs)) =
      ([(some name, s)], some rest) := by
  rw [readMembers_named, h]
  rfl

theorem readMembers_next {steps : Nat} {s : Source} {members : List (Option String × Source)}
    {ds : List Char} (h : readValue steps cs = (s, some (',' :: ds)))
    (hmembers : readMembers steps ds = (members, some rest)) :
    readMembers (steps + 1) ('"' :: (name.toList.flatMap escape ++ '"' :: ':' :: cs)) =
      ((some name, s) :: members, some rest) := by
  rw [readMembers_named, h]
  show ((some name, s) :: (readMembers steps ds).1, (readMembers steps ds).2) = _
  rw [hmembers]

theorem ended_cons (hc : c ∈ [',', ']', '\x7d']) : Ended (c :: rest) := by
  rintro d ⟨⟩
  simp only [List.mem_cons, List.not_mem_nil, or_false] at hc
  obtain rfl | rfl | rfl := hc <;> decide

theorem head_itemsText (h : Value.ExactItems items) (hnil : items ≠ []) :
    ∃ c cs, itemsText items = c :: cs ∧ isSpace c = false ∧ c ≠ ']' := by
  obtain ⟨v, items, rfl⟩ := List.exists_cons_of_ne_nil hnil
  obtain ⟨c, cs, hcs, hspace, hend⟩ := head_print h.1
  have hbracket : c ≠ ']' := fun hc => hend (by simp [hc])
  by_cases hlast : items = []
  · subst hlast
    exact ⟨c, cs, itemsText_singleton v ▸ hcs, hspace, hbracket⟩
  · exact ⟨c, _, by rw [itemsText_cons hlast, hcs, List.cons_append], hspace, hbracket⟩

theorem head_membersText (hnil : members ≠ []) : ∃ cs, membersText members = '"' :: cs := by
  obtain ⟨e, members, rfl⟩ := List.exists_cons_of_ne_nil hnil
  by_cases hlast : members = []
  · subst hlast
    exact ⟨_, membersText_singleton e⟩
  · exact ⟨_, membersText_cons hlast⟩

/-- There is a step left where there is a character left. -/
theorem exists_step {steps : Nat} (h : 2 * (c :: cs).length ≤ steps + 1) :
    ∃ n, steps = n + 1 := by
  rw [List.length_cons] at h
  exact ⟨steps - 1, by omega⟩

mutual

/-- What is printed is read; a step for every half of a character is enough. -/
theorem readValue_print {v : Value} (h : v.Exact) {steps : Nat} {rest : List Char}
    (hsteps : 2 * (print v).toList.length ≤ steps + 1) (hrest : Ended rest) :
    readValue steps ((print v).toList ++ rest) = (ofValue v, some rest) := by
  obtain ⟨c, cs, hcs, -⟩ := head_print h
  obtain ⟨steps, rfl⟩ := exists_step (by rw [hcs] at hsteps; exact hsteps)
  cases v with
  | array items =>
    rw [toList_print_array] at hsteps ⊢
    rw [List.cons_append, List.append_assoc, List.singleton_append]
    by_cases hnil : items = []
    · subst hnil
      rfl
    obtain ⟨d, ds, hds, hspace, hend⟩ := head_itemsText h hnil
    have hread : readItems steps (itemsText items ++ ']' :: rest) = _ :=
      readItems_print h hnil (by simp at hsteps; omega)
    rw [hds, List.cons_append] at hread ⊢
    exact readValue_array hspace hend hread
  | object members =>
    rw [toList_print_object] at hsteps ⊢
    rw [List.cons_append, List.append_assoc, List.singleton_append]
    by_cases hnil : members = []
    · subst hnil
      rfl
    obtain ⟨ds, hds⟩ := head_membersText hnil
    have hread : readMembers steps (membersText members ++ '\x7d' :: rest) = _ :=
      readMembers_print h hnil (by simp at hsteps; omega)
    rw [hds, List.cons_append] at hread ⊢
    exact readValue_object hread
  | _ => exact readValue_scalar (readScalar_print h nofun nofun hrest)

theorem readItems_print {items : List Value} (h : Value.ExactItems items) (hnil : items ≠ [])
    {steps : Nat} {rest : List Char} (hsteps : 2 * (itemsText items).length ≤ steps) :
    readItems steps (itemsText items ++ ']' :: rest) = (ofItems items, some rest) := by
  obtain ⟨c, cs, hcs, -⟩ := head_itemsText h hnil
  obtain ⟨steps, rfl⟩ := exists_step (by rw [hcs] at hsteps; exact hsteps.trans (Nat.le_succ _))
  cases items with
  | nil => exact (hnil rfl).elim
  | cons v items =>
    by_cases hlast : items = []
    · subst hlast
      rw [itemsText_singleton] at hsteps ⊢
      exact readItems_last (readValue_print h.1 hsteps (ended_cons (by simp)))
    · rw [itemsText_cons hlast] at hsteps ⊢
      rw [List.length_append, List.length_cons] at hsteps
      rw [List.append_assoc, List.cons_append]
      exact readItems_next (readValue_print h.1 (by omega) (ended_cons (by simp)))
        (readItems_print h.2 hlast (by omega))

theorem readMembers_print {members : List (String × Value)} (h : Value.ExactMembers members)
    (hnil : members ≠ []) {steps : Nat} {rest : List Char}
    (hsteps : 2 * (membersText members).length ≤ steps) :
    readMembers steps (membersText members ++ '\x7d' :: rest) =
      (ofMembers members, some rest) := by
  obtain ⟨cs, hcs⟩ := head_membersText hnil
  obtain ⟨steps, rfl⟩ := exists_step (by rw [hcs] at hsteps; exact hsteps.trans (Nat.le_succ _))
  cases members with
  | nil => exact (hnil rfl).elim
  | cons e members =>
    by_cases hlast : members = []
    · subst hlast
      rw [membersText_singleton, memberText] at hsteps ⊢
      simp only [List.length_cons, List.length_append] at hsteps
      simp only [List.cons_append, List.append_assoc]
      exact readMembers_last (readValue_print h.1 (by omega) (ended_cons (by simp)))
    · rw [membersText_cons hlast, memberText] at hsteps ⊢
      simp only [List.length_cons, List.length_append] at hsteps
      simp only [List.cons_append, List.append_assoc]
      exact readMembers_next (readValue_print h.1 (by omega) (ended_cons (by simp)))
        (readMembers_print h.2 hlast (by omega))

end

/-- The text of a value is read as that value, to its end. -/
theorem ofLeading_print (h : v.Exact) : ofLeading (print v) = (ofValue v, some []) := by
  have hread : readValue (2 * (print v).toList.length + 2) ((print v).toList ++ []) = _ :=
    readValue_print h (by omega) (by rintro c ⟨⟩)
  rw [List.append_nil] at hread
  exact hread

theorem ofText_print {α : Type} {d : Decoder α} (h : v.Exact) :
    d.ofText (print v) = d Decoder.textRoom (ofValue v) := by
  rw [Decoder.ofText, ofLeading_print h]
  dsimp only
  cases d Decoder.textRoom (ofValue v) <;> rfl

end ContainerBridge.Json
