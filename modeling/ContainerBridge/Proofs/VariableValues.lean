import ContainerBridge.Agent.Layer
import ContainerBridge.Proofs.Decimal

/-! What the texts of variables are taken for. A text that spells a truth value or a number is taken
for that, and any other one for itself. -/

namespace ContainerBridge.Agent.Layer

open Json Text

/-- What may stand before the digits of a number. -/
def signs : List (List Char) := [[], ['+'], ['-']]

/-- The spellings of the digits of a number, with a point among them or not. -/
inductive Significand : List Char → Prop
  | whole {n : Nat} {ds : List Char} (h : IsDecimal n ds) : Significand ds
  | pointed {n : Nat} {ds fs : List Char} (h : IsDecimal n (ds ++ fs)) :
      Significand (ds ++ '.' :: fs)

/-- The spellings of an exponent, which may be absent. -/
inductive Exponent : List Char → Prop
  | absent : Exponent []
  | present {n : Nat} {mark : Char} {sign ds : List Char} (hmark : mark = 'e' ∨ mark = 'E')
      (hsign : sign ∈ signs) (h : IsDecimal n ds) : Exponent (mark :: (sign ++ ds))

/-- The words that stand for numbers, in any case. -/
def IsNumberWord (cs : List Char) : Prop :=
  String.ofList (cs.map Char.toLower) ∈ ["inf", "infinity", "nan"]

/-- The spellings of numbers without their signs. -/
inductive Magnitude : List Char → Prop
  | word {cs : List Char} (h : IsNumberWord cs) : Magnitude cs
  | decimal {ds cs : List Char} (hds : Significand ds) (hexponent : Exponent cs) :
      Magnitude (ds ++ cs)

/-- The texts that spell a truth value or a number. -/
inductive Mistakable (s : String) : Prop
  | truth (h : lower s = "true" ∨ lower s = "false")
  | number {sign cs : List Char} (hsign : sign ∈ signs) (h : Magnitude cs)
      (hs : s.toList = sign ++ cs)

variable {c : Char} {cs ds fs rest : List Char} {n : Nat} {s : String} {P : List Char → Prop}

/-! Signs -/

/-- The characters without a sign before them. -/
def dropSign : List Char → List Char
  | '-' :: rest => rest
  | cs => dropPlus cs

theorem minus_cases (cs : List Char) :
    (∃ rest, cs = '-' :: rest) ∨ (∀ rest, cs ≠ '-' :: rest) ∧ dropSign cs = dropPlus cs := by
  unfold dropSign
  split
  · exact .inl ⟨_, rfl⟩
  · next h => exact .inr ⟨h, rfl⟩

/-- A sign is told from what follows it where that begins with none. -/
theorem exists_sign_iff (hP : ∀ c cs, P (c :: cs) → c ≠ '+' ∧ c ≠ '-') :
    (∃ sign ∈ signs, ∃ rest, cs = sign ++ rest ∧ P rest) ↔ P (dropSign cs) := by
  constructor
  · rintro ⟨sign, hsign, rest, rfl, hrest⟩
    simp only [signs, List.mem_cons, List.not_mem_nil, or_false] at hsign
    obtain rfl | rfl | rfl := hsign
    · have hkept : dropSign rest = rest := by
        unfold dropSign dropPlus
        split
        · exact absurd rfl (hP _ _ hrest).2
        · split
          · exact absurd rfl (hP _ _ hrest).1
          · rfl
      exact hkept.symm ▸ hrest
    · exact hrest
    · exact hrest
  · intro h
    unfold dropSign dropPlus at h
    split at h
    · exact ⟨['-'], by decide, _, rfl, h⟩
    · split at h
      · exact ⟨['+'], by decide, _, rfl, h⟩
      · exact ⟨[], by decide, _, rfl, h⟩

theorem isSome_digits?_iff : (digits? ds).isSome ↔ ∃ n, IsDecimal n ds := by
  simp only [Option.isSome_iff_exists, digits?_eq_some_iff]

theorem ne_sign_of_isDigit (h : c.isDigit = true) : c ≠ '+' ∧ c ≠ '-' := by
  constructor <;> rintro rfl <;> exact absurd h (by decide)

theorem exists_decimal_iff :
    (∃ sign ∈ signs, ∃ ds, cs = sign ++ ds ∧ ∃ n, IsDecimal n ds) ↔
      (digits? (dropSign cs)).isSome := by
  rw [isSome_digits?_iff]
  refine exists_sign_iff (P := fun ds => ∃ n, IsDecimal n ds) ?_
  rintro c ds ⟨n, hn⟩
  exact ne_sign_of_isDigit (hn.digits c (List.mem_cons_self ..))

/-! Exponents -/

theorem isSome_readExponent_cons (hc : c = 'e' ∨ c = 'E') :
    (readExponent (c :: cs)).isSome = (digits? (dropSign cs)).isSome := by
  have hmark : (c = 'e' || c = 'E') = true := by simpa using hc
  obtain ⟨rest, rfl⟩ | ⟨hne, hdrop⟩ := minus_cases cs
  · simp only [readExponent, hmark, if_true]
    show _ = (digits? rest).isSome
    cases digits? rest <;> rfl
  · rw [hdrop, readExponent.eq_def]
    dsimp only
    rw [if_pos hmark]
    split
    · exact (hne _ rfl).elim
    · exact Option.isSome_map ..

theorem isSome_readExponent_iff : (readExponent cs).isSome ↔ Exponent cs := by
  constructor
  · intro h
    cases cs with
    | nil => exact .absent
    | cons c rest =>
      by_cases hc : c = 'e' ∨ c = 'E'
      · rw [isSome_readExponent_cons hc, ← exists_decimal_iff] at h
        obtain ⟨sign, hsign, ds, rfl, n, hn⟩ := h
        exact .present hc hsign hn
      · simp [readExponent, hc] at h
  · intro h
    cases h with
    | absent => rfl
    | present hmark hsign hn =>
      rw [isSome_readExponent_cons hmark, ← exists_decimal_iff]
      exact ⟨_, hsign, _, rfl, _, hn⟩

/-- An exponent begins with its mark. -/
theorem Exponent.head (h : Exponent (c :: cs)) : c.isDigit = false ∧ c ≠ '.' := by
  cases h with
  | present hmark => obtain rfl | rfl := hmark <;> decide

/-! Magnitudes -/

theorem isSome_magnitude_of_word (h : IsNumberWord cs) : (magnitude cs).isSome := by
  simp only [IsNumberWord, List.mem_cons, List.not_mem_nil, or_false] at h
  unfold magnitude
  extract_lets word
  obtain h | h | h := h
  · simp [word, h]
  · simp [word, h]
  · simp [word, h]

/-- A number has a digit before or behind its point, and what follows the digits is an exponent. -/
theorem isSome_map_readExponent_iff {f : Int → Float} :
    (if ds.isEmpty && fs.isEmpty then none else (readExponent rest).map f).isSome ↔
      ds ++ fs ≠ [] ∧ Exponent rest := by
  rw [← isSome_readExponent_iff, Ne, List.append_eq_nil_iff]
  split
  · next hempty => simp_all
  · next hsome => simp_all

theorem isSome_magnitude_whole (hword : ¬ IsNumberWord (ds ++ rest))
    (hds : ∀ c ∈ ds, c.isDigit = true) (hrest : ∀ c ∈ rest.head?, c.isDigit = false ∧ c ≠ '.') :
    (magnitude (ds ++ rest)).isSome ↔ ds ≠ [] ∧ Exponent rest := by
  simp only [IsNumberWord, List.mem_cons, List.not_mem_nil, or_false, not_or] at hword
  obtain ⟨hinf, hinfinity, hnan⟩ := hword
  have hspan := span_isDigit hds fun c hc => (hrest c hc).1
  unfold magnitude
  simp only [hinf, hinfinity, hnan, hspan, decide_false, Bool.or_self, Bool.false_eq_true, if_false]
  split
  · exact absurd rfl (hrest '.' rfl).2
  · exact isSome_map_readExponent_iff.trans (by rw [List.append_nil])

theorem isSome_magnitude_pointed (hword : ¬ IsNumberWord (ds ++ '.' :: (fs ++ rest)))
    (hds : ∀ c ∈ ds, c.isDigit = true) (hfs : ∀ c ∈ fs, c.isDigit = true)
    (hrest : ∀ c ∈ rest.head?, c.isDigit = false) :
    (magnitude (ds ++ '.' :: (fs ++ rest))).isSome ↔ ds ++ fs ≠ [] ∧ Exponent rest := by
  simp only [IsNumberWord, List.mem_cons, List.not_mem_nil, or_false, not_or] at hword
  obtain ⟨hinf, hinfinity, hnan⟩ := hword
  have hspan : (ds ++ '.' :: (fs ++ rest)).span Char.isDigit = (ds, '.' :: (fs ++ rest)) :=
    span_isDigit hds (by simp)
  have hspan' := span_isDigit hfs hrest
  unfold magnitude
  simp only [hinf, hinfinity, hnan, hspan, hspan', decide_false, Bool.or_self, Bool.false_eq_true,
    if_false]
  exact isSome_map_readExponent_iff

theorem isSome_magnitude_iff : (magnitude cs).isSome ↔ Magnitude cs := by
  by_cases hword : IsNumberWord cs
  · exact iff_of_true (isSome_magnitude_of_word hword) (.word hword)
  constructor
  · intro h
    obtain ⟨ds, rest, rfl, hds, hrest⟩ := exists_digits cs
    by_cases hpoint : ∃ r, rest = '.' :: r
    · obtain ⟨r, rfl⟩ := hpoint
      obtain ⟨fs, rest, rfl, hfs, hrest⟩ := exists_digits r
      obtain ⟨hsome, hexponent⟩ := (isSome_magnitude_pointed hword hds hfs hrest).1 h
      have hdigits : IsDecimal _ (ds ++ fs) :=
        ⟨hsome, fun c hc => (List.mem_append.1 hc).elim (hds c) (hfs c), rfl⟩
      have hmagnitude := Magnitude.decimal (.pointed hdigits) hexponent
      rwa [List.append_assoc, List.cons_append] at hmagnitude
    · have hhead : ∀ c ∈ rest.head?, c.isDigit = false ∧ c ≠ '.' := by
        intro c hc
        refine ⟨hrest c hc, ?_⟩
        rintro rfl
        exact hpoint ⟨_, List.eq_cons_of_mem_head? hc⟩
      obtain ⟨hsome, hexponent⟩ := (isSome_magnitude_whole hword hds hhead).1 h
      exact .decimal (.whole ⟨hsome, hds, rfl⟩) hexponent
  · intro h
    cases h with
    | word h => exact (hword h).elim
    | @decimal ds rest hds hexponent =>
      have hhead : ∀ c ∈ rest.head?, c.isDigit = false ∧ c ≠ '.' := by
        intro c hc
        obtain ⟨r, rfl⟩ : ∃ r, rest = c :: r := ⟨_, List.eq_cons_of_mem_head? hc⟩
        exact hexponent.head
      cases hds with
      | whole hds => exact (isSome_magnitude_whole hword hds.digits hhead).2 ⟨hds.some, hexponent⟩
      | pointed hds =>
        rw [List.append_assoc, List.cons_append] at hword ⊢
        refine (isSome_magnitude_pointed hword ?_ ?_ fun c hc => (hhead c hc).1).2
          ⟨hds.some, hexponent⟩
        · exact fun c hc => hds.digits c (List.mem_append_left _ hc)
        · exact fun c hc => hds.digits c (List.mem_append_right _ hc)

/-! Texts -/

theorem Significand.head (h : Significand (c :: cs)) : c.isDigit = true ∨ c = '.' := by
  generalize hcs : c :: cs = l at h
  cases h with
  | whole h =>
    subst hcs
    exact .inl (h.digits c (List.mem_cons_self ..))
  | @pointed _ ds fs h =>
    cases ds with
    | nil => exact .inr (List.cons.inj hcs).1
    | cons d ds =>
      obtain rfl : c = d := (List.cons.inj hcs).1
      exact .inl (h.digits c (List.mem_cons_self ..))

theorem Significand.ne_nil (h : Significand ds) : ds ≠ [] := by
  cases h with
  | whole h => exact h.some
  | pointed h => simp

theorem not_isNumberWord_sign (hc : c = '+' ∨ c = '-') : ¬ IsNumberWord (c :: cs) := by
  intro h
  simp only [IsNumberWord, List.mem_cons, List.not_mem_nil, or_false] at h
  obtain rfl | rfl := hc <;> obtain h | h | h := h <;> simpa using congrArg String.toList h

/-- No sign begins what may follow a sign. -/
theorem Magnitude.head (h : Magnitude (c :: cs)) : c ≠ '+' ∧ c ≠ '-' := by
  rw [← not_or]
  intro hc
  generalize hcs : c :: cs = l at h
  cases h with
  | word h =>
    subst hcs
    exact not_isNumberWord_sign hc h
  | @decimal ds rest hds =>
    cases ds with
    | nil => exact hds.ne_nil rfl
    | cons d ds =>
      obtain rfl : c = d := (List.cons.inj hcs).1
      obtain rfl | rfl := hc <;> obtain h | h := hds.head <;> exact absurd h (by decide)

theorem isSome_double?_iff : (double? cs).isSome ↔
    ∃ sign ∈ signs, ∃ rest, cs = sign ++ rest ∧ Magnitude rest := by
  rw [exists_sign_iff fun _ _ => Magnitude.head, ← isSome_magnitude_iff]
  obtain ⟨rest, rfl⟩ | ⟨hne, hdrop⟩ := minus_cases cs
  · rw [double?, Option.isSome_map]
    rfl
  · rw [hdrop, double?.eq_def]
    split
    · exact (hne _ rfl).elim
    · rfl

example : (["1e3", ".5", "+Inf", "1e", "0x1"].map fun s => (double? s.toList).isSome) =
    [true, true, true, false, false] := by decide +kernel

/-- Whole numbers are numbers. -/
theorem isSome_double?_of_signed? {n : Int} (h : signed? cs = some n) : (double? cs).isSome := by
  have hdigits : (digits? (dropSign cs)).isSome := by
    obtain ⟨rest, rfl⟩ | ⟨hne, hdrop⟩ := minus_cases cs
    · rw [signed?, Option.bind_eq_some_iff] at h
      obtain ⟨n, hn, -⟩ := h
      exact Option.isSome_of_eq_some hn
    · rw [hdrop]
      rw [signed?.eq_def] at h
      split at h
      · exact (hne _ rfl).elim
      · rw [Option.map_eq_some_iff] at h
        obtain ⟨n, hn, -⟩ := h
        exact Option.isSome_of_eq_some (Option.filter_eq_some_iff.1 hn).1
  obtain ⟨sign, hsign, ds, rfl, n, hds⟩ := exists_decimal_iff.2 hdigits
  have hmagnitude := Magnitude.decimal (.whole hds) .absent
  rw [List.append_nil] at hmagnitude
  exact isSome_double?_iff.2 ⟨sign, hsign, ds, rfl, hmagnitude⟩

theorem mistakable_iff : Mistakable s ↔
    (lower s = "true" ∨ lower s = "false") ∨ (double? s.toList).isSome := by
  rw [isSome_double?_iff]
  constructor
  · rintro (h | ⟨hsign, h, hs⟩)
    · exact .inl h
    · exact .inr ⟨_, hsign, _, hs, h⟩
  · rintro (h | ⟨sign, hsign, rest, hs, h⟩)
    · exact .truth h
    · exact .number hsign h hs

/-- The values that variables can have: truth values and numbers that their texts spell, or else the
texts. -/
inductive Taken (s : String) : Value → Prop
  | bool (h : Mistakable s) (b : Bool) : Taken s (.bool b)
  | number (h : Mistakable s) (n : Number) : Taken s (.number n)
  | text (h : ¬ Mistakable s) : Taken s (.text s)

theorem taken_variableValue (s : String) : Taken s (variableValue s) := by
  unfold variableValue
  split
  · next htrue => exact .bool (.truth (.inl htrue)) true
  next htrue =>
  split
  · next hfalse => exact .bool (.truth (.inr hfalse)) false
  next hfalse =>
  split
  · next n hn =>
    exact .number (mistakable_iff.2 (.inr (isSome_double?_of_signed? hn))) (.int n)
  next =>
  split
  · next f hf =>
    exact .number (mistakable_iff.2 (.inr (Option.isSome_of_eq_some hf))) (.double ⟨f.toBits⟩)
  · next hnone =>
    have hnumber : ¬ (double? s.toList).isSome := by simp [hnone]
    exact .text fun h => (mistakable_iff.1 h).elim (not_or.2 ⟨htrue, hfalse⟩) hnumber

end ContainerBridge.Agent.Layer
