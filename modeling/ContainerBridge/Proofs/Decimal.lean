import ContainerBridge.Text.Basic
import Mathlib.Data.List.Basic
import Mathlib.Data.List.TakeDrop
import Mathlib.Data.List.TakeWhile
import Mathlib.Logic.Function.Basic

/-! Numbers in decimal notation: they are told apart by their digits, ten times a number has one
zero more at its end, and what is read as a number is what spells it. -/

namespace ContainerBridge.Text

variable {n k limit : Nat} {c : Char} {cs ds rest : List Char}

theorem toList_toString (n : Nat) : (toString n).toList = Nat.toDigits 10 n := Nat.toList_repr

theorem toString_injective : Function.Injective (toString : Nat → String) := by
  intro m n h
  have hdigits : Nat.toDigits 10 m = Nat.toDigits 10 n := by
    simpa only [toList_toString] using congrArg String.toList h
  simpa using congrArg (fun ds => Nat.ofDigitChars 10 ds 0) hdigits

theorem toString_uint16_injective : Function.Injective (toString : UInt16 → String) :=
  fun _ _ h => UInt16.toNat_inj.1 (toString_injective h)

theorem toString_ne_nil (n : Nat) : (toString n).toList ≠ [] := by
  rw [toList_toString]
  exact Nat.toDigits_ne_nil

theorem isDigit_of_mem_toString (h : c ∈ (toString n).toList) : c.isDigit = true := by
  rw [toList_toString] at h
  exact Nat.isDigit_of_mem_toDigits (by decide) (by decide) h

theorem length_toString_le_iff (hk : 0 < k) :
    (toString n).toList.length ≤ k ↔ n < Nat.pow 10 k := by
  rw [toList_toString]
  exact Nat.length_toDigits_le_iff (by decide) hk

theorem pow_ten_pos (k : Nat) : 0 < Nat.pow 10 k := Nat.pow_pos (by decide)

theorem length_toString_pow (k : Nat) : (toString (Nat.pow 10 k)).toList.length = k + 1 := by
  apply Nat.le_antisymm
  · rw [length_toString_le_iff k.succ_pos]
    have hpos := pow_ten_pos k
    show Nat.pow 10 k < Nat.pow 10 k * 10
    omega
  · rcases Nat.eq_zero_or_pos k with rfl | hk
    · decide
    · exact Nat.not_le.1 fun h => Nat.lt_irrefl _ ((length_toString_le_iff hk).1 h)

theorem toString_mul_ten (hn : 0 < n) :
    (toString (n * 10)).toList = (toString n).toList ++ ['0'] := by
  rw [toList_toString, toList_toString, Nat.mul_comm]
  exact (Nat.toDigits_append_toDigits (by decide) hn (by decide : 0 < 10)).symm

/-- Without its last digit a power of ten reads like the one before it. -/
theorem take_toString_pow (k : Nat) : (toString (Nat.pow 10 (k + 1))).toList.take (k + 1) =
    (toString (Nat.pow 10 k)).toList := by
  have hlength := length_toString_pow k
  rw [show Nat.pow 10 (k + 1) = Nat.pow 10 k * 10 from rfl, toString_mul_ten (pow_ten_pos k),
    List.take_append_of_le_length (Nat.le_of_eq hlength.symm),
    List.take_of_length_le (Nat.le_of_eq hlength)]

/-! Reading -/

/-- Digits with that value, of which the first may be zeros. -/
structure IsDecimal (n : Nat) (cs : List Char) : Prop where
  some : cs ≠ []
  digits : ∀ c ∈ cs, c.isDigit = true
  value : Nat.ofDigitChars 10 cs 0 = n

/-- The spellings of a number: its digits, with a plus sign before them or not. -/
inductive Spells (n : Nat) : List Char → Prop
  | plain {cs : List Char} (h : IsDecimal n cs) : Spells n cs
  | signed {cs : List Char} (h : IsDecimal n cs) : Spells n ('+' :: cs)

theorem isDecimal_toString (n : Nat) : IsDecimal n (toString n).toList where
  some := toString_ne_nil n
  digits _ := isDigit_of_mem_toString
  value := by rw [toList_toString, Nat.ofDigitChars_ten_toDigits]

/-- Digits are told from what follows them where that begins with none. -/
theorem span_isDigit (hds : ∀ c ∈ ds, c.isDigit = true)
    (hrest : ∀ c ∈ rest.head?, c.isDigit = false) :
    (ds ++ rest).span Char.isDigit = (ds, rest) := by
  have hnone : rest.takeWhile Char.isDigit = [] := by
    cases rest with
    | nil => rfl
    | cons c rest => exact List.takeWhile_cons_of_neg (by simpa using hrest c rfl)
  rw [List.span_eq_takeWhile_dropWhile, List.takeWhile_append_of_pos hds,
    List.dropWhile_append_of_pos hds, hnone, List.append_nil]
  cases rest with
  | nil => rfl
  | cons c rest => rw [List.dropWhile_cons_of_neg (by simpa using hrest c rfl)]

/-- Any list begins with all its digits. -/
theorem exists_digits (cs : List Char) : ∃ ds rest, cs = ds ++ rest ∧
    (∀ c ∈ ds, c.isDigit = true) ∧ ∀ c ∈ rest.head?, c.isDigit = false := by
  refine ⟨cs.takeWhile Char.isDigit, cs.dropWhile Char.isDigit, ?_, ?_, ?_⟩
  · exact List.takeWhile_append_dropWhile.symm
  · intro c hc
    exact List.mem_takeWhile_imp hc
  · intro c hc
    have := List.head?_dropWhile_not Char.isDigit cs
    rw [hc] at this
    simpa using this

theorem digits?_eq_some_iff : digits? cs = some n ↔ IsDecimal n cs := by
  have hvalue : decimalValue cs = Nat.ofDigitChars 10 cs 0 := Nat.ofDigitChars_eq_foldl.symm
  unfold digits?
  split
  · next h =>
    simp only [reduceCtorEq, false_iff]
    rintro ⟨hsome, hdigits, -⟩
    simp [hsome, List.all_eq_true.2 hdigits] at h
  · next h =>
    simp only [Bool.or_eq_true, List.isEmpty_iff, Bool.not_eq_true', not_or, Bool.not_eq_false,
      List.all_eq_true] at h
    rw [Option.some.injEq, hvalue]
    exact ⟨fun hn => ⟨h.1, h.2, hn⟩, IsDecimal.value⟩

theorem isDecimal_dropPlus_iff : IsDecimal n (dropPlus cs) ↔ Spells n cs := by
  unfold dropPlus
  split
  · next rest =>
    refine ⟨.signed, fun h => ?_⟩
    cases h with
    | plain h => exact absurd (h.digits '+' (List.mem_cons_self ..)) (by decide)
    | signed h => exact h
  · next hplus =>
    refine ⟨.plain, fun h => ?_⟩
    cases h with
    | plain h => exact h
    | signed h => exact (hplus _ rfl).elim

theorem natural?_eq_some_iff : natural? limit cs = some n ↔ Spells n cs ∧ n < limit := by
  rw [natural?, Option.filter_eq_some_iff, digits?_eq_some_iff, isDecimal_dropPlus_iff,
    decide_eq_true_eq]

end ContainerBridge.Text
