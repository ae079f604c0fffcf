import ContainerBridge.Text.Case

/-! The case of ASCII characters. Outside of them a text may change for good when it is put into
capitals and back; an ASCII text in small letters stays as it is. -/

namespace ContainerBridge.Text

variable {c : Char} {cs : List Char} {s : String}

/-- What holds of every ASCII character can be checked one at a time. -/
theorem forall_ascii {P : Char → Prop} (h : ∀ n : Fin 128, P (Char.ofNat n)) (hc : c.toNat < 128) :
    P c := by
  have hn := h ⟨c.toNat, hc⟩
  rwa [Char.ofNat_toNat] at hn

theorem toLower_of_not_ascii (hc : ¬ c.toNat < 128) : c.toLower = c := by
  refine dif_neg fun h => hc ?_
  exact Nat.lt_of_le_of_lt (UInt32.le_iff_toNat_le.1 h.2) (by decide)

theorem ascii_of_isAlphanum (h : c.isAlphanum = true) : c.toNat < 128 := by
  have hbelow {d : UInt32} (hc : c.val ≤ d) (hd : d.toNat < 128) : c.toNat < 128 :=
    Nat.lt_of_le_of_lt (UInt32.le_iff_toNat_le.1 hc) hd
  obtain h | h := Bool.or_eq_true_iff.1 h
  · obtain h | h := Bool.or_eq_true_iff.1 h
    · exact hbelow (of_decide_eq_true h).2 (by decide)
    · exact hbelow (of_decide_eq_true (Bool.and_eq_true_iff.1 h).2) (by decide)
  · exact hbelow (of_decide_eq_true (Bool.and_eq_true_iff.1 h).2) (by decide)

/-- An ASCII character that is no capital. -/
def IsSmall (c : Char) : Prop := c.toNat < 128 ∧ c.isUpper = false

instance (c : Char) : Decidable (IsSmall c) :=
  inferInstanceAs (Decidable (c.toNat < 128 ∧ c.isUpper = false))

theorem lowerChar_toUpper (h : IsSmall c) : c.toUpper ≠ 'Σ' ∧ lowerChar c.toUpper = [c] := by
  refine forall_ascii
    (P := fun c => IsSmall c → c.toUpper ≠ 'Σ' ∧ lowerChar c.toUpper = [c]) ?_ h.1 h
  decide +kernel

theorem lowerAfter_map_toUpper (h : ∀ c ∈ cs, IsSmall c) (before : List Char) :
    lowerAfter before (cs.map Char.toUpper) = cs := by
  induction cs generalizing before with
  | nil => rfl
  | cons c cs ih =>
    obtain ⟨hc, hcs⟩ := List.forall_mem_cons.1 h
    obtain ⟨hsigma, hlower⟩ := lowerChar_toUpper hc
    rw [List.map_cons, lowerAfter, if_neg hsigma, hlower, ih hcs]
    rfl

theorem flatMap_upperChar (h : ∀ c ∈ cs, IsSmall c) :
    cs.flatMap upperChar = cs.map Char.toUpper := by
  induction cs with
  | nil => rfl
  | cons c cs ih =>
    obtain ⟨hc, hcs⟩ := List.forall_mem_cons.1 h
    rw [List.flatMap_cons, upperChar, if_pos hc.1, ih hcs]
    rfl

/-- Small ASCII letters come back from their capitals. -/
theorem lower_upper (h : ∀ c ∈ s.toList, IsSmall c) : lower (upper s) = s := by
  rw [lower, upper, String.toList_ofList, flatMap_upperChar h, lowerAfter_map_toUpper h,
    String.ofList_toList]

example : lower (upper "straße") = "strasse" := by decide +kernel

end ContainerBridge.Text
