import ContainerBridge.Url.Percent
import Mathlib.Data.List.Basic

/-! Percent encoding and what is read from it. A percent sign with two digits behind it stands for a
byte and every other byte for itself, so that decoding makes no text longer, and leaves a text as
long as it was only where it changes nothing. -/

namespace ContainerBridge

namespace Text

variable {c : Char} {cs ds : List Char}

/-- The bytes of characters. -/
def utf8 (cs : List Char) : List UInt8 := cs.flatMap String.utf8EncodeChar

@[simp] theorem utf8_nil : utf8 [] = [] := rfl

@[simp] theorem utf8_cons (c : Char) (cs : List Char) :
    utf8 (c :: cs) = String.utf8EncodeChar c ++ utf8 cs := rfl

@[simp] theorem utf8_append (cs ds : List Char) : utf8 (cs ++ ds) = utf8 cs ++ utf8 ds :=
  List.flatMap_append

theorem toList_loop (bs : ByteArray) (i : Nat) (r : List UInt8) :
    ByteArray.toList.loop bs i r = r.reverse ++ bs.data.toList.drop i := by
  fun_induction ByteArray.toList.loop bs i r with
  | case1 i r h ih =>
    have hi : i < bs.data.toList.length := by simpa using h
    have hget : bs.get! i = bs.data.toList[i] := by
      simp [ByteArray.get!, getElem!_pos bs.data i (by simpa using hi)]
    rw [ih, List.drop_eq_getElem_cons hi, hget]
    simp
  | case2 i r h =>
    have hi : bs.data.toList.length ≤ i := by simpa using h
    rw [List.drop_eq_nil_of_le hi, List.append_nil]

theorem bytes_eq_utf8 (s : String) : bytes s = utf8 s.toList := by
  obtain ⟨cs, rfl⟩ : ∃ cs, s = String.ofList cs := ⟨s.toList, String.ofList_toList.symm⟩
  rw [bytes, String.toUTF8, String.toByteArray_ofList, List.utf8Encode, ByteArray.toList,
    toList_loop, List.toList_data_toByteArray, String.toList_ofList]
  rfl

theorem bytes_injective {s t : String} (h : bytes s = bytes t) : s = t := by
  have harray (s : String) : s.toByteArray = (bytes s).toByteArray := by
    obtain ⟨cs, rfl⟩ : ∃ cs, s = String.ofList cs := ⟨s.toList, String.ofList_toList.symm⟩
    rw [bytes_eq_utf8, String.toByteArray_ofList, String.toList_ofList]
    rfl
  rw [← String.toByteArray_inj, harray, harray, h]

theorem utf8EncodeChar_of_lt (h : c.toNat < 0x80) :
    String.utf8EncodeChar c = [UInt8.ofNat c.toNat] := by
  have hv : c.val.toNat ≤ 127 := Nat.le_of_lt_succ h
  rw [String.utf8EncodeChar, if_pos hv]
  rfl

/-- The bytes of a character outside of the basic ones are outside of them too. -/
theorem le_of_mem_utf8EncodeChar (h : 0x80 ≤ c.toNat) {b : UInt8}
    (hb : b ∈ String.utf8EncodeChar c) : 0x80 ≤ b.toNat := by
  have hv : ¬ c.val.toNat ≤ 127 := Nat.not_le.2 h
  simp only [String.utf8EncodeChar, if_neg hv] at hb
  split at hb
  · simp only [List.mem_cons, List.not_mem_nil, or_false] at hb
    rcases hb with rfl | rfl <;> simp <;> omega
  · split at hb
    · simp only [List.mem_cons, List.not_mem_nil, or_false] at hb
      rcases hb with rfl | rfl | rfl <;> simp <;> omega
    · simp only [List.mem_cons, List.not_mem_nil, or_false] at hb
      rcases hb with rfl | rfl | rfl | rfl <;> simp <;> omega

theorem length_utf8_le_of_sublist (h : cs.Sublist ds) : (utf8 cs).length ≤ (utf8 ds).length := by
  induction h with
  | slnil => exact Nat.le_refl _
  | cons d h ih =>
    rw [utf8_cons, List.length_append]
    omega
  | cons_cons d h ih =>
    rw [utf8_cons, utf8_cons, List.length_append, List.length_append]
    omega

/-- A text without some of its characters has fewer bytes. -/
theorem eq_of_sublist_of_length_utf8 (h : cs.Sublist ds)
    (hlen : (utf8 ds).length ≤ (utf8 cs).length) : cs = ds := by
  induction h with
  | slnil => rfl
  | cons d h ih =>
    have hd := d.utf8Size_pos
    have hle := length_utf8_le_of_sublist h
    rw [utf8_cons, List.length_append, String.length_utf8EncodeChar] at hlen
    omega
  | cons_cons d h ih =>
    rw [utf8_cons, utf8_cons, List.length_append, List.length_append] at hlen
    rw [ih (by omega)]

end Text

namespace Url

open Text

variable {r : Reserved} {b x y d : UInt8} {l : List UInt8} {c : Char} {cs : List Char}

/-! Decoding -/

/-- Bytes that do not begin with two digits. -/
def Undigited (l : List UInt8) : Prop := ∀ x y t, l = x :: y :: t → hexByte x y = none

theorem percentDecode_cons (hb : b ≠ 0x25) (l : List UInt8) :
    percentDecode (b :: l) = b :: percentDecode l := by
  match l with
  | [] | [_] => rfl
  | _ :: _ :: _ => rw [percentDecode, if_neg hb]

theorem percentDecode_percent (h : Undigited l) :
    percentDecode (0x25 :: l) = 0x25 :: percentDecode l := by
  match l with
  | [] | [_] => rfl
  | x :: y :: t => rw [percentDecode, if_pos rfl, h x y t rfl]

theorem percentDecode_hex (h : hexByte x y = some d) (l : List UInt8) :
    percentDecode (0x25 :: x :: y :: l) = d :: percentDecode l := by
  rw [percentDecode, if_pos rfl, h]

/-- Bytes are read from the front: three that stand for one, a percent sign that stands for itself,
or another byte. -/
@[elab_as_elim]
theorem percent_induction {P : List UInt8 → Prop} (nil : P [])
    (hex : ∀ x y d l, hexByte x y = some d → P l → P (0x25 :: x :: y :: l))
    (percent : ∀ l, Undigited l → P l → P (0x25 :: l))
    (cons : ∀ b l, b ≠ 0x25 → P l → P (b :: l)) (l : List UInt8) : P l := by
  induction hn : l.length using Nat.strongRecOn generalizing l with
  | ind n ih =>
    subst hn
    match l with
    | [] => exact nil
    | b :: l =>
      by_cases hb : b = 0x25
      · subst hb
        by_cases hl : Undigited l
        · exact percent l hl (ih _ (Nat.lt_succ_self _) l rfl)
        · simp only [Undigited, not_forall] at hl
          obtain ⟨x, y, t, rfl, hxy⟩ := hl
          obtain ⟨d, hd⟩ := Option.ne_none_iff_exists'.1 hxy
          exact hex x y d t hd (ih _ (by simp only [List.length_cons]; omega) t rfl)
      · exact cons b l hb (ih _ (Nat.lt_succ_self _) l rfl)

theorem undigited_cons (h : hexValue x = none) (l : List UInt8) : Undigited (x :: l) := by
  rintro _ y t ⟨⟩
  simp [hexByte, h]

theorem undigited_cons_cons (h : hexValue y = none) (x : UInt8) (l : List UInt8) :
    Undigited (x :: y :: l) := by
  rintro _ _ t ⟨⟩
  simp [hexByte, h]

theorem length_percentDecode_le (l : List UInt8) : (percentDecode l).length ≤ l.length := by
  induction l using percent_induction with
  | nil => exact Nat.le_refl _
  | hex x y d l hd ih =>
    rw [percentDecode_hex hd]
    simp only [List.length_cons]
    omega
  | percent l hl ih =>
    rw [percentDecode_percent hl]
    exact Nat.succ_le_succ ih
  | cons b l hb ih =>
    rw [percentDecode_cons hb]
    exact Nat.succ_le_succ ih

theorem percentDecode_eq_self (h : l.length ≤ (percentDecode l).length) : percentDecode l = l := by
  induction l using percent_induction with
  | nil => rfl
  | hex x y d l hd ih =>
    have hle := length_percentDecode_le l
    rw [percentDecode_hex hd] at h
    simp only [List.length_cons] at h
    omega
  | percent l hl ih =>
    rw [percentDecode_percent hl] at h ⊢
    rw [ih (Nat.le_of_succ_le_succ h)]
  | cons b l hb ih =>
    rw [percentDecode_cons hb] at h ⊢
    rw [ih (Nat.le_of_succ_le_succ h)]

theorem percentDecode_of_not_mem (h : 0x25 ∉ l) : percentDecode l = l := by
  induction l with
  | nil => rfl
  | cons b l ih =>
    rw [List.mem_cons, not_or] at h
    rw [percentDecode_cons (Ne.symm h.1), ih h.2]

/-! Encoding -/

theorem percentEncode_eq_self (h : ∀ c ∈ cs, r c = false) :
    percentEncode r cs = String.ofList cs := by
  have hc : cs.flatMap (encodeChar r) = cs.flatMap fun c => [c] :=
    List.flatMap_congr fun c hc => by rw [encodeChar, h c hc]; rfl
  rw [percentEncode, hc, List.flatMap_singleton']

/-- The byte of a digit. -/
def digitByte (n : Nat) : UInt8 := UInt8.ofNat (hexUpper n).toNat

theorem hexValue_digitByte {n : Nat} (h : n < 16) : hexValue (digitByte n) = some n := by
  have hall : ∀ n : Fin 16, hexValue (digitByte n) = some n.val := by decide
  exact hall ⟨n, h⟩

theorem hexUpper_bounds {n : Nat} (h : n < 16) :
    (hexUpper n).toNat < 0x80 ∧ (hexUpper n).isAlphanum = true := by
  have hall : ∀ n : Fin 16, (hexUpper n).toNat < 0x80 ∧ (hexUpper n).isAlphanum = true := by decide
  exact hall ⟨n, h⟩

theorem utf8_encodeByte (b : UInt8) :
    utf8 (encodeByte b) = [0x25, digitByte (b.toNat / 16), digitByte (b.toNat % 16)] := by
  have hb : b.toNat < 256 := b.toNat_lt_size
  have hhigh := (hexUpper_bounds (show b.toNat / 16 < 16 by omega)).1
  have hlow := (hexUpper_bounds (show b.toNat % 16 < 16 by omega)).1
  rw [encodeByte, utf8_cons, utf8_cons, utf8_cons, utf8EncodeChar_of_lt hhigh,
    utf8EncodeChar_of_lt hlow, utf8EncodeChar_of_lt (by decide)]
  rfl

theorem hexByte_digitByte (b : UInt8) :
    hexByte (digitByte (b.toNat / 16)) (digitByte (b.toNat % 16)) = some b := by
  have hb : b.toNat < 256 := b.toNat_lt_size
  have hsum : 16 * (b.toNat / 16) + b.toNat % 16 = b.toNat := Nat.div_add_mod b.toNat 16
  rw [hexByte, hexValue_digitByte (by omega), hexValue_digitByte (by omega)]
  change some (UInt8.ofNat (16 * (b.toNat / 16) + b.toNat % 16)) = some b
  rw [hsum, UInt8.ofNat_toNat]

/-- The bytes that a part of a URL holds for a byte. -/
def escape (r : Reserved) (b : UInt8) : List UInt8 :=
  if r (Char.ofNat b.toNat) then utf8 (encodeByte b) else [b]

theorem escape_cases (r : Reserved) (b : UInt8) :
    escape r b = [b] ∨ ∃ x y, escape r b = [0x25, x, y] ∧ hexByte x y = some b := by
  unfold escape
  split
  · exact .inr ⟨_, _, utf8_encodeByte b, hexByte_digitByte b⟩
  · exact .inl rfl

/-- A part of a URL that holds no other characters than the basic ones. -/
def Reserved.Basic (r : Reserved) : Prop := ∀ c : Char, 0x80 ≤ c.toNat → r c = true

/-- A part of a URL that holds percent signs and digits as they are. -/
def Reserved.KeepsDigits (r : Reserved) : Prop :=
  escape r 0x25 = [0x25] ∧ ∀ b, hexValue b ≠ none → escape r b = [b]

theorem basic_inPath : Reserved.Basic inPath := by
  intro c hc
  have h : 0x7E < c.toNat := by omega
  simp [inPath, inQuery, isControl, h]

theorem keepsDigits_inPath : Reserved.KeepsDigits inPath := by
  have hall : ∀ n : Fin 256, hexValue (UInt8.ofNat n) ≠ none →
      escape inPath (UInt8.ofNat n) = [UInt8.ofNat n] := by decide +kernel
  refine ⟨by decide, fun b hb => ?_⟩
  have h := hall ⟨b.toNat, b.toNat_lt_size⟩
  simp only [UInt8.ofNat_toNat] at h
  exact h hb

theorem utf8_flatMap_encodeByte (bs : List UInt8) :
    utf8 (bs.flatMap encodeByte) = bs.flatMap fun b => utf8 (encodeByte b) :=
  List.flatMap_assoc

theorem utf8_encodeChar (hr : r.Basic) (c : Char) :
    utf8 (encodeChar r c) = (String.utf8EncodeChar c).flatMap (escape r) := by
  have hbytes : bytes (String.singleton c) = String.utf8EncodeChar c := by
    simp [bytes_eq_utf8]
  rcases Nat.lt_or_ge c.toNat 0x80 with hc | hc
  · have hback : Char.ofNat (UInt8.ofNat c.toNat).toNat = c := by
      rw [UInt8.toNat_ofNat', Nat.mod_eq_of_lt (by omega), Char.ofNat_toNat]
    rw [encodeChar, hbytes, utf8EncodeChar_of_lt hc, List.flatMap_singleton, List.flatMap_singleton,
      escape, hback]
    split
    · rfl
    · rw [utf8_cons, utf8EncodeChar_of_lt hc]
      rfl
  · rw [encodeChar, if_pos (hr c hc), hbytes, utf8_flatMap_encodeByte]
    refine List.flatMap_congr fun b hb => ?_
    have hvalid : (Char.ofNat b.toNat).toNat = b.toNat := by
      have hsize : b.toNat < 256 := b.toNat_lt_size
      have hchar : b.toNat.isValidChar := .inl (by omega)
      rw [Char.ofNat, dif_pos hchar]
      rfl
    have hreserved := hr _ (hvalid.symm ▸ le_of_mem_utf8EncodeChar hc hb)
    rw [escape, if_pos hreserved]

theorem utf8_percentEncode (hr : r.Basic) (cs : List Char) :
    utf8 (percentEncode r cs).toList = (utf8 cs).flatMap (escape r) := by
  rw [percentEncode, String.toList_ofList]
  induction cs with
  | nil => rfl
  | cons c cs ih =>
    rw [List.flatMap_cons, utf8_append, ih, utf8_encodeChar hr, utf8_cons, List.flatMap_append]

theorem percentDecode_escape (hb : b ≠ 0x25) (l : List UInt8) :
    percentDecode (escape r b ++ l) = b :: percentDecode l := by
  obtain h | ⟨x, y, h, hxy⟩ := escape_cases r b
  · rw [h, List.singleton_append, percentDecode_cons hb]
  · rw [h]
    exact percentDecode_hex hxy l

theorem Undigited.flatMap_escape (h : Undigited l) (r : Reserved) :
    Undigited (l.flatMap (escape r)) := by
  have hpercent : hexValue 0x25 = none := by decide
  match l with
  | [] =>
    rintro x y t ⟨⟩
  | x :: l =>
    rw [List.flatMap_cons]
    obtain hx | ⟨y, z, hx, -⟩ := escape_cases r x
    · rw [hx, List.singleton_append]
      match l with
      | [] =>
        rintro _ _ _ ⟨⟩
      | y :: t =>
        rw [List.flatMap_cons]
        obtain hy | ⟨z, w, hy, -⟩ := escape_cases r y
        · rw [hy]
          rintro _ _ _ ⟨⟩
          exact h x y t rfl
        · rw [hy]
          exact undigited_cons_cons hpercent x _
    · rw [hx]
      exact undigited_cons hpercent _

/-- Decoding undoes encoding; what it changes besides are the signs with two digits that the text
has from the start. -/
theorem percentDecode_flatMap_escape (hr : r.KeepsDigits) (l : List UInt8) :
    percentDecode (l.flatMap (escape r)) = percentDecode l := by
  induction l using percent_induction with
  | nil => rfl
  | hex x y d l hd ih =>
    have hx : hexValue x ≠ none := by
      intro hn
      simp [hexByte, hn] at hd
    have hy : hexValue y ≠ none := by
      intro hn
      simp [hexByte, hn] at hd
    rw [List.flatMap_cons, List.flatMap_cons, List.flatMap_cons, hr.1, hr.2 x hx, hr.2 y hy,
      percentDecode_hex hd, ← ih]
    exact percentDecode_hex hd _
  | percent l hl ih =>
    rw [List.flatMap_cons, hr.1, percentDecode_percent hl, ← ih]
    exact percentDecode_percent (hl.flatMap_escape r)
  | cons b l hb ih =>
    rw [List.flatMap_cons, percentDecode_escape hb, percentDecode_cons hb, ih]

theorem percentDecode_percentEncode (hb : r.Basic) (hk : r.KeepsDigits) (cs : List Char) :
    percentDecode (bytes (percentEncode r cs)) = percentDecode (utf8 cs) := by
  rw [bytes_eq_utf8, utf8_percentEncode hb, percentDecode_flatMap_escape hk]

/-- A sign that is neither a percent sign nor a digit stands in an encoded text only where it stood
before, and only if it may. -/
theorem mem_of_mem_percentEncode (h : c ∈ (percentEncode r cs).toList) (hc : c ≠ '%')
    (ha : c.isAlphanum = false) : c ∈ cs ∧ r c = false := by
  rw [percentEncode, String.toList_ofList, List.mem_flatMap] at h
  obtain ⟨e, he, hce⟩ := h
  unfold encodeChar at hce
  split at hce
  · obtain ⟨b, -, hb⟩ := List.mem_flatMap.1 hce
    have hsize : b.toNat < 256 := b.toNat_lt_size
    have hdigit : ∀ n < 16, c ≠ hexUpper n := by
      rintro n hn rfl
      simp [(hexUpper_bounds hn).2] at ha
    simp [encodeByte, hc, hdigit (b.toNat / 16) (by omega), hdigit (b.toNat % 16) (by omega)] at hb
  · rename_i hre
    obtain rfl := List.mem_singleton.1 hce
    exact ⟨he, by simpa using hre⟩

end Url
end ContainerBridge
