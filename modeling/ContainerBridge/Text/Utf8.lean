/-! Texts as bytes, and bytes as texts. -/

namespace ContainerBridge.Text

def bytes (s : String) : List UInt8 := s.toUTF8.toList

/-- A character of which `owed` bytes are still to come; the next one lies between `low` and
`high`. -/
structure Begun where
  owed : Nat
  low : Nat
  high : Nat
  bits : Nat
  deriving DecidableEq, Repr

/-- What one byte begins, when nothing has begun: a character of one byte or of several. -/
inductive Lead where
  | whole (c : Char)
  | begun (b : Begun)
  | invalid

def lead (b : Nat) : Lead :=
  if b < 0x80 then .whole (Char.ofNat b)
  else if b < 0xC2 then .invalid
  else if b < 0xE0 then .begun ⟨1, 0x80, 0xBF, b - 0xC0⟩
  else if b < 0xF0 then
    .begun ⟨2, if b = 0xE0 then 0xA0 else 0x80, if b = 0xED then 0x9F else 0xBF, b - 0xE0⟩
  else if b < 0xF5 then
    .begun ⟨3, if b = 0xF0 then 0x90 else 0x80, if b = 0xF4 then 0x8F else 0xBF, b - 0xF0⟩
  else .invalid

/-- The characters of bytes, `none` for every longest run that begins a character without ending
it, and for every byte that begins none. -/
def readUtf8 : Option Begun → List UInt8 → List (Option Char)
  | none, [] => []
  | some _, [] => [none]
  | none, b :: rest => match lead b.toNat with
    | .whole c => some c :: readUtf8 none rest
    | .begun s => readUtf8 (some s) rest
    | .invalid => none :: readUtf8 none rest
  | some s, b :: rest =>
    if s.low ≤ b.toNat && b.toNat ≤ s.high then
      let bits := s.bits * 64 + (b.toNat - 0x80)
      if s.owed = 1 then some (Char.ofNat bits) :: readUtf8 none rest
      else readUtf8 (some ⟨s.owed - 1, 0x80, 0xBF, bits⟩) rest
    else match lead b.toNat with
      | .whole c => none :: some c :: readUtf8 none rest
      | .begun s => none :: readUtf8 (some s) rest
      | .invalid => none :: none :: readUtf8 none rest

/-- The text of bytes, if they are one. -/
def ofBytes? (bs : List UInt8) : Option String :=
  ((readUtf8 none bs).mapM id).map String.ofList

/-- The text of bytes, with a replacement character for whatever is none. -/
def ofBytesLossy (bs : List UInt8) : String :=
  String.ofList ((readUtf8 none bs).map (·.getD '\ufffd'))

end ContainerBridge.Text
