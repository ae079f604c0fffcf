import ContainerBridge.Text.Basic
import ContainerBridge.Text.Utf8

/-! Percent encoding: a byte as a percent sign and two hexadecimal digits. The names and values of
queries are encoded in a way of their own. -/

namespace ContainerBridge.Url

/-- The characters that a part of a URL does not hold as they are. -/
abbrev Reserved := Char → Bool

def isControl (c : Char) : Bool := c.toNat < 0x20 || 0x7E < c.toNat

def inQuery (c : Char) : Bool := isControl c || " \"#<>".toList.contains c

def inSpecialQuery (c : Char) : Bool := inQuery c || c = '\''

def inFragment (c : Char) : Bool := isControl c || " \"<>\x60".toList.contains c

def inPath (c : Char) : Bool := inQuery c || "?^\x60\x7b\x7d".toList.contains c

def inUserinfo (c : Char) : Bool := inPath c || "/:;=@[\\]|".toList.contains c

def hexUpper (n : Nat) : Char := if n < 10 then Char.ofNat (48 + n) else Char.ofNat (55 + n)

def encodeByte (b : UInt8) : List Char := ['%', hexUpper (b.toNat / 16), hexUpper (b.toNat % 16)]

def encodeChar (r : Reserved) (c : Char) : List Char :=
  if r c then (Text.bytes (String.singleton c)).flatMap encodeByte else [c]

def percentEncode (r : Reserved) (cs : List Char) : String :=
  String.ofList (cs.flatMap (encodeChar r))

def hexValue (b : UInt8) : Option Nat :=
  let n := b.toNat
  if 48 ≤ n && n ≤ 57 then some (n - 48)
  else if 65 ≤ n && n ≤ 70 then some (n - 55)
  else if 97 ≤ n && n ≤ 102 then some (n - 87)
  else none

/-- The byte that two hexadecimal digits spell. -/
def hexByte (h l : UInt8) : Option UInt8 := do
  let h ← hexValue h
  let l ← hexValue l
  some (UInt8.ofNat (16 * h + l))

/-- A percent sign without two digits after it stands for itself. -/
def percentDecode : List UInt8 → List UInt8
  | [] => []
  | [b] => [b]
  | [b, c] => [b, c]
  | b :: h :: l :: rest =>
    if b = 0x25 then
      match hexByte h l with
      | some d => d :: percentDecode rest
      | none => b :: percentDecode (h :: l :: rest)
    else b :: percentDecode (h :: l :: rest)

/-! Queries as pairs of names and values -/

namespace Form

def keeps (b : UInt8) : Bool :=
  let c := Char.ofNat b.toNat
  b < 0x80 && (c.isAlphanum || c = '*' || c = '-' || c = '.' || c = '_')

def encodeByte (b : UInt8) : List Char :=
  if keeps b then [Char.ofNat b.toNat] else if b = 0x20 then ['+'] else Url.encodeByte b

def encode (s : String) : String := String.ofList ((Text.bytes s).flatMap encodeByte)

def encodePair (p : String × String) : String := encode p.1 ++ "=" ++ encode p.2

def encodePairs (ps : List (String × String)) : String := Text.joinWith "&" (ps.map encodePair)

/-- A plus sign stands for a blank, and bytes that are no text for a replacement character. -/
def decode (cs : List Char) : String :=
  Text.ofBytesLossy (percentDecode
    (Text.bytes (String.ofList (cs.map fun c => if c = '+' then ' ' else c))))

def decodePair (cs : List Char) : String × String :=
  match Text.cut '=' cs with
  | some (name, value) => (decode name, decode value)
  | none => (decode cs, "")

/-- The pairs of a query; empty parts are passed over. -/
def pairs (query : String) : List (String × String) :=
  ((Text.parts '&' query.toList).filter (!·.isEmpty)).map decodePair

end Form
end ContainerBridge.Url
