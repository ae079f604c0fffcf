/-! Labels of domain names in the basic alphabet: the other characters are listed as deltas in a
variable-length base-36 notation. -/

namespace ContainerBridge.Url.Punycode

def digitChar (d : Nat) : Char := if d < 26 then Char.ofNat (97 + d) else Char.ofNat (22 + d)

def digitValue (c : Char) : Option Nat :=
  if c.isLower then some (c.toNat - 97)
  else if c.isUpper then some (c.toNat - 65)
  else if c.isDigit then some (c.toNat - 22)
  else none

/-- The digit below which a number ends, at the place `k`. -/
def threshold (bias k : Nat) : Nat :=
  if k ≤ bias then 1 else if bias + 26 ≤ k then 26 else k - bias

def shrink : Nat → Nat → Nat → Nat
  | 0, delta, k => k + 36 * delta / (delta + 38)
  | steps + 1, delta, k =>
    if 455 < delta then shrink steps (delta / 35) (k + 36) else k + 36 * delta / (delta + 38)

/-- The bias after a delta. -/
def adapt (delta count : Nat) (first : Bool) : Nat :=
  let d := if first then delta / 700 else delta / 2
  shrink d (d + d / count) 0

/-- The digits of a delta; every place makes it smaller, so that its value bounds the places. -/
def digits (bias : Nat) : Nat → Nat → Nat → List Char
  | 0, _, q => [digitChar q]
  | steps + 1, k, q =>
    let t := threshold bias k
    if q < t then [digitChar q]
    else digitChar (t + (q - t) % (36 - t)) :: digits bias steps (k + 36) ((q - t) / (36 - t))

/-- Where the encoding stands: the digits so far, the delta, the bias and the characters placed. -/
structure Progress where
  out : List Char := []
  delta : Nat := 0
  bias : Nat := 72
  placed : Nat

/-- Passes one character of the label while those with the code point `m` are placed. -/
def pass (basic m : Nat) (p : Progress) (c : Char) : Progress :=
  if c.toNat < m then { p with delta := p.delta + 1 }
  else if c.toNat = m then
    { out := p.out ++ digits p.bias p.delta 36 p.delta
      delta := 0
      bias := adapt p.delta (p.placed + 1) (p.placed = basic)
      placed := p.placed + 1 }
  else p

/-- Places the characters with each of the code points, in ascending order. -/
def placeAll (label : List Char) (basic : Nat) : List Nat → Nat → Progress → List Char
  | [], _, p => p.out
  | m :: rest, n, p =>
    let p := { p with delta := p.delta + (m - n) * (p.placed + 1) }
    let p := label.foldl (pass basic m) p
    placeAll label basic rest (m + 1) { p with delta := p.delta + 1 }

def encode (label : List Char) : List Char :=
  let basic := label.filter (·.toNat < 0x80)
  let others := ((label.map Char.toNat).filter (0x80 ≤ ·)).mergeSort.eraseDups
  basic ++ (if basic.isEmpty then [] else ['-'])
    ++ placeAll label basic.length others 0x80 { placed := basic.length }

/-- One delta, and the characters after it. -/
def readDelta (bias : Nat) : List Char → Nat → Nat → Nat → Option (Nat × List Char)
  | [], _, _, _ => none
  | c :: rest, k, weight, value => do
    let d ← digitValue c
    let t := threshold bias k
    if d < t then some (value + d * weight, rest)
    else readDelta bias rest (k + 36) (weight * (36 - t)) (value + d * weight)

/-- Inserts a character for every delta; each takes at least one character of the rest. -/
def insertAll : Nat → List Char → List Char → Nat → Nat → Nat → Option (List Char)
  | _, [], out, _, _, _ => some out
  | 0, _, _, _, _, _ => none
  | steps + 1, cs, out, n, i, bias => do
    let (delta, rest) ← readDelta bias cs 36 1 0
    let count := out.length + 1
    let place := i + delta
    let code := n + place / count
    if 0x10FFFF < code || (0xD800 ≤ code && code < 0xE000) then none
    else
      let at_ := place % count
      insertAll steps rest (out.take at_ ++ Char.ofNat code :: out.drop at_) code (at_ + 1)
        (adapt delta count (i = 0 && n = 0x80))

/-- The characters before the last dash, and those after it. -/
def splitBasic (cs : List Char) : List Char × List Char :=
  let after := (cs.reverse.takeWhile (· ≠ '-')).reverse
  if after.length = cs.length then ([], cs) else (cs.take (cs.length - after.length - 1), after)

def decode? (cs : List Char) : Option (List Char) :=
  let (basic, rest) := splitBasic cs
  if basic.any (0x80 ≤ ·.toNat) then none
  else insertAll rest.length rest basic 0x80 0 72

end ContainerBridge.Url.Punycode
