import ContainerBridge.Json.Value

/-! The decimal text of numbers. A double is read by scaling the digits that fit a machine word, and
written with the fewest digits that stand for it. -/

namespace ContainerBridge.Json

/-- The number `digits × 10 ^ exponent` is scaled in steps of at most 308 places; `none` is a number
beyond the largest double. -/
def scaleDouble : Nat → Float → Int → Option Float
  | 0, f, _ => some f
  | steps + 1, f, exponent =>
    if exponent.natAbs ≤ 308 then
      let power := Float.ofScientific 1 false exponent.natAbs
      if 0 ≤ exponent then
        let g := f * power
        if g.isInf then none else some g
      else some (f / power)
    else if f == 0 then some f
    else if 0 ≤ exponent then none
    else scaleDouble steps (f / Float.ofScientific 1 false 308) (exponent + 308)

/-- The double nearest to each step of scaling a word of digits; two steps bring any word to
zero. -/
def doubleOfParts (negative : Bool) (digits : Nat) (exponent : Int) : Option Number :=
  (scaleDouble 4 digits.toUInt64.toFloat exponent).map fun f =>
    .double ⟨(if negative then -f else f).toBits⟩

def digitValue (c : Char) : Nat := c.toNat - '0'.toNat

/-- Takes leading digits into a word until one does not fit; returns the word, how many digits were
taken and the digits left over. -/
def takeDigits : Nat → Nat → List Char → Nat × Nat × List Char
  | word, taken, [] => (word, taken, [])
  | word, taken, c :: rest =>
    if word * 10 + digitValue c < UInt64.size then
      takeDigits (word * 10 + digitValue c) (taken + 1) rest
    else (word, taken, c :: rest)

/-- The weight of the topmost bit of a word. -/
abbrev signBit : Nat := 0x8000000000000000

/-- A number as it is spelled: its digits before the point, after it, and the exponent. -/
structure Numeral where
  negative : Bool
  whole : List Char
  fraction : List Char
  exponent : Option (Bool × List Char)

namespace Numeral

def exponentLimit : Nat := 0x7FFFFFFF

/-- The value scaled by the exponent that is spelled; a huge exponent makes zero or no number. -/
def finish (n : Numeral) (word : Nat) (scale : Int) : Option Number :=
  match n.exponent with
  | none => doubleOfParts n.negative word scale
  | some (down, digits) =>
    let e := digits.foldl (fun a c => if a > exponentLimit then a else a * 10 + digitValue c) 0
    if e > exponentLimit then
      if word ≠ 0 && !down then none else doubleOfParts n.negative 0 0
    else doubleOfParts n.negative word (if down then scale - e else scale + e)

/-- The number spelled, `none` if it is beyond the largest double. -/
def value? (n : Numeral) : Option Number :=
  let (word, _, left) := takeDigits 0 0 n.whole
  if n.fraction.isEmpty && n.exponent.isNone && left.isEmpty then
    if !n.negative then some (.int word)
    else if word = 0 || signBit < word then
      some (.double ⟨(-word.toUInt64.toFloat).toBits⟩)
    else some (.int (-(word : Int)))
  else
    let (word, taken, _) := takeDigits word 0 n.fraction
    n.finish word ((left.length : Int) - taken)

end Numeral

/-! Writing a double. -/

namespace Double

/-- The bit above those of a significand that are kept. -/
abbrev hiddenBit : Nat := 0x10000000000000

def negative (d : Double) : Bool := signBit ≤ d.bits.toNat

def magnitudeBits (d : Double) : Nat := d.bits.toNat % signBit

/-- The significand `m` and exponent `q` with `|d| = m * 2 ^ q`. -/
def parts (d : Double) : Nat × Int :=
  let e : Nat := d.magnitudeBits / hiddenBit
  let f : Nat := d.magnitudeBits % hiddenBit
  if e = 0 then (f, -1074) else (hiddenBit + f, (e : Int) - 1075)

/-- The place of the leading digit of `n / d`, which is not zero. -/
def leadingPlace (n d : Nat) : Int :=
  if d ≤ n then
    let whole : Nat := n / d
    (Nat.toDigits 10 whole).length - 1
  else
    let places := (List.range 330).find? fun j => d ≤ n * Nat.pow 10 (j + 1)
    Int.negOfNat (places.getD 0 + 1)

/-- The numbers that read back as `m * 2 ^ q` are those of the interval, in quarters of `2 ^ q`. -/
def interval (m : Nat) (q : Int) : Nat × Nat :=
  (if m = hiddenBit && -1074 < q then 4 * m - 1 else 4 * m - 2, 4 * m + 2)

/-- Whether `digits * 10 ^ place` reads back as `m * 2 ^ q`. -/
def readsBack (m : Nat) (q : Int) (digits : Nat) (place : Int) : Bool :=
  let (low, high) := interval m q
  let x := 4 * digits * Nat.pow 10 place.toNat * Nat.pow 2 (-q).toNat
  let unit := Nat.pow 10 (-place).toNat * Nat.pow 2 q.toNat
  if m % 2 = 0 then low * unit ≤ x && x ≤ high * unit else low * unit < x && x < high * unit

/-- The two neighbours of `m * 2 ^ q` on the grid of `10 ^ place`: the one that reads back and is
nearer, if any does. -/
def onGrid (m : Nat) (q : Int) (place : Int) : Option Nat :=
  let n := m * Nat.pow 2 q.toNat * Nat.pow 10 (-place).toNat
  let d := Nat.pow 2 (-q).toNat * Nat.pow 10 place.toNat
  let below := n / d
  let left := n % d
  let lowFits := readsBack m q below place
  let highFits := readsBack m q (below + 1) place
  if lowFits && highFits then
    some (if 2 * left < d || (2 * left = d && below % 2 = 0) then below else below + 1)
  else if lowFits then some below
  else if highFits then some (below + 1)
  else none

/-- The fewest digits that read back, and the place of the last of them. -/
def shortest (m : Nat) (q : Int) : Nat × Int :=
  let lead := leadingPlace (m * Nat.pow 2 q.toNat) (Nat.pow 2 (-q).toNat)
  let found := (List.range 17).findSome? fun (j : Nat) =>
    let place := lead - j
    (onGrid m q place).map (·, place)
  found.getD (m, q)

/-- Trailing zeros go into the place. -/
def trimZeros : Nat → Nat × Int → Nat × Int
  | 0, r => r
  | steps + 1, (digits, place) =>
    if digits % 10 = 0 && digits ≠ 0 then trimZeros steps (digits / 10, place + 1)
    else (digits, place)

/-- The text of a finite double: positional from 1e-5 up to 1e16, with an exponent beyond. -/
def text (d : Double) : String :=
  let sign := if d.negative then ['-'] else []
  let (m, q) := d.parts
  if m = 0 then String.ofList (sign ++ ['0', '.', '0'])
  else
    let (n, place) := trimZeros 20 (shortest m q)
    let digits := Nat.toDigits 10 n
    let point := (digits.length : Int) + place
    let body :=
      if 0 ≤ place && point ≤ 16 then digits ++ List.replicate place.toNat '0' ++ ['.', '0']
      else if 0 < point && point ≤ 16 then
        digits.take point.toNat ++ '.' :: digits.drop point.toNat
      else if -5 < point && point ≤ 0 then
        '0' :: '.' :: List.replicate (-point).toNat '0' ++ digits
      else
        let mantissa := match digits with
          | [c] => [c]
          | c :: rest => c :: '.' :: rest
          | [] => []
        mantissa ++ 'e' :: (toString (point - 1)).toList
    String.ofList (sign ++ body)

end Double

def Number.text : Number → String
  | .int n => toString n
  | .double d => d.text

end ContainerBridge.Json
