import ContainerBridge.Text.Basic

/-! Timestamps such as `2024-03-01T10:00:00.5+01:00`: a date, a time of day and the offset of its
clock. -/

namespace ContainerBridge

/-- The date and the time of day; the sixtieth second is a leap second. -/
structure Timestamp where
  year : Nat
  month : Nat
  day : Nat
  hour : Nat
  minute : Nat
  second : Nat
  deriving DecidableEq, Repr

namespace Timestamp

def isLeap (year : Nat) : Bool := year % 4 = 0 && (year % 100 ≠ 0 || year % 400 = 0)

def daysOf (year month : Nat) : Nat :=
  match month with
  | 2 => if isLeap year then 29 else 28
  | 4 | 6 | 9 | 11 => 30
  | _ => 31

def isValid (t : Timestamp) : Bool :=
  1 ≤ t.month && t.month ≤ 12 && 1 ≤ t.day && t.day ≤ daysOf t.year t.month
    && t.hour ≤ 23 && t.minute ≤ 59 && t.second ≤ 60

/-- The number that the first `n` characters spell, and what follows them. -/
def number (n : Nat) (cs : List Char) : Option (Nat × List Char) :=
  if n ≤ cs.length then (Text.digits? (cs.take n)).map fun v => (v, cs.drop n) else none

/-- What follows one of the signs. -/
def skip (signs : List Char) : List Char → Option (List Char)
  | c :: rest => if signs.contains c then some rest else none
  | [] => none

/-- What follows a fraction, which is a point and digits, if there is one. -/
def skipFraction : List Char → Option (List Char)
  | '.' :: rest =>
    if (rest.takeWhile Char.isDigit).isEmpty then none else some (rest.dropWhile Char.isDigit)
  | cs => some cs

/-- The sign of subtraction, which is longer than a hyphen. -/
def minusSign : Char := Char.ofNat 0x2212

/-- Whether the text is an offset: `Z`, or hours and minutes behind a sign. -/
def isOffset : List Char → Bool
  | ['Z'] | ['z'] => true
  | sign :: rest =>
    let offset := do
      let (hours, rest) ← number 2 rest
      let (minutes, rest) ← number 2 (← skip [':'] rest)
      return hours ≤ 23 && minutes ≤ 59 && rest.isEmpty
    ['+', '-', minusSign].contains sign && offset.getD false
  | [] => false

/-- Reads a timestamp; the date and the time are parted by a `T` or a blank. -/
def parse (s : String) : Option Timestamp := do
  let (year, cs) ← number 4 s.toList
  let (month, cs) ← number 2 (← skip ['-'] cs)
  let (day, cs) ← number 2 (← skip ['-'] cs)
  let (hour, cs) ← number 2 (← skip ['T', 't', ' '] cs)
  let (minute, cs) ← number 2 (← skip [':'] cs)
  let (second, cs) ← number 2 (← skip [':'] cs)
  let t : Timestamp := ⟨year, month, day, hour, minute, second⟩
  if t.isValid && isOffset (← skipFraction cs) then some t else none

/-- A number with zeros before it up to a width. -/
def padded (width n : Nat) : String :=
  let digits := toString n
  String.ofList (List.replicate (width - digits.length) '0') ++ digits

/-- The date and the time of day, to the second. -/
def text (t : Timestamp) : String :=
  padded 4 t.year ++ "-" ++ padded 2 t.month ++ "-" ++ padded 2 t.day ++ " " ++ padded 2 t.hour
    ++ ":" ++ padded 2 t.minute ++ ":" ++ padded 2 t.second

end Timestamp
end ContainerBridge
