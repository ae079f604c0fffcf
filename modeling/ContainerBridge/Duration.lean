/-! Spans of time. -/

namespace ContainerBridge

/-- The nanoseconds of a second. -/
abbrev perSecond : Nat := 1000000000

/-- A span of time in nanoseconds; its whole seconds fit a word. -/
structure Duration where
  nanoseconds : Nat
  bounded : nanoseconds < UInt64.size * perSecond
  deriving DecidableEq

namespace Duration

def greatest : Duration := ⟨UInt64.size * perSecond - 1, by decide⟩

/-- The span of `n` nanoseconds, or the greatest one. -/
def ofNanoseconds (n : Nat) : Duration :=
  if h : n < UInt64.size * perSecond then ⟨n, h⟩ else greatest

instance : Inhabited Duration := ⟨ofNanoseconds 0⟩

def ofMilliseconds (n : UInt64) : Duration := ofNanoseconds (n.toNat * 1000000)

theorem nanoseconds_ofMilliseconds (n : UInt64) :
    (ofMilliseconds n).nanoseconds = n.toNat * 1000000 := by
  have hlt : n.toNat * 1000000 < UInt64.size * perSecond :=
    Nat.mul_lt_mul_of_lt_of_le n.toNat_lt (by decide) (by decide)
  rw [ofMilliseconds, ofNanoseconds, dif_pos hlt]

/-- The span repeated `n` times. -/
def repeated (d : Duration) (n : Nat) : Duration := ofNanoseconds (d.nanoseconds * n)

theorem nanoseconds_repeated (d : Duration) (n : Nat) :
    (d.repeated n).nanoseconds = min (n * d.nanoseconds) greatest.nanoseconds := by
  have hgreatest : greatest.nanoseconds = UInt64.size * perSecond - 1 := rfl
  unfold repeated ofNanoseconds
  rw [Nat.mul_comm n, hgreatest]
  split
  · next h => exact (Nat.min_eq_left (Nat.le_sub_one_of_lt h)).symm
  · next h =>
    have hge := Nat.not_lt.1 h
    exact (Nat.min_eq_right (by omega)).symm

def wholeSeconds (d : Duration) : Nat := d.nanoseconds / perSecond

/-- The nanoseconds beyond the whole seconds. -/
def subsecond (d : Duration) : Nat := d.nanoseconds % perSecond

def dropTrailingZeros (cs : List Char) : List Char := (cs.reverse.dropWhile (· = '0')).reverse

/-- `n` in units of `10 ^ places`, without trailing zeros. -/
def inUnits (places n : Nat) : String :=
  let digits := Nat.toDigits 10 (n % Nat.pow 10 places)
  let fraction := dropTrailingZeros (List.replicate (places - digits.length) '0' ++ digits)
  toString (n / Nat.pow 10 places)
    ++ (if fraction.isEmpty then "" else "." ++ String.ofList fraction)

/-- The span in the largest unit of which it holds at least one. -/
def text (d : Duration) : String :=
  let n := d.nanoseconds
  if perSecond ≤ n then inUnits 9 n ++ "s"
  else if 1000000 ≤ n then inUnits 6 n ++ "ms"
  else if 1000 ≤ n then inUnits 3 n ++ "µs"
  else toString n ++ "ns"

end Duration
end ContainerBridge
