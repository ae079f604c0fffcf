/-! Texts cut at characters, and numbers in decimal notation. -/

namespace ContainerBridge.Text

/-- The characters before and after the first `sep`. -/
def cut (sep : Char) : List Char → Option (List Char × List Char)
  | [] => none
  | c :: rest => if c = sep then some ([], rest) else (cut sep rest).map fun r => (c :: r.1, r.2)

/-- The texts before and after the first `sep`. -/
def splitOnce (sep : Char) (s : String) : Option (String × String) :=
  (cut sep s.toList).map fun r => (String.ofList r.1, String.ofList r.2)

/-- The text up to the first `sep`, or all of it. -/
def upTo (sep : Char) (s : String) : String := ((splitOnce sep s).map (·.1)).getD s

/-- The characters before and after the first occurrence of `mark`. -/
def cutAt (mark : List Char) : List Char → Option (List Char × List Char)
  | [] => if mark.isEmpty then some ([], []) else none
  | c :: rest =>
    if mark.isPrefixOf (c :: rest) then some ([], (c :: rest).drop mark.length)
    else (cutAt mark rest).map fun r => (c :: r.1, r.2)

/-- Whether `mark` occurs in the text. -/
def holds (mark s : String) : Bool := (cutAt mark.toList s.toList).isSome

/-- Whether the text begins with `start`. -/
def startsWith (start s : String) : Bool := start.toList.isPrefixOf s.toList

/-- The text without `start` at its beginning, if it has it there. -/
def dropStart? (start s : String) : Option String :=
  if startsWith start s then some (String.ofList (s.toList.drop start.length)) else none

/-- The parts between the separators. -/
def parts (sep : Char) : List Char → List (List Char)
  | [] => [[]]
  | c :: rest =>
    if c = sep then [] :: parts sep rest
    else match parts sep rest with
      | [] => [[c]]
      | p :: ps => (c :: p) :: ps

def splitAll (sep : Char) (s : String) : List String := (parts sep s.toList).map String.ofList

/-- The text with `new` for every `old`. -/
def replaceChar (old new : Char) (s : String) : String :=
  String.ofList (s.toList.map fun c => if c = old then new else c)

/-- The first `n` characters. -/
def takeChars (n : Nat) (s : String) : String := String.ofList (s.toList.take n)

def dropChars (n : Nat) (s : String) : String := String.ofList (s.toList.drop n)

def joinWith (sep : String) (l : List String) : String := sep.intercalate l

/-! Numbers -/

/-- The number that decimal digits spell. -/
def decimalValue (cs : List Char) : Nat :=
  cs.foldl (fun n c => 10 * n + (c.toNat - '0'.toNat)) 0

/-- The number of one or more digits. -/
def digits? (cs : List Char) : Option Nat :=
  if cs.isEmpty || !cs.all Char.isDigit then none else some (decimalValue cs)

/-- The digits after one optional plus sign. -/
def dropPlus : List Char → List Char
  | '+' :: rest => rest
  | cs => cs

/-- A number below `limit`, with an optional plus sign. -/
def natural? (limit : Nat) (cs : List Char) : Option Nat :=
  (digits? (dropPlus cs)).filter (· < limit)

/-- An integer of sixty-four bits, with an optional sign. -/
def signed? : List Char → Option Int
  | '-' :: rest => (digits? rest).bind fun n =>
    if n ≤ 0x8000000000000000 then some (-(n : Int)) else none
  | cs => (natural? 0x8000000000000000 cs).map Int.ofNat

end ContainerBridge.Text
