import ContainerBridge.Json.Number

/-! JSON texts as they stand, up to the first place where they stop being JSON. -/

namespace ContainerBridge.Json

/-- What a text spells. `unreadable` is a well-formed number or string that no value stands for: a
number beyond the largest double, or half of a surrogate pair. `broken` marks where the text stops
being JSON; what encloses it is not `closed`. A member name is `none` when it is unreadable. -/
inductive Source where
  | null
  | bool (b : Bool)
  | number (n : Number)
  | string (s : String)
  | unreadable
  | array (items : List Source) (closed : Bool)
  | object (members : List (Option String × Source)) (closed : Bool)
  | broken

namespace Source

/-! Spelling a value. -/

mutual

/-- The text of a value, which has no faults. -/
def ofValue : Value → Source
  | .null => .null
  | .bool b => .bool b
  | .number n => .number n
  | .string s => .string s
  | .array items => .array (ofItems items) true
  | .object members => .object (ofMembers members) true

def ofItems : List Value → List Source
  | [] => []
  | v :: rest => ofValue v :: ofItems rest

def ofMembers : List (String × Value) → List (Option String × Source)
  | [] => []
  | (k, v) :: rest => (some k, ofValue v) :: ofMembers rest

end

/-! Reading a text. Every step takes the characters left and returns those after it, or `none`
once the text is broken. -/

def isSpace (c : Char) : Bool := c = ' ' || c = '\n' || c = '\t' || c = '\r'

def skipSpace (cs : List Char) : List Char := cs.dropWhile isSpace

def hexDigit (c : Char) : Option Nat :=
  if c.isDigit then some (c.toNat - '0'.toNat)
  else if 'a' ≤ c && c ≤ 'f' then some (c.toNat - 'a'.toNat + 10)
  else if 'A' ≤ c && c ≤ 'F' then some (c.toNat - 'A'.toNat + 10)
  else none

/-- The unit of text that four hexadecimal digits spell. -/
def hexUnit (a b c d : Char) : Option Nat := do
  let a ← hexDigit a
  let b ← hexDigit b
  let c ← hexDigit c
  let d ← hexDigit d
  return a * 4096 + b * 256 + c * 16 + d

def plainEscape : Char → Option Char
  | '"' => some '"'
  | '\\' => some '\\'
  | '/' => some '/'
  | 'b' => some '\x08'
  | 'f' => some '\x0c'
  | 'n' => some '\n'
  | 'r' => some '\r'
  | 't' => some '\t'
  | _ => none

/-- A character of a string: one that stands for itself, an escaped one, or a unit of text. -/
inductive Piece where
  | char (c : Char)
  | unit (n : Nat)

/-- The pieces of a string up to the closing quote. -/
def pieces : List Char → Option (List Piece × List Char)
  | [] => none
  | '"' :: rest => some ([], rest)
  | '\\' :: 'u' :: a :: b :: c :: d :: rest => do
    let u ← hexUnit a b c d
    let (ps, rest) ← pieces rest
    some (.unit u :: ps, rest)
  | '\\' :: c :: rest => do
    let c ← plainEscape c
    let (ps, rest) ← pieces rest
    some (.char c :: ps, rest)
  | c :: rest =>
    if c.toNat < 0x20 || c = '\\' then none
    else do
      let (ps, rest) ← pieces rest
      some (.char c :: ps, rest)

def isHigh (u : Nat) : Bool := 0xD800 ≤ u && u < 0xDC00

def isLow (u : Nat) : Bool := 0xDC00 ≤ u && u < 0xE000

/-- The characters that the pieces spell; two surrogates in order spell one. -/
def join : List Piece → Option (List Char)
  | [] => some []
  | .char c :: rest => (join rest).map (c :: ·)
  | .unit u :: .unit v :: rest =>
    if isHigh u then
      if isLow v then
        (join rest).map (Char.ofNat (0x10000 + (u - 0xD800) * 0x400 + (v - 0xDC00)) :: ·)
      else none
    else if isLow u then none
    else (join (.unit v :: rest)).map (Char.ofNat u :: ·)
  | .unit u :: rest => if isHigh u || isLow u then none else (join rest).map (Char.ofNat u :: ·)

/-- A string, after its opening quote. -/
def readString (cs : List Char) : Option (Option String × List Char) :=
  (pieces cs).map fun (ps, rest) => ((join ps).map String.ofList, rest)

def takeWhileDigit (cs : List Char) : List Char × List Char := cs.span Char.isDigit

/-- The fraction after the whole digits; a point needs a digit after it. -/
def readFraction : List Char → Option (List Char × List Char)
  | '.' :: rest => match takeWhileDigit rest with
    | ([], _) => none
    | r => some r
  | cs => some ([], cs)

def exponentSign : List Char → Bool × List Char
  | '+' :: rest => (false, rest)
  | '-' :: rest => (true, rest)
  | cs => (false, cs)

def readExponent : List Char → Option (Option (Bool × List Char) × List Char)
  | [] => some (none, [])
  | c :: rest =>
    if c = 'e' || c = 'E' then
      let (down, rest) := exponentSign rest
      match takeWhileDigit rest with
      | ([], _) => none
      | (ds, rest) => some (some (down, ds), rest)
    else some (none, c :: rest)

/-- The whole digits of a number, which start with a zero only when it is alone. -/
def readWhole (cs : List Char) : Option (List Char × List Char) :=
  match takeWhileDigit cs with
  | ([], _) => none
  | ('0' :: _ :: _, _) => none
  | r => some r

def readNumber (negative : Bool) (cs : List Char) : Option (Source × List Char) := do
  let (whole, cs) ← readWhole cs
  let (fraction, cs) ← readFraction cs
  let (exponent, cs) ← readExponent cs
  let n := (Numeral.mk negative whole fraction exponent).value?
  some ((n.map .number).getD .unreadable, cs)

def readWord (word : List Char) (v : Source) (cs : List Char) : Option (Source × List Char) :=
  if word.isPrefixOf cs then some (v, cs.drop word.length) else none

/-- A text that starts with neither bracket nor brace. -/
def readScalar : List Char → Option (Source × List Char)
  | '"' :: rest => (readString rest).map fun (s, rest) => ((s.map .string).getD .unreadable, rest)
  | '-' :: rest => readNumber true rest
  | 'n' :: rest => readWord ['u', 'l', 'l'] .null rest
  | 't' :: rest => readWord ['r', 'u', 'e'] (.bool true) rest
  | 'f' :: rest => readWord ['a', 'l', 's', 'e'] (.bool false) rest
  | cs => readNumber false cs

mutual

/-- A value; every call takes at least one character, so `steps` bounds the calls. -/
def readValue : Nat → List Char → Source × Option (List Char)
  | 0, _ => (.broken, none)
  | steps + 1, cs => match skipSpace cs with
    | '[' :: rest => match skipSpace rest with
      | ']' :: rest => (.array [] true, some rest)
      | rest =>
        let (items, rest) := readItems steps rest
        (.array items rest.isSome, rest)
    | '\x7b' :: rest => match skipSpace rest with
      | '\x7d' :: rest => (.object [] true, some rest)
      | rest =>
        let (members, rest) := readMembers steps rest
        (.object members rest.isSome, rest)
    | rest => match readScalar rest with
      | some (v, rest) => (v, some rest)
      | none => (.broken, none)

/-- The items of an array, from one item on. -/
def readItems : Nat → List Char → List Source × Option (List Char)
  | 0, _ => ([.broken], none)
  | steps + 1, cs => match readValue steps cs with
    | (v, none) => ([v], none)
    | (v, some rest) => match skipSpace rest with
      | ']' :: rest => ([v], some rest)
      | ',' :: rest =>
        let (items, rest) := readItems steps rest
        (v :: items, rest)
      | _ => ([v], none)

/-- The members of an object, from one member on. -/
def readMembers : Nat → List Char → List (Option String × Source) × Option (List Char)
  | 0, _ => ([], none)
  | steps + 1, cs => match skipSpace cs with
    | '"' :: rest => match readString rest with
      | none => ([], none)
      | some (k, rest) => match skipSpace rest with
        | ':' :: rest => match readValue steps rest with
          | (v, none) => ([(k, v)], none)
          | (v, some rest) => match skipSpace rest with
            | '\x7d' :: rest => ([(k, v)], some rest)
            | ',' :: rest =>
              let (members, rest) := readMembers steps rest
              ((k, v) :: members, rest)
            | _ => ([(k, v)], none)
        | _ => ([(k, .broken)], none)
    | _ => ([], none)

end

/-- The value at the start of a text, and the characters after it. -/
def ofLeading (s : String) : Source × Option (List Char) :=
  let cs := s.toList
  readValue (2 * cs.length + 2) cs

end Source
end ContainerBridge.Json
