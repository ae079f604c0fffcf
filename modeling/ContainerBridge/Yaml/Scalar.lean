import ContainerBridge.Json.Source

/-! Scalars of YAML texts, plain and quoted. Numbers are those of JSON, with a plus sign if one
likes, and whole ones in other bases. -/

namespace ContainerBridge.Yaml
open Json

def isBlank (c : Char) : Bool := c = ' ' || c = '\t'

def isSpace (c : Char) : Bool := isBlank c || c = '\n' || c = '\r'

def trimEnd (cs : List Char) : List Char := (cs.reverse.dropWhile isSpace).reverse

/-! Plain scalars. -/

def digitsIn (base : Nat) (cs : List Char) : Option Nat :=
  if cs.isEmpty then none
  else cs.foldlM (fun n c => do
    let d ← Source.hexDigit c
    if d < base then some (base * n + d) else none) 0

/-- The number that a plain scalar spells. -/
def number? (cs : List Char) : Option Number :=
  match cs with
  | '0' :: 'x' :: rest => (digitsIn 16 rest).map fun n => .int n
  | '0' :: 'o' :: rest => (digitsIn 8 rest).map fun n => .int n
  | '0' :: 'b' :: rest => (digitsIn 2 rest).map fun n => .int n
  | cs =>
    let (negative, cs) := match cs with
      | '-' :: rest => (true, rest)
      | '+' :: rest => (false, rest)
      | cs => (false, cs)
    match Source.readNumber negative cs with
    | some (.number n, []) => some n
    | _ => none

/-- The value of a plain scalar. -/
def plain (cs : List Char) : Value :=
  let s := String.ofList cs
  if ["", "~", "null", "Null", "NULL"].contains s then .null
  else if ["true", "True", "TRUE"].contains s then .bool true
  else if ["false", "False", "FALSE"].contains s then .bool false
  else match number? cs with
    | some n => .number n
    | none => .string s

/-- Whether a plain scalar may begin with the characters. -/
def startsPlain : List Char → Bool
  | [] => false
  | c :: rest =>
    if c = '-' || c = '?' || c = ':' then rest.head?.any fun d => !isSpace d
    else !",[]\x7b\x7d#&*!|>'\"%@\x60".toList.contains c

/-! Quoted scalars. A line end in one, with the blanks around it, counts as one blank. -/

/-- The characters after a line end, without the blanks at the beginning of the line. -/
def skipSpace (cs : List Char) : List Char := cs.dropWhile isSpace

/-- A text in single quotes, after the first one; a quote inside is written twice. -/
def single (done : List Char) : Nat → List Char → Option (List Char × List Char)
  | 0, _ | _, [] => none
  | steps + 1, '\'' :: '\'' :: rest => single ('\'' :: done) steps rest
  | _, '\'' :: rest => some (done.reverse, rest)
  | steps + 1, '\n' :: rest => single (' ' :: done.dropWhile isSpace) steps (skipSpace rest)
  | steps + 1, c :: rest => single (c :: done) steps rest

def escapes : List (Char × Char) :=
  [('0', '\x00'), ('a', '\x07'), ('b', '\x08'), ('t', '\t'), ('\t', '\t'), ('n', '\n'),
    ('v', '\x0b'), ('f', '\x0c'), ('r', '\r'), ('e', '\x1b'), (' ', ' '), ('"', '"'), ('/', '/'),
    ('\\', '\\'), ('N', Char.ofNat 0x85), ('_', Char.ofNat 0xA0), ('L', Char.ofNat 0x2028),
    ('P', Char.ofNat 0x2029)]

/-- The character whose number the first `n` hexadecimal digits spell. -/
def hexChar (n : Nat) (cs : List Char) : Option Char := do
  let code ← if n ≤ cs.length then digitsIn 16 (cs.take n) else none
  if code.isValidChar then some (Char.ofNat code) else none

/-- A text in double quotes, after the first one. -/
def double (done : List Char) : Nat → List Char → Option (List Char × List Char)
  | 0, _ | _, [] => none
  | _, '"' :: rest => some (done.reverse, rest)
  | steps + 1, '\\' :: '\n' :: rest => double done steps (skipSpace rest)
  | steps + 1, '\\' :: 'x' :: rest => do double ((← hexChar 2 rest) :: done) steps (rest.drop 2)
  | steps + 1, '\\' :: 'u' :: rest => do double ((← hexChar 4 rest) :: done) steps (rest.drop 4)
  | steps + 1, '\\' :: 'U' :: rest => do double ((← hexChar 8 rest) :: done) steps (rest.drop 8)
  | steps + 1, '\\' :: c :: rest => do double ((← escapes.lookup c) :: done) steps rest
  | steps + 1, '\n' :: rest => double (' ' :: done.dropWhile isSpace) steps (skipSpace rest)
  | steps + 1, c :: rest => double (c :: done) steps rest

/-- A quoted text and what follows it, if the characters begin with a quote. -/
def quoted (cs : List Char) : Option (String × List Char) :=
  let text := match cs with
    | '\'' :: rest => single [] (rest.length + 1) rest
    | '"' :: rest => double [] (rest.length + 1) rest
    | _ => none
  text.map fun r => (String.ofList r.1, r.2)

/-- The object with the entries, unless two of them have one name. -/
def ofEntries (entries : List (String × Value)) : Option Value :=
  let m := OrderedMap.ofList entries
  if m.size = entries.length then some (.ofMap m) else none

end ContainerBridge.Yaml
