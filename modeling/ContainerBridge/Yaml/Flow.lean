import ContainerBridge.Yaml.Scalar

/-! Values between brackets, which may go over several lines. -/

namespace ContainerBridge.Yaml.Flow
open Json

/-- What follows blanks, line ends and comments; `fresh` says whether a comment may begin here. -/
def skip (fresh : Bool) : List Char → List Char
  | [] => []
  | c :: rest =>
    if isSpace c then skip true rest
    else if c = '#' && fresh then skipComment rest
    else c :: rest
where
  skipComment : List Char → List Char
    | [] => []
    | c :: rest => if c = '\n' then skip true rest else skipComment rest

def isIndicator (c : Char) : Bool := ",[]\x7b\x7d".toList.contains c

/-- Whether a colon with these characters after it ends a key. -/
def endsKey : List Char → Bool
  | [] => true
  | c :: _ => isSpace c || isIndicator c

/-- A plain scalar, up to what ends it: an indicator, the colon of a key or a comment. -/
def plainText (done : List Char) : List Char → List Char × List Char
  | [] => (done.reverse, [])
  | c :: rest =>
    if isIndicator c || (c = ':' && endsKey rest) || (c = '#' && done.head?.any isSpace) then
      (done.reverse, c :: rest)
    else plainText (c :: done) rest

/-- The words of a scalar that goes over several lines, with a blank in place of every line end. -/
def fold : List Char → List Char
  | [] => []
  | c :: rest =>
    if c = '\n' || c = '\r' then ' ' :: fold (rest.dropWhile isSpace) else c :: fold rest
termination_by cs => cs.length
decreasing_by
  all_goals
    have := (List.dropWhile_suffix isSpace (l := rest)).length_le
    simp only [List.length_cons]
    omega

/-- A scalar: the value and its text, and what follows it. -/
def scalar (cs : List Char) : Option (Value × String × List Char) :=
  match quoted cs with
  | some (s, rest) => some (.string s, s, rest)
  | none =>
    if startsPlain cs then
      let (text, rest) := plainText [] cs
      let text := fold (trimEnd text)
      some (plain text, String.ofList text, rest)
    else none

mutual

/-- A value; every call takes at least one character, so `steps` bounds the calls. -/
def value : Nat → List Char → Option (Value × List Char)
  | 0, _ => none
  | steps + 1, cs => match skip true cs with
    | '[' :: rest => (items steps rest).map fun (l, rest) => (.array l, rest)
    | '\x7b' :: rest => do
      let (l, rest) ← entries steps rest
      return (← ofEntries l, rest)
    | rest => (scalar rest).map fun (v, _, rest) => (v, rest)

/-- The items of a list, up to its closing bracket. -/
def items : Nat → List Char → Option (List Value × List Char)
  | 0, _ => none
  | steps + 1, cs => match skip true cs with
    | ']' :: rest => some ([], rest)
    | rest => do
      let (v, rest) ← value steps rest
      match skip true rest with
      | ']' :: rest => some ([v], rest)
      | ',' :: rest =>
        let (l, rest) ← items steps rest
        some (v :: l, rest)
      | _ => none

/-- The entries of a mapping, up to its closing brace; a key alone has no value. -/
def entries : Nat → List Char → Option (List (String × Value) × List Char)
  | 0, _ => none
  | steps + 1, cs => match skip true cs with
    | '\x7d' :: rest => some ([], rest)
    | rest => do
      let (_, key, rest) ← scalar rest
      let (v, rest) ← entryValue steps (skip true rest)
      match skip true rest with
      | '\x7d' :: rest => some ([(key, v)], rest)
      | ',' :: rest =>
        let (l, rest) ← entries steps rest
        some ((key, v) :: l, rest)
      | _ => none

/-- What follows a key: a colon and a value, each of which may be missing. -/
def entryValue : Nat → List Char → Option (Value × List Char)
  | 0, _ => none
  | steps + 1, ':' :: rest => match skip true rest with
    | ',' :: more => some (.null, ',' :: more)
    | '\x7d' :: more => some (.null, '\x7d' :: more)
    | rest => value steps rest
  | _, rest => some (.null, rest)

end

/-- Reads the value at the start of a text. -/
def read (cs : List Char) : Option (Value × List Char) := value (4 * cs.length + 4) cs

end ContainerBridge.Yaml.Flow
