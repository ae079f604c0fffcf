import ContainerBridge.Text.Basic
import ContainerBridge.Url.Percent

/-! The targets that requests may have, and the addresses of servers. -/

namespace ContainerBridge.Http

/-- A path with an optional query. -/
structure Target where
  path : String
  query : Option String
  deriving DecidableEq, Repr

/-- The greatest length of an address. -/
def addressLimit : Nat := UInt16.size - 2

/-- The characters of a path, which are those that need no percent sign and three brackets more. -/
def isPathChar (c : Char) : Bool :=
  let n := c.toNat
  n = 0x21 || (0x24 ≤ n && n ≤ 0x3B) || n = 0x3D || (0x40 ≤ n && n ≤ 0x5F)
    || (0x61 ≤ n && n ≤ 0x7A) || n = 0x7C || n = 0x7E || "\"\x7b\x7d".toList.contains c

def isQueryChar (c : Char) : Bool :=
  let n := c.toNat
  n = 0x21 || (0x24 ≤ n && n ≤ 0x3B) || n = 0x3D || (0x3F ≤ n && n ≤ 0x7E)

namespace Target

/-- Reads a target up to its fragment, which may be anything. -/
def parse (cs : List Char) : Option Target :=
  match cs.span fun c => c ≠ '?' && c ≠ '#' with
  | (path, rest) =>
    let query := match rest with
      | '?' :: query => some (query.takeWhile (· ≠ '#'))
      | _ => none
    if path.all isPathChar && query.all (·.all isQueryChar) then
      some ⟨String.ofList path, query.map String.ofList⟩
    else none

/-- Reads the target of a request, which begins with a slash. -/
def ofText (s : String) : Option Target :=
  if s.utf8ByteSize ≤ addressLimit && s.startsWith "/" then parse s.toList else none

def text (t : Target) : String := t.path ++ ((t.query.map ("?" ++ ·)).getD "")

/-- The pairs of the query. -/
def pairs (t : Target) : List (String × String) := Url.Form.pairs (t.query.getD "")

end Target

/-! Addresses of servers. -/

/-- The characters of an address that is spelled without percent signs. -/
def isAddressChar (c : Char) : Bool :=
  c.toNat < 0x80 && (c.isAlphanum || "-._~:/?#[]@!$&'()*+,;=".toList.contains c)

/-- How the reading of a server's name stands: the colons since the last sign that ends their count,
the brackets met, whether a percent sign is open and whether the last sign was an at sign. -/
structure NameState where
  colons : Nat := 0
  opened : Bool := false
  closed : Bool := false
  percent : Bool := false
  atSign : Bool := false

/-- Takes the next character of a server's name. -/
def NameState.step (s : NameState) (c : Char) : Option NameState :=
  let s := { s with atSign := false }
  match c with
  | ':' => if s.colons < 8 then some { s with colons := s.colons + 1 } else none
  | '[' => if s.percent || s.opened then none else some { s with opened := true }
  | ']' =>
    if s.opened && !s.closed then some { s with closed := true, colons := 0, percent := false }
    else none
  | '@' => some { s with colons := 0, percent := false, atSign := true }
  | '%' => some { s with percent := true }
  | c => if isAddressChar c then some s else none

/-- Whether a server's name may end here. -/
def NameState.isEnd (s : NameState) : Bool :=
  s.opened == s.closed && s.colons ≤ 1 && !s.atSign && !s.percent

/-- Whether the text names a server, with a user before it and a port behind it. -/
def isServerName (cs : List Char) : Bool := (cs.foldlM NameState.step {}).any NameState.isEnd

/-- Where a server is: a scheme, a name and a path below which it is addressed. -/
structure Address where
  scheme : Option String
  name : String
  target : Target
  deriving DecidableEq, Repr

namespace Address

def isSchemeChar (c : Char) : Bool :=
  c.toNat < 0x80 && (c.isAlphanum || "+-.~".toList.contains c)

/-- The scheme before `://`, if there is one, and what follows; `none` if it is too long. -/
def splitScheme (cs : List Char) : Option (Option (List Char) × List Char) :=
  match cs.span isSchemeChar with
  | (scheme, ':' :: '/' :: '/' :: rest) =>
    if 64 < scheme.length then none else some (some scheme, rest)
  | _ => some (none, cs)

/-- Reads a path, a server's name, or a name with a scheme before it and a path behind it. -/
def ofText (s : String) : Option Address :=
  if s.isEmpty || addressLimit < s.utf8ByteSize then none
  else if s.startsWith "/" then (Target.parse s.toList).map fun t => ⟨none, "", t⟩
  else if s = "*" then some ⟨none, "", ⟨"*", none⟩⟩
  else
    match splitScheme s.toList with
    | none => none
    | some (scheme, rest) =>
      match rest.span fun c => c ≠ '/' && c ≠ '?' && c ≠ '#' with
      | (name, path) =>
        if !isServerName name then none
        else match scheme with
          | none => if path.isEmpty then some ⟨none, String.ofList name, ⟨"", none⟩⟩ else none
          | some scheme =>
            if name.isEmpty then none
            else (Target.parse path).map fun t =>
              ⟨some (String.ofList scheme), String.ofList name, t⟩

/-- The target below the address: slashes at the end of the address's path are dropped. -/
def below (a : Address) (target : String) : String :=
  String.ofList (a.target.path.toList.reverse.dropWhile (· = '/')).reverse ++ target

end Address
end ContainerBridge.Http
