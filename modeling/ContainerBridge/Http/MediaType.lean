import ContainerBridge.Text.Basic

/-! Media types, as a content type names them. -/

namespace ContainerBridge.Http

/-- A media type in small letters; a suffix stands after the last plus sign. -/
structure MediaType where
  type : String
  subtype : String
  suffix : Option String
  deriving DecidableEq, Repr

namespace MediaType

def isToken (c : Char) : Bool :=
  c.toNat < 0x80 && (c.isAlphanum || "!#$&'*+-.^_\x60|~%".toList.contains c)

/-- What follows the closing quote of a quoted value. -/
def afterQuote : List Char → Option (List Char)
  | [] => none
  | '\\' :: _ :: rest => afterQuote rest
  | '"' :: rest => some rest
  | c :: rest => if c.toNat < 0x20 || c.toNat = 0x7F then none else afterQuote rest

/-- What follows the value of a parameter. -/
def afterValue : List Char → Option (List Char)
  | '"' :: rest => afterQuote rest
  | cs => if (cs.takeWhile isToken).isEmpty then none else some (cs.dropWhile isToken)

/-- Whether the text is a list of parameters `name=value` between semicolons; each takes at least
one character, so that the length bounds their number. -/
def areParameters : Nat → List Char → Bool
  | 0, cs => cs.isEmpty
  | steps + 1, cs =>
    match cs.dropWhile (· = ' ') with
    | [] => true
    | cs =>
      match cs.span isToken with
      | ([], _) => false
      | (_, '=' :: rest) =>
        match afterValue rest with
        | none => false
        | some [] => true
        | some (c :: rest) => (c = ';' || c = ' ') && areParameters steps rest
      | _ => false

/-- The suffix after the last plus sign. -/
def splitSuffix (cs : List Char) : List Char × Option (List Char) :=
  let after := (cs.reverse.takeWhile (· ≠ '+')).reverse
  if after.length = cs.length || after.length + 1 = cs.length then (cs, none)
  else (cs.take (cs.length - after.length - 1), some after)

def parse (s : String) : Option MediaType :=
  match s.toList.span isToken with
  | (c :: type, '/' :: rest) =>
    match rest.span isToken with
    | ([], _) => none
    | (subtype, parameters) =>
      let valid := match parameters with
        | [] => true
        | d :: rest => (d = ';' || d = ' ') && areParameters rest.length rest
      if valid then
        let (subtype, suffix) := splitSuffix subtype
        let text (cs : List Char) := String.ofList (cs.map Char.toLower)
        some ⟨text (c :: type), text subtype, suffix.map text⟩
      else none
  | _ => none

/-- Whether a body of the type is JSON. -/
def isJson (m : MediaType) : Bool :=
  m.type = "application" && (m.subtype = "json" || m.suffix = some "json")

end MediaType
end ContainerBridge.Http
