import ContainerBridge.Url.Host
import ContainerBridge.Url.Percent

/-! URLs: reading them, alone or relative to another one, and what a request for one names. -/

namespace ContainerBridge

inductive UrlPath where
  /-- A text without structure. -/
  | opaquePath (s : String)
  /-- Segments, each with a slash before it. -/
  | segments (l : List String)
  deriving DecidableEq, Repr

structure Url where
  scheme : String
  username : String := ""
  password : String := ""
  host : Option Url.Host := none
  port : Option UInt16 := none
  path : UrlPath
  query : Option String := none
  fragment : Option String := none
  deriving DecidableEq, Repr

namespace Url

/-- The schemes whose URLs have a host and a path of segments, and their ports. -/
def specialSchemes : List (String × Option UInt16) :=
  [("http", some 80), ("https", some 443), ("ws", some 80), ("wss", some 443), ("ftp", some 21),
    ("file", none)]

def isSpecial (scheme : String) : Bool := (specialSchemes.lookup scheme).isSome

def defaultPort (scheme : String) : Option UInt16 := (specialSchemes.lookup scheme).join

/-- The text without blanks and controls around it and without tabs and line ends in it. -/
def clean (s : String) : List Char :=
  let isOuter (c : Char) : Bool := c.toNat ≤ 0x20
  let trimmed := ((s.toList.dropWhile isOuter).reverse.dropWhile isOuter).reverse
  trimmed.filter fun c => c ≠ '\t' && c ≠ '\n' && c ≠ '\r'

def isSchemeChar (c : Char) : Bool := c.isAlphanum || c = '+' || c = '-' || c = '.'

/-- The scheme, in small letters, and what follows its colon. -/
def splitScheme (cs : List Char) : Option (String × List Char) :=
  match Text.cut ':' cs with
  | some (c :: scheme, rest) =>
    if c.isAlpha && scheme.all isSchemeChar then
      some (String.ofList ((c :: scheme).map Char.toLower), rest)
    else none
  | _ => none

/-- A text whose query and fragment are cut off. -/
structure Reference where
  main : List Char
  query : Option (List Char)
  fragment : Option (List Char)

def Reference.of (cs : List Char) : Reference :=
  let (cs, fragment) := match Text.cut '#' cs with
    | some (before, after) => (before, some after)
    | none => (cs, none)
  match Text.cut '?' cs with
  | some (before, after) => ⟨before, some after, fragment⟩
  | none => ⟨cs, none, fragment⟩

def Reference.queryText (r : Reference) (scheme : String) : Option String :=
  r.query.map (percentEncode (if isSpecial scheme then inSpecialQuery else inQuery))

def Reference.fragmentText (r : Reference) : Option String :=
  r.fragment.map (percentEncode inFragment)

/-- In special URLs a backslash counts as a slash. -/
def isSlash (scheme : String) (c : Char) : Bool := c = '/' || (isSpecial scheme && c = '\\')

/-! Paths. -/

def isDot (segment : String) : Bool := segment = "." || Text.lowerAscii segment = "%2e"

def isDoubleDot (segment : String) : Bool :=
  segment = ".." || [".%2e", "%2e.", "%2e%2e"].contains (Text.lowerAscii segment)

/-- Follows the segments from a directory: a dot stays there and a double dot goes up. -/
def walk (dir : List String) : List String → List String
  | [] => dir
  | [s] =>
    if isDoubleDot s then dir.dropLast ++ [""]
    else if isDot s then dir ++ [""]
    else dir ++ [s]
  | s :: rest =>
    if isDoubleDot s then walk dir.dropLast rest
    else if isDot s then walk dir rest
    else walk (dir ++ [s]) rest

/-- The segments of a path without its first slash. -/
def splitPath (scheme : String) (cs : List Char) : List String :=
  (Text.parts '/' (cs.map fun c => if isSlash scheme c then '/' else c)).map (percentEncode inPath)

/-- The path behind a host; only that of a special URL is never empty. -/
def rootedPath (scheme : String) (cs : List Char) : List String :=
  match cs with
  | [] => if isSpecial scheme then [""] else []
  | c :: rest => walk [] (splitPath scheme (if isSlash scheme c then rest else c :: rest))

/-! Hosts and what stands beside them. -/

/-- The user's name and password before the last at sign, and the characters after it. -/
def splitUser (cs : List Char) : Option (List Char × List Char) :=
  let after := (cs.reverse.takeWhile (· ≠ '@')).reverse
  if after.length = cs.length then none
  else some (cs.take (cs.length - after.length - 1), after)

def userParts (cs : List Char) : String × String :=
  match Text.cut ':' cs with
  | some (name, password) => (percentEncode inUserinfo name, percentEncode inUserinfo password)
  | none => (percentEncode inUserinfo cs, "")

/-- The host and the port behind a colon that stands outside of brackets. -/
def splitPort : Bool → List Char → List Char × Option (List Char)
  | _, [] => ([], none)
  | inside, c :: rest =>
    if c = ':' && !inside then ([], some rest)
    else
      let inside := c = '[' || (inside && c ≠ ']')
      let (host, port) := splitPort inside rest
      (c :: host, port)

/-- A port; no digits are no port, and neither is the port of the scheme. -/
def parsePort (scheme : String) (cs : List Char) : Except Fault (Option UInt16) :=
  if cs.isEmpty then .ok none
  else match (Text.digits? cs).filter (· < UInt16.size) with
    | none => .error .badPort
    | some n =>
      let port := UInt16.ofNat n
      .ok (if defaultPort scheme = some port then none else some port)

/-- The host of a URL; a special one needs a host, a file may be on this one. -/
def parseHost (scheme : String) (cs : List Char) : Except Fault (Option Host) :=
  if scheme = "file" then
    if cs.isEmpty then .ok none
    else (Host.parse cs).map fun h => if h = .name "localhost" then none else some h
  else if isSpecial scheme then
    if cs.isEmpty then .error .emptyHost else (Host.parse cs).map some
  else if cs.isEmpty then .ok none
  else (Host.parseOpaque cs).map some

/-- What follows the two slashes, up to the query. -/
def parseAuthority (scheme : String) (cs : List Char) (r : Reference) : Except Fault Url := do
  let (authority, path) := cs.span fun c => !isSlash scheme c
  let (username, password, rest) := match splitUser authority with
    | some (user, rest) => ((userParts user).1, (userParts user).2, rest)
    | none => ("", "", authority)
  let (hostText, portText) := if scheme = "file" then (authority, none) else splitPort false rest
  let host ← parseHost scheme hostText
  if host.isNone && scheme ≠ "file" && (portText.isSome || username ≠ "" || password ≠ "") then
    throw .emptyHost
  let port ← parsePort scheme (portText.getD [])
  return {
    scheme := scheme
    username := username
    password := password
    host := host
    port := port
    path := .segments (rootedPath scheme path)
    query := r.queryText scheme
    fragment := r.fragmentText }

/-- What follows a scheme. -/
def parseAfterScheme (scheme : String) (cs : List Char) : Except Fault Url :=
  let r := Reference.of cs
  let plain (path : UrlPath) : Url :=
    { scheme := scheme, path := path, query := r.queryText scheme, fragment := r.fragmentText }
  if isSpecial scheme && scheme ≠ "file" then
    parseAuthority scheme (r.main.dropWhile (isSlash scheme)) r
  else match r.main with
    | c :: rest =>
      if isSlash scheme c then
        match rest with
        | d :: rest' =>
          if isSlash scheme d then parseAuthority scheme rest' r
          else .ok (plain (.segments (walk [] (splitPath scheme rest))))
        | [] => .ok (plain (.segments [""]))
      else if scheme = "file" then .ok (plain (.segments (walk [] (splitPath scheme (c :: rest)))))
      else .ok (plain (.opaquePath (percentEncode isControl (c :: rest))))
    | [] => .ok (plain (if scheme = "file" then .segments [""] else .opaquePath ""))

/-- Reads a URL. -/
def parse (s : String) : Except Fault Url :=
  match splitScheme (clean s) with
  | some (scheme, rest) => parseAfterScheme scheme rest
  | none => .error .relativeWithoutBase

/-- A reference without a scheme, on a base whose path has segments. -/
def joinPath (base : Url) (dir : List String) (cs : List Char) : Except Fault Url :=
  let r := Reference.of cs
  let scheme := base.scheme
  let rooted (path : List String) (query : Option String) : Url :=
    { base with path := .segments path, query := query, fragment := r.fragmentText }
  match r.main with
  | [] => .ok { base with query := (r.queryText scheme).or base.query, fragment := r.fragmentText }
  | c :: rest =>
    if isSlash scheme c then
      match rest with
      | d :: rest' =>
        if isSlash scheme d then
          parseAuthority scheme
            (if c = '/' && d = '/' then rest' else rest'.dropWhile (isSlash scheme)) r
        else .ok (rooted (walk [] (splitPath scheme rest)) (r.queryText scheme))
      | [] => .ok (rooted [""] (r.queryText scheme))
    else .ok (rooted (walk dir (splitPath scheme (c :: rest))) (r.queryText scheme))

/-- Reads a URL that may be relative to `base`. -/
def join (base : Url) (s : String) : Except Fault Url :=
  let cs := clean s
  let relative (cs : List Char) : Except Fault Url := match base.path with
    | .opaquePath _ =>
      if cs.head? = some '#' then
        .ok { base with fragment := (Reference.of cs).fragmentText }
      else .error .opaqueBase
    | .segments l => joinPath base l.dropLast cs
  match splitScheme cs with
  | none => relative cs
  | some (scheme, rest) =>
    if scheme = base.scheme && isSpecial scheme && (rest.takeWhile (isSlash scheme)).length < 2 then
      relative rest
    else parseAfterScheme scheme rest

/-! What a request for a URL names. -/

def pathText (u : Url) : String :=
  match u.path with
  | .opaquePath s => s
  | .segments l => String.join (l.map ("/" ++ ·))

/-- The path and query. -/
def target (u : Url) : String := u.pathText ++ ((u.query.map ("?" ++ ·)).getD "")

def hostText (u : Url) : Option String := u.host.map Host.text

/-- The URL with a slash at the end of its path. -/
def asDirectory (u : Url) : Url :=
  match u.path with
  | .opaquePath s =>
    if s.toList.getLast? = some '/' then u else { u with path := .opaquePath (s ++ "/") }
  | .segments l =>
    if l.getLast? = some "" then u else { u with path := .segments (l ++ [""]) }

/-- The URL with pairs added to its query. -/
def withPairs (u : Url) (ps : List (String × String)) : Url :=
  if ps.isEmpty then u
  else
    let before := u.query.getD ""
    { u with query := some (before ++ (if before = "" then "" else "&") ++ Form.encodePairs ps) }

end Url
end ContainerBridge
