import ContainerBridge.OrderedMap
import ContainerBridge.Text.Basic

/-! Container labels and the annotations that carry them through the cluster. -/

namespace ContainerBridge.Label

/-- The start of every label that describes a server. -/
def serverNamespace : String := "che:server"

/-- What a server label says of its port. -/
inductive Field where
  | ref
  | protocol
  | path
  deriving DecidableEq, Repr

def Field.name : Field → String
  | .ref => "ref"
  | .protocol => "protocol"
  | .path => "path"

/-- The label that gives `field` for a port, written bare or with its protocol. -/
def serverKey (port : String) (field : Field) : String :=
  serverNamespace ++ ":" ++ port ++ ":" ++ field.name

/-- The labels that describe servers. -/
def serverLabels (labels : OrderedMap String String) : OrderedMap String String :=
  labels.filter fun k _ => Text.startsWith serverNamespace k

/-! An annotation holds a text between two zeros. Some characters are exchanged for ones that an
annotation may hold, and an underscore escapes those that stand for themselves. -/

/-- Which characters are exchanged. -/
structure Exchange where
  write : Char → Option Char
  read : Char → Option Char

/-- In keys a dot stands for a colon and a dash for a slash. -/
def keyExchange : Exchange where
  write c := if c = ':' then some '.' else if c = '/' then some '-' else none
  read c := if c = '.' then some ':' else if c = '-' then some '/' else none

/-- In values a dot stands for a slash. -/
def valueExchange : Exchange where
  write c := if c = '/' then some '.' else none
  read c := if c = '.' then some '/' else none

/-- One character of a text, escaped. -/
def escapeChar (x : Exchange) (c : Char) : List Char :=
  match x.write c with
  | some d => [d]
  | none =>
    if c = '_' then ['_', '_']
    else if c = '.' then ['_', 'd']
    else if c = '-' then ['_', 'h']
    else [c]

def escape (x : Exchange) (cs : List Char) : List Char := cs.flatMap (escapeChar x)

/-- An underscore before any other character stands for itself. -/
def unescape (x : Exchange) : List Char → List Char
  | [] => []
  | [c] => if c = '_' then ['_'] else [(x.read c).getD c]
  | c :: d :: rest =>
    if c = '_' then
      (if d = '_' then ['_'] else if d = 'd' then ['.'] else if d = 'h' then ['-'] else ['_', d])
        ++ unescape x rest
    else (x.read c).getD c :: unescape x (d :: rest)

def pad (cs : List Char) : List Char := '0' :: cs ++ ['0']

/-- The text between the two zeros; it holds no line feed. -/
def unpad? (cs : List Char) : Option (List Char) :=
  match cs with
  | '0' :: rest =>
    if rest.getLast? = some '0' && !rest.dropLast.contains '\n' then some rest.dropLast else none
  | _ => none

def encodeWith (x : Exchange) (s : String) : String := String.ofList (pad (escape x s.toList))

def decodeWith (x : Exchange) (s : String) : Option String :=
  (unpad? s.toList).map fun cs => String.ofList (unescape x cs)

def encodeKey : String → String := encodeWith keyExchange

def encodeValue : String → String := encodeWith valueExchange

def decodeKey : String → Option String := decodeWith keyExchange

def decodeValue : String → Option String := decodeWith valueExchange

/-- The annotations of labels; a label without a value has none. -/
def encode (labels : OrderedMap String (Option String)) : OrderedMap String String :=
  .ofList (labels.entries.filterMap fun e => e.2.map fun v => (encodeKey e.1, encodeValue v))

/-- The labels of annotations; an annotation that carries no label is passed over. -/
def decode (annotations : OrderedMap String String) : OrderedMap String String :=
  .ofList (annotations.entries.filterMap fun e => do
    let k ← decodeKey e.1
    let v ← decodeValue e.2
    some (k, v))

end ContainerBridge.Label
