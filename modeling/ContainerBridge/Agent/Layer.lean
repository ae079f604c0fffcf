import ContainerBridge.Json.Decoder
import ContainerBridge.Text.Basic
import ContainerBridge.Text.Case

/-! Layers of settings: files and environments, laid over one another setting by setting. -/

namespace ContainerBridge.Agent.Layer

open Json

/-! Places of settings. -/

/-- A step from a setting to one inside it. -/
inductive Step where
  | member (name : String)
  | item (index : Nat)
  deriving DecidableEq, Repr

def isNameChar (c : Char) : Bool := c.isAlphanum || c = ' ' || c = '_' || c = '-'

/-- The steps behind the first name; each takes at least one character. -/
def readSteps : Nat → List Char → Option (List Step)
  | _, [] => some []
  | 0, _ => none
  | steps + 1, '.' :: rest =>
    match rest.span isNameChar with
    | ([], _) => none
    | (name, rest) => (readSteps steps rest).map (.member (String.ofList name) :: ·)
  | steps + 1, '[' :: rest =>
    match (rest.dropWhile (· = ' ')).span Char.isDigit with
    | ([], _) => none
    | (digits, rest) => match rest.dropWhile (· = ' ') with
      | ']' :: rest => (readSteps steps rest).map (.item (Text.decimalValue digits) :: ·)
      | _ => none
  | _, _ => none

/-- The place that a key names: `name.name[index]`, or else a setting of that very name. -/
def place (key : String) : List Step :=
  match key.toList.span isNameChar with
  | ([], _) => [.member key]
  | (name, rest) =>
    ((readSteps rest.length rest).map (.member (String.ofList name) :: ·)).getD [.member key]

/-! Putting a setting at its place. Whatever stands in the way gives way. -/

def members : Value → OrderedMap String Value
  | .object ms => .ofList ms
  | _ => .empty

def items : Value → List Value
  | .array l => l
  | _ => []

mutual

/-- Puts `new` under a name; a group of settings is merged with the group that is there. -/
def put (name : String) (new : Value) (v : Value) : Value :=
  let key := Text.lower name
  match new with
  | .object ms => .ofMap ((members v).insert key
      (putAll ms (.ofMap (members (((members v).get? key).getD .null)))))
  | new => .ofMap ((members v).insert key new)

def putAll : List (String × Value) → Value → Value
  | [], v => v
  | (name, new) :: rest, v => putAll rest (put name new v)

end

/-- Changes the item at an index, after as many empty ones as are missing. -/
def changeItem (index : Nat) (f : Value → Value) (l : List Value) : List Value :=
  let l := l ++ List.replicate (index + 1 - l.length) .null
  l.mapIdx fun i v => if i = index then f v else v

def putAt : List Step → Value → Value → Value
  | [], _, v => v
  | [.member name], new, v => put name new v
  | [.item i], new, v => .array (changeItem i (fun _ => new) (items v))
  | .member name :: rest, new, v =>
    let key := Text.lower name
    .ofMap ((members v).insert key (putAt rest new (((members v).get? key).getD .null)))
  | .item i :: rest, new, v => .array (changeItem i (putAt rest new) (items v))

/-- Lays settings over others. -/
def lay (settings : List (String × Value)) (v : Value) : Value :=
  settings.foldl (fun v e => putAt (place e.1) e.2 v) v

/-! Files. -/

mutual

/-- A value of a file; whole numbers beyond sixty-four signed bits are inexact. -/
def narrow : Value → Value
  | .number (.int n) =>
    if n < 0x8000000000000000 then .number (.int n)
    else .number (.double ⟨n.toNat.toUInt64.toFloat.toBits⟩)
  | .array l => .array (narrowItems l)
  | .object ms => .object (narrowMembers ms)
  | v => v

def narrowItems : List Value → List Value
  | [] => []
  | v :: rest => narrow v :: narrowItems rest

def narrowMembers : List (String × Value) → List (String × Value)
  | [] => []
  | (k, v) :: rest => (k, narrow v) :: narrowMembers rest

end

/-- The settings of a file's text, which is an object. -/
def ofFile (text : String) : Option (List (String × Value)) :=
  match Decoder.value.ofText text with
  | .ok (.object ms) => some (narrowMembers ms)
  | _ => none

/-! Environments. -/

/-- A number with a fraction or an exponent: the digits, how many of them are behind the point, and
the exponent. -/
def readExponent : List Char → Option Int
  | [] => some 0
  | c :: rest =>
    if c = 'e' || c = 'E' then
      match rest with
      | '-' :: ds => (Text.digits? ds).map fun n => -(n : Int)
      | ds => (Text.digits? (Text.dropPlus ds)).map Int.ofNat
    else none

/-- The double nearest to `digits × 10 ^ exponent`. -/
def scaled (digits : Nat) (exponent : Int) : Float :=
  let size := (Nat.toDigits 10 digits).length
  if digits = 0 || size + exponent < -400 then 0
  else if 400 < exponent then Float.ofBits 0x7FF0000000000000
  else Float.ofScientific digits (exponent < 0) exponent.natAbs

def magnitude (cs : List Char) : Option Float :=
  let word := String.ofList (cs.map Char.toLower)
  if word = "inf" || word = "infinity" then some (Float.ofBits 0x7FF0000000000000)
  else if word = "nan" then some (Float.ofBits 0x7FF8000000000000)
  else
    let (whole, rest) := cs.span Char.isDigit
    let (fraction, rest) := match rest with
      | '.' :: rest => rest.span Char.isDigit
      | rest => ([], rest)
    if whole.isEmpty && fraction.isEmpty then none
    else (readExponent rest).map fun e =>
      scaled (Text.decimalValue (whole ++ fraction)) (e - fraction.length)

def double? : List Char → Option Float
  | '-' :: rest => (magnitude rest).map fun f => -f
  | cs => magnitude (Text.dropPlus cs)

/-- The value of a variable: a truth value, a whole number or another number if it reads as one. -/
def variableValue (s : String) : Value :=
  if Text.lower s = "true" then .bool true
  else if Text.lower s = "false" then .bool false
  else match Text.signed? s.toList with
    | some n => .int n
    | none => match double? s.toList with
      | some f => .number (.double ⟨f.toBits⟩)
      | none => .text s

/-- The start of the variables that are settings. -/
def variableStart : String := "bridge_"

/-- Two underscores separate the names on the way to a setting. -/
def separate : List Char → List Char
  | '_' :: '_' :: rest => '.' :: separate rest
  | c :: rest => c :: separate rest
  | [] => []

/-- The key of a variable's setting. -/
def variableKey (name : String) : Option String :=
  (Text.dropStart? variableStart (Text.lower name)).map fun key =>
    String.ofList (separate key.toList)

/-- The settings of an environment. -/
def ofEnvironment (env : OrderedMap String String) : List (String × Value) :=
  env.entries.filterMap fun e => (variableKey e.1).map (·, variableValue e.2)

end ContainerBridge.Agent.Layer
