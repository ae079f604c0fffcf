import ContainerBridge.Json.Decoder

/-! Shapes of values, by which objects with many members are read: every member that is known has to
have its shape, and those that are not known are passed over. -/

namespace ContainerBridge.Json

inductive Shape where
  | any
  | bool
  | integer (low high : Int)
  | text
  /-- A text that passes a test. -/
  | textOf (accepts : String → Bool)
  /-- This text, which `null` does not stand for. -/
  | exactly (s : String)
  /-- A text, or an integer of a signed word of thirty-two bits. -/
  | textOrInt
  | list (item : Shape)
  | map (item : Shape)
  | object (members : List (String × Shape))

namespace Shape

def int32 : Shape := integer (-0x80000000) 0x7FFFFFFF

def int64 : Shape := integer (-0x8000000000000000) 0x7FFFFFFFFFFFFFFF

def texts : Shape := list text

def textMap : Shape := map text

/-- Whether `null` stands for the absence of a member. -/
def isNullable : Shape → Bool
  | exactly _ => false
  | _ => true

/-- Reads the members of an object by the readings of those that are known; of two with one name the
later one counts. -/
def readMembers (known : List (String × Decoder Value)) (r : Room) (closed : Bool)
    (m : OrderedMap String Value) :
    List (Option String × Source) → Except Fault (OrderedMap String Value)
  | [] => if closed then .ok m else .error .malformed
  | (none, _) :: _ => .error .malformed
  | (some k, v) :: rest =>
    match known.lookup k with
    | none => if v.sound then readMembers known r closed m rest else .error .malformed
    | some d => match d r v with
      | .error e => .error e
      | .ok .null => readMembers known r closed (m.erase k) rest
      | .ok a => readMembers known r closed (m.insert k a) rest

def readObject (known : List (String × Decoder Value)) : Decoder Value := fun r v => match v with
  | .object members closed => match r.enter with
    | none => .error .malformed
    | some r => (readMembers known r closed .empty members).map Value.ofMap
  | v => .error (Decoder.refuse v)

mutual

/-- Reads a value of the shape, without the members that are not known or `null`. -/
def read : Shape → Decoder Value
  | any => Decoder.value
  | bool => Decoder.bool.map .bool
  | integer low high => (Decoder.integer low high).map .int
  | text => Decoder.text.map .text
  | textOf accepts => Decoder.text.filterMap fun s => if accepts s then some (.text s) else none
  | exactly s => Decoder.text.filterMap fun t => if t = s then some (.text s) else none
  | textOrInt => fun r v => match v with
    | .string s => .ok (.text s)
    | v => (Decoder.int32 r v).map fun n => .int n.toInt
  | list item => (Decoder.list (read item)).map .array
  | map item => (Decoder.object (read item)).map .ofMap
  | object members => readObject (readings members)

/-- The readings of members, where `null` may stand for absence. -/
def readings : List (String × Shape) → List (String × Decoder Value)
  | [] => []
  | (k, s) :: rest =>
    (k, if s.isNullable then Decoder.nullAs .null (read s) else read s) :: readings rest

end

end Shape

namespace Value

/-! Members of a value, `none` where it has no such one. -/

def text? (v : Value) (name : String) : Option String :=
  match v.member name with
  | .string s => some s
  | _ => none

def int? (v : Value) (name : String) : Option Int :=
  match v.member name with
  | .number (.int n) => some n
  | _ => none

def items? (v : Value) (name : String) : Option (List Value) :=
  match v.member name with
  | .array l => some l
  | _ => none

/-- The members of an object that are texts. -/
def texts? (v : Value) (name : String) : Option (OrderedMap String String) :=
  match v.member name with
  | .object members => some (.ofList (members.filterMap fun e => match e.2 with
    | .string s => some (e.1, s)
    | _ => none))
  | _ => none

end Value
end ContainerBridge.Json
