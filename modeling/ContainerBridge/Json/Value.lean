import ContainerBridge.OrderedMap

/-! JSON values. -/

namespace ContainerBridge.Json

/-- A double precision number, by its sixty-four bits. -/
structure Double where
  bits : UInt64
  deriving DecidableEq

/-- An integer, or a number written with a fraction, an exponent or too many digits. -/
inductive Number where
  | int (n : Int)
  | double (d : Double)
  deriving DecidableEq

/-- A value. That the members of an object have distinct names, in ascending order, is told by
`Value.Ordered`. -/
inductive Value where
  | null
  | bool (b : Bool)
  | number (n : Number)
  | string (s : String)
  | array (items : List Value)
  | object (members : List (String × Value))

instance : Inhabited Value := ⟨.null⟩

namespace Value

def int (n : Int) : Value := .number (.int n)

def nat (n : Nat) : Value := .int n

def text (s : String) : Value := .string s

/-- The object with these members; one without a value is left out. -/
def ofMembers (members : List (String × Option Value)) : Value :=
  .object (OrderedMap.ofList (members.filterMap fun e => e.2.map (e.1, ·))).entries

def ofMap (m : OrderedMap String Value) : Value := .object m.entries

def orNull : Option Value → Value
  | some v => v
  | none => .null

def texts (l : List String) : Value := .array (l.map .string)

def textMap (m : OrderedMap String String) : Value := .ofMap (m.mapValues fun _ => .string)

/-- The member called `name`, `null` when there is none. -/
def member (v : Value) (name : String) : Value :=
  match v with
  | .object members => (members.lookup name).getD .null
  | _ => .null

end Value

/-! Values as they can be: the names in an object are distinct, and in order -/

mutual

def Value.Ordered : Value → Prop
  | .array items => Value.OrderedItems items
  | .object members =>
    members.Pairwise (fun a b => a.1 < b.1) ∧ Value.OrderedMembers members
  | _ => True

def Value.OrderedItems : List Value → Prop
  | [] => True
  | v :: rest => v.Ordered ∧ Value.OrderedItems rest

def Value.OrderedMembers : List (String × Value) → Prop
  | [] => True
  | (_, v) :: rest => v.Ordered ∧ Value.OrderedMembers rest

end

theorem Value.orderedMembers_iff {l : List (String × Value)} :
    Value.OrderedMembers l ↔ ∀ e ∈ l, e.2.Ordered := by
  induction l with
  | nil => simp [Value.OrderedMembers]
  | cons e l ih => simp [Value.OrderedMembers, ih]

/-- A value that is kept for its own sake, with the order of its objects. -/
structure OrderedValue where
  value : Value
  ordered : value.Ordered

def Value.orderedMap (m : OrderedMap String OrderedValue) : Value :=
  .ofMap (m.mapValues fun _ => OrderedValue.value)

/-- An object without members. -/
def OrderedValue.emptyObject : OrderedValue := ⟨.object [], .nil, trivial⟩

end ContainerBridge.Json
