import ContainerBridge.Json.Number

/-! JSON texts of values, on one line or with a line for every member. -/

namespace ContainerBridge.Json

def escape (c : Char) : List Char :=
  if c = '"' then ['\\', '"']
  else if c = '\\' then ['\\', '\\']
  else if c = '\n' then ['\\', 'n']
  else if c = '\t' then ['\\', 't']
  else if c = '\r' then ['\\', 'r']
  else if c = '\x08' then ['\\', 'b']
  else if c = '\x0c' then ['\\', 'f']
  else if c.toNat < 0x20 then
    '\\' :: 'u' :: '0' :: '0' :: (if c.toNat < 0x10 then ['0'] else []) ++ Nat.toDigits 16 c.toNat
  else [c]

def printString (s : String) : String := String.ofList ('"' :: s.toList.flatMap escape ++ ['"'])

def openBrace : String := "\x7b"

def closeBrace : String := "\x7d"

mutual

/-- The text without blanks. -/
def print : Value → String
  | .null => "null"
  | .bool b => if b then "true" else "false"
  | .number n => n.text
  | .string s => printString s
  | .array items => "[" ++ ",".intercalate (printItems items) ++ "]"
  | .object members => openBrace ++ ",".intercalate (printMembers members) ++ closeBrace

def printItems : List Value → List String
  | [] => []
  | v :: rest => print v :: printItems rest

def printMembers : List (String × Value) → List String
  | [] => []
  | (k, v) :: rest => (printString k ++ ":" ++ print v) :: printMembers rest

end

def newline (depth : Nat) : String := "\n" ++ String.ofList (List.replicate (2 * depth) ' ')

/-- Brackets around parts that each stand on a line of their own. -/
def layOut (left right : String) (depth : Nat) (parts : List String) : String :=
  if parts.isEmpty then left ++ right
  else left ++ newline (depth + 1) ++ ("," ++ newline (depth + 1)).intercalate parts
    ++ newline depth ++ right

/-- The order in which the members of objects are shown. -/
inductive Order where
  /-- In ascending order, here and inside. -/
  | sorted
  /-- In ascending order, with an order for the values. -/
  | map (value : Order)
  /-- In this order. -/
  | record (members : List (String × Order))

namespace Order

/-- The order inside a member. -/
def inside (name : String) : Order → Order
  | sorted => sorted
  | map value => value
  | record members => (members.lookup name).getD sorted

/-- Lines for members, brought into order. -/
def arrange (lines : List (String × String)) : Order → List String
  | record members => members.filterMap fun m => lines.lookup m.1
  | _ => lines.map (·.2)

end Order

mutual

/-- The text with two blanks of indentation for every bracket around it. -/
def printIndented (depth : Nat) (order : Order) : Value → String
  | .array items => layOut "[" "]" depth (indentedItems depth order items)
  | .object members =>
    layOut openBrace closeBrace depth (order.arrange (indentedMembers depth order members))
  | v => print v

def indentedItems (depth : Nat) (order : Order) : List Value → List String
  | [] => []
  | v :: rest => printIndented (depth + 1) order v :: indentedItems depth order rest

def indentedMembers (depth : Nat) (order : Order) : List (String × Value) → List (String × String)
  | [] => []
  | (k, v) :: rest =>
    (k, printString k ++ ": " ++ printIndented (depth + 1) (order.inside k) v)
      :: indentedMembers depth order rest

end

end ContainerBridge.Json
