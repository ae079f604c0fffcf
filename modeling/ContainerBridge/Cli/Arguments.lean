import ContainerBridge.Text.Basic

/-! Command lines: switches, which begin with dashes, operands and names of commands. -/

namespace ContainerBridge.Cli

/-- Why a command line asks for no command to be run. -/
inductive UsageFault where
  /-- The help is asked for. -/
  | help
  /-- The version is asked for. -/
  | version
  | nothingGiven
  | noCommand
  | unknownCommand
  | unknownArgument
  | missingArgument
  | repeatedArgument
  | badValue
  /-- A value is attached to a switch that takes none. -/
  | surplusValue
  deriving DecidableEq, Repr

/-- The exit code of a program that stops for it. -/
def UsageFault.exitCode : UsageFault → Nat
  | help | version => 0
  | _ => 2

def UsageFault.message : UsageFault → String
  | help => "the help is asked for"
  | version => "the version is asked for"
  | nothingGiven | noCommand => "a command is missing"
  | unknownCommand => "there is no such command"
  | unknownArgument => "an argument is unexpected"
  | missingArgument => "an argument is missing"
  | repeatedArgument => "an argument is given twice"
  | badValue => "a value is missing or invalid"
  | surplusValue => "a value is unexpected"

/-- What a switch comes with, and how often. -/
inductive SwitchKind where
  /-- Alone, once. -/
  | flag
  /-- With a value, once. -/
  | single
  /-- With a value, any number of times. -/
  | many
  /-- Alone; it ends the reading. -/
  | ending (fault : UsageFault)
  deriving DecidableEq, Repr

/-- A switch `--name`, or `-c` by its short name. -/
structure Switch where
  name : String
  short : Option Char
  kind : SwitchKind
  isRequired : Bool := false
  accepts : String → Bool := fun _ => true

def Switch.takesValue (s : Switch) : Bool := s.kind = .single || s.kind = .many

/-- What may stand on a command line: switches, operands, each of which is required, and names of
commands, behind which another grammar begins. -/
structure Grammar where
  switches : List Switch
  operands : Nat
  commands : List String := []

/-- What has been read: the values given so far, and a switch whose value is not yet taken or not
yet there. Behind two dashes there are only operands. -/
structure Reading where
  given : List (String × String) := []
  pending : Option (Switch × Option String) := none
  operands : List String := []
  onlyOperands : Bool := false

namespace Reading

/-- Takes a switch with its value. -/
def record (r : Reading) (s : Switch) (value : String) : Except UsageFault Reading :=
  match s.kind with
  | .ending fault => .error fault
  | kind =>
    if kind ≠ .many && r.given.any (·.1 = s.name) then .error .repeatedArgument
    else if s.accepts value then .ok { r with given := r.given ++ [(s.name, value)] }
    else .error .badValue

/-- Takes the pending switch, which must have its value by now. -/
def settle (r : Reading) : Except UsageFault Reading :=
  match r.pending with
  | none => .ok r
  | some (_, none) => .error .badValue
  | some (s, some value) => { r with pending := none }.record s value

def take (r : Reading) (s : Switch) (value : String) : Except UsageFault Reading := do
  (← r.settle).record s value

/-- Waits for the value of a switch. -/
def await (r : Reading) (s : Switch) : Except UsageFault Reading := do
  return { ← r.settle with pending := some (s, none) }

def isWaiting (r : Reading) : Bool :=
  match r.pending with
  | some (_, none) => true
  | _ => false

/-- The last value of a switch. -/
def value? (r : Reading) (name : String) : Option String :=
  ((r.given.filter fun e => e.1 = name).map (·.2)).getLast?

def values (r : Reading) (name : String) : List String :=
  (r.given.filter fun e => e.1 = name).map (·.2)

def isGiven (r : Reading) (name : String) : Bool := (r.value? name).isSome

end Reading

namespace Grammar

/-- A switch by its name, perhaps with a value attached. -/
def readLong (g : Grammar) (r : Reading) (name : String) (value : Option String) :
    Except UsageFault Reading :=
  match g.switches.find? fun s => s.name = name with
  | none => .error .unknownArgument
  | some s =>
    if s.takesValue then
      match value with
      | some value => r.take s value
      | none => r.await s
    else if value.isSome then .error .surplusValue
    else r.take s ""

/-- Switches by their short names; what follows one that takes a value is its value. -/
def readShort (g : Grammar) (r : Reading) : List Char → Except UsageFault Reading
  | [] => .ok r
  | c :: rest => match g.switches.find? fun s => s.short = some c with
    | none => .error .unknownArgument
    | some s =>
      if s.takesValue then
        match rest with
        | [] => r.await s
        | '=' :: value => r.take s (String.ofList value)
        | value => r.take s (String.ofList value)
      else do g.readShort (← r.take s "") rest

/-- An operand, as long as one is due. -/
def readOperand (g : Grammar) (r : Reading) (word : String) : Except UsageFault Reading :=
  if r.operands.length < g.operands then do
    return { ← r.settle with operands := r.operands ++ [word] }
  else if g.commands.isEmpty || (r.onlyOperands && g.commands.contains word) then
    .error .unknownArgument
  else .error .unknownCommand

/-- A word that is no name of a command. -/
def readWord (g : Grammar) (r : Reading) (word : String) : Except UsageFault Reading :=
  match word.toList with
  | ['-', '-'] => .ok { r with onlyOperands := true }
  | '-' :: '-' :: rest => match Text.cut '=' rest with
    | some (name, value) => g.readLong r (String.ofList name) (some (String.ofList value))
    | none => g.readLong r (String.ofList rest) none
  | '-' :: c :: rest => g.readShort r (c :: rest)
  | _ => match r.pending with
    | some (s, none) => .ok { r with pending := some (s, some word) }
    | _ => g.readOperand r word

/-- Reads words up to the name of a command, and returns it with the words behind it. -/
def read (g : Grammar) (r : Reading) :
    List String → Except UsageFault (Reading × Option (String × List String))
  | [] => .ok (r, none)
  | word :: rest =>
    if r.onlyOperands then do g.read (← g.readOperand r word) rest
    else if !r.isWaiting && g.commands.contains word then .ok (r, some (word, rest))
    else do g.read (← g.readWord r word) rest

/-- Checks that nothing required is missing. -/
def complete (g : Grammar) (r : Reading) : Except UsageFault Reading := do
  let r ← r.settle
  let isMissing (s : Switch) : Bool := s.isRequired && !r.isGiven s.name
  if r.operands.length < g.operands || g.switches.any isMissing then .error .missingArgument
  else .ok r

end Grammar
end ContainerBridge.Cli
