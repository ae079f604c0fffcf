import ContainerBridge.Cli.Arguments
import ContainerBridge.Container.Spec
import ContainerBridge.Server.Conf

/-! The commands of the command line. -/

namespace ContainerBridge.Cli

/-- How results are shown. -/
inductive Format where
  | table
  | json
  deriving DecidableEq, Repr

namespace Format

def name : Format → String
  | table => "table"
  | json => "json"

def ofName? (s : String) : Option Format := [table, json].find? fun f => f.name = s

end Format

/-- What is asked for by the creation of a container, as it is written on the command line. -/
structure Creation where
  name : String
  image : String
  env : List String := []
  ports : List String := []
  volumes : List String := []
  labels : List String := []
  deriving DecidableEq, Repr

inductive Command where
  | create (what : Creation)
  | inspect (id : String)
  | servers (id : String) (servers : List String)
  | remove (id : String) (force volumes : Bool)
  | files (workspace : String) (clear : Bool)
  deriving DecidableEq, Repr

/-- A run of a command, by an agent. -/
structure Invocation where
  apiUrl : String
  format : Format
  command : Command
  deriving DecidableEq, Repr

/-! Notations for labels, ports and servers. -/

/-- Labels `KEY=VALUE`, or `KEY` for one without a value; of two with one key the later stays. -/
def parseLabels (labels : List String) : OrderedMap String (Option String) :=
  .ofList (labels.map fun l => match Text.splitOnce '=' l with
    | some (key, value) => (key, some value)
    | none => (l, none))

/-- The request for the container; a port without a protocol is a TCP port. -/
def Creation.toSpec (c : Creation) : ContainerSpec where
  name := c.name
  image := c.image
  env := c.env
  exposedPorts := .ofMembers (c.ports.map ServerConf.portToken)
  binds := c.volumes
  labels := parseLabels c.labels

/-- Why a text describes no server. -/
inductive ServerFault where
  | noEquals (text : String)
  | noPort (text : String)
  deriving DecidableEq, Repr

def ServerFault.message : ServerFault → String
  | .noEquals text => s!"server '{text}' is not REF=PORT[,PROTOCOL[,PATH]]"
  | .noPort text => s!"server '{text}' has no port"

/-- The first two fields between commas and what follows them. -/
def threeFields (s : String) : String × Option String × Option String :=
  match Text.splitOnce ',' s with
  | none => (s, none, none)
  | some (first, rest) => match Text.splitOnce ',' rest with
    | none => (first, some rest, none)
    | some (second, third) => (first, some second, some third)

/-- Reads a server `REF=PORT[,PROTOCOL[,PATH]]`; empty parts other than the port are absent. -/
def parseServer (s : String) : Except ServerFault ServerConf :=
  match Text.splitOnce '=' s with
  | none => .error (.noEquals s)
  | some (ref, rest) =>
    let (port, protocol, path) := threeFields rest
    if port.isEmpty then .error (.noPort s)
    else
      let present (s : String) : Bool := !s.isEmpty
      .ok ⟨(some ref).filter present, port, protocol.filter present, path.filter present⟩

/-! Grammars. -/

def helpSwitch : Switch := { name := "help", short := some 'h', kind := .ending .help }

def createGrammar : Grammar where
  operands := 1
  switches :=
    [{ name := "name", short := none, kind := .single, isRequired := true },
      { name := "env", short := some 'e', kind := .many },
      { name := "port", short := some 'p', kind := .many },
      { name := "volume", short := some 'v', kind := .many },
      { name := "label", short := some 'l', kind := .many }, helpSwitch]

def inspectGrammar : Grammar where
  operands := 1
  switches := [helpSwitch]

def serversGrammar : Grammar where
  operands := 1
  switches := [{ name := "server", short := some 's', kind := .many }, helpSwitch]

def removeGrammar : Grammar where
  operands := 1
  switches :=
    [{ name := "force", short := none, kind := .flag },
      { name := "volumes", short := some 'v', kind := .flag }, helpSwitch]

def filesGrammar : Grammar where
  operands := 1
  switches := [{ name := "clear", short := none, kind := .flag }, helpSwitch]

/-- The commands with their grammars and what their arguments mean. -/
def commands : List (String × Grammar × (Reading → String → Command)) :=
  [("create", createGrammar, fun r image =>
      .create ⟨(r.value? "name").getD "", image, r.values "env", r.values "port",
        r.values "volume", r.values "label"⟩),
    ("inspect", inspectGrammar, fun _ id => .inspect id),
    ("servers", serversGrammar, fun r id => .servers id (r.values "server")),
    ("rm", removeGrammar, fun r id => .remove id (r.isGiven "force") (r.isGiven "volumes")),
    ("files", filesGrammar, fun r workspace => .files workspace (r.isGiven "clear"))]

/-- The command that shows the help of others. -/
def helpCommand : String := "help"

def commandNames : List String := commands.map (·.1) ++ [helpCommand]

def mainGrammar : Grammar where
  operands := 0
  switches :=
    [{ name := "api-url", short := none, kind := .single },
      { name := "format", short := some 'f', kind := .single
        accepts := fun s => (Format.ofName? s).isSome },
      helpSwitch, { name := "version", short := some 'V', kind := .ending .version }]
  commands := commandNames

/-- What the help is asked about: everything, or one command. -/
def helpOn : List String → UsageFault
  | [] => .help
  | [name] => if commandNames.contains name then .help else .unknownCommand
  | _ => .unknownCommand

/-- The command with the name, from the words behind it. -/
def readCommand (name : String) (words : List String) : Except UsageFault Command :=
  match commands.lookup name with
  | none => .error (if name = helpCommand then helpOn words else .unknownCommand)
  | some (g, meaning) => do
    let (r, _) ← g.read {} words
    let r ← g.complete r
    return meaning r (r.operands.head?.getD "")

/-- Where agents listen if nothing else is said. -/
def defaultApiUrl : String := "http://localhost:8080"

/-- Reads a command line; the URL of the agent may come from the environment. -/
def parse (environment : Option String) (words : List String) : Except UsageFault Invocation := do
  let (r, found) ← mainGrammar.read {} words
  let command ← found.mapM fun (name, rest) => readCommand name rest
  let r ← r.settle
  match command with
  | none => .error (if r.given.isEmpty && environment.isNone then .nothingGiven else .noCommand)
  | some command =>
    return { apiUrl := ((r.value? "api-url").or environment).getD defaultApiUrl
             format := ((r.value? "format").bind Format.ofName?).getD .table
             command := command }

/-- What is said to one whose command line asks for no command to be run. -/
def usage (fault : UsageFault) : String :=
  let help := s!"Usage: bridgectl [--api-url <URL>] [--format <FORMAT>] <COMMAND>\n\nCommands: "
    ++ Text.joinWith ", " commandNames
  if fault = .help then help else "error: " ++ fault.message ++ "\n\n" ++ help

end ContainerBridge.Cli
