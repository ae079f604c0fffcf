import ContainerBridge.Agent.Client
import ContainerBridge.Cli.Command
import ContainerBridge.Cli.Display
import ContainerBridge.Cli.Table
import ContainerBridge.Json.Printer

/-! Running commands: they call an agent and show what it answers. -/

namespace ContainerBridge.Cli
open Json

/-- Why a command failed. -/
inductive RunFault where
  | agent (fault : Agent.ClientFault)
  | server (fault : ServerFault)
  deriving DecidableEq, Repr

def RunFault.message : RunFault → String
  | .agent fault => fault.message
  | .server fault => fault.message

/-- What is done in a run. -/
inductive Step where
  | print (line : String)
  | send (r : Http.Request)

def Step.Reply : Step → Type
  | print _ => Unit
  | send _ => Option Http.Response

/-- A run takes steps and may fail. -/
abbrev Run := ExceptT RunFault (Program Step.Reply)

namespace Run
variable {α : Type}

/-- Prints a line. -/
def print (line : String) : Run Unit := ExceptT.lift (Program.request (Step.print line))

def call (x : Agent.Client.Call α) : Run α := do
  match ← ExceptT.lift (x.run.expand fun r => Program.request (Step.send r)) with
  | .ok a => return a
  | .error fault => throw (.agent fault)

/-- The outcome of a run and the lines it prints, with the replies that `answer` gives. -/
def observe (answer : Http.Request → Option Http.Response) (x : Run α) :
    Except RunFault α × String :=
  let take : (q : Step) → String → q.Reply × String
    | .print line, printed => ((), printed ++ line ++ "\n")
    | .send r, printed => (answer r, printed)
  Program.run take x.run ""

def succeed (s : Screen) (message : String) : Run Unit :=
  print (s.sign .green "✓" ++ " " ++ message)

def warn (s : Screen) (message : String) : Run Unit :=
  print (s.sign .yellow "⚠" ++ " " ++ message)

def inform (s : Screen) (message : String) : Run Unit :=
  print (s.sign .blue "ℹ" ++ " " ++ message)

def showJson (order : Order) (v : Value) : Run Unit := print (printIndented 0 order v)

end Run

/-! The order in which objects are shown. -/

def fields (names : List String) : List (String × Order) := names.map (·, .sorted)

def createdOrder : Order := .record (fields ["Id", "Warnings"])

def bindingOrder : Order := .record (fields ["HostIp", "HostPort"])

def infoOrder : Order := .record <| fields ["Id", "Created", "Name", "Image"] ++
  [("Config", .record (fields
      ["Hostname", "Image", "WorkingDir", "User", "Env", "Labels", "ExposedPorts"])),
    ("State", .record (fields
      ["Status", "Running", "Pid", "ExitCode", "StartedAt", "FinishedAt"])),
    ("NetworkSettings", .record (fields ["IPAddress", "Gateway", "MacAddress"]
      ++ [("Ports", .map bindingOrder)])),
    ("HostConfig", .record (fields ["NetworkMode", "Privileged", "Memory", "Binds"]))]

def serverOrder : Order := .record <| fields ["ref", "protocol", "address", "url"] ++
  [("properties", .record (fields ["path", "internalAddress", "internalUrl"]))]

def runtimeOrder : Order :=
  .record (fields ["properties", "env"] ++ [("servers", .map serverOrder)])

/-! The commands. -/

open Run

def runCreate (s : Screen) (agent : Agent.Client) (format : Format) (what : Creation) :
    Run Unit := do
  let spec := what.toSpec
  if format = .table then
    inform s ("Creating " ++ s.paint .cyan spec.name ++ " from " ++ spec.image
      ++ " (waiting for the pod to start)")
  let created ← call (agent.create spec)
  match format with
  | .json => showJson createdOrder created.toJson
  | .table =>
    succeed s ("Container " ++ s.bold (shortId created.id) ++ " created")
    Run.print created.id
    created.warnings.forM (warn s)

/-- The bindings of a port, as `ip:port`. -/
def bindingsText (bindings : Option (List PortBinding)) : String :=
  Text.joinWith ", " ((bindings.getD []).map fun b => b.hostIp.getD "" ++ ":" ++ b.hostPort)

def runInspect (s : Screen) (agent : Agent.Client) (format : Format) (id : String) : Run Unit := do
  let info ← call (agent.inspect id)
  match format with
  | .json => showJson infoOrder info.toJson
  | .table =>
    Run.print (s.bold "Container")
    Run.print (String.ofList (List.replicate 60 '='))
    Run.print ("ID:       " ++ s.paint .cyan info.id)
    Run.print ("Name:     " ++ orDash info.name)
    Run.print ("Image:    " ++ orDash info.image)
    info.created.forM fun created => Run.print ("Created:  " ++ showTime created)
    Run.print ("State:    " ++ s.state (info.state.status.getD "unknown"))
    Run.print ("Address:  " ++ orDash info.networkSettings.ipAddress)
    Run.print ""
    let ports := info.networkSettings.ports.entries
    if ports.isEmpty then warn s "No exposed ports"
    else Run.print (Table.render ["Port", "Host"] (ports.map fun e => [e.1, bindingsText e.2]))
    let labels := ((info.config.labels).getD .empty).entries
    if !labels.isEmpty then
      Run.print ("\n" ++ s.bold "Server labels")
      labels.forM fun e => Run.print ("  " ++ e.1 ++ " = " ++ e.2)

/-- A server's row: inside it is reached by its URL, or else by its address. -/
def serverRow (port : String) (r : ServerRecord) : List String :=
  [port, r.ref, r.address, orDash r.url, r.properties.internalUrl.getD r.properties.internalAddress]

def runServers (s : Screen) (agent : Agent.Client) (format : Format) (id : String)
    (servers : List String) : Run Unit := do
  let confs ← match servers.mapM parseServer with
    | .ok confs => pure confs
    | .error fault => throw (.server fault)
  let runtime ← call (agent.runtime id confs)
  match format with
  | .json => showJson runtimeOrder runtime.toJson
  | .table =>
    let found := runtime.servers.entries
    if found.isEmpty then warn s "No servers: the container has no bound ports"
    else
      let header := ["Port", "Ref", "Address", "URL", "Internal"]
      Run.print (Table.render header (found.map fun e => serverRow e.1 e.2))
      Run.print s!"\nTotal: {found.length} servers"

def runRemove (s : Screen) (agent : Agent.Client) (format : Format) (id : String)
    (force volumes : Bool) : Run Unit := do
  call (agent.remove id force volumes)
  match format with
  | .json => showJson .sorted (.object [("id", .text id), ("removed", .bool true)])
  | .table => succeed s ("Container " ++ shortId id ++ " removed")

def runFiles (s : Screen) (agent : Agent.Client) (format : Format) (workspace : String)
    (clear : Bool) : Run Unit := do
  call (if clear then agent.clearFiles workspace else agent.makeFiles workspace)
  let done := if clear then "cleared" else "created"
  match format with
  | .json =>
    showJson .sorted (.object [("files", .text done), ("workspace", .text workspace)])
  | .table => succeed s ("Project files of " ++ workspace ++ " " ++ done)

/-- Runs a command by the agent that it names. -/
def Invocation.run (i : Invocation) (s : Screen) : Run Unit := do
  let agent ← match Agent.Client.ofUrl i.apiUrl with
    | .ok agent => pure agent
    | .error fault => throw (.agent fault)
  match i.command with
  | .create what => runCreate s agent i.format what
  | .inspect id => runInspect s agent i.format id
  | .servers id servers => runServers s agent i.format id servers
  | .remove id force volumes => runRemove s agent i.format id force volumes
  | .files workspace clear => runFiles s agent i.format workspace clear

end ContainerBridge.Cli
