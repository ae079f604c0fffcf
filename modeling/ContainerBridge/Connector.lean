import ContainerBridge.Lifecycle.Create
import ContainerBridge.Lifecycle.Files
import ContainerBridge.Lifecycle.Inspect
import ContainerBridge.Lifecycle.Remove
import ContainerBridge.Url.Basic

/-! Connectors, which carry out requests for containers: on the cluster, or on the engine alone. -/

namespace ContainerBridge

/-- What passing requests on to the engine needs to know of the configuration. -/
structure EngineSettings where
  strategy : AddressStrategy
  systemServers : List ServerConf
  /-- The engine's own host. -/
  fallbackHost : Option String
  deriving DecidableEq

def EngineSettings.ofConfig (c : BridgeConfig) : EngineSettings where
  strategy := Lifecycle.strategyOf c
  systemServers := c.servers
  fallbackHost := match Url.parse c.engine.url with
    | .ok url => url.hostText
    | .error _ => none

inductive Connector where
  | engine (s : EngineSettings)
  | cluster (s : Lifecycle.Settings)
  deriving DecidableEq

namespace Connector

def engineName : String := "default"

def clusterName : String := "openshift"

def name : Connector → String
  | engine _ => engineName
  | cluster _ => clusterName

def create (spec : ContainerSpec) : Connector → Operation ContainerCreated
  | engine _ => Operation.engine (.createContainer spec)
  | cluster s => Lifecycle.create s spec

/-- The engine's description of a container. -/
def engineContainer (id : String) : Operation ContainerInfo := do
  match ← Operation.engine (.inspectContainer id) with
  | some info => return info
  | none => throw (.resourceNotFound .container id)

def inspectContainer (id : String) : Connector → Operation ContainerInfo
  | engine _ => engineContainer id
  | cluster s => Lifecycle.inspectContainer s id

def inspect (id : String) (servers : List ServerConf) : Connector → Operation RuntimeInfo
  | engine s => do
    let info ← engineContainer id
    let confs := ServerConf.normalize (s.systemServers ++ servers)
    return info.runtime s.strategy confs s.fallbackHost
  | cluster s => Lifecycle.inspect s id servers

/-- Removes a container from the engine. -/
def removeContainer (id : String) (force volumes : Bool) : Operation Unit := do
  let removed : Bool ← Operation.engine (.removeContainer id force volumes)
  if removed then return () else throw (.resourceNotFound .container id)

/-- On the cluster the flags make no difference. -/
def remove (id : String) (force volumes : Bool) : Connector → Operation Unit
  | engine _ => removeContainer id force volumes
  | cluster s => Lifecycle.remove s id

/-- Only the cluster holds the directories of workspaces. -/
def files (command : Workspace.FilesCommand) (workspace : String) : Connector → Operation Unit
  | engine _ => throw (.configuration
      s!"connector '{engineName}' cannot {command.name} files of workspace {workspace}")
  | cluster s => Lifecycle.runFiles s command workspace

/-- The connectors that can be built. -/
inductive Kind where
  | engine
  | cluster
  deriving DecidableEq, Repr

/-- Builds a connector; that for the cluster needs a client of it. -/
def Kind.build (c : BridgeConfig) (hasClient : Bool) : Kind → Except BridgeError Connector
  | engine => .ok (.engine (.ofConfig c))
  | cluster =>
    if hasClient then .ok (.cluster (.ofConfig c))
    else .error (.configuration s!"connector '{clusterName}' requires a platform client")

/-- The connectors that can be built, by name. -/
abbrev Registry := OrderedMap String Kind

namespace Registry

def standard : Registry := .ofList [(engineName, .engine), (clusterName, .cluster)]

/-- What the name stands for, or else what the default stands for. -/
def find (r : Registry) (name : String) : Except BridgeError Kind :=
  match (r.get? name).or (r.get? engineName) with
  | some k => .ok k
  | none => .error (.configuration s!"unknown connector '{name}' and no default registered")

/-- Adds a name for what `target` stands for among the standard connectors. -/
def withAlias (r : Registry) (name target : String) : Registry :=
  match standard.find target with
  | .ok k => r.insert name k
  | .error _ => r

def build (r : Registry) (name : String) (c : BridgeConfig) (hasClient : Bool) :
    Except BridgeError Connector := do
  (← r.find name).build c hasClient

end Registry
end Connector
end ContainerBridge
