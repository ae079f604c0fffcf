import ContainerBridge.Container.Info
import ContainerBridge.Server.Address
import ContainerBridge.Workspace.Env

/-! What a running container reports: its properties, its environment and its servers. -/

namespace ContainerBridge.ContainerInfo

/-- The network as the engine describes it. -/
def network (i : ContainerInfo) (fallbackHost : Option String) : ObservedNetwork where
  gateway := i.networkSettings.gateway
  containerAddress := i.networkSettings.ipAddress
  ports := i.networkSettings.ports.mapValues fun _ bindings => bindings.getD []
  labels := (i.config.labels.map Label.serverLabels).getD .empty
  fallbackHost := fallbackHost

/-- A binding as `ip:port`, or as its port alone. -/
def bindingText (b : PortBinding) : String :=
  match ObservedNetwork.nonEmpty b.hostIp with
  | some ip => ip ++ ":" ++ b.hostPort
  | none => b.hostPort

/-- A port and its bindings, as `token->binding|binding`. -/
def portText (token : String) (bindings : Option (List PortBinding)) : String :=
  token ++ "->" ++ Text.joinWith "|" ((bindings.getD []).map bindingText)

def boolText (b : Bool) : String := if b then "true" else "false"

/-- Every property that the container may have. -/
def allProperties (i : ContainerInfo) : List (String × Option String) :=
  let commas := Text.joinWith ","
  [("id", some i.id), ("created", i.created), ("image", i.image), ("name", i.name),
    ("config.hostname", i.config.hostname), ("config.image", i.config.image),
    ("config.user", i.config.user), ("config.workingDir", i.config.workingDir),
    ("config.env", i.config.env.map commas),
    ("config.exposedPorts", i.config.exposedPorts.map fun m => commas m.keys),
    ("config.labels", i.config.labels.map fun m =>
      commas (m.entries.map fun e => e.1 ++ "=" ++ e.2)),
    ("state.status", i.state.status), ("state.running", some (boolText i.state.running)),
    ("state.pid", some (toString i.state.pid)),
    ("state.exitCode", some (toString i.state.exitCode)),
    ("state.startedAt", i.state.startedAt), ("state.finishedAt", i.state.finishedAt),
    ("network.gateway", i.networkSettings.gateway),
    ("network.ipAddress", i.networkSettings.ipAddress),
    ("network.macAddress", i.networkSettings.macAddress),
    ("network.ports",
      some (commas (i.networkSettings.ports.entries.map fun e => portText e.1 e.2))),
    ("hostConfig.networkMode", i.hostConfig.networkMode),
    ("hostConfig.privileged", some (boolText i.hostConfig.privileged)),
    ("hostConfig.memory", some (toString i.hostConfig.memory)),
    ("hostConfig.binds", i.hostConfig.binds.map commas)]

/-- The properties that the container has; an empty one counts as absent. -/
def properties (i : ContainerInfo) : OrderedMap String String :=
  .ofList (i.allProperties.filterMap fun e => (ObservedNetwork.nonEmpty e.2).map (e.1, ·))

/-- The report on a container whose servers are found by the strategy. -/
def runtime (i : ContainerInfo) (s : AddressStrategy) (confs : ServerConfs)
    (fallbackHost : Option String) : RuntimeInfo where
  properties := i.properties
  env := (i.config.env.map EnvVar.mapOf).getD .empty
  servers := s.resolve (i.network fallbackHost) confs

end ContainerBridge.ContainerInfo
