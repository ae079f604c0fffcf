import ContainerBridge.Port

/-! Containers, as the engine describes them. -/

namespace ContainerBridge
open Json

structure ContainerConfig where
  hostname : Option String := none
  image : Option String := none
  workingDir : Option String := none
  user : Option String := none
  env : Option (List String) := none
  labels : Option (OrderedMap String String) := none
  exposedPorts : Option (OrderedMap String OrderedValue) := none

structure ContainerState where
  status : Option String := none
  running : Bool := false
  pid : Int64 := 0
  exitCode : Int64 := 0
  startedAt : Option String := none
  finishedAt : Option String := none

structure NetworkSettings where
  ipAddress : Option String := none
  gateway : Option String := none
  macAddress : Option String := none
  /-- The bindings of each port token; an unbound port may have none at all. -/
  ports : OrderedMap String (Option (List PortBinding)) := .empty

structure HostConfig where
  networkMode : Option String := none
  privileged : Bool := false
  memory : Int64 := 0
  binds : Option (List String) := none

structure ContainerInfo where
  id : String
  created : Option String := none
  name : Option String := none
  image : Option String := none
  config : ContainerConfig := {}
  state : ContainerState := {}
  networkSettings : NetworkSettings := {}
  hostConfig : HostConfig := {}

namespace ContainerConfig

def toJson (c : ContainerConfig) : Value :=
  .ofMembers [("Hostname", c.hostname.map .text), ("Image", c.image.map .text),
    ("WorkingDir", c.workingDir.map .text), ("User", c.user.map .text),
    ("Env", some (.orNull (c.env.map .texts))),
    ("Labels", some (.orNull (c.labels.map .textMap))),
    ("ExposedPorts", some (.orNull (c.exposedPorts.map .orderedMap)))]

def decoder : Decoder ContainerConfig := Record.decoder <|
  ContainerConfig.mk <$> .maybe "Hostname" .text <*> .maybe "Image" .text
    <*> .maybe "WorkingDir" .text <*> .maybe "User" .text <*> .maybe "Env" (.list .text)
    <*> .maybe "Labels" (.object .text) <*> .maybe "ExposedPorts" (.object .orderedValue)

end ContainerConfig

namespace ContainerState

def toJson (s : ContainerState) : Value :=
  .ofMembers [("Status", s.status.map .text), ("Running", some (.bool s.running)),
    ("Pid", some (.int s.pid.toInt)), ("ExitCode", some (.int s.exitCode.toInt)),
    ("StartedAt", s.startedAt.map .text), ("FinishedAt", s.finishedAt.map .text)]

def decoder : Decoder ContainerState := Record.decoder <|
  ContainerState.mk <$> .maybe "Status" .text <*> .optional "Running" false .bool
    <*> .optional "Pid" 0 .int64 <*> .optional "ExitCode" 0 .int64 <*> .maybe "StartedAt" .text
    <*> .maybe "FinishedAt" .text

end ContainerState

namespace NetworkSettings

def toJson (n : NetworkSettings) : Value :=
  .ofMembers [("IPAddress", n.ipAddress.map .text), ("Gateway", n.gateway.map .text),
    ("MacAddress", n.macAddress.map .text),
    ("Ports", some (.ofMap (n.ports.mapValues fun _ bs =>
      .orNull (bs.map fun bs => .array (bs.map PortBinding.toJson)))))]

def decoder : Decoder NetworkSettings := Record.decoder <|
  NetworkSettings.mk <$> .maybe "IPAddress" .text <*> .maybe "Gateway" .text
    <*> .maybe "MacAddress" .text
    <*> .optional "Ports" .empty (.nullAs .empty (.object (.nullable (.list PortBinding.decoder))))

end NetworkSettings

namespace HostConfig

def toJson (h : HostConfig) : Value :=
  .ofMembers [("NetworkMode", h.networkMode.map .text), ("Privileged", some (.bool h.privileged)),
    ("Memory", some (.int h.memory.toInt)), ("Binds", some (.orNull (h.binds.map .texts)))]

def decoder : Decoder HostConfig := Record.decoder <|
  HostConfig.mk <$> .maybe "NetworkMode" .text <*> .optional "Privileged" false .bool
    <*> .optional "Memory" 0 .int64 <*> .maybe "Binds" (.list .text)

end HostConfig

namespace ContainerInfo

def toJson (i : ContainerInfo) : Value :=
  .ofMembers [("Id", some (.text i.id)), ("Created", some (.orNull (i.created.map .text))),
    ("Name", some (.orNull (i.name.map .text))), ("Image", some (.orNull (i.image.map .text))),
    ("Config", some i.config.toJson), ("State", some i.state.toJson),
    ("NetworkSettings", some i.networkSettings.toJson), ("HostConfig", some i.hostConfig.toJson)]

/-- A section that is absent or `null` is empty. -/
def decoder : Decoder ContainerInfo := Record.decoder <|
  ContainerInfo.mk <$> .required "Id" .text <*> .maybe "Created" .text <*> .maybe "Name" .text
    <*> .maybe "Image" .text <*> .optional "Config" {} (.nullAs {} ContainerConfig.decoder)
    <*> .optional "State" {} (.nullAs {} ContainerState.decoder)
    <*> .optional "NetworkSettings" {} (.nullAs {} NetworkSettings.decoder)
    <*> .optional "HostConfig" {} (.nullAs {} HostConfig.decoder)

end ContainerInfo
end ContainerBridge
