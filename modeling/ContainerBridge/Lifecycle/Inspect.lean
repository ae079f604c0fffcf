import ContainerBridge.Container.Runtime
import ContainerBridge.Lifecycle.Discovery

/-! Inspecting the container of a workspace: what the engine knows of it, with the labels and ports
that the cluster holds. -/

namespace ContainerBridge.Lifecycle

open Cluster

/-- The server labels that the annotations carry; labels of the container itself go before them. -/
def clusterLabels (annotations : OrderedMap String String)
    (native : Option (OrderedMap String String)) : OrderedMap String String :=
  Label.serverLabels ((Label.decode annotations).insertAll ((native.map (·.entries)).getD []))

def bindingsOf (nodeAddress : String) (p : ServicePort) : Option (List PortBinding) :=
  p.nodePort.map fun n => [⟨some nodeAddress, toString n⟩]

/-- The token by which a service port is reported. -/
def reportedToken (p : ServicePort) : String :=
  toString p.targetPort ++ "/" ++ Text.lower p.protocol

/-- The ports of a service, bound to the node's address. -/
def clusterPorts (nodeAddress : String) (ports : List ServicePort) :
    OrderedMap String (Option (List PortBinding)) :=
  .ofList (ports.map fun p => (reportedToken p, bindingsOf nodeAddress p))

/-- The engine's description with the labels and ports of the service. -/
def withService (s : Settings) (info : ContainerInfo) (service : Service) : ContainerInfo :=
  { info with
    config := { info.config with
      labels := some (clusterLabels service.annotations info.config.labels) }
    networkSettings := { info.networkSettings with
      ports := clusterPorts s.nodeAddress service.ports } }

def inspectContainer (s : Settings) (containerId : String) : Operation ContainerInfo := do
  match ← Operation.engine (.inspectContainer containerId) with
  | none => throw (.resourceNotFound .container containerId)
  | some info =>
    let deployment ← deploymentOf (← owningPod s.project info.id)
    match ← owningService s.project deployment with
    | none => throw (.resourceNotFound .service deployment)
    | some service => return withService s info service

/-- The report on a container, with the servers of a request after those of the configuration. -/
def inspect (s : Settings) (containerId : String) (servers : List ServerConf) :
    Operation RuntimeInfo := do
  let info ← Operation.concluding (inspectContainer s containerId)
    (Task.measure .containerInspected) fun e => Task.measure (.failure .inspect e.kind)
  return info.runtime s.strategy (ServerConf.normalize (s.systemServers ++ servers))
    (some s.nodeAddress)

end ContainerBridge.Lifecycle
