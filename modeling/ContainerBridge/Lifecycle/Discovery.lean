import ContainerBridge.Action
import ContainerBridge.Cluster.Resource
import ContainerBridge.Lifecycle.Settings

/-! Finding the container of a deployment, and the pod of a container. -/

namespace ContainerBridge.Lifecycle
open Cluster

/-- The first twelve characters of a container id, which fit a label. -/
def shortId (id : String) : String := Text.takeChars 12 id

/-- A container id without the scheme of its runtime. -/
def stripRuntimeScheme (raw : String) : String :=
  match Text.cutAt [':', '/', '/'] raw.toList with
  | some (_, id) => String.ofList id
  | none => raw

/-- A container, and the pod that it was found in. -/
structure Discovered where
  pod : String
  containerId : String
  deriving DecidableEq, Repr

/-- The pod and id of the deployment's container, once no deployer is at work and the deployment's
first pod reports an id. -/
def findContainer (pods : List Pod) (deployment : String) : Option Discovered :=
  if pods.any fun p => p.labels.contains deployerLabel then none
  else do
    let pod ← pods.find? fun p => p.labels.get? deploymentLabel = some deployment
    let raw ← pod.containerIds.head?
    let id := stripRuntimeScheme raw
    if id = "" then none else some ⟨pod.name, id⟩

/-- One attempt at discovery, which labels the pod that it finds. -/
def probe (project deployment : String) : Task (Except ClusterFailure (Option Discovered)) := do
  match ← Task.cluster (.listPods project .empty) with
  | .error e => return .error e
  | .ok pods => match findContainer pods deployment with
    | none => return .ok none
    | some d =>
      match ← Task.cluster (.labelPod project d.pod identityLabel (shortId d.containerId)) with
      | .error e => return .error e
      | .ok () => return .ok (some d)

/-- Waits for the container of a deployment. -/
def discover (s : Settings) (deployment : String) : Operation Discovered := do
  let outcome ← ExceptT.lift <|
    s.discovery.poll (Task.wait s.discovery.interval) (probe s.project deployment)
  match outcome with
  | .ok polled =>
    Operation.measure (.discoveryAttempts polled.attempts)
    Operation.log (.containerDiscovered s.project deployment polled.value.pod
      polled.value.containerId polled.attempts)
    return polled.value
  | .error (.exhausted attempts waited) =>
    Operation.log (.discoveryTimeout s.project deployment attempts waited)
    throw (.discoveryTimeout deployment attempts waited)
  | .error (.cancelled attempts) =>
    throw (.cancelled s!"discovery of {deployment} cancelled after {attempts} attempts")
  | .error (.failed e) => throw (.cluster e)

/-- The selector of the pods that carry a container's identity. -/
def identitySelector (containerId : String) : Selector :=
  .singleton identityLabel (shortId containerId)

/-- The only pod that carries the container's identity. -/
def owningPod (project containerId : String) : Operation Pod := do
  let selector := identitySelector containerId
  match ← Operation.cluster (.listPods project selector) with
  | [pod] => return pod
  | pods => throw (.ambiguousDiscovery selector.text pods.length)

/-- The deployment that a pod belongs to. -/
def deploymentOf (pod : Pod) : Except BridgeError String :=
  match pod.labels.get? deploymentLabel with
  | some d => .ok d
  | none => .error (.resourceNotFound .deploymentConfig
      ("label " ++ deploymentLabel ++ " on pod " ++ pod.name))

/-- The first service that selects the deployment's pods. -/
def owningService (project deployment : String) : Operation (Option Service) := do
  let services ← Operation.cluster (.listServices project)
  return services.find? fun s => s.selector.get? deploymentLabel = some deployment

end ContainerBridge.Lifecycle
