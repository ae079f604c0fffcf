import ContainerBridge.Lifecycle.Discovery
import ContainerBridge.Lifecycle.Plan

/-! Removing the container of a workspace with everything that was created for it. The pod, by which
all else is found, goes last. -/

namespace ContainerBridge.Lifecycle

open Cluster

/-- Logs that there was nothing to remove. -/
def reportGone (s : Settings) (kind : ResourceKind) (name : String) (removed : Bool) :
    Operation Unit :=
  if removed then return () else Operation.log (.resourceAlreadyGone s.project kind name)

def removeService (s : Settings) (deployment : String) : Operation Unit := do
  match ← owningService s.project deployment with
  | some service =>
    reportGone s .service service.name (← Operation.cluster (.deleteService s.project service.name))
  | none => reportGone s .service deployment false

def removeRoutes (s : Settings) (deployment : String) : Operation Unit :=
  if s.routes.enabled then do
    let _ ← Operation.cluster (.deleteRoutes s.project (deploymentSelector deployment))
  else return ()

/-- Removes the replication controller that the pod names. -/
def removeController (s : Settings) (pod : Pod) (deployment : String) : Operation Unit := do
  match pod.labels.get? controllerLabel with
  | some name =>
    reportGone s .replicationController name
      (← Operation.cluster (.deleteReplicationController s.project name))
  | none => reportGone s .replicationController deployment false

def tearDown (s : Settings) (containerId : String) : Operation Unit := do
  let pod ← owningPod s.project containerId
  let deployment ← deploymentOf pod
  removeService s deployment
  removeRoutes s deployment
  reportGone s .deploymentConfig deployment
    (← Operation.cluster (.deleteDeployment s.project deployment))
  removeController s pod deployment
  reportGone s .pod pod.name (← Operation.cluster (.deletePod s.project pod.name))
  Operation.log (.containerRemoved s.project containerId deployment)

/-- Removes a container, and counts the removal or its failure. -/
def remove (s : Settings) (containerId : String) : Operation Unit :=
  Operation.concluding (tearDown s containerId) (Task.measure .containerRemoved)
    fun e => Task.measure (.failure .remove e.kind)

end ContainerBridge.Lifecycle
