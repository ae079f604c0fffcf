import ContainerBridge.Cluster.Resource

/-! Calls to the cluster. A delete answers whether there was something to delete. -/

namespace ContainerBridge.Cluster

inductive Request where
  | projectExists (project : String)
  | createService (service : Service)
  | listServices (project : String)
  | deleteService (project name : String)
  | createDeployment (deployment : Deployment)
  | deleteDeployment (project name : String)
  | deleteReplicationController (project name : String)
  /-- The pods that carry all labels of the selector. -/
  | listPods (project : String) (selector : Selector)
  | labelPod (project name key value : String)
  | deletePod (project name : String)
  | createJobPod (pod : JobPod)
  /-- The phase of a pod, empty before there is one; no answer once the pod is gone. -/
  | podPhase (project name : String)
  | createRoute (route : Route)
  /-- Deletes the routes that carry all labels of the selector, and counts them. -/
  | deleteRoutes (project : String) (selector : Selector)
  deriving DecidableEq

namespace Request

/-- What a successful call answers. -/
@[reducible] def Answer : Request → Type
  | projectExists _ | deleteService _ _ | deleteDeployment _ _ | deleteReplicationController _ _
  | deletePod _ _ => Bool
  | createService _ | createDeployment _ | labelPod _ _ _ _ | createJobPod _ | createRoute _ => Unit
  | listServices _ => List Service
  | listPods _ _ => List Pod
  | podPhase _ _ => Option String
  | deleteRoutes _ _ => Nat

/-- The name of the call. -/
def method : Request → String
  | projectExists _ => "project_exists"
  | createService _ => "create_service"
  | listServices _ => "list_services"
  | deleteService _ _ => "delete_service"
  | createDeployment _ => "create_deployment"
  | deleteDeployment _ _ => "delete_deployment"
  | deleteReplicationController _ _ => "delete_replication_controller"
  | listPods _ _ => "list_pods"
  | labelPod _ _ _ _ => "label_pod"
  | deletePod _ _ => "delete_pod"
  | createJobPod _ => "create_job_pod"
  | podPhase _ _ => "pod_phase"
  | createRoute _ => "create_route"
  | deleteRoutes _ _ => "delete_routes"

end Request
end ContainerBridge.Cluster
