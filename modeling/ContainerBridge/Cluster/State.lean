import ContainerBridge.Cluster.Request
import ContainerBridge.Cluster.Resource
import ContainerBridge.Error

/-! A cluster kept in memory. It carries out rollouts, one step for every listing of pods, and job
pods, whose phases follow a script. -/

namespace ContainerBridge.Cluster

/-- How deployments roll out: for some listings there is only the deployer pod, then the pod with
its container. -/
structure Rollout where
  containerId : String
  deployerPolls : Nat
  deriving DecidableEq, Repr

/-- The phase that a job pod ends in, and how often its phase is read as `Running` before. -/
structure JobScript where
  runningReads : Nat
  finalPhase : String
  deriving DecidableEq, Repr

structure State where
  projects : OrderedSet String := .empty
  services : OrderedMap Key Service := .empty
  deployments : OrderedMap Key Deployment := .empty
  replicationControllers : OrderedSet Key := .empty
  pods : OrderedMap Key Pod := .empty
  routes : OrderedMap Key Route := .empty
  jobs : OrderedMap Key JobPod := .empty
  /-- How often the phase of each job pod was read. -/
  jobReads : OrderedMap Key Nat := .empty
  /-- Without a script job pods run forever. -/
  jobScript : Option JobScript := none
  /-- Without a rollout deployments never get a pod. -/
  rollout : Option Rollout := none
  /-- The deployments without their pod, and the listings since each was created. -/
  pending : OrderedMap Key Nat := .empty
  nextNodePort : UInt16 := 32100
  /-- Makes every listing of pods fail. -/
  listingFailure : Option String := none
  /-- The calls that change something, as `method:name`. -/
  calls : List String := []
  deriving DecidableEq

namespace State

def record (s : State) (method name : String) : State :=
  { s with calls := s.calls ++ [method ++ ":" ++ name] }

/-- The ports with node ports from `next` on, and the node port after them. Past 65535 the counter
starts again at zero; a build that checks for overflow stops there instead. -/
def assignNodePorts : UInt16 → List ServicePort → List ServicePort × UInt16
  | next, [] => ([], next)
  | next, p :: rest =>
    let (ports, last) := assignNodePorts (next + 1) rest
    ({ p with nodePort := some next } :: ports, last)

def createService (s : State) (service : Service) : Except ClusterFailure Unit × State :=
  if s.services.contains service.key then
    (.error (.api 409 ("service " ++ service.name ++ " exists")), s)
  else
    let (ports, next) := assignNodePorts s.nextNodePort service.ports
    (.ok (), { s.record "create_service" service.name with
      services := s.services.insert service.key { service with ports := ports }
      nextNodePort := next })

def listServices (s : State) (project : String) : List Service :=
  s.services.values.filter (·.project = project)

def deleteService (s : State) (project name : String) : Bool × State :=
  (s.services.contains ⟨project, name⟩,
    { s.record "delete_service" name with services := s.services.erase ⟨project, name⟩ })

def createDeployment (s : State) (d : Deployment) : State :=
  { s.record "create_deployment" d.name with
    deployments := s.deployments.insert d.key d
    pending := if s.rollout.isSome then s.pending.insert d.key 0 else s.pending }

def deleteDeployment (s : State) (project name : String) : Bool × State :=
  (s.deployments.contains ⟨project, name⟩,
    { s.record "delete_deployment" name with deployments := s.deployments.erase ⟨project, name⟩ })

def deleteReplicationController (s : State) (project name : String) : Bool × State :=
  (s.replicationControllers.contains ⟨project, name⟩,
    { s.record "delete_replication_controller" name with
      replicationControllers := s.replicationControllers.erase ⟨project, name⟩ })

/-- The names that a rollout of a deployment uses. -/
def controllerName (deployment : String) : String := deployment ++ "-1"

def deployerName (deployment : String) : String := controllerName deployment ++ "-deploy"

def podName (deployment : String) : String := controllerName deployment ++ "-x7k2p"

/-- The pod that rolls the deployment out. -/
def deployerPod (k : Key) : Pod where
  project := k.project
  name := deployerName k.name
  labels := .singleton deployerLabel (controllerName k.name)

/-- The pod that the deployment rolls out. -/
def rolledOutPod (r : Rollout) (k : Key) : Pod where
  project := k.project
  name := podName k.name
  labels := .ofList [(deploymentLabel, k.name), (controllerLabel, controllerName k.name)]
  containerIds := [r.containerId]
  phase := some "Running"

/-- One more listing in the rollout of a deployment. -/
def advance (r : Rollout) (s : State) (k : Key) : State :=
  let polls := (s.pending.get? k).getD 0 + 1
  if polls ≤ r.deployerPolls then
    { s with
      pending := s.pending.insert k polls
      pods := s.pods.insert (deployerPod k).key (deployerPod k) }
  else
    { s with
      pending := s.pending.erase k
      replicationControllers := s.replicationControllers.add ⟨k.project, controllerName k.name⟩
      pods := (s.pods.erase (deployerPod k).key).insert (rolledOutPod r k).key (rolledOutPod r k) }

/-- One more listing in every rollout. -/
def tick (s : State) : State :=
  match s.rollout with
  | none => s
  | some r => s.pending.keys.foldl (advance r) s

/-- The pods of a project that carry all labels of the selector. -/
def podsOf (s : State) (project : String) (selector : Selector) : List Pod :=
  s.pods.values.filter fun p => p.project = project && selector.selects p.labels

def listPods (s : State) (project : String) (selector : Selector) :
    Except ClusterFailure (List Pod) × State :=
  match s.listingFailure with
  | some message => (.error (.api 500 message), s)
  | none => (.ok (s.tick.podsOf project selector), s.tick)

def labelPod (s : State) (project name key value : String) : Except ClusterFailure Unit × State :=
  let s := s.record "label_pod" name
  match s.pods.get? ⟨project, name⟩ with
  | none => (.error (.api 404 ("pod " ++ name ++ " not found")), s)
  | some pod =>
    (.ok (), { s with
      pods := s.pods.insert ⟨project, name⟩ { pod with labels := pod.labels.insert key value } })

/-- A pod and a job pod of one name go together. -/
def deletePod (s : State) (project name : String) : Bool × State :=
  (s.pods.contains ⟨project, name⟩ || s.jobs.contains ⟨project, name⟩,
    { s.record "delete_pod" name with
      pods := s.pods.erase ⟨project, name⟩
      jobs := s.jobs.erase ⟨project, name⟩ })

def createJobPod (s : State) (pod : JobPod) : Except ClusterFailure Unit × State :=
  let s := s.record "create_job_pod" pod.name
  if s.jobs.contains pod.key then
    (.error (.api 409 ("pod " ++ pod.name ++ " already exists")), s)
  else
    (.ok (), { s with jobs := s.jobs.insert pod.key pod, jobReads := s.jobReads.insert pod.key 0 })

/-- The phase of a job pod whose phase was read `reads` times. -/
def jobPhase (script : Option JobScript) (reads : Nat) : String :=
  match script with
  | some j => if j.runningReads < reads then j.finalPhase else "Running"
  | none => "Running"

def podPhase (s : State) (project name : String) : Option String × State :=
  match s.pods.get? ⟨project, name⟩ with
  | some pod => (some (pod.phase.getD ""), s)
  | none =>
    if s.jobs.contains ⟨project, name⟩ then
      let reads := (s.jobReads.get? ⟨project, name⟩).getD 0 + 1
      (some (jobPhase s.jobScript reads),
        { s with jobReads := s.jobReads.insert ⟨project, name⟩ reads })
    else (none, s)

def createRoute (s : State) (route : Route) : State :=
  { s.record "create_route" route.name with routes := s.routes.insert route.key route }

/-- Whether a stored route is of the project and carries all labels of the selector. -/
def isSelected (project : String) (selector : Selector) (k : Key) (r : Route) : Bool :=
  k.project = project && selector.selects r.labels

def deleteRoutes (s : State) (project : String) (selector : Selector) : Nat × State :=
  let doomed := (s.routes.filter (isSelected project selector)).size
  (doomed, { s.record "delete_routes" (toString doomed) with
    routes := s.routes.filter fun k r => !isSelected project selector k r })

/-- The cluster's reply to a call, and the cluster after it. -/
def answer : (q : Request) → State → Except ClusterFailure q.Answer × State
  | .projectExists project, s => (.ok (s.projects.contains project), s)
  | .createService service, s => s.createService service
  | .listServices project, s => (.ok (s.listServices project), s)
  | .deleteService project name, s => let (b, s) := s.deleteService project name; (.ok b, s)
  | .createDeployment d, s => (.ok (), s.createDeployment d)
  | .deleteDeployment project name, s => let (b, s) := s.deleteDeployment project name; (.ok b, s)
  | .deleteReplicationController project name, s =>
    let (b, s) := s.deleteReplicationController project name
    (.ok b, s)
  | .listPods project selector, s => s.listPods project selector
  | .labelPod project name key value, s => s.labelPod project name key value
  | .deletePod project name, s => let (b, s) := s.deletePod project name; (.ok b, s)
  | .createJobPod pod, s => s.createJobPod pod
  | .podPhase project name, s => let (p, s) := s.podPhase project name; (.ok p, s)
  | .createRoute route, s => (.ok (), s.createRoute route)
  | .deleteRoutes project selector, s => let (n, s) := s.deleteRoutes project selector; (.ok n, s)

end State
end ContainerBridge.Cluster
