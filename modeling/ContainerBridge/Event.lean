import ContainerBridge.Duration
import ContainerBridge.Error
import ContainerBridge.Json.Value

/-! Milestones of workspaces, as they are logged, and what is counted of them. -/

namespace ContainerBridge

inductive Event where
  | createRequested (project workspaceId image : String) (exposedPorts : Nat)
  | serviceCreated (project workspaceId service : String)
  | deploymentCreated (project workspaceId deployment : String)
  | containerDiscovered (project deployment pod containerId : String) (attempts : Nat)
  | discoveryTimeout (project deployment : String) (attempts : Nat) (waited : Duration)
  | containerRemoved (project containerId deployment : String)
  | resourceAlreadyGone (project : String) (kind : ResourceKind) (name : String)
  | filesJobStarted (project workspace pod command : String)
  | filesJobFinished (project pod phase : String) (attempts : Nat)
  deriving DecidableEq

namespace Event
open Json

def name : Event → String
  | createRequested .. => "container_create_requested"
  | serviceCreated .. => "service_created"
  | deploymentCreated .. => "deployment_created"
  | containerDiscovered .. => "container_discovered"
  | discoveryTimeout .. => "discovery_timeout"
  | containerRemoved .. => "container_removed"
  | resourceAlreadyGone .. => "resource_already_gone"
  | filesJobStarted .. => "files_job_started"
  | filesJobFinished .. => "files_job_finished"

def level : Event → String
  | discoveryTimeout .. | resourceAlreadyGone .. => "WARN"
  | filesJobFinished _ _ phase _ => if phase = "Succeeded" then "INFO" else "ERROR"
  | _ => "INFO"

def message : Event → String
  | createRequested .. => "Workspace container requested"
  | serviceCreated .. => "Workspace service created"
  | deploymentCreated .. => "Workspace deployment created"
  | containerDiscovered .. => "Workspace container discovered"
  | discoveryTimeout .. => "Workspace container did not materialize"
  | containerRemoved .. => "Workspace resources removed"
  | resourceAlreadyGone .. => "Resource not found during removal"
  | filesJobStarted .. => "Workspace files job started"
  | filesJobFinished _ _ phase _ =>
    if phase = "Succeeded" then "Workspace files job finished" else "Workspace files job failed"

/-- What the event says beside its name. -/
def details : Event → List (String × Value)
  | createRequested project workspaceId image exposedPorts =>
    [("namespace", .text project), ("workspace_id", .text workspaceId), ("image", .text image),
      ("exposed_ports", .nat exposedPorts)]
  | serviceCreated project workspaceId service =>
    [("namespace", .text project), ("workspace_id", .text workspaceId), ("service", .text service)]
  | deploymentCreated project workspaceId deployment =>
    [("namespace", .text project), ("workspace_id", .text workspaceId),
      ("deployment", .text deployment)]
  | containerDiscovered project deployment pod containerId attempts =>
    [("namespace", .text project), ("deployment", .text deployment), ("pod", .text pod),
      ("container_id", .text containerId), ("attempts", .nat attempts)]
  | discoveryTimeout project deployment attempts waited =>
    [("namespace", .text project), ("deployment", .text deployment), ("attempts", .nat attempts),
      ("waited_secs", .nat waited.wholeSeconds)]
  | containerRemoved project containerId deployment =>
    [("namespace", .text project), ("container_id", .text containerId),
      ("deployment", .text deployment)]
  | resourceAlreadyGone project kind name =>
    [("namespace", .text project), ("kind", .text kind.name), ("name", .text name)]
  | filesJobStarted project workspace pod command =>
    [("namespace", .text project), ("workspace", .text workspace), ("pod", .text pod),
      ("command", .text command)]
  | filesJobFinished project pod phase attempts =>
    [("namespace", .text project), ("pod", .text pod), ("phase", .text phase),
      ("attempts", .nat attempts)]

def toJson (e : Event) : Value :=
  .ofMap (.ofList (("event", .text e.name) :: ("level", .text e.level)
    :: ("message", .text e.message) :: e.details))

end Event

/-- The operations whose failures are counted. -/
inductive OperationName where
  | create
  | inspect
  | remove
  deriving DecidableEq, Repr

def OperationName.text : OperationName → String
  | .create => "create"
  | .inspect => "inspect"
  | .remove => "remove"

/-- One count or observation. -/
inductive Measure where
  | containerCreated
  | containerRemoved
  | containerInspected
  | failure (operation : OperationName) (kind : String)
  | createLatency
  | discoveryAttempts (n : Nat)
  deriving DecidableEq, Repr

namespace Measure

/-- The bounds of the buckets that count discovery attempts. -/
def attemptBounds : List Nat := [1, 2, 5, 10, 20, 40, 60, 90, 120]

/-- By how much a measure lets each counter grow. -/
def growth : Measure → List (String × Nat)
  | containerCreated => [("containers_created_total", 1)]
  | containerRemoved => [("containers_removed_total", 1)]
  | containerInspected => [("container_inspections_total", 1)]
  | failure operation kind => [("operation_failures_total/" ++ operation.text ++ "/" ++ kind, 1)]
  | createLatency => [("create_latency_seconds_count", 1)]
  | discoveryAttempts n =>
    ("discovery_attempts_count", 1) :: ("discovery_attempts_sum", n)
      :: (attemptBounds.filter (n ≤ ·)).map fun b => (s!"discovery_attempts_le_{b}", 1)

/-- By how much measures let each counter grow together. -/
def totals (ms : List Measure) : OrderedMap String Nat :=
  (ms.flatMap growth).foldl (fun m e => m.insert e.1 ((m.get? e.1).getD 0 + e.2)) .empty

end Measure
end ContainerBridge
