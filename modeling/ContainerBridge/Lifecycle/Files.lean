import ContainerBridge.Action
import ContainerBridge.Lifecycle.Settings
import ContainerBridge.Workspace.Directory

/-! Making and clearing the directory of a workspace: a pod does the work and is deleted when it has
ended or takes too long. -/

namespace ContainerBridge.Lifecycle

open Cluster Workspace

/-- How a job pod ends. -/
inductive JobEnd where
  | succeeded
  | failed
  deriving DecidableEq, Repr

def JobEnd.phase : JobEnd → String
  | succeeded => "Succeeded"
  | failed => "Failed"

def JobEnd.ofPhase? (phase : String) : Option JobEnd :=
  if phase = succeeded.phase then some succeeded
  else if phase = failed.phase then some failed
  else none

/-- How the job pod ended, if it has; a pod that is gone is a failure. -/
def jobEnd (project pod : String) : Task (Except ClusterFailure (Option JobEnd)) := do
  match ← Task.cluster (.podPhase project pod) with
  | .error e => return .error e
  | .ok none => return .error (.api 404 s!"job pod {pod} disappeared")
  | .ok (some phase) => return .ok (JobEnd.ofPhase? phase)

def deleteJob (project pod : String) : Operation Unit := do
  let _ ← Operation.cluster (.deletePod project pod)

/-- Carries out a command on a workspace's directory; a cancelled wait leaves the pod in place. -/
def runFiles (s : Settings) (command : FilesCommand) (workspace : String) : Operation Unit := do
  let pod ← Operation.check (jobPod command workspace s.project s.claimName)
  Operation.cluster (.createJobPod pod)
  Operation.log (.filesJobStarted s.project workspace pod.name command.name)
  let outcome ← ExceptT.lift <|
    s.filesJob.poll (Task.wait s.filesJob.interval) (jobEnd s.project pod.name)
  match outcome with
  | .ok polled =>
    Operation.log (.filesJobFinished s.project pod.name polled.value.phase polled.attempts)
    deleteJob s.project pod.name
    match polled.value with
    | .succeeded => return ()
    | .failed => throw (.jobFailed pod.name)
  | .error (.exhausted attempts waited) =>
    deleteJob s.project pod.name
    throw (.jobTimeout pod.name attempts waited)
  | .error (.cancelled attempts) =>
    throw (.cancelled s!"files job {pod.name} cancelled after {attempts} attempts")
  | .error (.failed e) => throw (.cluster e)

end ContainerBridge.Lifecycle
