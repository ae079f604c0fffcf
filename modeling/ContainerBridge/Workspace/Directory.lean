import ContainerBridge.Cluster.Resource
import ContainerBridge.Error

/-! The directories that hold the project files of workspaces, and the pods that work on them. -/

namespace ContainerBridge.Workspace

/-- What is done to a workspace's directory. -/
inductive FilesCommand where
  | make
  | remove
  deriving DecidableEq, Repr

namespace FilesCommand

def name : FilesCommand → String
  | make => "make"
  | remove => "remove"

/-- The command line, up to the directory. -/
def line : FilesCommand → List String
  | make => ["mkdir", "-p"]
  | remove => ["rm", "-rf"]

/-- The start of the pod's name. -/
def podStart : FilesCommand → String
  | make => "make-"
  | remove => "delete-"

end FilesCommand

/-- Where the claim with all workspaces' directories is mounted. -/
def projectsPath : String := "/projects"

/-- A letter or digit in lower case; all else becomes a dash. -/
def labelChar (c : Char) : Char :=
  if c.toLower.isAlphanum then c.toLower else '-'

/-- The name as a label, which does not end in a dash. -/
def dnsLabel (s : String) : String :=
  String.ofList ((s.toList.map labelChar).reverse.dropWhile (· = '-')).reverse

/-- A directory's name is one step of a path, and neither the directory itself nor its parent. -/
def isDirectoryName (s : String) : Bool :=
  s ≠ "" && s ≠ "." && s ≠ ".." && !s.toList.contains '/'

/-- The pod that carries out a command on a workspace's directory. -/
def jobPod (command : FilesCommand) (workspace project claimName : String) :
    Except SpecFault Cluster.JobPod :=
  if isDirectoryName workspace then
    .ok {
      project := project
      name := normalizeName (command.podStart ++ dnsLabel workspace)
      image := "busybox"
      command := command.line ++ [projectsPath ++ "/" ++ workspace]
      claimName := claimName
      mountPath := projectsPath }
  else .error (.badDirectory workspace)

end ContainerBridge.Workspace
