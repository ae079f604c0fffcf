import ContainerBridge.Error
import ContainerBridge.Text.Basic

/-! Names that a workspace's resources are given. -/

namespace ContainerBridge.Workspace

/-- The most characters that a resource name or a label value may have. -/
def nameLimit : Nat := 63

def normalizeName (s : String) : String := Text.takeChars nameLimit s

/-- The name of a workspace's service and deployment. -/
def resourceName (id : String) : String := normalizeName ("che-ws-" ++ id)

def idVariable : String := "CHE_WORKSPACE_ID"

/-- The text without the first `mark` in it. -/
def withoutFirst (mark s : String) : String :=
  match Text.cutAt mark.toList s.toList with
  | some (before, after) => String.ofList (before ++ after)
  | none => s

/-- The workspace's id: the value `workspace<id>` of the first entry whose text begins with the
variable's name and has a value. -/
def idOf (env : List String) : Except SpecFault String :=
  let values := (env.filter (Text.startsWith idVariable)).filterMap fun e =>
    (Text.splitOnce '=' e).map (·.2)
  match values with
  | [] => .error .noWorkspaceId
  | value :: _ =>
    let id := withoutFirst "workspace" value
    if id = "" then .error .emptyWorkspaceId else .ok id

/-- How many characters of the requested name are dropped. -/
def namePreamble : Nat := 9

/-- The name of the pod's container: the requested name less its preamble. -/
def containerName (requested : String) : Except SpecFault String :=
  if requested.toList.length ≤ namePreamble then .error (.shortName requested)
  else .ok (normalizeName (Text.replaceChar '_' '-' (Text.dropChars namePreamble requested)))

end ContainerBridge.Workspace
