import ContainerBridge.Text.Utf8
import ContainerBridge.Url.Percent
import ContainerBridge.Workspace.Directory

/-! The paths that the agent serves, and what each method does there. -/

namespace ContainerBridge.Agent

/-- A path; identifiers are as they stand in it. -/
inductive Route where
  | health
  | readiness
  | metrics
  | newContainer
  | description (id : String)
  | runtime (id : String)
  | container (id : String)
  | files (workspace : String)
  deriving DecidableEq, Repr

/-- The path of a target, which may name a scheme and a host before it. -/
def pathOf (target : String) : String :=
  match target.toList with
  | '/' :: rest => String.ofList ('/' :: rest)
  | cs => match Text.cutAt [':', '/', '/'] cs with
    | some (_, rest) => String.ofList (rest.dropWhile (· ≠ '/'))
    | none => target

/-- The path of a request's target, and its query. -/
def splitTarget (target : String) : String × Option String :=
  match Text.splitOnce '?' (Text.upTo '#' target) with
  | some (before, query) => (pathOf before, some query)
  | none => (pathOf (Text.upTo '#' target), none)

/-- An identifier may be empty, but not at the end of a path. -/
def Route.ofPath? (path : String) : Option Route :=
  match Text.splitAll '/' path with
  | ["", "healthz"] => some .health
  | ["", "readyz"] => some .readiness
  | ["", "metrics"] => some .metrics
  | ["", "containers", "create"] => some .newContainer
  | ["", "containers", id] => if id = "" then none else some (.container id)
  | ["", "containers", id, "json"] => some (.description id)
  | ["", "containers", id, "runtime"] => some (.runtime id)
  | ["", "workspaces", workspace, "files"] => some (.files workspace)
  | _ => none

/-- What is asked for. -/
inductive Endpoint where
  | health
  | readiness
  | metrics
  | create
  | inspectContainer (id : String)
  | inspect (id : String)
  /-- With servers in the body. -/
  | inspectWith (id : String)
  | remove (id : String)
  | files (command : Workspace.FilesCommand) (workspace : String)
  deriving DecidableEq, Repr

/-- What a method asks for; `HEAD` asks for what `GET` does. -/
def Route.endpoint? (method : String) (r : Route) : Option Endpoint :=
  let get := method = "GET" || method = "HEAD"
  let post := method = "POST"
  let delete := method = "DELETE"
  match r with
  | .health => if get then some .health else none
  | .readiness => if get then some .readiness else none
  | .metrics => if get then some .metrics else none
  | .newContainer => if post then some .create else none
  | .description id => if get then some (.inspectContainer id) else none
  | .runtime id => if get then some (.inspect id) else if post then some (.inspectWith id) else none
  | .container id => if delete then some (.remove id) else none
  | .files w =>
    if post then some (.files .make w) else if delete then some (.files .remove w) else none

/-- An identifier without its percent encoding, if it is a text. -/
def decodeId (s : String) : Option String := Text.ofBytes? (Url.percentDecode (Text.bytes s))

/-- The value of a query's parameter; `none` in place of two of them. -/
def parameter (query : Option String) (name : String) : Option (Option String) :=
  match (Url.Form.pairs (query.getD "")).filter (·.1 = name) with
  | [] => some none
  | [p] => some (some p.2)
  | _ => none

end ContainerBridge.Agent
