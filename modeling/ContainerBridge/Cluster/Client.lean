import ContainerBridge.Cluster.Manifest
import ContainerBridge.Cluster.Object
import ContainerBridge.Cluster.Reply
import ContainerBridge.Cluster.Request
import ContainerBridge.Http.Exchange

/-! Calls to a cluster over HTTP. -/

namespace ContainerBridge.Cluster.Client
open Json

/-- A call as requests to the cluster's interface. -/
abbrev Call := ExceptT ClusterFailure Http.Exchange

variable {α : Type}

/-- Sends a request and takes the text of a response that reports no failure; a target that is
none is not sent. -/
def send (r : Http.Request) : Call String :=
  if (Http.Target.ofText r.target).isNone then throw .transport
  else do
    match ← ExceptT.lift (Http.send r) with
    | none => throw .transport
    | some response =>
      if response.status.isError then throw (Reply.failure response.status response.text)
      else return response.text

/-- Reads the text of a response. -/
def decode (d : Decoder α) (text : String) : Call α :=
  match d.ofText text with
  | .ok a => pure a
  | .error _ => throw .transport

/-- The path of a project's objects of a kind. -/
def collection (k : Kind) (project : String) : String :=
  k.group ++ "/namespaces/" ++ project ++ "/" ++ k.plural

/-- A path with pairs in its query. -/
def withQuery (path : String) (pairs : List (String × String)) : String :=
  path ++ "?" ++ String.join (pairs.map fun p => "&" ++ Url.Form.encodePair p)

def get (k : Kind) (path : String) : Call Value := do
  decode k.object (← send { method := "GET", target := path })

/-- What a reading answers, unless the cluster says that there is no such object. -/
def unlessMissing (x : Call α) : Call (Option α) :=
  tryCatch (some <$> x) fun e => match e with
    | .response _ _ "NotFound" _ => pure none
    | e => throw e

/-- The objects that carry the labels of a selector. -/
def list (k : Kind) (project : String) (selector : Selector) : Call (List Value) := do
  let pairs := if selector.isEmpty then [] else [("labelSelector", selector.text)]
  decode k.list (← send { method := "GET", target := withQuery (collection k project) pairs })

def create (k : Kind) (project : String) (manifest : Value) : Call Unit := do
  let target := withQuery (collection k project) []
  let _ ← decode k.object (← send (.withJson "POST" target manifest))

/-- Deletes an object; answers whether it was there. -/
def delete (k : Kind) (project name : String) : Call Bool :=
  let target := withQuery (collection k project ++ "/" ++ name) []
  let deletion : Call Bool := do
    let text ← send (.withJson "DELETE" target (.object []))
    if Reply.isDeletion k text then return true else throw .transport
  tryCatch deletion fun e => match e with
    | .response _ _ _ 404 => pure false
    | e => throw e

/-- Deletes objects; answers how many of them were there. -/
def deleteAll (k : Kind) (project : String) : List String → Call Nat
  | [] => pure 0
  | name :: rest => do
    let gone ← delete k project name
    return (if gone then 1 else 0) + (← deleteAll k project rest)

/-- The change that sets one label. -/
def labelPatch (key value : String) : Value :=
  .object [("metadata", .object [("labels", .object [(key, .text value)])])]

def label (project name key value : String) : Call Unit := do
  let request : Http.Request :=
    { method := "PATCH", target := withQuery (collection .pod project ++ "/" ++ name) []
      contentType := some "application/merge-patch+json", body := some (labelPatch key value) }
  let _ ← decode Kind.pod.object (← send request)

/-- Puts a call to the cluster. -/
def perform : (q : Request) → Call q.Answer
  | .projectExists project => do
    return (← unlessMissing (get .project ("/api/v1/namespaces/" ++ project))).isSome
  | .createService s => create .service s.project (ServiceObject.ofService s).toJson
  | .listServices project => do
    return (← list .service project .empty).map fun v => (ServiceObject.ofJson v).toService
  | .deleteService project name => delete .service project name
  | .createDeployment d => create .deployment d.project d.manifest
  | .deleteDeployment project name => delete .deployment project name
  | .deleteReplicationController project name => delete .replicationController project name
  | .listPods project selector => do
    return (← list .pod project selector).map fun v => (PodObject.ofJson v).toPod
  | .labelPod project name key value => label project name key value
  | .deletePod project name => delete .pod project name
  | .createJobPod j => create .pod j.project j.manifest
  | .podPhase project name => do
    let pod ← unlessMissing (get .pod (collection .pod project ++ "/" ++ name))
    return pod.map fun v => (PodObject.ofJson v).phase.getD ""
  | .createRoute r => create .route r.project r.manifest
  | .deleteRoutes project selector => do
    let routes ← list .route project selector
    deleteAll .route project (routes.filterMap fun v => (v.member "metadata").text? "name")

end ContainerBridge.Cluster.Client
