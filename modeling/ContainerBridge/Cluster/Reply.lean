import ContainerBridge.Cluster.Schema
import ContainerBridge.Error
import ContainerBridge.Http.Status

/-! What the cluster's interface answers: objects, lists of them, and statuses of calls. -/

namespace ContainerBridge.Cluster
open Json

/-- The kinds of objects that calls are about. -/
inductive Kind where
  | project
  | service
  | pod
  | replicationController
  | deployment
  | route
  deriving DecidableEq, Repr

namespace Kind

/-- The word for many of the kind. -/
def plural : Kind → String
  | project => "namespaces"
  | service => "services"
  | pod => "pods"
  | replicationController => "replicationcontrollers"
  | deployment => "deploymentconfigs"
  | route => "routes"

/-- The part of the interface that knows the kind. -/
def group : Kind → String
  | deployment => "/apis/apps.openshift.io/v1"
  | route => "/apis/route.openshift.io/v1"
  | _ => "/api/v1"

/-- An object of which only the metadata have to be right. -/
def looseObject : Decoder Value := Record.ofValues <|
  (fun m => .ofMembers [("metadata", some m)]) <$>
    .optional "metadata" (.object []) Schema.metadata.read

/-- Reads an object of the kind. -/
def object : Kind → Decoder Value
  | project => Schema.project.read
  | service => Schema.service.read
  | pod => Schema.pod.read
  | replicationController => Schema.replicationController.read
  | deployment | route => looseObject

/-- Reads a list of objects of the kind. -/
def list (k : Kind) : Decoder (List Value) := Record.decoder <|
  (fun _ items => items) <$> .required "metadata" Schema.listMetadata.read
    <*> .required "items" (.nullAs [] (.list k.object))

end Kind

namespace Reply

/-- Reads the status of a call that failed. -/
def failureBody : Decoder ClusterFailure := Record.decoder <|
  ClusterFailure.response <$> .required "status" .text <*> .optional "message" "" .text
    <*> .optional "reason" "" .text <*> .required "code" .uint16

/-- The failure that a response reports; its text may be no status. -/
def failure (status : Http.Status) (text : String) : ClusterFailure :=
  match failureBody.ofText text with
  | .ok e => e
  | .error _ =>
    .response status.text (Text.quoted text) "Failed to parse error data" status.code

def cause : Decoder Unit := Record.decoder <|
  (fun _ _ _ => ()) <$> .optional "reason" "" .text <*> .optional "message" "" .text
    <*> .optional "field" "" .text

def details : Decoder Unit := Record.decoder <|
  (fun _ _ _ _ _ _ => ()) <$> .optional "name" "" .text <*> .optional "group" "" .text
    <*> .optional "kind" "" .text <*> .optional "uid" "" .text
    <*> .optional "causes" [] (.list cause) <*> .optional "retryAfterSeconds" 0 .uint32

/-- Reads the status of a call that was carried out. -/
def status : Decoder Unit := Record.decoder <|
  (fun _ _ _ _ _ => ())
    <$> .maybe "status" (.variant fun s => if s = "Success" || s = "Failure" then some () else none)
    <*> .optional "code" 0 .uint16 <*> .optional "message" "" .text <*> .optional "reason" "" .text
    <*> .maybe "details" details

/-- Whether the text answers a deletion: with a status, or else with the object that is deleted. -/
def isDeletion (k : Kind) (text : String) : Bool :=
  match Decoder.value.ofText text with
  | .error _ => false
  | .ok v =>
    if v.text? "kind" = some "Status" then (status.ofText text).isOk
    else (k.object.ofText text).isOk

end Reply
end ContainerBridge.Cluster
