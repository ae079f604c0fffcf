import ContainerBridge.Duration
import ContainerBridge.Port
import ContainerBridge.Text.Quoted
import ContainerBridge.Url.Host

/-! Errors of the cluster, the engine and the operations of the bridge. -/

namespace ContainerBridge

/-- Why a call to the cluster failed. -/
inductive ClusterFailure where
  /-- The cluster refused the call. -/
  | api (status : UInt16) (message : String)
  /-- The cluster's client cannot be set up. -/
  | config (text : String)
  /-- The cluster answered with a status object. -/
  | response (status message reason : String) (code : UInt16)
  /-- There was no answer, or none that can be read. -/
  | transport
  deriving DecidableEq, Repr

/-- Why a call to the engine failed. -/
inductive EngineFailure where
  | api (status : UInt16) (message : String)
  | url (fault : Url.Fault)
  /-- There was no answer, or none that can be read. -/
  | transport
  deriving DecidableEq, Repr

namespace ClusterFailure

def variant : ClusterFailure → String
  | .api .. => "api"
  | .config _ => "config"
  | .response .. => "kube_api"
  | .transport => "kube_other"

/-- The status object as its text shows it. -/
def responseText (status message reason : String) (code : UInt16) : String :=
  "ErrorResponse \x7b status: " ++ Text.quoted status ++ ", message: " ++ Text.quoted message
    ++ ", reason: " ++ Text.quoted reason ++ ", code: " ++ toString code ++ " \x7d"

def message : ClusterFailure → String
  | .api status text => s!"platform API error ({status}): {text}"
  | .config text => "platform configuration error: " ++ text
  | .response status text reason code =>
    s!"kubernetes error: ApiError: {text}: {reason} ("
      ++ responseText status text reason code ++ ")"
  | .transport => "kubernetes error"

end ClusterFailure

namespace EngineFailure

def variant : EngineFailure → String
  | .api .. => "api"
  | .url _ => "url"
  | .transport => "http"

def message : EngineFailure → String
  | .api status text => s!"engine API error ({status}): {text}"
  | .url fault => "invalid engine URL: " ++ fault.message
  | .transport => "engine request failed"

end EngineFailure

/-- The kinds of things that can be missing. -/
inductive ResourceKind where
  | project
  | service
  | deploymentConfig
  | replicationController
  | pod
  | container
  deriving DecidableEq, Repr

def ResourceKind.name : ResourceKind → String
  | .project => "Project"
  | .service => "Service"
  | .deploymentConfig => "DeploymentConfig"
  | .replicationController => "ReplicationController"
  | .pod => "Pod"
  | .container => "Container"

/-- Why an operation failed. -/
inductive BridgeError where
  | resourceNotFound (kind : ResourceKind) (name : String)
  | ambiguousDiscovery (selector : String) (found : Nat)
  | discoveryTimeout (deployment : String) (attempts : Nat) (waited : Duration)
  | jobFailed (pod : String)
  | jobTimeout (pod : String) (attempts : Nat) (waited : Duration)
  | cancelled (text : String)
  | invalidSpec (text : String)
  | configuration (text : String)
  | cluster (failure : ClusterFailure)
  | engine (failure : EngineFailure)
  deriving DecidableEq

namespace BridgeError

def kind : BridgeError → String
  | .resourceNotFound .. => "resource_not_found"
  | .ambiguousDiscovery .. => "ambiguous_discovery"
  | .discoveryTimeout .. => "discovery_timeout"
  | .jobFailed _ => "job_failed"
  | .jobTimeout .. => "job_timeout"
  | .cancelled _ => "cancelled"
  | .invalidSpec _ => "invalid_spec"
  | .configuration _ => "configuration"
  | .cluster _ => "platform"
  | .engine _ => "engine"

def message : BridgeError → String
  | .resourceNotFound kind name => kind.name ++ s!" '{name}' not found"
  | .ambiguousDiscovery selector found =>
    s!"expected exactly one pod with label {selector}, found {found}"
  | .discoveryTimeout deployment attempts waited =>
    s!"container for deployment '{deployment}' not discovered after {attempts} attempts ("
      ++ waited.text ++ ")"
  | .jobFailed pod => s!"workspace files job '{pod}' failed"
  | .jobTimeout pod attempts waited =>
    s!"workspace files job '{pod}' not finished after {attempts} attempts (" ++ waited.text ++ ")"
  | .cancelled text => "operation cancelled: " ++ text
  | .invalidSpec text => "invalid container spec: " ++ text
  | .configuration text => "configuration error: " ++ text
  | .cluster failure => failure.message
  | .engine failure => failure.message

/-- Whether the error means that something does not exist. -/
def isNotFound : BridgeError → Bool
  | .resourceNotFound .. => true
  | .ambiguousDiscovery _ found => found == 0
  | _ => false

/-- The status of a response that reports the error. -/
def httpStatus (e : BridgeError) : Nat :=
  if e.isNotFound then 404
  else match e with
    | .resourceNotFound .. => 404
    | .ambiguousDiscovery .. => 409
    | .discoveryTimeout .. | .jobTimeout .. => 504
    | .cancelled _ => 503
    | .invalidSpec _ => 400
    | .configuration _ => 500
    | .cluster _ | .engine _ | .jobFailed _ => 502

end BridgeError

/-- What is wrong with a request. -/
inductive SpecFault where
  | noWorkspaceId
  | emptyWorkspaceId
  | shortName (name : String)
  | badPort (token : String) (fault : Port.TokenFault)
  | badBind (bind : String)
  | noExternalAddress
  | badDirectory (workspace : String)
  deriving DecidableEq, Repr

namespace SpecFault

def message : SpecFault → String
  | .noWorkspaceId => "environment does not define CHE_WORKSPACE_ID"
  | .emptyWorkspaceId => "CHE_WORKSPACE_ID does not carry a workspace id"
  | .shortName name => s!"container name '{name}' is too short"
  | .badPort token fault => fault.message token
  | .badBind bind => s!"bind '{bind}' is not hostPath:mountPath[:mode]"
  | .noExternalAddress => "routes are enabled but no external address is configured"
  | .badDirectory workspace => s!"'{workspace}' is not a workspace directory name"

def error (f : SpecFault) : BridgeError := .invalidSpec f.message

end SpecFault
end ContainerBridge
