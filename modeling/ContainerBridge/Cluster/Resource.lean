import ContainerBridge.Port
import ContainerBridge.Workspace.Env
import ContainerBridge.Workspace.Volume

/-! The cluster's resources, as far as a workspace needs them, and the labels by which they are
found. -/

namespace ContainerBridge.Cluster

/-- Carries the short id of a discovered container. -/
def identityLabel : String := "cheContainerIdentifier"

/-- Stands on the deployer pod while a rollout is under way. -/
def deployerLabel : String := "openshift.io/deployer-pod-for.name"

/-- Names the deployment that a pod belongs to. -/
def deploymentLabel : String := "deploymentConfig"

/-- Names the replication controller that a pod belongs to. -/
def controllerLabel : String := "deployment"

/-- The project and name by which a resource is stored. -/
structure Key where
  project : String
  name : String
  deriving DecidableEq, Repr

namespace Key

/-- Keys are ordered by project, then by name. -/
instance : LT Key := ⟨fun a b => a.project < b.project ∨ (a.project = b.project ∧ a.name < b.name)⟩

theorem lt_trans {a b c : Key} (h₁ : a < b) (h₂ : b < c) : a < c := by
  obtain h₁ | ⟨e₁, h₁⟩ := h₁ <;> obtain h₂ | ⟨e₂, h₂⟩ := h₂
  · exact .inl (String.lt_trans h₁ h₂)
  · exact .inl (e₂ ▸ h₁)
  · exact .inl (e₁ ▸ h₂)
  · exact .inr ⟨e₁.trans e₂, String.lt_trans h₁ h₂⟩

theorem eq_of_not_lt {a b : Key} (h₁ : ¬ a < b) (h₂ : ¬ b < a) : a = b := by
  have hp : a.project = b.project :=
    KeyOrder.eq_of_not_lt (fun h => h₁ (.inl h)) (fun h => h₂ (.inl h))
  have hn : a.name = b.name :=
    KeyOrder.eq_of_not_lt (fun h => h₁ (.inr ⟨hp, h⟩)) (fun h => h₂ (.inr ⟨hp.symm, h⟩))
  cases a; cases b; simp_all

instance : KeyOrder Key where
  decideLT _ _ := inferInstanceAs (Decidable (_ ∨ _))
  decideEq _ _ := inferInstance
  irrefl _ h := h.elim (String.lt_irrefl _) (fun h => String.lt_irrefl _ h.2)
  trans := lt_trans
  eq_of_not_lt := eq_of_not_lt

end Key

/-- Labels that resources must carry. -/
abbrev Selector := OrderedMap String String

namespace Selector

/-- The selector as `k1=v1,k2=v2`. -/
def text (s : Selector) : String := Text.joinWith "," (s.entries.map fun e => e.1 ++ "=" ++ e.2)

/-- Whether the labels hold every entry of the selector. -/
def selects (s : Selector) (labels : OrderedMap String String) : Bool :=
  s.entries.all fun e => labels.get? e.1 = some e.2

end Selector

/-- A service, which forwards node ports to the pods it selects. -/
structure Service where
  project : String
  name : String
  serviceType : String
  selector : Selector
  ports : List ServicePort
  annotations : OrderedMap String String
  deriving DecidableEq

structure SecurityContext where
  runAsUser : Int64
  privileged : Bool
  deriving DecidableEq

/-- A liveness probe that opens a connection. -/
structure TcpProbe where
  port : UInt16
  initialDelaySecs : Int32
  timeoutSecs : Int32
  deriving DecidableEq

/-- The one container of a workspace's deployment. -/
structure DeploymentContainer where
  name : String
  image : String
  imagePullPolicy : String
  ports : List ContainerPort
  env : List EnvVar
  volumeMounts : List VolumeMount
  securityContext : SecurityContext
  livenessProbe : TcpProbe
  deriving DecidableEq

/-- A deployment, which rolls out the workspace's pod. -/
structure Deployment where
  project : String
  name : String
  replicas : Int32
  selector : Selector
  serviceAccount : String
  runAsUser : Int64
  container : DeploymentContainer
  triggers : List String
  volumes : List HostPathVolume
  deriving DecidableEq

structure Pod where
  project : String
  name : String
  labels : OrderedMap String String := .empty
  /-- The ids of the containers, with the scheme of their runtime. -/
  containerIds : List String := []
  phase : Option String := none
  deriving DecidableEq

/-- A route, which exposes a port of a service under a host name. -/
structure Route where
  project : String
  name : String
  host : String
  serviceName : String
  targetPort : String
  tls : Bool
  labels : OrderedMap String String
  deriving DecidableEq

/-- A pod that runs one command against a claim and ends. -/
structure JobPod where
  project : String
  name : String
  image : String
  command : List String
  claimName : String
  mountPath : String
  deriving DecidableEq

def Service.key (s : Service) : Key := ⟨s.project, s.name⟩

def Deployment.key (d : Deployment) : Key := ⟨d.project, d.name⟩

def Pod.key (p : Pod) : Key := ⟨p.project, p.name⟩

def Route.key (r : Route) : Key := ⟨r.project, r.name⟩

def JobPod.key (j : JobPod) : Key := ⟨j.project, j.name⟩

open Json

namespace Service

def toJson (s : Service) : Value :=
  .ofMembers [("namespace", some (.text s.project)), ("name", some (.text s.name)),
    ("service_type", some (.text s.serviceType)), ("selector", some (.textMap s.selector)),
    ("ports", some (.array (s.ports.map ServicePort.toJson))),
    ("annotations", some (.textMap s.annotations))]

def decoder : Decoder Service := Record.decoder <|
  Service.mk <$> .required "namespace" .text <*> .required "name" .text
    <*> .required "service_type" .text <*> .required "selector" (.object .text)
    <*> .required "ports" (.list ServicePort.decoder) <*> .required "annotations" (.object .text)

end Service

namespace SecurityContext

def toJson (c : SecurityContext) : Value :=
  .ofMembers [("run_as_user", some (.int c.runAsUser.toInt)),
    ("privileged", some (.bool c.privileged))]

def decoder : Decoder SecurityContext := Record.decoder <|
  SecurityContext.mk <$> .required "run_as_user" .int64 <*> .required "privileged" .bool

end SecurityContext

namespace TcpProbe

def toJson (p : TcpProbe) : Value :=
  .ofMembers [("port", some (.nat p.port.toNat)),
    ("initial_delay_secs", some (.int p.initialDelaySecs.toInt)),
    ("timeout_secs", some (.int p.timeoutSecs.toInt))]

def decoder : Decoder TcpProbe := Record.decoder <|
  TcpProbe.mk <$> .required "port" .uint16 <*> .required "initial_delay_secs" .int32
    <*> .required "timeout_secs" .int32

end TcpProbe

namespace DeploymentContainer

def toJson (c : DeploymentContainer) : Value :=
  .ofMembers [("name", some (.text c.name)), ("image", some (.text c.image)),
    ("image_pull_policy", some (.text c.imagePullPolicy)),
    ("ports", some (.array (c.ports.map ContainerPort.toJson))),
    ("env", some (.array (c.env.map EnvVar.toJson))),
    ("volume_mounts", some (.array (c.volumeMounts.map VolumeMount.toJson))),
    ("security_context", some c.securityContext.toJson),
    ("liveness_probe", some c.livenessProbe.toJson)]

def decoder : Decoder DeploymentContainer := Record.decoder <|
  DeploymentContainer.mk <$> .required "name" .text <*> .required "image" .text
    <*> .required "image_pull_policy" .text <*> .required "ports" (.list ContainerPort.decoder)
    <*> .required "env" (.list EnvVar.decoder)
    <*> .required "volume_mounts" (.list VolumeMount.decoder)
    <*> .required "security_context" SecurityContext.decoder
    <*> .required "liveness_probe" TcpProbe.decoder

end DeploymentContainer

namespace Deployment

def toJson (d : Deployment) : Value :=
  .ofMembers [("namespace", some (.text d.project)), ("name", some (.text d.name)),
    ("replicas", some (.int d.replicas.toInt)), ("selector", some (.textMap d.selector)),
    ("service_account", some (.text d.serviceAccount)),
    ("run_as_user", some (.int d.runAsUser.toInt)), ("container", some d.container.toJson),
    ("triggers", some (.texts d.triggers)),
    ("volumes", some (.array (d.volumes.map HostPathVolume.toJson)))]

def decoder : Decoder Deployment := Record.decoder <|
  Deployment.mk <$> .required "namespace" .text <*> .required "name" .text
    <*> .required "replicas" .int32 <*> .required "selector" (.object .text)
    <*> .required "service_account" .text <*> .required "run_as_user" .int64
    <*> .required "container" DeploymentContainer.decoder <*> .required "triggers" (.list .text)
    <*> .required "volumes" (.list HostPathVolume.decoder)

end Deployment

namespace Pod

def toJson (p : Pod) : Value :=
  .ofMembers [("namespace", some (.text p.project)), ("name", some (.text p.name)),
    ("labels", some (.textMap p.labels)), ("container_ids", some (.texts p.containerIds)),
    ("phase", some (.orNull (p.phase.map .text)))]

def decoder : Decoder Pod := Record.decoder <|
  Pod.mk <$> .required "namespace" .text <*> .required "name" .text
    <*> .required "labels" (.object .text) <*> .required "container_ids" (.list .text)
    <*> .named "phase" .text

end Pod

namespace Route

def toJson (r : Route) : Value :=
  .ofMembers [("namespace", some (.text r.project)), ("name", some (.text r.name)),
    ("host", some (.text r.host)), ("service_name", some (.text r.serviceName)),
    ("target_port", some (.text r.targetPort)), ("tls", some (.bool r.tls)),
    ("labels", some (.textMap r.labels))]

def decoder : Decoder Route := Record.decoder <|
  Route.mk <$> .required "namespace" .text <*> .required "name" .text <*> .required "host" .text
    <*> .required "service_name" .text <*> .required "target_port" .text <*> .required "tls" .bool
    <*> .required "labels" (.object .text)

end Route

namespace JobPod

def toJson (j : JobPod) : Value :=
  .ofMembers [("namespace", some (.text j.project)), ("name", some (.text j.name)),
    ("image", some (.text j.image)), ("command", some (.texts j.command)),
    ("claim_name", some (.text j.claimName)), ("mount_path", some (.text j.mountPath))]

def decoder : Decoder JobPod := Record.decoder <|
  JobPod.mk <$> .required "namespace" .text <*> .required "name" .text <*> .required "image" .text
    <*> .required "command" (.list .text) <*> .required "claim_name" .text
    <*> .required "mount_path" .text

end JobPod
end ContainerBridge.Cluster
