import ContainerBridge.Cluster.Resource
import ContainerBridge.Container.Spec
import ContainerBridge.Lifecycle.Settings

/-! The resources that a request for a container asks the cluster for. -/

namespace ContainerBridge.Lifecycle

open Cluster

/-- The names that a request yields. -/
structure Names where
  workspaceId : String
  /-- The name of the service and of the deployment. -/
  resource : String
  container : String
  deriving DecidableEq, Repr

def Names.ofSpec (spec : ContainerSpec) : Except SpecFault Names :=
  match Workspace.idOf spec.env with
  | .error e => .error e
  | .ok id => (Workspace.containerName spec.name).map fun name =>
    ⟨id, Workspace.resourceName id, name⟩

/-- A request, checked and worked out. -/
structure Plan where
  names : Names
  /-- The port tokens that the image declares or the request asks for. -/
  exposed : OrderedSet String
  ports : List Port
  volumes : List HostPathVolume
  mounts : List VolumeMount
  /-- What follows the route's name in its host name, when there are routes. -/
  routeRoot : Option String
  deriving DecidableEq

/-- The external address less its preamble, unless routes are disabled. -/
def hostRoot (c : RouteConfig) : Except SpecFault (Option String) :=
  if !c.enabled then .ok none
  else match c.externalAddress.filter (· ≠ "") with
    | none => .error .noExternalAddress
    | some address => .ok (some ((Text.dropStart? "che-" address).getD address))

/-- The ports of the tokens, in order. -/
def exposedPorts (tokens : OrderedSet String) : Except SpecFault (List Port) :=
  (Port.parseAll tokens.members).mapError fun (token, fault) => .badPort token fault

def Plan.make (s : Settings) (names : Names) (spec : ContainerSpec) (imagePorts : List String) :
    Except SpecFault Plan :=
  let exposed := Port.exposed imagePorts spec.exposedPorts.members
  match exposedPorts exposed with
  | .error e => .error e
  | .ok ports => match Workspace.volumes names.workspaceId spec.binds with
    | .error e => .error e
    | .ok (volumes, mounts) =>
      (hostRoot s.routes).map fun root => ⟨names, exposed, ports, volumes, mounts, root⟩

/-- The selector of everything that belongs to a deployment. -/
def deploymentSelector (deployment : String) : Selector := .singleton deploymentLabel deployment

namespace Plan

def service (p : Plan) (s : Settings) (spec : ContainerSpec) : Service where
  project := s.project
  name := p.names.resource
  serviceType := "NodePort"
  selector := deploymentSelector p.names.resource
  ports := p.ports.map Port.toService
  annotations := Label.encode spec.labels

/-- The user that workspaces run as. -/
def workspaceUser : Int64 := 1000

/-- The workspace agent's port answers while the container lives. -/
def livenessProbe : TcpProbe := ⟨4401, 120, 1⟩

def container (p : Plan) (spec : ContainerSpec) : DeploymentContainer where
  name := p.names.container
  image := spec.image
  imagePullPolicy := "IfNotPresent"
  ports := p.ports.map Port.toContainer
  env := spec.env.map EnvVar.ofEntry
  volumeMounts := p.mounts
  securityContext := ⟨workspaceUser, true⟩
  livenessProbe := livenessProbe

def deployment (p : Plan) (s : Settings) (spec : ContainerSpec) : Deployment where
  project := s.project
  name := p.names.resource
  replicas := 1
  selector := deploymentSelector p.names.resource
  serviceAccount := s.serviceAccount
  runAsUser := workspaceUser
  container := p.container spec
  triggers := ["ConfigChange"]
  volumes := p.volumes

/-- The route of one port, named for the port and the container. -/
def route (p : Plan) (s : Settings) (root : String) (port : ServicePort) : Route :=
  let name := Workspace.normalizeName (port.name ++ "-" ++ p.names.container)
  { project := s.project
    name := name
    host := name ++ "-" ++ root
    serviceName := p.names.resource
    targetPort := port.name
    tls := s.routes.tls
    labels := deploymentSelector p.names.resource }

/-- One route for every port of the service, when there are routes. -/
def routes (p : Plan) (s : Settings) : List Route :=
  match p.routeRoot with
  | none => []
  | some root => p.ports.map fun port => p.route s root port.toService

end Plan
end ContainerBridge.Lifecycle
