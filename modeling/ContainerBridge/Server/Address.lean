import ContainerBridge.Port
import ContainerBridge.Server.Conf
import ContainerBridge.Server.Record

/-! Addresses of servers: which hosts and ports reach a container, the record of each of its
servers, and the strategies that choose them by name. -/

namespace ContainerBridge

/-- What is observed of a container's network. -/
structure ObservedNetwork where
  gateway : Option String := none
  containerAddress : Option String := none
  ports : OrderedMap String (List PortBinding) := .empty
  labels : OrderedMap String String := .empty
  fallbackHost : Option String := none
  deriving DecidableEq

namespace ObservedNetwork

def nonEmpty (s : Option String) : Option String := s.filter (· ≠ "")

/-- The first binding of a token. -/
def binding (n : ObservedNetwork) (token : String) : Option PortBinding :=
  (n.ports.get? token).bind List.head?

/-- The gateway, or else the fallback host, or else this host. -/
def host (n : ObservedNetwork) : String :=
  ((nonEmpty n.gateway).or (nonEmpty n.fallbackHost)).getD "localhost"

end ObservedNetwork

/-- Hosts that a configuration puts in place of the observed ones. -/
structure AddressOverrides where
  internalAddress : Option String := none
  externalAddress : Option String := none
  /-- Whether inside clients go straight to the container. -/
  useInternalAddress : Bool := false
  deriving DecidableEq, Repr

/-- The hosts of one container; inside clients use the node port or the exposed one. -/
structure AddressPlan where
  internalHost : String
  externalHost : String
  useEphemeralPorts : Bool
  deriving DecidableEq, Repr

namespace AddressOverrides

variable (o : AddressOverrides)

/-- The host for inside clients, and whether they use the node port. When `direct` is set they go
straight to the container wherever its address is known. -/
def internal (direct : Bool) (n : ObservedNetwork) : String × Bool :=
  match o.internalAddress with
  | some host => (host, true)
  | none => match ObservedNetwork.nonEmpty n.containerAddress with
    | some address => if direct then (address, false) else (n.host, true)
    | none => (n.host, true)

/-- The observed host for all, unless direct addressing is asked for. -/
def defaultPlan (n : ObservedNetwork) : AddressPlan :=
  let inside := o.internal o.useInternalAddress n
  { internalHost := inside.1
    externalHost := o.externalAddress.getD n.host
    useEphemeralPorts := inside.2 }

/-- Inside clients go straight to the container wherever its address is known. -/
def localEnginePlan (n : ObservedNetwork) : AddressPlan :=
  let inside := o.internal true n
  { internalHost := inside.1
    externalHost := o.externalAddress.getD n.host
    useEphemeralPorts := inside.2 }

/-- Outside clients use the internal override before the observed host. -/
def hostPortPlan (n : ObservedNetwork) : AddressPlan :=
  let inside := o.internal o.useInternalAddress n
  { internalHost := inside.1
    externalHost := (o.externalAddress.or o.internalAddress).getD n.host
    useEphemeralPorts := inside.2 }

end AddressOverrides

/-- How hosts are chosen. -/
inductive AddressVariant where
  | default
  | localEngine
  | hostPort
  deriving DecidableEq, Repr

def AddressVariant.name : AddressVariant → String
  | .default => "default"
  | .localEngine => "local-engine"
  | .hostPort => "host-port"

/-- A variant and the overrides it was made with. -/
structure AddressStrategy where
  variant : AddressVariant
  overrides : AddressOverrides
  deriving DecidableEq, Repr

/-- The hosts that the variant chooses. -/
def AddressStrategy.plan (s : AddressStrategy) (n : ObservedNetwork) : AddressPlan :=
  match s.variant with
  | .default => s.overrides.defaultPlan n
  | .localEngine => s.overrides.localEnginePlan n
  | .hostPort => s.overrides.hostPortPlan n

namespace ServerRecord

/-- The path behind an address, which begins with a slash unless it is empty. -/
def pathSuffix : Option String → String
  | none => ""
  | some path => if path = "" then "" else if Text.startsWith "/" path then path else "/" ++ path

/-- The record of the server on `token`. -/
def make (token : String) (binding : PortBinding) (conf : ServerConf) (plan : AddressPlan) :
    ServerRecord :=
  let internalPort := if plan.useEphemeralPorts then binding.hostPort else Text.upTo '/' token
  let internalAddress := plan.internalHost ++ ":" ++ internalPort
  let address := plan.externalHost ++ ":" ++ binding.hostPort
  let url (address : String) :=
    conf.protocol.map fun p => p ++ "://" ++ address ++ pathSuffix conf.path
  { ref := conf.ref.getD (ServerConf.defaultRef token)
    protocol := conf.protocol
    address := address
    url := url address
    properties := ⟨conf.path, internalAddress, url internalAddress⟩ }

end ServerRecord

/-- The record of every bound port. -/
def AddressStrategy.resolve (s : AddressStrategy) (n : ObservedNetwork) (confs : ServerConfs) :
    OrderedMap String ServerRecord :=
  n.ports.filterMap fun token _ => (n.binding token).map fun b =>
    .make token b (ServerConf.resolve token confs n.labels) (s.plan n)

/-- Strategies by name, and the one for every other name. -/
structure StrategyRegistry where
  fallback : AddressStrategy
  strategies : OrderedMap String AddressStrategy
  deriving DecidableEq

namespace StrategyRegistry

/-- The name under which a registration also replaces the fallback. -/
def fallbackName : String := "default"

/-- Adds or replaces a strategy. -/
def register (r : StrategyRegistry) (name : String) (s : AddressStrategy) : StrategyRegistry where
  fallback := if name = fallbackName then s else r.fallback
  strategies := r.strategies.insert name s

/-- Every variant, with the same overrides. -/
def standard (o : AddressOverrides) : StrategyRegistry :=
  let empty : StrategyRegistry := ⟨⟨.default, o⟩, .empty⟩
  ((empty.register fallbackName ⟨.default, o⟩).register "docker-local" ⟨.localEngine, o⟩).register
    "host-port" ⟨.hostPort, o⟩

/-- The strategy registered under the name, or the fallback. -/
def get (r : StrategyRegistry) (name : String) : AddressStrategy :=
  (r.strategies.get? name).getD r.fallback

def names (r : StrategyRegistry) : List String := r.strategies.keys

end StrategyRegistry
end ContainerBridge
