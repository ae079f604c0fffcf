import ContainerBridge.Poll.Basic
import ContainerBridge.Server.Address

/-! Settings of the bridge. -/

namespace ContainerBridge

/-- How the cluster is reached and used. -/
structure PlatformConfig where
  /-- The project that holds the workspaces' resources. -/
  project : String := "eclipse-che"
  serviceAccount : String := "cheserviceaccount"
  kubeconfig : Option String := none
  apiEndpoint : Option String := none
  /-- The host on which node ports are reached. -/
  nodeAddress : String := "172.17.0.1"
  /-- The claim that holds the workspaces' project files. -/
  workspacesPvcName : String := "claim-che-workspace"
  filesJob : PollConfig := {}
  deriving DecidableEq

/-- How server addresses are chosen. -/
structure AddressConfig where
  strategy : String := StrategyRegistry.fallbackName
  overrides : AddressOverrides := {}
  deriving DecidableEq

/-- Whether servers get routes, and under which host. -/
structure RouteConfig where
  enabled : Bool := false
  tls : Bool := false
  externalAddress : Option String := none
  deriving DecidableEq

structure EngineConfig where
  url : String := "http://127.0.0.1:2375"
  timeoutSecs : UInt64 := 30
  deriving DecidableEq

structure BridgeConfig where
  connector : String := "openshift"
  platform : PlatformConfig := {}
  address : AddressConfig := {}
  discovery : PollConfig := {}
  routes : RouteConfig := {}
  engine : EngineConfig := {}
  /-- The servers of every workspace. -/
  servers : List ServerConf := []
  deriving DecidableEq

open Json

namespace PlatformConfig

def decoder : Decoder PlatformConfig := Record.decoder <|
  PlatformConfig.mk <$> .optional "namespace" "eclipse-che" .text
    <*> .optional "service_account" "cheserviceaccount" .text <*> .maybe "kubeconfig" .text
    <*> .maybe "api_endpoint" .text <*> .optional "node_address" "172.17.0.1" .text
    <*> .optional "workspaces_pvc_name" "claim-che-workspace" .text
    <*> .optional "files_job" {} PollConfig.decoder

end PlatformConfig

namespace AddressOverrides

def record : Record AddressOverrides :=
  AddressOverrides.mk <$> .maybe "internal_address" .text <*> .maybe "external_address" .text
    <*> .optional "use_internal_address" false .bool

end AddressOverrides

namespace AddressConfig

/-- The overrides stand among the members of the section itself. -/
def decoder : Decoder AddressConfig := Record.ofValues <|
  AddressConfig.mk <$> .optional "strategy" StrategyRegistry.fallbackName .text
    <*> AddressOverrides.record

end AddressConfig

namespace RouteConfig

def decoder : Decoder RouteConfig := Record.decoder <|
  RouteConfig.mk <$> .optional "enabled" false .bool <*> .optional "tls" false .bool
    <*> .maybe "external_address" .text

end RouteConfig

namespace EngineConfig

def decoder : Decoder EngineConfig := Record.decoder <|
  EngineConfig.mk <$> .optional "url" "http://127.0.0.1:2375" .text
    <*> .optional "timeout_secs" 30 .uint64

end EngineConfig

namespace BridgeConfig

def record : Record BridgeConfig :=
  BridgeConfig.mk <$> .optional "connector" "openshift" .text
    <*> .optional "platform" {} PlatformConfig.decoder
    <*> .optional "address" {} AddressConfig.decoder <*> .optional "discovery" {} PollConfig.decoder
    <*> .optional "routes" {} RouteConfig.decoder <*> .optional "engine" {} EngineConfig.decoder
    <*> .optional "servers" [] (.list ServerConf.decoder)

def decoder : Decoder BridgeConfig := record.decoder

end BridgeConfig
end ContainerBridge
