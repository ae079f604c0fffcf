import ContainerBridge.Config

/-! What the lifecycle of containers needs to know of the configuration. -/

namespace ContainerBridge.Lifecycle

structure Settings where
  project : String
  serviceAccount : String
  /-- The host that node ports are reported on. -/
  nodeAddress : String
  discovery : PollConfig
  routes : RouteConfig
  strategy : AddressStrategy
  /-- The servers of every container, before those of a request. -/
  systemServers : List ServerConf
  claimName : String
  filesJob : PollConfig
  deriving DecidableEq

/-- The strategy that a configuration names. -/
def strategyOf (c : BridgeConfig) : AddressStrategy :=
  (StrategyRegistry.standard c.address.overrides).get c.address.strategy

def Settings.ofConfig (c : BridgeConfig) : Settings where
  project := c.platform.project
  serviceAccount := c.platform.serviceAccount
  nodeAddress := c.platform.nodeAddress
  discovery := c.discovery
  routes := c.routes
  strategy := strategyOf c
  systemServers := c.servers
  claimName := c.platform.workspacesPvcName
  filesJob := c.platform.filesJob

end ContainerBridge.Lifecycle
