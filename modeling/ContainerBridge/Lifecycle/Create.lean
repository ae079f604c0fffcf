import ContainerBridge.Lifecycle.Discovery
import ContainerBridge.Lifecycle.Plan

/-! Creating the container of a workspace: every check comes before the first change. -/

namespace ContainerBridge.Lifecycle

/-- The ports that the image declares; an unknown image declares none. -/
def imagePorts (image : String) : Operation (List String) := do
  return ((← Operation.engine (.inspectImage image)).map ImageInfo.exposedPorts).getD []

def requireProject (s : Settings) : Operation Unit := do
  let found : Bool ← Operation.cluster (.projectExists s.project)
  if found then return ()
  else throw (.resourceNotFound .project s.project)

/-- Checks a request without changing anything. -/
def plan (s : Settings) (spec : ContainerSpec) : Operation Plan := do
  let names ← Operation.check (Names.ofSpec spec)
  let declared ← imagePorts spec.image
  let plan ← Operation.check (Plan.make s names spec declared)
  requireProject s
  return plan

def createRoutes : List Cluster.Route → Operation Unit
  | [] => return ()
  | r :: rest => do
    Operation.cluster (.createRoute r)
    createRoutes rest

/-- Creates the resources of a plan and waits for its container. -/
def carryOut (s : Settings) (spec : ContainerSpec) (p : Plan) : Operation ContainerCreated := do
  Operation.log (.createRequested s.project p.names.workspaceId spec.image p.exposed.size)
  Operation.cluster (.createService (p.service s spec))
  Operation.log (.serviceCreated s.project p.names.workspaceId p.names.resource)
  Operation.cluster (.createDeployment (p.deployment s spec))
  Operation.log (.deploymentCreated s.project p.names.workspaceId p.names.resource)
  createRoutes (p.routes s)
  let found ← discover s p.names.resource
  return ⟨found.containerId, []⟩

/-- Creates a container, and counts it or its failure. -/
def create (s : Settings) (spec : ContainerSpec) : Operation ContainerCreated :=
  Operation.concluding (do carryOut s spec (← plan s spec))
    (do Task.measure .createLatency; Task.measure .containerCreated)
    fun e => Task.measure (.failure .create e.kind)

end ContainerBridge.Lifecycle
