import ContainerBridge.Action
import ContainerBridge.Cluster.State
import ContainerBridge.Engine.State
import ContainerBridge.Poll.Clock

/-! A world in which operations run: a cluster and an engine in memory, which may have outages, a
clock, and what was logged and counted. -/

namespace ContainerBridge

/-- The calls of a method, from the one numbered `first` to the one numbered `last`, fail. -/
structure Outage where
  method : String
  first : Nat
  last : Option Nat
  status : UInt16
  message : String
  /-- The calls counted so far. -/
  seen : Nat := 0
  deriving DecidableEq, Repr

namespace Outage

def count (method : String) (o : Outage) : Outage :=
  if o.method = method then { o with seen := o.seen + 1 } else o

/-- Whether the call that was counted last fails. -/
def strikes (method : String) (o : Outage) : Bool :=
  o.method = method && o.first ≤ o.seen && o.last.all (o.seen ≤ ·)

/-- Counts a call; the first outage that strikes tells its status and message. -/
def check (method : String) (os : List Outage) : Option (UInt16 × String) × List Outage :=
  let os := os.map (count method)
  ((os.find? (strikes method)).map fun o => (o.status, o.message), os)

end Outage

structure World where
  cluster : Cluster.State := {}
  clusterOutages : List Outage := []
  engine : Engine.State := {}
  engineOutages : List Outage := []
  clock : Clock := {}
  events : List Event := []
  measures : List Measure := []

namespace World

/-- Puts a call to the cluster. -/
def reachCluster (q : Cluster.Request) (w : World) : Except ClusterFailure q.Answer × World :=
  let (r, s) := w.cluster.answer q
  (r, { w with cluster := s })

/-- The method under which outages let pods vanish. -/
def vanishing : String := "pod_phase_gone"

/-- Calls the cluster, unless an outage strikes. -/
def askCluster (q : Cluster.Request) (w : World) : Except ClusterFailure q.Answer × World :=
  match Outage.check q.method w.clusterOutages with
  | (some (status, message), os) => (.error (.api status message), { w with clusterOutages := os })
  | (none, os) => match q with
    | .podPhase project name =>
      match Outage.check vanishing os with
      | (some _, os) => (.ok none, { w with clusterOutages := os })
      | (none, os) => reachCluster (.podPhase project name) { w with clusterOutages := os }
    | q => reachCluster q { w with clusterOutages := os }

/-- Calls the engine, unless an outage strikes. -/
def askEngine (q : Engine.Request) (w : World) : Except EngineFailure q.Answer × World :=
  match Outage.check q.method w.engineOutages with
  | (some (status, message), os) => (.error (.api status message), { w with engineOutages := os })
  | (none, os) =>
    let (r, s) := w.engine.answer q
    (r, { w with engine := s, engineOutages := os })

/-- The world's reply to an action, and the world after it. -/
def answer : (a : Action) → World → a.Reply × World
  | .cluster q, w => w.askCluster q
  | .engine q, w => w.askEngine q
  | .wait d, w =>
    let (passed, clock) := w.clock.wait d
    (passed, { w with clock := clock })
  | .log e, w => ((), { w with events := w.events ++ [e] })
  | .measure m, w => ((), { w with measures := w.measures ++ [m] })

/-- Runs an operation. -/
def run {α : Type} (x : Operation α) (w : World) : Except BridgeError α × World :=
  Program.run answer x.run w

/-- Runs an operation whose waits may be cancelled. -/
def runWith {α : Type} (cancelled : Bool) (afterMs : Option Nat) (x : Operation α) (w : World) :
    Except BridgeError α × World :=
  run x { w with clock := .starting cancelled afterMs }

end World
end ContainerBridge
