import ContainerBridge.Cluster.Request
import ContainerBridge.Engine.Request
import ContainerBridge.Event
import ContainerBridge.Poll.Basic
import ContainerBridge.Program

/-! What the operations of the bridge do: they call the cluster and the engine, wait, log and
count. -/

namespace ContainerBridge

inductive Action where
  | cluster (q : Cluster.Request)
  | engine (q : Engine.Request)
  | wait (d : Duration)
  | log (e : Event)
  | measure (m : Measure)

/-- A wait replies whether it came to its end before a cancellation. -/
def Action.Reply : Action → Type
  | cluster q => Except ClusterFailure q.Answer
  | engine q => Except EngineFailure q.Answer
  | wait _ => Bool
  | log _ | measure _ => Unit

/-- A program of actions. -/
abbrev Task := Program Action.Reply

/-- A program of actions that may fail. -/
abbrev Operation := ExceptT BridgeError Task

namespace Task

def cluster (q : Cluster.Request) : Task (Except ClusterFailure q.Answer) :=
  Program.request (Action.cluster q)

def engine (q : Engine.Request) : Task (Except EngineFailure q.Answer) :=
  Program.request (Action.engine q)

def wait (d : Duration) : Task Bool := Program.request (Action.wait d)

def log (e : Event) : Task Unit := Program.request (Action.log e)

def measure (m : Measure) : Task Unit := Program.request (Action.measure m)

end Task

namespace Operation

variable {α : Type}

/-- A task whose outcome is that of the operation. -/
def ofOutcome (x : Task (Except BridgeError α)) : Operation α := ExceptT.mk x

def cluster (q : Cluster.Request) : Operation q.Answer :=
  ofOutcome do return (← Task.cluster q).mapError BridgeError.cluster

def engine (q : Engine.Request) : Operation q.Answer :=
  ofOutcome do return (← Task.engine q).mapError BridgeError.engine

def log (e : Event) : Operation Unit := ExceptT.lift (Task.log e)

def measure (m : Measure) : Operation Unit := ExceptT.lift (Task.measure m)

/-- A fault of the request ends the operation. -/
def check : Except SpecFault α → Operation α
  | .ok a => pure a
  | .error e => throw e.error

/-- Runs an operation and then what follows its success or its failure. -/
def concluding (x : Operation α) (onOk : Task Unit) (onError : BridgeError → Task Unit) :
    Operation α :=
  ofOutcome do
    match ← x.run with
    | .ok a => do onOk; return .ok a
    | .error e => do onError e; return .error e

end Operation
end ContainerBridge
