/-! How far the creation of a container has come. -/

namespace ContainerBridge.Lifecycle

inductive Progress where
  | requested
  | serviceCreated
  | deploymentCreated
  | discovering
  | ready
  | failed
  deriving DecidableEq, Repr

namespace Progress

def name : Progress → String
  | requested => "requested"
  | serviceCreated => "service_created"
  | deploymentCreated => "deployment_created"
  | discovering => "discovering"
  | ready => "ready"
  | failed => "failed"

def all : List Progress :=
  [requested, serviceCreated, deploymentCreated, discovering, ready, failed]

def ofName? (s : String) : Option Progress := all.find? (·.name = s)

def isTerminal : Progress → Bool
  | ready | failed => true
  | _ => false

/-- A creation goes on step by step; one that has not ended may fail. -/
def allows : Progress → Progress → Bool
  | requested, serviceCreated | serviceCreated, deploymentCreated
  | deploymentCreated, discovering | discovering, ready => true
  | p, failed => !p.isTerminal
  | _, _ => false

/-- Goes on to `next` where that is allowed, and stays otherwise. -/
def advance (p next : Progress) : Progress := if p.allows next then next else p

/-- Where a sequence of requests leads. -/
def advanceAll (p : Progress) (requests : List Progress) : Progress := requests.foldl advance p

end Progress
end ContainerBridge.Lifecycle
