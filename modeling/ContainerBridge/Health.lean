import ContainerBridge.Json.Decoder

/-! The health of the parts that the agent depends on. -/

namespace ContainerBridge.Health

inductive Status where
  | healthy
  | degraded
  | unhealthy
  deriving DecidableEq, Repr

namespace Status

def name : Status → String
  | healthy => "healthy"
  | degraded => "degraded"
  | unhealthy => "unhealthy"

def ofName? (s : String) : Option Status := [healthy, degraded, unhealthy].find? (·.name = s)

def rank : Status → Nat
  | healthy => 0
  | degraded => 1
  | unhealthy => 2

/-- The worse of two. -/
def worse (a b : Status) : Status := if a.rank < b.rank then b else a

def worst (l : List Status) : Status := l.foldl worse healthy

end Status

/-- What was last found of a component. -/
structure Component where
  status : Status
  message : Option String
  /-- When it was found, in seconds. -/
  checkedAt : Int64
  /-- How many probes have failed since the last one that did not. -/
  failures : UInt32 := 0
  deriving DecidableEq, Repr

structure Registry where
  components : OrderedMap String Component := .empty
  connectorBuilt : Bool := false
  deriving DecidableEq

/-- The health of all components; the worst of them is that of the whole. -/
structure Report where
  status : Status
  components : OrderedMap String Component
  deriving DecidableEq

/-- Whether requests can be served, and why not. -/
structure Readiness where
  ready : Bool
  reason : Option String
  deriving DecidableEq, Repr

namespace Registry

def set (name : String) (c : Component) (r : Registry) : Registry :=
  { r with components := r.components.insert name c }

/-- A component counts as healthy until something else is found. -/
def register (now : Int64) (name : String) : Registry → Registry :=
  set name ⟨.healthy, none, now, 0⟩

/-- What is found of a component otherwise than by a probe; it ends a row of failures. -/
def note (now : Int64) (name : String) (status : Status) (message : Option String) :
    Registry → Registry :=
  set name ⟨status, message, now, 0⟩

def setHealthy (now : Int64) (name : String) : Registry → Registry := note now name .healthy none

def setDegraded (now : Int64) (name message : String) : Registry → Registry :=
  note now name .degraded (some message)

def setUnhealthy (now : Int64) (name message : String) : Registry → Registry :=
  note now name .unhealthy (some message)

/-- The next count, which stays within a word. -/
def nextFailure (n : UInt32) : UInt32 := if n.toNat + 1 < UInt32.size then n + 1 else n

/-- Records a probe: a failure has the status `onFailure`. -/
def probe (now : Int64) (name : String) (failure : Option String) (onFailure : Status)
    (r : Registry) : Registry :=
  let earlier := ((r.components.get? name).map Component.failures).getD 0
  r.set name (match failure with
    | none => ⟨.healthy, none, now, 0⟩
    | some message => ⟨onFailure, some message, now, nextFailure earlier⟩)

def setBuilt (built : Bool) (r : Registry) : Registry := { r with connectorBuilt := built }

def report (r : Registry) : Report :=
  ⟨Status.worst (r.components.values.map Component.status), r.components⟩

def complaint (name : String) (c : Component) : String :=
  match c.message with
  | some message => name ++ ": " ++ message
  | none => name

/-- The components that are unhealthy, in the order of their names. -/
def complaints (r : Registry) : List String :=
  (r.components.entries.filter (·.2.status = .unhealthy)).map fun e => complaint e.1 e.2

/-- Ready once the connector is built, unless a component is unhealthy. -/
def readiness (r : Registry) : Readiness :=
  if !r.connectorBuilt then ⟨false, some "Connector not yet built"⟩
  else if r.complaints.isEmpty then ⟨true, none⟩
  else ⟨false, some ("Unhealthy components: " ++ "; ".intercalate r.complaints)⟩

end Registry

open Json

def Status.decoder : Decoder Status := .variant Status.ofName?

namespace Component

def toJson (c : Component) : Value :=
  .ofMembers [("status", some (.text c.status.name)), ("message", c.message.map .text),
    ("last_check_timestamp", some (.int c.checkedAt.toInt)),
    ("consecutive_failures", some (.nat c.failures.toNat))]

def decoder : Decoder Component := Record.decoder <|
  Component.mk <$> .required "status" Status.decoder <*> .maybe "message" .text
    <*> .required "last_check_timestamp" .int64 <*> .optional "consecutive_failures" 0 .uint32

end Component

namespace Report

def toJson (r : Report) : Value :=
  .ofMembers [("status", some (.text r.status.name)),
    ("components", some (.ofMap (r.components.mapValues fun _ => Component.toJson)))]

def decoder : Decoder Report := Record.decoder <|
  Report.mk <$> .required "status" Status.decoder
    <*> .required "components" (.object Component.decoder)

end Report

namespace Readiness

def toJson (r : Readiness) : Value :=
  .ofMembers [("ready", some (.bool r.ready)), ("reason", r.reason.map .text)]

def decoder : Decoder Readiness := Record.decoder <|
  Readiness.mk <$> .required "ready" .bool <*> .maybe "reason" .text

end Readiness
end ContainerBridge.Health
