import ContainerBridge.Cluster.Resource
import ContainerBridge.Json.Shape
import ContainerBridge.Text.Case

/-! Services and pods as the cluster's interface writes them, with most parts left open. -/

namespace ContainerBridge.Cluster

/-- What an object is called and labelled. -/
structure Metadata where
  name : Option String := none
  project : Option String := none
  labels : Option (OrderedMap String String) := none
  annotations : Option (OrderedMap String String) := none
  deriving DecidableEq

/-- A port of a pod, by its number or by its name. -/
inductive PortTarget where
  | number (n : Int)
  | name (s : String)
  deriving DecidableEq, Repr

structure PortObject where
  name : Option String := none
  protocol : Option String := none
  port : Int := 0
  target : Option PortTarget := none
  nodePort : Option Int := none
  deriving DecidableEq, Repr

structure ServiceObject where
  metadata : Metadata := {}
  serviceType : Option String := none
  selector : Option Selector := none
  ports : Option (List PortObject) := none
  deriving DecidableEq

structure PodObject where
  metadata : Metadata := {}
  phase : Option String := none
  /-- The ids of the containers; one that has not started has none. -/
  containerIds : Option (List (Option String)) := none
  deriving DecidableEq

/-- The number of a port, if the integer is one. -/
def portNumber? (n : Int) : Option UInt16 :=
  if 0 ≤ n ∧ n < 0x10000 then some (UInt16.ofNat n.toNat) else none

/-! Services. -/

/-- The port as it is asked for; the cluster writes protocols in capitals and assigns node ports. -/
def PortObject.ofPort (p : ServicePort) : PortObject :=
  { name := some p.name, protocol := some (Text.upper p.protocol), port := p.port.toNat
    target := some (.number p.targetPort.toNat) }

/-- The port that an object stands for, unless its numbers are out of range. -/
def PortObject.toPort? (p : PortObject) : Option ServicePort := do
  let number ← portNumber? p.port
  let target ← match p.target with
    | some (.number n) => portNumber? n
    | _ => some number
  return ⟨p.name.getD "", Text.lower (p.protocol.getD "TCP"), number, target,
    p.nodePort.bind portNumber?⟩

namespace ServiceObject

/-- The object by which a service is created; annotations are left out when there are none. -/
def ofService (s : Service) : ServiceObject where
  metadata :=
    { name := some s.name, project := some s.project
      annotations := if s.annotations.isEmpty then none else some s.annotations }
  serviceType := some s.serviceType
  selector := some s.selector
  ports := some (s.ports.map PortObject.ofPort)

/-- The service that an object stands for. -/
def toService (o : ServiceObject) : Service where
  project := o.metadata.project.getD ""
  name := o.metadata.name.getD ""
  serviceType := o.serviceType.getD ""
  selector := o.selector.getD .empty
  ports := (o.ports.getD []).filterMap PortObject.toPort?
  annotations := o.metadata.annotations.getD .empty

end ServiceObject

/-- The pod that an object stands for. -/
def PodObject.toPod (o : PodObject) : Pod where
  project := o.metadata.project.getD ""
  name := o.metadata.name.getD ""
  labels := o.metadata.labels.getD .empty
  containerIds := (o.containerIds.getD []).filterMap id
  phase := o.phase

/-! Their JSON. -/

open Json

namespace Metadata

def toJson (m : Metadata) : Value :=
  .ofMembers [("name", m.name.map .text), ("namespace", m.project.map .text),
    ("labels", m.labels.map .textMap), ("annotations", m.annotations.map .textMap)]

def ofJson (v : Value) : Metadata :=
  ⟨v.text? "name", v.text? "namespace", v.texts? "labels", v.texts? "annotations"⟩

end Metadata

namespace PortTarget

def toJson : PortTarget → Value
  | number n => .int n
  | name s => .text s

def ofJson? : Value → Option PortTarget
  | .number (.int n) => some (number n)
  | .string s => some (name s)
  | _ => none

end PortTarget

namespace PortObject

def toJson (p : PortObject) : Value :=
  .ofMembers [("name", p.name.map .text), ("protocol", p.protocol.map .text),
    ("port", some (.int p.port)), ("targetPort", p.target.map PortTarget.toJson),
    ("nodePort", p.nodePort.map .int)]

def ofJson (v : Value) : PortObject :=
  ⟨v.text? "name", v.text? "protocol", (v.int? "port").getD 0,
    PortTarget.ofJson? (v.member "targetPort"), v.int? "nodePort"⟩

end PortObject

namespace ServiceObject

def toJson (o : ServiceObject) : Value :=
  .ofMembers [("apiVersion", some (.text "v1")), ("kind", some (.text "Service")),
    ("metadata", some o.metadata.toJson),
    ("spec", some (.ofMembers [("type", o.serviceType.map .text),
      ("selector", o.selector.map .textMap),
      ("ports", o.ports.map fun l => .array (l.map PortObject.toJson))]))]

def ofJson (v : Value) : ServiceObject where
  metadata := .ofJson (v.member "metadata")
  serviceType := (v.member "spec").text? "type"
  selector := (v.member "spec").texts? "selector"
  ports := ((v.member "spec").items? "ports").map (·.map PortObject.ofJson)

end ServiceObject

def PodObject.ofJson (v : Value) : PodObject where
  metadata := .ofJson (v.member "metadata")
  phase := (v.member "status").text? "phase"
  containerIds := ((v.member "status").items? "containerStatuses").map
    (·.map fun s => s.text? "containerID")

end ContainerBridge.Cluster
