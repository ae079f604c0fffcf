import ContainerBridge.Cluster.Object
import ContainerBridge.Cluster.Resource
import ContainerBridge.Proofs.Case

/-! Services as they are read back from the objects by which they are created. The cluster fills in
the node ports; else nothing changes but the case of protocols, which ASCII protocols in small
letters keep. -/

namespace ContainerBridge.Cluster

/-- Every port of a service is a port in the range that is read. -/
theorem portNumber?_toNat (n : UInt16) : portNumber? n.toNat = some n := by
  have hlt := n.toNat_lt
  rw [portNumber?, if_pos (by omega), Int.toNat_natCast, UInt16.ofNat_toNat]

/-- The port as the cluster returns it, with its node port if it was given one. -/
def PortObject.assigned (o : PortObject) (nodePort : Option UInt16) : PortObject :=
  { o with nodePort := nodePort.map fun n => n.toNat }

/-- The object as the cluster returns it; the port at place `i` is given the node port `nodePorts
i`. -/
def ServiceObject.assigned (o : ServiceObject) (nodePorts : Nat → Option UInt16) : ServiceObject :=
  { o with ports := o.ports.map (·.mapIdx fun i p => p.assigned (nodePorts i)) }

/-- The port with a node port, and its protocol as it comes back from capitals. -/
def readBack (p : ServicePort) (nodePort : Option UInt16) : ServicePort :=
  { p with protocol := Text.lower (Text.upper p.protocol), nodePort := nodePort }

/-- A port that is written is read, whatever node port it is given. -/
theorem toPort?_assigned (p : ServicePort) (nodePort : Option UInt16) :
    ((PortObject.ofPort p).assigned nodePort).toPort? = some (readBack p nodePort) := by
  have hnode : (nodePort.map fun n => (n.toNat : Int)).bind portNumber? = nodePort := by
    cases nodePort with
    | none => rfl
    | some n => rw [Option.map_some, Option.bind_some, portNumber?_toNat]
  simp only [PortObject.toPort?, PortObject.assigned, PortObject.ofPort, portNumber?_toNat, hnode]
  rfl

theorem filterMap_toPort?_assigned (ports : List ServicePort) (nodePorts : Nat → Option UInt16) :
    ((ports.map PortObject.ofPort).mapIdx fun i o => o.assigned (nodePorts i)).filterMap
      PortObject.toPort? = ports.mapIdx fun i p => readBack p (nodePorts i) := by
  induction ports generalizing nodePorts with
  | nil => rfl
  | cons p ports ih =>
    rw [List.map_cons, List.mapIdx_cons, List.mapIdx_cons,
      List.filterMap_cons_some (toPort?_assigned p (nodePorts 0)), ih fun i => nodePorts (i + 1)]

/-- Annotations are left out when there are none, and are then read as none. -/
theorem getD_annotations (annotations : OrderedMap String String) :
    (if annotations.isEmpty then none else some annotations).getD .empty = annotations := by
  cases h : annotations.isEmpty with
  | false => rfl
  | true => exact (OrderedMap.ext_entries (List.isEmpty_iff.1 h)).symm

/-- A service that is created is read back with the node ports that the cluster gave its ports, all
of them in their order, and with its protocols as they come back from capitals; the protocols are
the same if they are ASCII in small letters. -/
theorem toService_assigned (s : Service) (nodePorts : Nat → Option UInt16) :
    let read := ((ServiceObject.ofService s).assigned nodePorts).toService
    read = { s with ports := s.ports.mapIdx fun i p => readBack p (nodePorts i) } ∧
      ((∀ p ∈ s.ports, ∀ c ∈ p.protocol.toList, Text.IsSmall c) →
        read =
          { s with ports := s.ports.mapIdx fun i p => { p with nodePort := nodePorts i } }) := by
  intro read
  have hread : read = { s with ports := s.ports.mapIdx fun i p => readBack p (nodePorts i) } := by
    simp only [read, ServiceObject.toService, ServiceObject.assigned, ServiceObject.ofService,
      Option.map_some, Option.getD_some, filterMap_toPort?_assigned, getD_annotations]
  refine ⟨hread, fun hsmall => ?_⟩
  have hports : s.ports.mapIdx (fun i p => readBack p (nodePorts i)) =
      s.ports.mapIdx fun i p => { p with nodePort := nodePorts i } := by
    refine List.mapIdx_eq_mapIdx_iff.2 fun i hi => ?_
    rw [readBack, Text.lower_upper (hsmall _ (List.getElem_mem hi))]
  rw [hread, hports]

theorem toService_assigned_sampleService :
    let s : Service := ⟨"che", "che-ws-k6", "NodePort", .singleton deploymentLabel "che-ws-k6",
      [⟨"wsagent", "tcp", 4401, 4401, none⟩, ⟨"53-udp", "udp", 53, 5353, none⟩], .empty⟩
    let nodePorts : Nat → Option UInt16 := fun i => if i = 0 then some 65535 else none
    (∀ p ∈ s.ports, ∀ c ∈ p.protocol.toList, Text.IsSmall c) ∧
      ((ServiceObject.ofService s).assigned nodePorts).toService = { s with ports :=
        [⟨"wsagent", "tcp", 4401, 4401, some 65535⟩, ⟨"53-udp", "udp", 53, 5353, none⟩] } := by
  intro s nodePorts
  have hall :
      s.ports.all (fun p => p.protocol.toList.all fun c => decide (Text.IsSmall c)) = true := by
    decide +kernel
  have hsmall : ∀ p ∈ s.ports, ∀ c ∈ p.protocol.toList, Text.IsSmall c := fun p hp c hc =>
    of_decide_eq_true (List.all_eq_true.1 (List.all_eq_true.1 hall p hp) c hc)
  exact ⟨hsmall, (toService_assigned s nodePorts).2 hsmall⟩

end ContainerBridge.Cluster
