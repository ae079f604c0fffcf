import ContainerBridge.Lifecycle.Inspect
import ContainerBridge.Lifecycle.Plan
import ContainerBridge.Cluster.State
import ContainerBridge.Proofs.OrderedMap

/-! The ports of a container, from the tokens that ask for them to the bindings that are reported.
Tokens that differ in case or in leading zeros are reported under one token. -/

namespace ContainerBridge

/-- The token by which a port is reported. -/
def Port.reported (p : Port) : String := toString p.number ++ "/" ++ Text.lower p.protocol

theorem Port.map_parse_of_parseAll {tokens : List String} {ports : List Port}
    (h : Port.parseAll tokens = .ok ports) : tokens.map Port.parse = ports.map .ok := by
  induction tokens generalizing ports with
  | nil =>
    cases h
    rfl
  | cons t tokens ih =>
    rw [parseAll] at h
    cases hp : Port.parse t with
    | error e =>
      rw [hp] at h
      cases h
    | ok p =>
      rw [hp] at h
      cases hr : Port.parseAll tokens with
      | error e =>
        rw [hr] at h
        cases h
      | ok rest =>
        rw [hr] at h
        cases h
        rw [List.map_cons, List.map_cons, hp, ih hr]

namespace Lifecycle

open Cluster Cluster.State

variable {tokens : OrderedSet String} {ports : List Port}

theorem map_parse_of_exposedPorts (h : exposedPorts tokens = .ok ports) :
    tokens.members.map Port.parse = ports.map .ok := by
  unfold exposedPorts at h
  cases hp : Port.parseAll tokens.members with
  | error e =>
    rw [hp] at h
    cases h
  | ok ports' =>
    rw [hp] at h
    cases h
    exact Port.map_parse_of_parseAll hp

/-- No token is lost: each of them has its port among those that were read. -/
theorem parse_of_mem_exposed (h : exposedPorts tokens = .ok ports) {t : String}
    (ht : t ∈ tokens.members) : ∃ p ∈ ports, Port.parse t = .ok p := by
  have hm : Port.parse t ∈ ports.map .ok :=
    map_parse_of_exposedPorts h ▸ List.mem_map_of_mem ht
  obtain ⟨p, hp, he⟩ := List.mem_map.1 hm
  exact ⟨p, hp, he.symm⟩

theorem mem_exposed {declared requested : List String} {t : String} :
    t ∈ (Port.exposed declared requested).members ↔ t ∈ declared ∨ t ∈ requested := by
  rw [Port.exposed, OrderedSet.mem_members_ofMembers, List.mem_append]

example : ["080/TCP", "+80/tcp", "80/tcp"].map
    (fun t => (Port.parse t).toOption.map Port.reported) =
      [some "80/tcp", some "80/tcp", some "80/tcp"] := by decide

end Lifecycle
end ContainerBridge
