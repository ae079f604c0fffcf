import ContainerBridge.Agent.Layer
import ContainerBridge.Config

/-! The agent's own settings, and the sources they are read from. -/

namespace ContainerBridge.Agent

open Json

structure Settings where
  apiPort : UInt16 := 8080
  /-- The seconds between probes of the cluster and the engine. -/
  healthIntervalSecs : UInt64 := 30
  bridge : BridgeConfig := {}
  deriving DecidableEq

namespace Settings

inductive Fault where
  /-- A source cannot be read. -/
  | unreadable
  /-- A setting has no value of its kind. -/
  | invalid
  deriving DecidableEq, Repr

def Fault.message : Fault → String
  | .unreadable => "failed to read agent configuration"
  | .invalid => "invalid agent configuration"

/-- A number of up to sixty-four bits out of a value of any kind; fractions are rounded. -/
def lenient (v : Value) : Option Nat :=
  match v with
  | .bool b => some b.toNat
  | .number (.int n) => if 0 ≤ n && n.toNat < UInt64.size then some n.toNat else none
  | .number (.double d) => some (Float.ofBits d.bits).round.toUInt64.toNat
  | .string s =>
    if ["true", "on", "yes"].contains (Text.lower s) then some 1
    else if ["false", "off", "no"].contains (Text.lower s) then some 0
    else Text.natural? UInt64.size s.toList
  | _ => none

/-- The number under a name, `absent` when there is none. -/
def numberAt (settings : Value) (name : String) (limit absent : Nat) : Except Fault Nat :=
  match (Layer.members settings).get? name with
  | none => .ok absent
  | some v => match (lenient v).filter (· < limit) with
    | some n => .ok n
    | none => .error .invalid

/-- Reads the agent's numbers leniently, and the settings of the bridge beside them strictly. -/
def ofLayers (settings : Value) : Except Fault Settings := do
  let port ← numberAt settings "api_port" UInt16.size 8080
  let interval ← numberAt settings "health_interval_secs" UInt64.size 30
  match BridgeConfig.record.ofObject.ofValue settings with
  | .ok bridge => return ⟨UInt16.ofNat port, UInt64.ofNat interval, bridge⟩
  | .error _ => throw .invalid

/-- A configuration file. -/
inductive File where
  | missing
  | present (text : String)
  deriving DecidableEq, Repr

/-- The settings of a file, with those of the environment laid over them. -/
def ofSources (file : Option File) (env : OrderedMap String String) : Except Fault Settings :=
  let base : Except Fault Value := match file with
    | none => .ok (.object [])
    | some .missing => .error .unreadable
    | some (.present text) => match Layer.ofFile text with
      | some settings => .ok (Layer.lay settings (.object []))
      | none => .error .unreadable
  match base with
  | .error e => .error e
  | .ok v => ofLayers (Layer.lay (Layer.ofEnvironment env) v)

end Settings
end ContainerBridge.Agent
