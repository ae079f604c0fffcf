import ContainerBridge.Duration
import ContainerBridge.Json.Decoder

/-! Waiting for something by asking again and again, a bounded number of times. -/

namespace ContainerBridge

/-- How long to wait before every attempt, and how many attempts to make. -/
structure PollConfig where
  intervalMs : UInt64 := 1000
  maxAttempts : UInt32 := 120
  deriving DecidableEq, Repr

namespace PollConfig

def interval (c : PollConfig) : Duration := .ofMilliseconds c.intervalMs

/-- The longest time that all waits together may take. -/
def ceiling (c : PollConfig) : Duration := c.interval.repeated c.maxAttempts.toNat

def decoder : Json.Decoder PollConfig := Json.Record.decoder <|
  PollConfig.mk <$> .optional "interval_ms" 1000 .uint64 <*> .optional "max_attempts" 120 .uint32

end PollConfig

/-- A value that polling found, and the attempt that found it. -/
structure Polled (α : Type) where
  value : α
  attempts : Nat
  deriving DecidableEq, Repr

/-- Why polling stopped without a value. -/
inductive PollStop (ε : Type) where
  | exhausted (attempts : Nat) (waited : Duration)
  | cancelled (attempts : Nat)
  | failed (error : ε)
  deriving DecidableEq

namespace PollStop

def message : PollStop String → String
  | .exhausted attempts waited => s!"gave up after {attempts} attempts (" ++ waited.text ++ ")"
  | .cancelled attempts => s!"polling cancelled after {attempts} attempts"
  | .failed error => error

end PollStop

/-- Makes up to `left` more attempts after `made`. `wait` tells whether the interval passed without
a cancellation; `probe` finds a value, fails, or finds nothing yet. -/
def pollFrom {m : Type → Type} [Monad m] {ε α : Type} (interval : Duration) (wait : m Bool)
    (probe : m (Except ε (Option α))) (made : Nat) : Nat → m (Except (PollStop ε) (Polled α))
  | 0 => pure (.error (.exhausted made (interval.repeated made)))
  | left + 1 => do
    if ← wait then
      match ← probe with
      | .error e => pure (.error (.failed e))
      | .ok (some a) => pure (.ok ⟨a, made + 1⟩)
      | .ok none => pollFrom interval wait probe (made + 1) left
    else pure (.error (.cancelled made))

/-- Polls as the configuration says. -/
def PollConfig.poll {m : Type → Type} [Monad m] {ε α : Type} (c : PollConfig) (wait : m Bool)
    (probe : m (Except ε (Option α))) : m (Except (PollStop ε) (Polled α)) :=
  pollFrom c.interval wait probe 0 c.maxAttempts.toNat

end ContainerBridge
