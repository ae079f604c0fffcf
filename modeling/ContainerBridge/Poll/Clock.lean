import ContainerBridge.Poll.Basic

/-! A clock on which time passes only in waits, and polling against it. -/

namespace ContainerBridge

/-- The time in nanoseconds, and when the wait in hand is cancelled. -/
structure Clock where
  now : Nat := 0
  cancelAt : Option Nat := none
  deriving DecidableEq, Repr

namespace Clock

def cancelled (c : Clock) : Bool := c.cancelAt.any (· ≤ c.now)

/-- Waits for `d` unless a cancellation comes first; tells whether the wait came to its end. -/
def wait (d : Duration) (c : Clock) : Bool × Clock :=
  match c.cancelAt with
  | none => (true, { c with now := c.now + d.nanoseconds })
  | some t =>
    if t ≤ c.now then (false, c)
    else if t < c.now + d.nanoseconds then (false, { c with now := t })
    else (true, { c with now := c.now + d.nanoseconds })

/-- Cancels from now on. -/
def cancel (c : Clock) : Clock :=
  { c with cancelAt := some (match c.cancelAt with
    | none => c.now
    | some t => min t c.now) }

/-- A clock that starts at zero and is cancelled at the given times. -/
def starting (cancelled : Bool) (afterMs : Option Nat) : Clock where
  cancelAt := if cancelled then some 0 else afterMs.map (· * 1000000)

end Clock

/-- A poll in progress: its clock, the probes made, the results to come, and the probe during which
it is cancelled. -/
structure PollTrial (ε α : Type) where
  clock : Clock
  probes : Nat := 0
  results : List (Except ε (Option α))
  cancelOn : Option Nat := none

namespace PollTrial
variable {ε α : Type}

def wait (d : Duration) : StateM (PollTrial ε α) Bool := fun t =>
  let (passed, clock) := t.clock.wait d
  (passed, { t with clock := clock })

/-- The next result; beyond the last one there is never a value. -/
def probe : StateM (PollTrial ε α) (Except ε (Option α)) := fun t =>
  let n := t.probes + 1
  let clock := if t.cancelOn = some n then t.clock.cancel else t.clock
  match t.results with
  | [] => (.ok none, { t with clock := clock, probes := n })
  | r :: rest => (r, { t with clock := clock, probes := n, results := rest })

/-- The outcome of at most `n` attempts with waits of `d` before them, and the trial after it. -/
def pollEvery (d : Duration) (n : Nat) (t : PollTrial ε α) :
    Except (PollStop ε) (Polled α) × PollTrial ε α :=
  (pollFrom d (wait d) probe 0 n : StateM (PollTrial ε α) _) t

/-- The outcome of a poll as the configuration says, and the trial after it. -/
def poll (c : PollConfig) (t : PollTrial ε α) :
    Except (PollStop ε) (Polled α) × PollTrial ε α :=
  t.pollEvery c.interval c.maxAttempts.toNat

end PollTrial
end ContainerBridge
