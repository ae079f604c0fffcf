import ContainerBridge.Proofs.Calls
import ContainerBridge.Proofs.Entries
import ContainerBridge.Proofs.Measures
import ContainerBridge.Proofs.OrderedMap
import Mathlib.Algebra.GroupWithZero.Nat

/-! What the counters tell of a sequence of calls. Every call is counted once, by what it is and how
it ended, whatever happens in between. -/

namespace ContainerBridge

namespace Measure

/-- How far the counter of a name has come. -/
def total (name : String) (ms : List Measure) : Nat := ((totals ms).get? name).getD 0

/-- The counters of calls. -/
inductive Counter where
  | created
  | createLatencies
  | discoveries
  | removed
  | inspected
  | failures (operation : OperationName) (kind : String)
  deriving DecidableEq

def Counter.name : Counter → String
  | created => "containers_created_total"
  | createLatencies => "create_latency_seconds_count"
  | discoveries => "discovery_attempts_count"
  | removed => "containers_removed_total"
  | inspected => "container_inspections_total"
  | failures operation kind => "operation_failures_total/" ++ operation.text ++ "/" ++ kind

/-- The counter that a measure lets grow by one. -/
def counter : Measure → Counter
  | containerCreated => .created
  | containerRemoved => .removed
  | containerInspected => .inspected
  | failure operation kind => .failures operation kind
  | createLatency => .createLatencies
  | discoveryAttempts _ => .discoveries

theorem getD_foldl_totals (name : String) (l : List (String × Nat)) (t : OrderedMap String Nat) :
    ((l.foldl (fun t e => t.insert e.1 ((t.get? e.1).getD 0 + e.2)) t).get? name).getD 0 =
      (t.get? name).getD 0 + ((l.filter (·.1 = name)).map (·.2)).sum := by
  induction l generalizing t with
  | nil => rfl
  | cons e l ih =>
    rw [List.foldl_cons, ih, OrderedMap.get?_insert]
    by_cases h : e.1 = name
    · rw [if_pos h.symm, List.filter_cons_of_pos (by simpa using h), List.map_cons, List.sum_cons,
        Option.getD_some, h]
      omega
    · rw [if_neg (Ne.symm h), List.filter_cons_of_neg (by simpa using h)]

theorem total_eq_sum (name : String) (ms : List Measure) : total name ms =
    (((ms.flatMap growth).filter (·.1 = name)).map (·.2)).sum := by
  rw [total, totals, getD_foldl_totals, OrderedMap.get?_empty, Option.getD_none, Nat.zero_add]

theorem total_append (name : String) (ms ms' : List Measure) :
    total name (ms ++ ms') = total name ms + total name ms' := by
  simp [total_eq_sum]

theorem Counter.name_failures (operation : OperationName) (kind : String) :
    (failures operation kind).name =
      "operation_failures_total/" ++ operation.text ++ "/" ++ kind := rfl

theorem Counter.head?_name_failures (operation : OperationName) (kind : String) :
    (failures operation kind).name.toList.head? = some 'o' := by
  simp [name_failures]

/-- No slash ends the name of an operation before its end, so that it can be told from the kind. -/
theorem Counter.name_failures_injective {o o' : OperationName} {k k' : String}
    (h : (failures o k).name = (failures o' k').name) : o = o' ∧ k = k' := by
  have hslash : ∀ o : OperationName, '/' ∉ o.text.toList := by
    intro o
    cases o <;> decide
  have hlist : o.text.toList ++ '/' :: k.toList = o'.text.toList ++ '/' :: k'.toList := by
    simpa [name_failures, ← String.toList_inj] using h
  have hcut := congrArg (Text.cut '/') hlist
  rw [Text.cut_append (hslash o), Text.cut_append (hslash o'), Option.some_inj, Prod.mk.injEq,
    String.toList_inj, String.toList_inj] at hcut
  refine ⟨?_, hcut.2⟩
  revert hcut
  cases o <;> cases o' <;> simp [OperationName.text]

theorem Counter.name_injective : Function.Injective Counter.name := by
  intro c c' h
  have hhead : c.name.toList.head? = c'.name.toList.head? := by rw [h]
  cases c with
  | failures o k =>
    cases c' with
    | failures o' k' =>
      obtain ⟨rfl, rfl⟩ := name_failures_injective h
      rfl
    | _ =>
      -- no other counter of calls begins with the letter that those of failures begin with
      rw [head?_name_failures] at hhead
      exact absurd hhead (by decide)
  | _ =>
    cases c' with
    | failures o' k' =>
      rw [head?_name_failures] at hhead
      exact absurd hhead (by decide)
    | _ => first | rfl | exact absurd h (by decide)

/-- Of the counters of attempts only that of their observations is a counter of calls. -/
theorem Counter.name_ne {x : String} (hx : x ≠ "count") (c : Counter) :
    "discovery_attempts_" ++ x ≠ c.name := by
  intro h
  have hd : ("discovery_attempts_" ++ x).toList.head? = some 'd' := by simp
  rw [h] at hd
  cases c with
  | failures o k =>
    rw [head?_name_failures] at hd
    exact absurd hd (by decide)
  | discoveries =>
    have hname : "discovery_attempts_" ++ x = "discovery_attempts_" ++ "count" := h
    exact hx (by simpa [← String.toList_inj] using hname)
  | _ => exact absurd hd (by decide)

/-- Beside its counter a measure lets only such counters grow as are no counters of calls. -/
theorem growth_eq (m : Measure) : ∃ rest, growth m = (m.counter.name, 1) :: rest ∧
    ∀ e ∈ rest, ∀ c : Counter, e.1 ≠ c.name := by
  cases m with
  | discoveryAttempts n =>
    refine ⟨_, rfl, fun e he => ?_⟩
    rcases List.mem_cons.1 he with rfl | he
    · exact Counter.name_ne (x := "sum") (by decide)
    · obtain ⟨b, -, rfl⟩ := List.mem_map.1 he
      have hb : "le_" ++ toString b ≠ "count" := by
        simp [← String.toList_inj]
      have hname : "discovery_attempts_le_" ++ toString b =
          "discovery_attempts_" ++ ("le_" ++ toString b) := by
        simp [← String.toList_inj]
      show ∀ c : Counter, "discovery_attempts_le_" ++ toString b ≠ c.name
      rw [hname]
      exact Counter.name_ne hb
  | _ => exact ⟨[], rfl, by simp⟩

theorem total_singleton (c : Counter) (m : Measure) :
    total c.name [m] = if m.counter = c then 1 else 0 := by
  obtain ⟨rest, hgrowth, hrest⟩ := growth_eq m
  have hnone : rest.filter (·.1 = c.name) = [] := by
    refine List.filter_eq_nil_iff.2 fun e he => ?_
    simpa using hrest e he c
  rw [total_eq_sum, List.flatMap_singleton, hgrowth, List.filter_cons, hnone]
  simp only [decide_eq_true_eq, Counter.name_injective.eq_iff]
  split <;> rfl

/-- A counter of calls tells how many measures there are of its kind. -/
theorem total_eq_countP (c : Counter) (ms : List Measure) :
    total c.name ms = ms.countP fun m => m.counter = c := by
  induction ms with
  | nil => rfl
  | cons m ms ih =>
    have hcons : total c.name (m :: ms) = total c.name [m] + total c.name ms :=
      total_append c.name [m] ms
    rw [hcons, ih, total_singleton, List.countP_cons, Nat.add_comm]
    simp

end Measure

/-- Whether a run succeeds when `waits` decides which waits are cancelled, or how it fails. -/
def World.outcomeUnder {α : Type} (waits : Waits) (x : Operation α) (w : World) :
    Except BridgeError Unit :=
  (World.runUnder waits x w).1.map fun _ => ()

namespace Lifecycle

open ContainerBridge.Measure

/-- How a call ends whose waits are cancelled as `waits` decides. -/
def Call.outcome (s : Settings) (waits : Waits) (w : World) : Call → Except BridgeError Unit
  | create spec => w.outcomeUnder waits (Connector.create spec (.cluster s))
  | inspectContainer id => w.outcomeUnder waits (Connector.inspectContainer id (.cluster s))
  | inspect id servers => w.outcomeUnder waits (Connector.inspect id servers (.cluster s))
  | remove id force volumes => w.outcomeUnder waits (Connector.remove id force volumes (.cluster s))
  | files command workspace => w.outcomeUnder waits (Connector.files command workspace (.cluster s))

/-- The calls, each with how it ends in the world that those before it have left. -/
def outcomes (s : Settings) : List (Call × Waits) → World → List (Call × Except BridgeError Unit)
  | [], _ => []
  | c :: calls, w => (c.1, c.1.outcome s c.2 w) :: outcomes s calls (c.1.leave s c.2 w)

/-- The operation under which the failures of a call are counted. -/
def Call.operation? : Call → Option OperationName
  | create _ => some .create
  | inspect _ _ => some .inspect
  | remove _ _ _ => some .remove
  | inspectContainer _ | files _ _ => none

/-- Whether a counter counts a call that ended so. -/
def counts : Counter → Call × Except BridgeError Unit → Bool
  | .created, (.create _, .ok _) => true
  | .createLatencies, (.create _, .ok _) => true
  | .discoveries, (.create _, .ok _) => true
  | .removed, (.remove _ _ _, .ok _) => true
  | .inspected, (.inspect _ _, .ok _) => true
  | .failures operation kind, (call, .error e) =>
    call.operation? = some operation && e.kind = kind
  | _, _ => false

/-- What is measured of a call, by how it ends. -/
inductive Counted : Call → Except BridgeError Unit → List Measure → Prop
  | created {spec : ContainerSpec} {n : Nat} :
    Counted (.create spec) (.ok ()) [.discoveryAttempts n, .createLatency, .containerCreated]
  | inspected {id : String} {servers : List ServerConf} :
    Counted (.inspect id servers) (.ok ()) [.containerInspected]
  | removed {id : String} {force volumes : Bool} :
    Counted (.remove id force volumes) (.ok ()) [.containerRemoved]
  | failed {call : Call} {operation : OperationName} {e : BridgeError}
    (h : call.operation? = some operation) :
    Counted call (.error e) [.failure operation e.kind]
  | uncounted {call : Call} {r : Except BridgeError Unit} (h : call.operation? = none) :
    Counted call r []

variable {s : Settings} {waits : Waits} {w : World} {call : Call}

theorem counted_of_ends {α : Type} {x : Operation α} {good : α → List Measure → Prop}
    {bad : BridgeError → List Measure → Prop} (waits : Waits) (w : World)
    (h : Operation.Ends Counting good bad x [])
    (hgood : ∀ a ms, good a ms → Counted call (.ok ()) ms)
    (hbad : ∀ e ms, bad e ms → Counted call (.error e) ms) :
    ∃ ms, (World.runUnder waits x w).2.measures = w.measures ++ ms ∧
      Counted call (w.outcomeUnder waits x) ms := by
  obtain ⟨ms, hms, hend⟩ := World.measures_runUnder waits w h
  refine ⟨ms, hms, ?_⟩
  unfold World.outcomeUnder
  cases hr : (World.runUnder waits x w).1 with
  | ok a =>
    rw [hr] at hend
    exact hgood a ms hend
  | error e =>
    rw [hr] at hend
    exact hbad e ms hend

/-- Every call is measured as it ends. -/
theorem counted_leave (s : Settings) (waits : Waits) (w : World) (call : Call) :
    ∃ ms, (call.leave s waits w).measures = w.measures ++ ms ∧
      Counted call (call.outcome s waits w) ms := by
  cases call with
  | create spec =>
    refine counted_of_ends waits w (ends_create_counting s spec) ?_ ?_
    · rintro a _ ⟨n, rfl⟩
      exact .created
    · rintro e _ rfl
      exact .failed rfl
  | inspectContainer id =>
    refine counted_of_ends waits w (quiet_inspectContainer s id) ?_ ?_
    · rintro a _ rfl
      exact .uncounted rfl
    · rintro e _ rfl
      exact .uncounted rfl
  | inspect id servers =>
    refine counted_of_ends waits w (ends_inspect_counting s id servers) ?_ ?_
    · rintro a _ rfl
      exact .inspected
    · rintro e _ rfl
      exact .failed rfl
  | remove id force volumes =>
    refine counted_of_ends waits w (ends_remove_counting s id) ?_ ?_
    · rintro a _ rfl
      exact .removed
    · rintro e _ rfl
      exact .failed rfl
  | files command workspace =>
    refine counted_of_ends waits w (quiet_runFiles s command workspace) ?_ ?_
    · rintro a _ rfl
      exact .uncounted rfl
    · rintro e _ rfl
      exact .uncounted rfl

theorem counts_of_uncounted (h : call.operation? = none) (c : Counter)
    (r : Except BridgeError Unit) : counts c (call, r) = false := by
  cases call with
  | inspectContainer id => cases c <;> cases r <;> rfl
  | files command workspace => cases c <;> cases r <;> rfl
  | _ => cases h

/-- A counter grows by one with a call that it counts, and not with any other. -/
theorem Counted.total_eq {r : Except BridgeError Unit} {ms : List Measure}
    (h : Counted call r ms) (c : Counter) :
    total c.name ms = if counts c (call, r) then 1 else 0 := by
  rw [total_eq_countP]
  cases h with
  | created => cases c <;> rfl
  | inspected => cases c <;> rfl
  | removed => cases c <;> rfl
  | failed h => cases c <;> simp [counter, counts, h]
  | uncounted h =>
    rw [counts_of_uncounted h]
    rfl

/-- A call of a kind that is not counted measures nothing. -/
theorem measures_leave_of_uncounted (h : call.operation? = none) (s : Settings) (waits : Waits)
    (w : World) : (call.leave s waits w).measures = w.measures := by
  obtain ⟨ms, hms, hcounted⟩ := counted_leave s waits w call
  generalize call.outcome s waits w = r at hcounted
  cases hcounted with
  | uncounted => rw [hms, List.append_nil]
  | failed h' => simp [h] at h'
  | _ => cases h

/-- Over a sequence of calls every counter grows by the number of those calls that it counts: by the
creations, removals and inspections that succeed, and by those that fail, of each kind. Calls for
the engine's description and calls on directories are measured nowhere. -/
theorem total_leaveAll (s : Settings) (calls : List (Call × Waits)) (w : World) :
    (∀ c : Counter, total c.name (leaveAll s calls w).measures =
      total c.name w.measures + (outcomes s calls w).countP (counts c)) ∧
    ∀ waits w, (∀ id, ((Call.inspectContainer id).leave s waits w).measures = w.measures) ∧
      ∀ command workspace,
        ((Call.files command workspace).leave s waits w).measures = w.measures := by
  refine ⟨fun c => ?_, fun waits w => ⟨fun id => ?_, fun command workspace => ?_⟩⟩
  · -- the world changes with each call, and how a call ends depends on it
    induction calls generalizing w with
    | nil => rfl
    | cons call calls ih =>
      obtain ⟨ms, hms, hcounted⟩ := counted_leave s call.2 w call.1
      have hleave : leaveAll s (call :: calls) w = leaveAll s calls (call.1.leave s call.2 w) := rfl
      rw [hleave, ih, hms, total_append, hcounted.total_eq, outcomes, List.countP_cons]
      omega
  · exact measures_leave_of_uncounted rfl s waits w
  · exact measures_leave_of_uncounted rfl s waits w

end Lifecycle
end ContainerBridge
