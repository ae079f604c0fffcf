import ContainerBridge.Connector
import ContainerBridge.Proofs.Poll
import ContainerBridge.Proofs.World

/-! What operations measure. Most of what they do is measured nowhere: one measure is taken when a
container is discovered, and the others when an operation has come to its end. -/

namespace ContainerBridge

/-- The measure that an action takes. -/
def Action.measure? : Action → Option Measure
  | .measure m => some m
  | _ => none

/-- Actions may be answered in any way; what was measured so far is followed. -/
def Counting (a : Action) (ms : List Measure) (_ : a.Reply) (ms' : List Measure) : Prop :=
  ms' = ms ++ a.measure?.toList

variable {α β ε : Type} {ms : List Measure}

namespace Task

/-- No run of the task measures anything. -/
def Quiet (x : Task α) : Prop := Program.Ensures Counting (fun _ ms => ms = []) x []

theorem quiet_pure (a : α) : Quiet (pure a : Task α) := rfl

theorem Quiet.bind {x : Task α} {f : α → Task β} (hx : Quiet x) (hf : ∀ a, Quiet (f a)) :
    Quiet (x >>= f) := by
  rw [Quiet, Program.ensures_bind]
  refine Program.Ensures.imp hx ?_
  rintro a _ rfl
  exact hf a

theorem quiet_request {a : Action} (h : a.measure? = none) :
    Quiet (Program.request a : Task a.Reply) := by
  rintro _ _ rfl
  simp [h]

theorem quiet_cluster (q : Cluster.Request) : Quiet (cluster q) := quiet_request rfl

theorem counting_measure {m : Measure} {post : Unit → List Measure → Prop} :
    Program.Ensures Counting post (measure m) ms ↔ post () (ms ++ [m]) :=
  Program.ensures_request_of_unique fun _ _ => (and_iff_right rfl).symm

theorem quiet_poll (c : PollConfig) (d : Duration) {probe : Task (Except ε (Option α))}
    (h : Quiet probe) : Quiet (c.poll (wait d) probe) := by
  refine Program.ensures_poll (fun _ ms => ms = []) c rfl (fun n ms _ hms => ?_) fun _ hms => hms
  subst hms
  refine Program.Ensures.imp (quiet_request rfl) ?_
  rintro passed _ rfl
  cases passed with
  | false => rfl
  | true =>
    refine Program.Ensures.imp h fun r ms hms => ?_
    rcases r with e | (_ | a) <;> exact hms

end Task

namespace Operation

/-- No run of the operation measures anything, whether it succeeds or fails. -/
def Quiet (x : Operation α) : Prop :=
  Ends Counting (fun _ ms => ms = []) (fun _ ms => ms = []) x []

theorem quiet_pure (a : α) : Quiet (pure a : Operation α) := rfl

theorem quiet_throw (e : BridgeError) : Quiet (throw e : Operation α) := rfl

/-- Before anything is measured an operation may do what measures nothing. -/
theorem Quiet.ends_bind {x : Operation α} {f : α → Operation β} {good : β → List Measure → Prop}
    {bad : BridgeError → List Measure → Prop} (hx : Quiet x) (hbad : ∀ e, bad e [])
    (hf : ∀ a, Ends Counting good bad (f a) []) : Ends Counting good bad (x >>= f) [] := by
  rw [Operation.ends_bind]
  refine hx.imp ?_ ?_
  · rintro a _ rfl
    exact hf a
  · rintro e _ rfl
    exact hbad e

theorem Quiet.bind {x : Operation α} {f : α → Operation β} (hx : Quiet x)
    (hf : ∀ a, Quiet (f a)) : Quiet (x >>= f) :=
  hx.ends_bind (fun _ => rfl) hf

theorem quiet_ofOutcome {x : Task (Except BridgeError α)} (h : x.Quiet) : Quiet (ofOutcome x) := by
  refine Program.Ensures.imp h fun r ms hms => ?_
  cases r <;> exact hms

theorem quiet_lift {x : Task α} (h : x.Quiet) : Quiet (ExceptT.lift x) := (ends_lift x).2 h

theorem quiet_cluster (q : Cluster.Request) : Quiet (cluster q) :=
  quiet_ofOutcome ((Task.quiet_cluster q).bind fun _ => Task.quiet_pure _)

theorem quiet_engine (q : Engine.Request) : Quiet (engine q) :=
  quiet_ofOutcome ((Task.quiet_request rfl).bind fun _ => Task.quiet_pure _)

theorem quiet_log (e : Event) : Quiet (log e) := quiet_lift (Task.quiet_request rfl)

theorem quiet_check (x : Except SpecFault α) : Quiet (check x) := by
  cases x <;> rfl

theorem quiet_liftM (x : Except BridgeError α) : Quiet (liftM x : Operation α) := by
  cases x <;> rfl

theorem counting_measure {m : Measure} {good : Unit → List Measure → Prop}
    {bad : BridgeError → List Measure → Prop} :
    Ends Counting good bad (measure m) ms ↔ good () (ms ++ [m]) := by
  rw [measure, ends_lift, Task.counting_measure]

/-- An operation that measures nothing but its own end. -/
theorem ends_concluding_of_quiet {x : Operation α} (h : Quiet x) (m : Measure)
    (m' : BridgeError → Measure) :
    Ends Counting (fun _ ms => ms = [m]) (fun e ms => ms = [m' e])
      (concluding x (Task.measure m) fun e => Task.measure (m' e)) [] := by
  refine ends_concluding (h.imp ?_ ?_)
  · rintro a _ rfl
    exact Task.counting_measure.2 rfl
  · rintro e _ rfl
    exact Task.counting_measure.2 rfl

end Operation

namespace World

theorem measures_answerUnder (waits : Waits) (a : Action) (w : World) :
    (answerUnder waits a w).2.measures = w.measures ++ a.measure?.toList := by
  cases a with
  | cluster q =>
    show (w.askCluster q).2.measures = w.measures ++ []
    rw [List.append_nil]
    unfold askCluster
    split
    · rfl
    · split
      · split <;> rfl
      · rfl
  | engine q =>
    show (w.askEngine q).2.measures = w.measures ++ []
    rw [List.append_nil]
    unfold askEngine
    split <;> rfl
  | wait d => exact (List.append_nil _).symm
  | log e => exact (List.append_nil _).symm
  | measure m => rfl

/-- What an operation measures in a world is what it measures however its actions are answered. -/
theorem measures_runUnder {x : Operation α} {good : α → List Measure → Prop}
    {bad : BridgeError → List Measure → Prop} (waits : Waits) (w : World)
    (h : Operation.Ends Counting good bad x []) :
    ∃ ms, (runUnder waits x w).2.measures = w.measures ++ ms ∧
      Outcome good bad (runUnder waits x w).1 ms := by
  have hrel : ∀ a v ms, World.measures v = w.measures ++ ms →
      ∃ ms', Counting a ms (answerUnder waits a v).1 ms' ∧
        (answerUnder waits a v).2.measures = w.measures ++ ms' := by
    intro a v ms hv
    refine ⟨_, rfl, ?_⟩
    rw [measures_answerUnder, hv, List.append_assoc]
  exact Program.Ensures.run hrel (List.append_nil _).symm h

end World

/-! The operations of the connector to the cluster -/

namespace Lifecycle

open Cluster Operation

variable {s : Settings}

theorem quiet_plan (s : Settings) (spec : ContainerSpec) : Quiet (plan s spec) := by
  refine (quiet_check _).bind fun names => Quiet.bind ?_ fun declared =>
    (quiet_check _).bind fun p => Quiet.bind ?_ fun _ => quiet_pure p
  · exact (quiet_engine _).bind fun _ => quiet_pure _
  · refine (quiet_cluster _).bind fun found => ?_
    split
    · exact quiet_pure _
    · exact quiet_throw _

theorem quiet_createRoutes (rs : List Route) : Quiet (createRoutes rs) := by
  induction rs with
  | nil => exact quiet_pure _
  | cons r rs ih => exact (quiet_cluster _).bind fun _ => ih

theorem quiet_probe (project deployment : String) : Task.Quiet (probe project deployment) := by
  refine (Task.quiet_cluster _).bind fun r => ?_
  split
  · exact Task.quiet_pure _
  · split
    · exact Task.quiet_pure _
    · refine (Task.quiet_cluster _).bind fun r => ?_
      split <;> exact Task.quiet_pure _

/-- The attempts of a search are measured if it finds the container, and otherwise nothing is. -/
theorem ends_discover_counting (s : Settings) (deployment : String) :
    Ends Counting (fun _ ms => ∃ n, ms = [.discoveryAttempts n]) (fun _ ms => ms = [])
      (discover s deployment) [] := by
  unfold discover
  rw [ends_bind]
  refine Ends.imp (quiet_lift (Task.quiet_poll _ _ (quiet_probe s.project deployment))) ?_
    fun _ _ h => h
  rintro (stop | polled) _ rfl
  · cases stop with
    | exhausted attempts waited =>
      show Ends _ _ _ (do Operation.log _; throw _) _
      rw [ends_bind]
      exact (quiet_log _).imp (fun _ _ h => h) fun _ _ h => h
    | cancelled attempts => exact rfl
    | failed e => exact rfl
  · show Ends _ _ _ (do Operation.measure _; Operation.log _; pure _) _
    rw [ends_bind, counting_measure, ends_bind, Operation.log, ends_lift]
    rintro _ _ rfl
    exact ⟨polled.attempts, rfl⟩

theorem ends_carryOut_counting (s : Settings) (spec : ContainerSpec) (p : Plan) :
    Ends Counting (fun _ ms => ∃ n, ms = [.discoveryAttempts n]) (fun _ ms => ms = [])
      (carryOut s spec p) [] := by
  refine (quiet_log _).ends_bind (fun _ => rfl) fun _ => ?_
  refine (quiet_cluster _).ends_bind (fun _ => rfl) fun _ => ?_
  refine (quiet_log _).ends_bind (fun _ => rfl) fun _ => ?_
  refine (quiet_cluster _).ends_bind (fun _ => rfl) fun _ => ?_
  refine (quiet_log _).ends_bind (fun _ => rfl) fun _ => ?_
  refine (quiet_createRoutes _).ends_bind (fun _ => rfl) fun _ => ?_
  rw [ends_bind]
  exact (ends_discover_counting s p.names.resource).imp (fun _ _ h => h) fun _ _ h => h

/-- No failure lies between the discovery of a container and the end of its creation. -/
theorem ends_create_counting (s : Settings) (spec : ContainerSpec) :
    Ends Counting
      (fun _ ms => ∃ n, ms = [.discoveryAttempts n, .createLatency, .containerCreated])
      (fun e ms => ms = [.failure .create e.kind]) (create s spec) [] := by
  have hcarried : Ends Counting (fun _ ms => ∃ n, ms = [.discoveryAttempts n])
      (fun _ ms => ms = []) (do carryOut s spec (← plan s spec)) [] :=
    (quiet_plan s spec).ends_bind (fun _ => rfl) fun p => ends_carryOut_counting s spec p
  refine ends_concluding (hcarried.imp ?_ ?_)
  · rintro _ _ ⟨n, rfl⟩
    rw [Program.ensures_bind, Task.counting_measure, Task.counting_measure]
    exact ⟨n, rfl⟩
  · rintro e _ rfl
    exact Task.counting_measure.2 rfl

theorem quiet_owningPod (project containerId : String) :
    Quiet (owningPod project containerId) := by
  refine (quiet_cluster _).bind fun pods => ?_
  split
  · exact quiet_pure _
  · exact quiet_throw _

theorem quiet_owningService (project deployment : String) :
    Quiet (owningService project deployment) :=
  (quiet_cluster _).bind fun _ => quiet_pure _

theorem quiet_inspectContainer (s : Settings) (containerId : String) :
    Quiet (inspectContainer s containerId) := by
  refine (quiet_engine _).bind fun info => ?_
  cases info with
  | none => exact quiet_throw _
  | some info =>
    refine (quiet_owningPod _ _).bind fun pod => (quiet_liftM _).bind fun d => ?_
    refine (quiet_owningService _ _).bind fun sv => ?_
    cases sv with
    | none => exact quiet_throw _
    | some sv => exact quiet_pure _

theorem ends_inspect_counting (s : Settings) (containerId : String) (servers : List ServerConf) :
    Ends Counting (fun _ ms => ms = [.containerInspected])
      (fun e ms => ms = [.failure .inspect e.kind]) (inspect s containerId servers) [] := by
  unfold inspect
  rw [ends_bind]
  exact ends_concluding_of_quiet (quiet_inspectContainer s containerId) _ _

theorem quiet_reportGone (kind : ResourceKind) (name : String) (removed : Bool) :
    Quiet (reportGone s kind name removed) := by
  unfold reportGone
  split
  · exact quiet_pure _
  · exact quiet_log _

theorem quiet_tearDown (s : Settings) (containerId : String) : Quiet (tearDown s containerId) := by
  have hservice : ∀ d, Quiet (removeService s d) := by
    intro d
    refine (quiet_owningService _ _).bind fun sv => ?_
    cases sv with
    | none => exact quiet_reportGone _ _ _
    | some sv => exact (quiet_cluster _).bind fun _ => quiet_reportGone _ _ _
  have hroutes : ∀ d, Quiet (removeRoutes s d) := by
    intro d
    unfold removeRoutes
    split
    · exact (quiet_cluster _).bind fun _ => quiet_pure _
    · exact quiet_pure _
  have hcontroller : ∀ pod d, Quiet (removeController s pod d) := by
    intro pod d
    unfold removeController
    split
    · exact (quiet_cluster _).bind fun _ => quiet_reportGone _ _ _
    · exact quiet_reportGone _ _ _
  refine (quiet_owningPod _ _).bind fun pod => (quiet_liftM _).bind fun d => ?_
  refine (hservice d).bind fun _ => (hroutes d).bind fun _ => ?_
  refine (quiet_cluster _).bind fun _ => (quiet_reportGone _ _ _).bind fun _ => ?_
  refine (hcontroller pod d).bind fun _ => (quiet_cluster _).bind fun _ => ?_
  exact (quiet_reportGone _ _ _).bind fun _ => quiet_log _

theorem ends_remove_counting (s : Settings) (containerId : String) :
    Ends Counting (fun _ ms => ms = [.containerRemoved])
      (fun e ms => ms = [.failure .remove e.kind]) (remove s containerId) [] :=
  ends_concluding_of_quiet (quiet_tearDown s containerId) _ _

theorem quiet_runFiles (s : Settings) (command : Workspace.FilesCommand) (workspace : String) :
    Quiet (runFiles s command workspace) := by
  have hdelete : ∀ project pod, Quiet (deleteJob project pod) := fun _ _ =>
    (quiet_cluster _).bind fun _ => quiet_pure _
  have hend : ∀ project pod, Task.Quiet (jobEnd project pod) := by
    intro project pod
    refine (Task.quiet_cluster _).bind fun r => ?_
    split <;> exact Task.quiet_pure _
  refine (quiet_check _).bind fun pod => (quiet_cluster _).bind fun _ => ?_
  refine (quiet_log _).bind fun _ => ?_
  refine (quiet_lift (Task.quiet_poll _ _ (hend _ _))).bind fun outcome => ?_
  rcases outcome with (⟨attempts, waited⟩ | attempts | e) | polled
  · exact (hdelete _ _).bind fun _ => quiet_throw _
  · exact quiet_throw _
  · exact quiet_throw _
  · refine (quiet_log _).bind fun _ => (hdelete _ _).bind fun _ => ?_
    cases polled.value with
    | succeeded => exact quiet_pure _
    | failed => exact quiet_throw _

end Lifecycle
end ContainerBridge
