import ContainerBridge.Connector
import ContainerBridge.Proofs.Cancellation
import ContainerBridge.Proofs.Creation
import ContainerBridge.Proofs.OrderedMap
import ContainerBridge.Proofs.Poll
import Mathlib.Logic.Relation

/-! Runs of the pods that work on the directories of workspaces. A run ends as its pod does, unless
the reads or the waits come to their end before; only a cancellation leaves the pod behind. -/

namespace ContainerBridge.Lifecycle

open Cluster Cluster.State

/-- The phase that is read of a job pod after `made` reads; a pod of its name hides the job pod. -/
def phaseAt (c : State) (k : Key) (made : Nat) : String :=
  match c.pods.get? k with
  | some p => p.phase.getD ""
  | none => jobPhase c.jobScript (made + 1)

/-- What the read after `made` others tells of the end of a job pod. -/
def endAt (c : State) (k : Key) (made : Nat) : Option JobEnd := JobEnd.ofPhase? (phaseAt c k made)

/-- The outcome of a run whose job pod ended. -/
def JobEnd.result (pod : String) : JobEnd → Except BridgeError Unit
  | succeeded => .ok ()
  | failed => .error (.jobFailed pod)

/-- The second cluster is the first with the job pod, which was read `made` times. -/
def JobUnderway (pod : JobPod) (made : Nat) (c c' : State) : Prop :=
  ∃ reads calls, (c.pods.get? pod.key = none → reads.get? pod.key = some made) ∧
    c' = { c with jobs := c.jobs.insert pod.key pod, jobReads := reads, calls := calls }

/-- The second cluster is the first without the pod of the key, but for what is noted of calls. -/
def Cleared (k : Key) (c c' : State) : Prop :=
  ∃ reads calls, c' = { c with pods := c.pods.erase k, jobReads := reads, calls := calls }

/-- How a run may end when its job pod has an acceptable name. -/
inductive JobRun (s : Settings) (pod : JobPod) (waits : Waits) (t : Timed) :
    Except BridgeError Unit → State → Prop
  | conflict {message : String} (ht : t.cluster.jobs.contains pod.key = true) :
    JobRun s pod waits t (.error (.cluster (.api 409 message)))
      (t.cluster.record "create_job_pod" pod.name)
  | ended {made : Nat} {e : JobEnd} {c' : State} (hnew : t.cluster.jobs.contains pod.key = false)
    (hmade : made < s.filesJob.maxAttempts.toNat)
    (hpass : ∀ i ≤ made, Passes waits s.filesJob.interval t.clock i)
    (hbefore : ∀ i < made, endAt t.cluster pod.key i = none)
    (hend : endAt t.cluster pod.key made = some e) (hc : Cleared pod.key t.cluster c') :
    JobRun s pod waits t (e.result pod.name) c'
  | exhausted {c' : State} (hnew : t.cluster.jobs.contains pod.key = false)
    (hpass : ∀ i < s.filesJob.maxAttempts.toNat, Passes waits s.filesJob.interval t.clock i)
    (hbefore : ∀ i < s.filesJob.maxAttempts.toNat, endAt t.cluster pod.key i = none)
    (hc : Cleared pod.key t.cluster c') :
    JobRun s pod waits t
      (.error (.jobTimeout pod.name s.filesJob.maxAttempts.toNat s.filesJob.ceiling)) c'
  | cancelled {made : Nat} {c' : State} (hnew : t.cluster.jobs.contains pod.key = false)
    (hmade : made < s.filesJob.maxAttempts.toNat)
    (hpass : ∀ i < made, Passes waits s.filesJob.interval t.clock i)
    (hcut : ¬ Passes waits s.filesJob.interval t.clock made)
    (hbefore : ∀ i < made, endAt t.cluster pod.key i = none)
    (hc : JobUnderway pod made t.cluster c') :
    JobRun s pod waits t
      (.error (.cancelled s!"files job {pod.name} cancelled after {made} attempts")) c'

variable {s : Settings} {pod : JobPod} {waits : Waits} {t : Timed} {c c' : State} {made : Nat}
variable {command : Workspace.FilesCommand} {workspace : String}

theorem project_of_jobPod {project claimName : String}
    (h : Workspace.jobPod command workspace project claimName = .ok pod) :
    pod.project = project := by
  unfold Workspace.jobPod at h
  split at h
  · cases h
    rfl
  · cases h

/-! The calls of a run -/

theorem jobUnderway_createJobPod (h : c.jobs.contains pod.key = false) :
    (c.createJobPod pod).1 = .ok () ∧ JobUnderway pod 0 c (c.createJobPod pod).2 := by
  have hnew : (c.record "create_job_pod" pod.name).jobs.contains pod.key = false := h
  unfold State.createJobPod
  dsimp only
  rw [if_neg (by simp [hnew])]
  exact ⟨rfl, _, _, fun _ => OrderedMap.get?_insert_self .., rfl⟩

/-- A read gives the next phase and changes nothing but the number of reads. -/
theorem JobUnderway.podPhase (h : JobUnderway pod made c c') :
    (c'.podPhase pod.project pod.name).1 = some (phaseAt c pod.key made) ∧
      JobUnderway pod (made + 1) c (c'.podPhase pod.project pod.name).2 := by
  obtain ⟨reads, calls, hreads, rfl⟩ := h
  have hkey : (⟨pod.project, pod.name⟩ : Key) = pod.key := rfl
  unfold State.podPhase phaseAt
  rw [hkey]
  cases hp : c.pods.get? pod.key with
  | some p => exact ⟨rfl, reads, calls, by simp [hp], rfl⟩
  | none =>
    have hjob : (c.jobs.insert pod.key pod).contains pod.key = true := by
      simp [OrderedMap.contains_insert]
    dsimp only
    rw [if_pos hjob, hreads hp]
    exact ⟨rfl, _, calls, fun _ => OrderedMap.get?_insert_self .., rfl⟩

/-- Deleting the job pod takes the pod that hides it as well. -/
theorem JobUnderway.deletePod (h : JobUnderway pod made c c')
    (hnew : c.jobs.contains pod.key = false) :
    Cleared pod.key c (c'.deletePod pod.project pod.name).2 := by
  obtain ⟨reads, calls, -, rfl⟩ := h
  have herase : (c.jobs.insert pod.key pod).erase pod.key = c.jobs :=
    OrderedMap.erase_insert (OrderedMap.contains_eq_false_iff.1 hnew) pod
  refine ⟨reads, calls ++ ["delete_pod:" ++ pod.name], ?_⟩
  show ({ c with
    pods := c.pods.erase pod.key, jobs := (c.jobs.insert pod.key pod).erase pod.key,
    jobReads := reads, calls := calls ++ ["delete_pod:" ++ pod.name] } : State) = _
  rw [herase]

/-! The run -/

theorem ensures_jobEnd_timed (hproject : pod.project = s.project) (clock : Clock)
    (h : JobUnderway pod made c c') :
    Program.Ensures (Timed.Answers waits)
      (fun r t' => r = .ok (endAt c pod.key made) ∧ t'.clock = clock ∧
        JobUnderway pod (made + 1) c t'.cluster) (jobEnd s.project pod.name) ⟨c', clock⟩ := by
  obtain ⟨hphase, hnext⟩ := h.podPhase
  have ha : (c'.answer (.podPhase pod.project pod.name)).1 =
      .ok (some (phaseAt c pod.key made)) := congrArg Except.ok hphase
  unfold jobEnd
  rw [Program.ensures_bind, ← hproject]
  refine Task.timed_cluster.2 ?_
  rw [ha]
  exact ⟨rfl, rfl, hnext⟩

theorem ensures_deleteJob_timed (hproject : pod.project = s.project)
    (hnew : c.jobs.contains pod.key = false) (h : JobUnderway pod made c t.cluster)
    {bad : BridgeError → Timed → Prop} :
    Operation.Ends (Timed.Answers waits) (fun _ t' => Cleared pod.key c t'.cluster) bad
      (deleteJob s.project pod.name) t := by
  unfold deleteJob
  rw [Operation.ends_bind, ← hproject]
  exact Operation.timed_cluster.2 (h.deletePod hnew)

/-- A poll of the job pod has made reads that told of no end. -/
structure Polling (s : Settings) (pod : JobPod) (waits : Waits) (t : Timed) (made : Nat)
    (t' : Timed) : Prop where
  passed : ∀ i < made, Passes waits s.filesJob.interval t.clock i
  running : ∀ i < made, endAt t.cluster pod.key i = none
  clock : t'.clock = clockAfter waits s.filesJob.interval t.clock made
  cluster : JobUnderway pod made t.cluster t'.cluster

/-- Every run for an acceptable name ends in one of the ways listed. -/
theorem ensures_runFiles_timed
    (hpod : Workspace.jobPod command workspace s.project s.claimName = .ok pod) :
    Operation.Ends (Timed.Answers waits) (fun a t' => JobRun s pod waits t (.ok a) t'.cluster)
      (fun e t' => JobRun s pod waits t (.error e) t'.cluster)
      (runFiles s command workspace) t := by
  have hproject := project_of_jobPod hpod
  unfold runFiles
  rw [Operation.ends_bind, hpod, Operation.check, Operation.ends_pure, Operation.ends_bind]
  refine Operation.timed_cluster.2 ?_
  change Outcome _ _ ((t.cluster.createJobPod pod).1.mapError _) _
  cases hnew : t.cluster.jobs.contains pod.key with
  | true =>
    have hc : t.cluster.createJobPod pod =
        (.error (.api 409 ("pod " ++ pod.name ++ " already exists")),
          t.cluster.record "create_job_pod" pod.name) := if_pos hnew
    show Outcome _ _ _ { t with cluster := (t.cluster.createJobPod pod).2 }
    rw [hc]
    exact .conflict hnew
  | false =>
    obtain ⟨hok, hc⟩ := jobUnderway_createJobPod hnew
    rw [hok]
    show Operation.Ends _ _ _ (do Operation.log _; _) _
    rw [Operation.ends_bind, Operation.timed_log, Operation.ends_bind, Operation.ends_lift]
    have hstart : Polling s pod waits t 0 ⟨(t.cluster.createJobPod pod).2, t.clock⟩ :=
      ⟨by simp, by simp, rfl, hc⟩
    refine Program.ensures_poll (Polling s pod waits t) s.filesJob hstart ?_ ?_
    · intro made t' hmade ht'
      rw [Task.timed_wait]
      cases hp : (waits s.filesJob.interval t'.clock).1 with
      | false =>
        have hcut : ¬ Passes waits s.filesJob.interval t.clock made := by
          rw [Passes, ← ht'.clock, hp]
          exact Bool.false_ne_true
        exact .cancelled hnew hmade ht'.passed hcut ht'.running ht'.cluster
      | true =>
        have hpass : ∀ i < made + 1, Passes waits s.filesJob.interval t.clock i :=
          Nat.forall_lt_succ_right.2 ⟨ht'.passed, by rw [Passes, ← ht'.clock, hp]⟩
        rw [if_pos rfl]
        refine (ensures_jobEnd_timed hproject _ ht'.cluster).imp ?_
        rintro _ t'' ⟨rfl, hclock, hc'⟩
        cases he : endAt t.cluster pod.key made with
        | none =>
          refine ⟨hpass, Nat.forall_lt_succ_right.2 ⟨ht'.running, he⟩, ?_, hc'⟩
          rw [hclock, clockAfter_succ, ← ht'.clock]
        | some e =>
          show Operation.Ends _ _ _ (do Operation.log _; deleteJob _ _; _) _
          rw [Operation.ends_bind, Operation.timed_log, Operation.ends_bind]
          refine (ensures_deleteJob_timed hproject hnew hc').imp ?_ fun _ _ h => h
          intro _ t₃ hcleared
          have hend := JobRun.ended hnew hmade (fun i hi => hpass i (Nat.lt_succ_of_le hi))
            ht'.running he hcleared
          cases e with
          | succeeded => exact hend
          | failed => exact hend
    · intro t' ht'
      show Operation.Ends _ _ _ (do deleteJob _ _; throw _) _
      rw [Operation.ends_bind]
      refine (ensures_deleteJob_timed hproject hnew ht'.cluster).imp ?_ fun _ _ h => h
      intro _ t'' hcleared
      exact .exhausted hnew ht'.passed ht'.running hcleared

/-! Runs that follow the script -/

/-- By the script job pods end in a way within the first `n` reads. -/
def EndsWithin (script : Option JobScript) (e : JobEnd) (n : ℕ∞) : Prop :=
  ∃ j, script = some j ∧ j.finalPhase = e.phase ∧ (j.runningReads : ℕ∞) < n

/-- The second cluster is the first but for what is noted of calls and reads. -/
def SameState (c c' : State) : Prop :=
  ∃ reads calls, c' = { c with jobReads := reads, calls := calls }

/-- What a run for a new job pod comes to when `n` waits are completed. -/
structure Scripted (s : Settings) (pod : JobPod) (n : ℕ∞) (c : State)
    (res : Except BridgeError Unit) (c' : State) : Prop where
  succeeded : EndsWithin c.jobScript .succeeded (min s.filesJob.maxAttempts.toNat n) →
    res = .ok () ∧ SameState c c'
  failed : EndsWithin c.jobScript .failed (min s.filesJob.maxAttempts.toNat n) →
    res = .error (.jobFailed pod.name) ∧ SameState c c'
  timeout : (∀ e, ¬ EndsWithin c.jobScript e (min s.filesJob.maxAttempts.toNat n)) →
    s.filesJob.maxAttempts.toNat ≤ n →
    res = .error (.jobTimeout pod.name s.filesJob.maxAttempts.toNat s.filesJob.ceiling) ∧
      SameState c c'
  /-- Only then the job pod stays. -/
  cancelled : (∀ e, ¬ EndsWithin c.jobScript e (min s.filesJob.maxAttempts.toNat n)) →
    ∀ made : ℕ, n = made → made < s.filesJob.maxAttempts.toNat →
    res = .error (.cancelled s!"files job {pod.name} cancelled after {made} attempts") ∧
      SameState { c with jobs := c.jobs.insert pod.key pod } c'

variable {n n' : ℕ∞} {e e' : JobEnd} {k : Key}

theorem JobEnd.ofPhase?_eq_some_iff {phase : String} :
    JobEnd.ofPhase? phase = some e ↔ phase = e.phase := by
  unfold ofPhase?
  split
  · subst phase
    cases e <;> simp [JobEnd.phase]
  · split
    · subst phase
      cases e <;> simp [JobEnd.phase]
    · cases e <;> simp_all

theorem EndsWithin.mono (h : EndsWithin c.jobScript e n) (hle : n ≤ n') :
    EndsWithin c.jobScript e n' := by
  obtain ⟨j, hj, hphase, hlt⟩ := h
  exact ⟨j, hj, hphase, hlt.trans_le hle⟩

theorem EndsWithin.unique (h : EndsWithin c.jobScript e n) (h' : EndsWithin c.jobScript e' n') :
    e' = e := by
  obtain ⟨j, hj, hphase, -⟩ := h
  obtain ⟨j', hj', hphase', -⟩ := h'
  obtain rfl := Option.some.inj (hj.symm.trans hj')
  exact Option.some.inj ((JobEnd.ofPhase?_eq_some_iff.2 hphase').symm.trans
    (JobEnd.ofPhase?_eq_some_iff.2 hphase))

/-- Where no pod has its name a job pod ends as the script says. -/
theorem endAt_eq_some_iff (hpods : c.pods.get? k = none) :
    endAt c k made = some e ↔
      ∃ j, c.jobScript = some j ∧ j.finalPhase = e.phase ∧ j.runningReads ≤ made := by
  rw [endAt, JobEnd.ofPhase?_eq_some_iff, phaseAt, hpods]
  dsimp only
  unfold jobPhase
  cases c.jobScript with
  | none => cases e <;> simp [JobEnd.phase]
  | some j =>
    by_cases hlt : j.runningReads < made + 1
    · simp [hlt, Nat.lt_succ_iff.1 hlt]
    · cases e <;> simp [hlt, JobEnd.phase] <;> omega

/-- No end within the reads that told of none. -/
theorem not_endsWithin (hpods : c.pods.get? k = none) (h : ∀ i < made, endAt c k i = none) :
    ¬ EndsWithin c.jobScript e made := by
  rintro ⟨j, hj, hphase, hlt⟩
  have hnone := h j.runningReads (by exact_mod_cast hlt)
  have hsome := (endAt_eq_some_iff hpods).2 ⟨j, hj, hphase, Nat.le_refl _⟩
  rw [hsome] at hnone
  cases hnone

theorem endsWithin_of_endAt (hpods : c.pods.get? k = none) (h : endAt c k made = some e)
    (hlt : (made : ℕ∞) < n) : EndsWithin c.jobScript e n := by
  obtain ⟨j, hj, hphase, hle⟩ := (endAt_eq_some_iff hpods).1 h
  exact ⟨j, hj, hphase, (Nat.cast_le.2 hle).trans_lt hlt⟩

theorem Cleared.sameState (h : Cleared k c c') (hpods : c.pods.get? k = none) :
    SameState c c' := by
  obtain ⟨reads, calls, rfl⟩ := h
  rw [OrderedMap.erase_of_get?_none hpods]
  exact ⟨reads, calls, rfl⟩

/-- A run whose pod ended by the script is none of the others. -/
theorem scripted_of_endsWithin {res : Except BridgeError Unit}
    (he : EndsWithin c.jobScript e (min s.filesJob.maxAttempts.toNat n))
    (hres : res = e.result pod.name) (hc : SameState c c') : Scripted s pod n c res c' where
  succeeded h := by
    obtain rfl := he.unique h
    exact ⟨hres, hc⟩
  failed h := by
    obtain rfl := he.unique h
    exact ⟨hres, hc⟩
  timeout h := (h e he).elim
  cancelled h := (h e he).elim

/-- A run for a new job pod follows the script. -/
theorem JobRun.scripted {res : Except BridgeError Unit} (h : JobRun s pod waits t res c')
    (hpods : t.cluster.pods.get? pod.key = none) (hjobs : t.cluster.jobs.get? pod.key = none)
    (hn : Completes waits s.filesJob.interval t.clock n) :
    Scripted s pod n t.cluster res c' := by
  cases h with
  | conflict ht =>
    rw [OrderedMap.contains_eq_false_iff.2 hjobs] at ht
    cases ht
  | @ended made e _ _ hmade hpass _ hend hc =>
    have hle : ((made + 1 : ℕ) : ℕ∞) ≤ n :=
      hn.le_of_passes fun i hi => hpass i (Nat.lt_succ_iff.1 hi)
    have hn : (made : ℕ∞) < n := (Nat.cast_lt.2 (Nat.lt_succ_self made)).trans_le hle
    have hlt : (made : ℕ∞) < min (s.filesJob.maxAttempts.toNat : ℕ∞) n :=
      lt_min (Nat.cast_lt.2 hmade) hn
    exact scripted_of_endsWithin (endsWithin_of_endAt hpods hend hlt) rfl (hc.sameState hpods)
  | exhausted _ hpass hbefore hc =>
    have hno : ∀ e, ¬ EndsWithin t.cluster.jobScript e (min s.filesJob.maxAttempts.toNat n) :=
      fun e he => not_endsWithin hpods hbefore (he.mono (min_le_left _ _))
    have hle := hn.le_of_passes hpass
    refine ⟨fun he => (hno _ he).elim, fun he => (hno _ he).elim,
      fun _ _ => ⟨rfl, hc.sameState hpods⟩, ?_⟩
    rintro - made rfl hmade
    exact absurd hmade (not_lt.2 (by exact_mod_cast hle))
  | @cancelled made _ _ hmade hpass hcut hbefore hc =>
    obtain rfl := hn.eq_of_cut hpass hcut
    have hno : ∀ e, ¬ EndsWithin t.cluster.jobScript e (min s.filesJob.maxAttempts.toNat made) :=
      fun e he => not_endsWithin hpods hbefore (he.mono (min_le_right _ _))
    refine ⟨fun he => (hno _ he).elim, fun he => (hno _ he).elim, ?_, ?_⟩
    · intro _ hle
      exact absurd hmade (not_lt.2 (by exact_mod_cast hle))
    · intro _ made' he _
      obtain rfl : made = made' := by exact_mod_cast he
      obtain ⟨reads, calls, -, rfl⟩ := hc
      exact ⟨rfl, reads, calls, rfl⟩

/-- A run of which no wait is cut short leaves the job pods as they were. -/
theorem JobRun.jobs {res : Except BridgeError Unit} (h : JobRun s pod waits t res c')
    (hn : Completes waits s.filesJob.interval t.clock ⊤) : c'.jobs = t.cluster.jobs := by
  cases h with
  | conflict _ => rfl
  | ended _ _ _ _ _ hc =>
    obtain ⟨reads, calls, rfl⟩ := hc
    rfl
  | exhausted _ _ _ hc =>
    obtain ⟨reads, calls, rfl⟩ := hc
    rfl
  | @cancelled made _ _ _ _ hcut _ _ =>
    exact (hcut (hn.passes made (ENat.natCast_lt_top made))).elim

/-! Runs in a world -/

variable {w w' : World}

theorem jobRun_files (waits : Waits) (hw : w.clusterOutages = [])
    (hpod : Workspace.jobPod command workspace s.project s.claimName = .ok pod) :
    let res := World.runUnder waits (Connector.files command workspace (.cluster s)) w
    JobRun s pod waits ⟨w.cluster, w.clock⟩ res.1 res.2.cluster ∧ res.2.clusterOutages = [] :=
  World.runUnder_of_timed (fun r t => JobRun s pod waits ⟨w.cluster, w.clock⟩ r t.cluster) waits hw
    (ensures_runFiles_timed hpod)

/-- A name that is not accepted ends a run before it does anything. -/
theorem files_of_rejected (waits : Waits) (w : World) {f : SpecFault}
    (hpod : Workspace.jobPod command workspace s.project s.claimName = .error f) :
    World.runUnder waits (Connector.files command workspace (.cluster s)) w =
      (.error f.error, w) := by
  show World.runUnder waits (runFiles s command workspace) w = _
  unfold runFiles
  rw [hpod]
  rfl

/-- A run that is not cancelled leads from one world to the other. -/
def Uncancelled (w w' : World) : Prop :=
  ∃ (s : Settings) (command : Workspace.FilesCommand) (workspace : String) (waits : Waits),
    Completes waits s.filesJob.interval w.clock ⊤ ∧
      w' = (World.runUnder waits (Connector.files command workspace (.cluster s)) w).2

theorem Uncancelled.jobs (h : Uncancelled w w') (hw : w.clusterOutages = []) :
    w'.cluster.jobs = w.cluster.jobs ∧ w'.clusterOutages = [] := by
  obtain ⟨s, command, workspace, waits, hn, rfl⟩ := h
  cases hpod : Workspace.jobPod command workspace s.project s.claimName with
  | error f =>
    rw [files_of_rejected waits w hpod]
    exact ⟨rfl, hw⟩
  | ok pod =>
    obtain ⟨hrun, hcalm⟩ := jobRun_files waits hw hpod
    exact ⟨hrun.jobs hn, hcalm⟩

end ContainerBridge.Lifecycle
