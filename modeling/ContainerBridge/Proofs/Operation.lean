import ContainerBridge.Proofs.Program
import ContainerBridge.Action

/-! What holds of operations however their actions are answered. Of the engine only its images are
known, and waits may be cut short at any time, so that a statement covers every cancellation. -/

namespace ContainerBridge

variable {σ α β : Type}

/-- How a cluster may answer calls. -/
abbrev Calls (σ : Type) :=
  (q : Cluster.Request) → σ → Except ClusterFailure q.Answer → σ → Prop

/-- How actions may be answered next to a cluster that answers its calls as `calls` tells. -/
def Permits (images : OrderedMap String ImageInfo) (calls : Calls σ) :
    (a : Action) → σ → a.Reply → σ → Prop
  | .cluster q, s, r, s' => calls q s r s'
  | .engine (.inspectImage image), s, r, s' =>
    s' = s ∧ (r = .ok (images.get? image) ∨ ∃ e, r = .error e)
  | _, s, _, s' => s' = s

/-- The call to the cluster that an action is. -/
def Action.call? : Action → Option Cluster.Request
  | .cluster q => some q
  | _ => none

/-- An action that is no call to the cluster may be answered in the same way next to any cluster. -/
theorem Permits.transfer {τ : Type} {images : OrderedMap String ImageInfo} {calls : Calls σ}
    {calls' : Calls τ} {a : Action} {s s' : σ} {r : a.Reply} (h : Permits images calls a s r s')
    (ha : a.call? = none) (t : τ) : s' = s ∧ Permits images calls' a t r t := by
  cases a with
  | cluster q => cases ha
  | engine q =>
    cases q with
    | inspectImage image => exact ⟨h.1, rfl, h.2⟩
    | _ => exact ⟨h, rfl⟩
  | wait d => exact ⟨h, rfl⟩
  | log e => exact ⟨h, rfl⟩
  | measure m => exact ⟨h, rfl⟩

namespace Task

/-- Every run of the task from `s` ends with `post`. -/
abbrev Ensures (images : OrderedMap String ImageInfo) (calls : Calls σ) (post : α → σ → Prop)
    (x : Task α) (s : σ) : Prop :=
  Program.Ensures (Permits images calls) post x s

variable {images : OrderedMap String ImageInfo} {calls : Calls σ} {s : σ}

@[simp] theorem ensures_cluster {q : Cluster.Request}
    {post : Except ClusterFailure q.Answer → σ → Prop} :
    Ensures images calls post (cluster q) s ↔ ∀ r s', calls q s r s' → post r s' := .rfl

@[simp] theorem ensures_log {e : Event} {post : Unit → σ → Prop} :
    Ensures images calls post (log e) s ↔ post () s := by
  constructor
  · intro h
    exact h () s rfl
  · rintro h _ _ rfl
    exact h

@[simp] theorem ensures_measure {m : Measure} {post : Unit → σ → Prop} :
    Ensures images calls post (measure m) s ↔ post () s := by
  constructor
  · intro h
    exact h () s rfl
  · rintro h _ _ rfl
    exact h

@[simp] theorem ensures_wait {d : Duration} {post : Bool → σ → Prop} :
    Ensures images calls post (wait d) s ↔ ∀ passed, post passed s := by
  constructor
  · intro h passed
    exact h passed s rfl
  · rintro h passed _ rfl
    exact h passed

end Task

/-- The outcome of an operation that succeeds with `good` and fails with `bad`. -/
def Outcome (good : α → σ → Prop) (bad : BridgeError → σ → Prop) :
    Except BridgeError α → σ → Prop
  | .ok a => good a
  | .error e => bad e

/-- What is said of either outcome is said of the outcome. -/
theorem outcome_iff (post : Except BridgeError α → σ → Prop) {r : Except BridgeError α} {s : σ} :
    Outcome (fun a => post (.ok a)) (fun e => post (.error e)) r s ↔ post r s := by
  cases r <;> rfl

namespace Operation

/-- Every run of the operation from `s` ends with `good` or fails with `bad`, when `step` tells how
actions may be answered. -/
def Ends (step : (a : Action) → σ → a.Reply → σ → Prop) (good : α → σ → Prop)
    (bad : BridgeError → σ → Prop) (x : Operation α) (s : σ) : Prop :=
  Program.Ensures step (Outcome good bad) x.run s

section Ends

variable {step : (a : Action) → σ → a.Reply → σ → Prop} {s : σ}
variable {good good' : α → σ → Prop} {bad bad' : BridgeError → σ → Prop}

@[simp] theorem ends_pure (a : α) : Ends step good bad (pure a : Operation α) s ↔ good a s := .rfl

@[simp] theorem ends_throw (e : BridgeError) :
    Ends step good bad (throw e : Operation α) s ↔ bad e s := .rfl

@[simp] theorem ends_bind {good : β → σ → Prop} (x : Operation α) (f : α → Operation β) :
    Ends step good bad (x >>= f) s ↔
      Ends step (fun a s' => Ends step good bad (f a) s') bad x s := by
  show Program.Ensures step (Outcome good bad) (x.run >>= _) s ↔ _
  rw [Program.ensures_bind]
  constructor <;> intro h <;> refine h.imp fun r s' hr => ?_ <;> cases r <;> exact hr

theorem Ends.imp {x : Operation α} (h : Ends step good bad x s)
    (hg : ∀ a s', good a s' → good' a s') (hb : ∀ e s', bad e s' → bad' e s') :
    Ends step good' bad' x s := by
  refine Program.Ensures.imp h fun r s' hr => ?_
  cases r with
  | ok a => exact hg a s' hr
  | error e => exact hb e s' hr

@[simp] theorem ends_lift (x : Task α) :
    Ends step good bad (ExceptT.lift x) s ↔ Program.Ensures step good x s := by
  show Program.Ensures step (Outcome good bad) (x >>= fun a => pure (.ok a)) s ↔ _
  rw [Program.ensures_bind]
  rfl

theorem ends_check (x : Except SpecFault α) :
    Ends step good bad (check x) s ↔ Outcome good bad (x.mapError SpecFault.error) s := by
  cases x <;> rfl

theorem ends_concluding {x : Operation α} {onOk : Task Unit} {onError : BridgeError → Task Unit}
    (h : Ends step (fun a s' => Program.Ensures step (fun _ => good a) onOk s')
      (fun e s' => Program.Ensures step (fun _ => bad e) (onError e) s') x s) :
    Ends step good bad (concluding x onOk onError) s := by
  show Program.Ensures step (Outcome good bad) (x.run >>= _) s
  rw [Program.ensures_bind]
  refine Program.Ensures.imp h fun r s' hr => ?_
  cases r with
  | ok a => exact (Program.ensures_bind _ _).2 hr
  | error e => exact (Program.ensures_bind _ _).2 hr

end Ends

/-- Every run of the operation from `s` ends with `good` or fails with `bad`. -/
def Ensures (images : OrderedMap String ImageInfo) (calls : Calls σ) (good : α → σ → Prop)
    (bad : BridgeError → σ → Prop) (x : Operation α) (s : σ) : Prop :=
  Task.Ensures images calls (Outcome good bad) x.run s

variable {images : OrderedMap String ImageInfo} {calls : Calls σ} {s : σ}
variable {good good' : α → σ → Prop} {bad bad' : BridgeError → σ → Prop}

@[simp] theorem ensures_pure (a : α) :
    Ensures images calls good bad (pure a : Operation α) s ↔ good a s := .rfl

@[simp] theorem ensures_throw (e : BridgeError) :
    Ensures images calls good bad (throw e : Operation α) s ↔ bad e s := .rfl

@[simp] theorem ensures_bind {good : β → σ → Prop} (x : Operation α) (f : α → Operation β) :
    Ensures images calls good bad (x >>= f) s ↔
      Ensures images calls (fun a s' => Ensures images calls good bad (f a) s') bad x s :=
  ends_bind x f

theorem Ensures.imp {x : Operation α} (h : Ensures images calls good bad x s)
    (hg : ∀ a s', good a s' → good' a s') (hb : ∀ e s', bad e s' → bad' e s') :
    Ensures images calls good' bad' x s :=
  Ends.imp h hg hb

@[simp] theorem ensures_lift (x : Task α) :
    Ensures images calls good bad (ExceptT.lift x) s ↔ Task.Ensures images calls good x s :=
  ends_lift x

@[simp] theorem ensures_log (e : Event) {good : Unit → σ → Prop} :
    Ensures images calls good bad (log e) s ↔ good () s := by
  rw [log, ensures_lift, Task.ensures_log]

@[simp] theorem ensures_measure (m : Measure) {good : Unit → σ → Prop} :
    Ensures images calls good bad (measure m) s ↔ good () s := by
  rw [measure, ensures_lift, Task.ensures_measure]

@[simp] theorem ensures_cluster {q : Cluster.Request} {good : q.Answer → σ → Prop} :
    Ensures images calls good bad (cluster q) s ↔
      ∀ r s', calls q s r s' → Outcome good bad (r.mapError BridgeError.cluster) s' := .rfl

@[simp] theorem ensures_inspectImage {image : String} {good : Option ImageInfo → σ → Prop} :
    Ensures images calls good bad (engine (.inspectImage image)) s ↔
      good (images.get? image) s ∧ ∀ e, bad (.engine e) s := by
  constructor
  · intro h
    exact ⟨h (.ok (images.get? image)) s ⟨rfl, .inl rfl⟩,
      fun e => h (.error e) s ⟨rfl, .inr ⟨e, rfl⟩⟩⟩
  · rintro ⟨hg, hb⟩ r _ ⟨rfl, rfl | ⟨e, rfl⟩⟩
    · exact hg
    · exact hb e

@[simp] theorem ensures_inspectContainer {id : String} {good : Option ContainerInfo → σ → Prop} :
    Ensures images calls good bad (engine (.inspectContainer id)) s ↔
      (∀ info, good info s) ∧ ∀ e, bad (.engine e) s := by
  constructor
  · intro h
    exact ⟨fun info => h (.ok info) s rfl, fun e => h (.error e) s rfl⟩
  · rintro ⟨hg, hb⟩ (e | info) _ rfl
    · exact hb e
    · exact hg info

theorem ensures_check (x : Except SpecFault α) :
    Ensures images calls good bad (check x) s ↔
      Outcome good bad (x.mapError SpecFault.error) s :=
  ends_check x

theorem ensures_concluding {x : Operation α} {onOk : Task Unit} {onError : BridgeError → Task Unit}
    (h : Ensures images calls
      (fun a s' => Task.Ensures images calls (fun _ => good a) onOk s')
      (fun e s' => Task.Ensures images calls (fun _ => bad e) (onError e) s') x s) :
    Ensures images calls good bad (concluding x onOk onError) s :=
  ends_concluding h

end Operation
end ContainerBridge
