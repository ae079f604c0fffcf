import ContainerBridge.Proofs.Poll
import ContainerBridge.Proofs.World

/-! Runs that nothing disturbs: no wait is cut short, and neither the cluster nor the engine has an
outage. The calls that such a run puts to the cluster are noted in order. -/

namespace ContainerBridge

/-- A cluster, and the calls that were put to it. -/
structure Ledger where
  cluster : Cluster.State
  calls : List Cluster.Request

/-- The ledger after one more call. -/
def Ledger.after (t : Ledger) (q : Cluster.Request) : Ledger :=
  ⟨(t.cluster.answer q).2, t.calls ++ [q]⟩

/-- How actions are answered when nothing disturbs a run. -/
def Undisturbed (images : OrderedMap String ImageInfo) :
    (a : Action) → Ledger → a.Reply → Ledger → Prop
  | .cluster q, t, r, t' => r = (t.cluster.answer q).1 ∧ t' = t.after q
  | .engine (.inspectImage image), t, r, t' => t' = t ∧ r = .ok (images.get? image)
  | .wait _, t, passed, t' => t' = t ∧ passed = true
  | _, t, _, t' => t' = t

variable {images : OrderedMap String ImageInfo} {t : Ledger} {α : Type}

namespace Task

@[simp] theorem undisturbed_cluster {q : Cluster.Request}
    {post : Except ClusterFailure q.Answer → Ledger → Prop} :
    Program.Ensures (Undisturbed images) post (cluster q) t ↔
      post (t.cluster.answer q).1 (t.after q) :=
  Program.ensures_request_of_unique fun _ _ => .rfl

@[simp] theorem undisturbed_log {e : Event} {post : Unit → Ledger → Prop} :
    Program.Ensures (Undisturbed images) post (log e) t ↔ post () t :=
  Program.ensures_request_of_unique fun _ _ => (and_iff_right rfl).symm

@[simp] theorem undisturbed_measure {m : Measure} {post : Unit → Ledger → Prop} :
    Program.Ensures (Undisturbed images) post (measure m) t ↔ post () t :=
  Program.ensures_request_of_unique fun _ _ => (and_iff_right rfl).symm

@[simp] theorem undisturbed_wait {d : Duration} {post : Bool → Ledger → Prop} :
    Program.Ensures (Undisturbed images) post (wait d) t ↔ post true t :=
  Program.ensures_request_of_unique fun _ _ => and_comm

end Task

namespace Operation

variable {bad : BridgeError → Ledger → Prop}

@[simp] theorem undisturbed_cluster {q : Cluster.Request} {good : q.Answer → Ledger → Prop} :
    Ends (Undisturbed images) good bad (cluster q) t ↔
      Outcome good bad ((t.cluster.answer q).1.mapError BridgeError.cluster) (t.after q) := by
  show Program.Ensures _ _ (Task.cluster q >>= _) t ↔ _
  rw [Program.ensures_bind, Task.undisturbed_cluster]
  rfl

@[simp] theorem undisturbed_log {e : Event} {good : Unit → Ledger → Prop} :
    Ends (Undisturbed images) good bad (log e) t ↔ good () t := by
  rw [log, ends_lift, Task.undisturbed_log]

@[simp] theorem undisturbed_measure {m : Measure} {good : Unit → Ledger → Prop} :
    Ends (Undisturbed images) good bad (measure m) t ↔ good () t := by
  rw [measure, ends_lift, Task.undisturbed_measure]

@[simp] theorem undisturbed_inspectImage {image : String}
    {good : Option ImageInfo → Ledger → Prop} :
    Ends (Undisturbed images) good bad (engine (.inspectImage image)) t ↔
      good (images.get? image) t := by
  constructor
  · intro h
    exact h (.ok (images.get? image)) t ⟨rfl, rfl⟩
  · rintro h _ _ ⟨rfl, rfl⟩
    exact h

end Operation

namespace World

/-- Nothing in the world disturbs a run. -/
structure Unhindered (w : World) : Prop where
  uncancelled : w.clock.cancelAt = none
  cluster : w.clusterOutages = []
  engine : w.engineOutages = []

/-- The calls that the run of an operation puts to the cluster, in order. -/
def callsOf (x : Operation α) (w : World) : List Cluster.Request :=
  (Program.requests answer x.run w).filterMap Action.call?

variable {w : World}

theorem Unhindered.answer_wait (h : w.Unhindered) (d : Duration) :
    w.answer (.wait d) = (true, { w with clock := ⟨w.clock.now + d.nanoseconds, none⟩ }) := by
  show ((w.clock.wait d).1, { w with clock := (w.clock.wait d).2 }) = _
  unfold Clock.wait
  rw [h.uncancelled]

theorem Unhindered.answer_engine (h : w.Unhindered) (q : Engine.Request) :
    w.answer (.engine q) =
      ((w.engine.answer q).1, { w with engine := (w.engine.answer q).2 }) := by
  show w.askEngine q = _
  unfold askEngine
  rw [h.engine]
  show ((w.engine.answer q).1, { w with engine := (w.engine.answer q).2, engineOutages := [] }) = _
  rw [← h.engine]

/-- The world stands where the actions led that the ledger is of. -/
structure Kept (images : OrderedMap String ImageInfo) (w : World) (l : List Action) (t : Ledger) :
    Prop where
  unhindered : w.Unhindered
  images : w.engine.images = images
  ledger : t = ⟨w.cluster, l.filterMap Action.call?⟩

/-- An action that is no call to the cluster leaves the ledger as it is. -/
theorem Kept.idle {l : List Action} {a : Action} {w' : World} (h : Kept images w l t)
    (ha : a.call? = none) (hw : w'.Unhindered) (hi : w'.engine.images = w.engine.images)
    (hc : w'.cluster = w.cluster) : Kept images w' (l ++ [a]) t where
  unhindered := hw
  images := hi.trans h.images
  ledger := by
    rw [h.ledger, hc, List.filterMap_append, List.filterMap_cons_none ha, List.filterMap_nil,
      List.append_nil]

/-- The answers of an unhindered world are those of an undisturbed run. -/
theorem Kept.answer {l : List Action} (h : Kept images w l t) (a : Action) :
    ∃ t', Undisturbed images a t (w.answer a).1 t' ∧ Kept images (w.answer a).2 (l ++ [a]) t' := by
  obtain ⟨hclock, hcalm, hengine⟩ := h.unhindered
  cases a with
  | cluster q =>
    have hq : w.answer (.cluster q) = w.reachCluster q := askCluster_of_calm hcalm q
    rw [hq]
    refine ⟨t.after q, ?_, ⟨hclock, hcalm, hengine⟩, h.images, ?_⟩
    · rw [h.ledger]
      exact ⟨rfl, rfl⟩
    · rw [h.ledger, List.filterMap_append]
      rfl
  | engine q =>
    have hi : (w.engine.answer q).2.images = w.engine.images := Engine.State.images_answer q _
    rw [h.unhindered.answer_engine q]
    refine ⟨t, ?_, h.idle rfl ⟨hclock, hcalm, hengine⟩ hi rfl⟩
    cases q with
    | inspectImage image => exact ⟨rfl, by rw [← h.images]; rfl⟩
    | _ => rfl
  | wait d =>
    rw [h.unhindered.answer_wait d]
    exact ⟨t, ⟨rfl, rfl⟩, h.idle rfl ⟨rfl, hcalm, hengine⟩ rfl rfl⟩
  | log e => exact ⟨t, rfl, h.idle rfl ⟨hclock, hcalm, hengine⟩ rfl rfl⟩
  | measure m => exact ⟨t, rfl, h.idle rfl ⟨hclock, hcalm, hengine⟩ rfl rfl⟩

/-- What holds of an operation that nothing disturbs holds of its run in an unhindered world. -/
theorem Unhindered.outcome (h : w.Unhindered) {good : α → Ledger → Prop}
    {bad : BridgeError → Ledger → Prop} {x : Operation α}
    (hx : Operation.Ends (Undisturbed w.engine.images) good bad x ⟨w.cluster, []⟩) :
    Outcome good bad (run x w).1 ⟨(run x w).2.cluster, callsOf x w⟩ := by
  obtain ⟨t, ht, hpost⟩ := Program.Ensures.run_requests (Kept w.engine.images)
    (fun a _ _ _ hv => hv.answer a) (⟨h, rfl, rfl⟩ : Kept w.engine.images w [] _) hx
  have hledger := ht.ledger
  rw [List.nil_append] at hledger
  rw [hledger] at hpost
  exact hpost

end World
end ContainerBridge
