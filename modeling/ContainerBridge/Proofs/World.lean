import ContainerBridge.Proofs.Operation
import ContainerBridge.World

/-! Operations in a world: what holds of an operation however its actions are answered holds of its
run in every world whose cluster has no outages. -/

namespace ContainerBridge

/-- Tells of every wait whether it comes to its end, and moves the clock. -/
abbrev Waits := Duration → Clock → Bool × Clock

namespace World

/-- The world's reply when `waits` decides which waits are cancelled. -/
def answerUnder (waits : Waits) : (a : Action) → World → a.Reply × World
  | .wait d, w =>
    let (passed, clock) := waits d w.clock
    (passed, { w with clock := clock })
  | a, w => w.answer a

/-- Runs an operation when `waits` decides which of its waits are cancelled. -/
def runUnder {α : Type} (waits : Waits) (x : Operation α) (w : World) :
    Except BridgeError α × World :=
  Program.run (answerUnder waits) x.run w

theorem answerUnder_clock : answerUnder Clock.wait = answer := by
  funext a w
  cases a <;> rfl

theorem runUnder_clock {α : Type} (x : Operation α) : runUnder Clock.wait x = run x := by
  funext w
  rw [runUnder, answerUnder_clock]
  rfl

theorem askCluster_of_calm {w : World} (h : w.clusterOutages = []) (q : Cluster.Request) :
    w.askCluster q = w.reachCluster q := by
  have hw : { w with clusterOutages := [] } = w := by rw [← h]
  cases q <;> simp [askCluster, Outage.check, h, hw]

end World

/-- How a cluster in memory answers calls. -/
def Cluster.State.Answers : Calls Cluster.State := fun q c r c' => c.answer q = (r, c')

theorem Engine.State.images_answer (q : Engine.Request) (s : Engine.State) :
    (s.answer q).2.images = s.images := by
  cases q <;> rfl

namespace World

variable {α σ : Type} {images : OrderedMap String ImageInfo} {w : World}
variable {calls : Calls σ} {rel : World → σ → Prop} {t : σ}

theorem askCluster_engine (w : World) (q : Cluster.Request) :
    (w.askCluster q).2.engine = w.engine := by
  unfold askCluster
  split
  · rfl
  · split
    · split <;> rfl
    · rfl

theorem askEngine_images (w : World) (q : Engine.Request) :
    (w.askEngine q).2.engine.images = w.engine.images := by
  unfold askEngine
  split
  · rfl
  · exact Engine.State.images_answer q _

theorem askEngine_frame (w : World) (q : Engine.Request) :
    (w.askEngine q).2.cluster = w.cluster ∧
      (w.askEngine q).2.clusterOutages = w.clusterOutages := by
  unfold askEngine
  split
  · exact ⟨rfl, rfl⟩
  · exact ⟨rfl, rfl⟩

theorem askEngine_inspectImage (w : World) (image : String) :
    (w.askEngine (.inspectImage image)).1 = .ok (w.engine.images.get? image) ∨
      ∃ e, (w.askEngine (.inspectImage image)).1 = .error e := by
  unfold askEngine
  split
  · exact .inr ⟨_, rfl⟩
  · exact .inl rfl

/-- Worlds stand for the states of a cluster whose calls are answered as `calls` tells: so are the
calls of the world, and nothing else in the world matters. -/
structure Represents (calls : Calls σ) (rel : World → σ → Prop) : Prop where
  askCluster : ∀ {w : World} {t : σ} (q : Cluster.Request), rel w t →
    ∃ t', calls q t (w.askCluster q).1 t' ∧ rel (w.askCluster q).2 t'
  frame : ∀ {w w' : World} {t : σ}, rel w t → w'.cluster = w.cluster →
    w'.clusterOutages = w.clusterOutages → rel w' t

/-- Every answer of such a world is one that the action may get. -/
theorem permits_answerUnder (hrep : Represents calls rel) (waits : Waits) (a : Action)
    (ht : rel w t) (hi : w.engine.images = images) :
    ∃ t', Permits images calls a t (answerUnder waits a w).1 t' ∧
      rel (answerUnder waits a w).2 t' ∧ (answerUnder waits a w).2.engine.images = images := by
  cases a with
  | cluster q =>
    obtain ⟨t', hq, ht'⟩ := hrep.askCluster q ht
    exact ⟨t', hq, ht', (congrArg Engine.State.images (askCluster_engine w q)).trans hi⟩
  | engine q =>
    obtain ⟨hc, ho⟩ := askEngine_frame w q
    have ht' := hrep.frame ht hc ho
    have hi' := (askEngine_images w q).trans hi
    cases q with
    | inspectImage image => exact ⟨t, ⟨rfl, hi ▸ askEngine_inspectImage w image⟩, ht', hi'⟩
    | _ => exact ⟨t, rfl, ht', hi'⟩
  | wait d => exact ⟨t, rfl, hrep.frame ht rfl rfl, hi⟩
  | log e => exact ⟨t, rfl, hrep.frame ht rfl rfl, hi⟩
  | measure m => exact ⟨t, rfl, hrep.frame ht rfl rfl, hi⟩

/-- What an operation ensures however its calls are answered holds of its run. -/
theorem outcome_runUnder (hrep : Represents calls rel) (waits : Waits) (ht : rel w t)
    {good : α → σ → Prop} {bad : BridgeError → σ → Prop} {x : Operation α}
    (h : Operation.Ensures w.engine.images calls good bad x t) :
    ∃ t', rel (runUnder waits x w).2 t' ∧ Outcome good bad (runUnder waits x w).1 t' := by
  have hrel := fun a v t (hv : rel v t ∧ v.engine.images = w.engine.images) =>
    permits_answerUnder hrep waits a hv.1 hv.2
  obtain ⟨t', ⟨ht', -⟩, hp⟩ := Program.Ensures.run hrel ⟨ht, rfl⟩ h
  exact ⟨t', ht', hp⟩

theorem represents_calm : Represents Cluster.State.Answers fun w c =>
    w.cluster = c ∧ w.clusterOutages = [] where
  askCluster q h := by
    obtain ⟨rfl, hcalm⟩ := h
    rw [askCluster_of_calm hcalm]
    exact ⟨_, rfl, rfl, hcalm⟩
  frame h hc ho := ⟨hc.trans h.1, ho.trans h.2⟩

/-- What an operation ensures next to a cluster in memory holds of its run in a calm world. -/
theorem runUnder_of_ensures (post : Except BridgeError α → Cluster.State → Prop)
    {x : Operation α} (waits : Waits) (hw : w.clusterOutages = [])
    (h : Operation.Ensures w.engine.images Cluster.State.Answers (fun a => post (.ok a))
      (fun e => post (.error e)) x w.cluster) :
    post (runUnder waits x w).1 (runUnder waits x w).2.cluster ∧
      (runUnder waits x w).2.clusterOutages = [] := by
  obtain ⟨c, ⟨rfl, hcalm⟩, hp⟩ := outcome_runUnder represents_calm waits ⟨rfl, hw⟩ h
  exact ⟨(outcome_iff post).1 hp, hcalm⟩

/-- An engine without outages answers with the container that it finds. -/
theorem runUnder_inspectContainer_bind (waits : Waits) (hw : w.engineOutages = []) (id : String)
    (f : Option ContainerInfo → Operation α) :
    runUnder waits (Operation.engine (.inspectContainer id) >>= f) w =
      runUnder waits (f (w.engine.find id)) w := by
  have ha : answerUnder waits (.engine (.inspectContainer id)) w = (.ok (w.engine.find id), w) := by
    have hself : { w with engineOutages := [] } = w := by rw [← hw]
    show w.askEngine (.inspectContainer id) = _
    unfold askEngine
    rw [hw]
    exact congrArg (Prod.mk (Except.ok (w.engine.find id))) hself
  show Program.run (answerUnder waits) _
    (answerUnder waits (.engine (.inspectContainer id)) w).2 = _
  rw [ha]
  rfl

theorem eq_ok_of_toOption {ε : Type} {r : Except ε α} {a : α} (h : r.toOption = some a) :
    r = .ok a := by
  cases r with
  | ok b => exact congrArg _ (Option.some.inj h)
  | error e => cases h

end World
end ContainerBridge
