import ContainerBridge.Proofs.Creation

/-! How a creation conducts itself towards the cluster, whatever the answers: it creates its service
before it changes anything else, and once the service is refused it calls no more. -/

namespace ContainerBridge.Lifecycle

open Cluster Cluster.State

/-- How far a creation has come in its calls. -/
inductive Stage where
  /-- It has asked questions only. -/
  | asking
  /-- It has created the service. -/
  | holding
  /-- Its service was refused. -/
  | refused (e : ClusterFailure)
  /-- It has made a call that no creation makes. -/
  | astray

/-- The calls that a creation of the deployment `k` makes, and its stages before and after them. -/
inductive Move (k : Key) :
    Stage → (q : Request) → Except ClusterFailure q.Answer → Stage → Prop
  | check {project r} : Move k .asking (.projectExists project) r .asking
  | serve {sv} (hk : sv.key = k) : Move k .asking (.createService sv) (.ok ()) .holding
  | refuse {sv e} (hk : sv.key = k) : Move k .asking (.createService sv) (.error e) (.refused e)
  | deploy {d r} (hk : d.key = k) : Move k .holding (.createDeployment d) r .holding
  | route {rt r} : Move k .holding (.createRoute rt) r .holding
  | list {project selector r} : Move k .holding (.listPods project selector) r .holding
  | label {project name key value r} :
    Move k .holding (.labelPod project name key value) r .holding

/-- Calls may be answered in any way; one that is no move of a creation leads astray. -/
def Conduct (k : Key) : Calls Stage :=
  fun q g r g' => Move k g q r g' ∨ (g' = .astray ∧ ∀ g'', ¬ Move k g q r g'')

/-- How a creation that ends in a stage may have ended. -/
def Stage.Ends (res : Except BridgeError ContainerCreated) : Stage → Prop
  | asking => ∃ e, res = .error e
  | holding => True
  | refused e => res = .error (.cluster e)
  | astray => False

variable {images : OrderedMap String ImageInfo} {s : Settings} {spec : ContainerSpec} {k : Key}
variable {q : Request} {r : Except ClusterFailure q.Answer} {g g' g'' : Stage} {id : String}

theorem Move.unique (h : Move k g q r g') (h' : Move k g q r g'') : g'' = g' := by
  cases h <;> cases h' <;> rfl

theorem Conduct.eq_of_move (h : Conduct k q g r g'') (hm : Move k g q r g') : g'' = g' := by
  rcases h with h | ⟨-, hno⟩
  · exact hm.unique h
  · exact (hno g' hm).elim

theorem Conduct.exists (k : Key) (q : Request) (g : Stage) (r : Except ClusterFailure q.Answer) :
    ∃ g', Conduct k q g r g' := by
  by_cases h : ∃ g', Move k g q r g'
  · obtain ⟨g', hg⟩ := h
    exact ⟨g', .inl hg⟩
  · exact ⟨.astray, .inr ⟨rfl, not_exists.1 h⟩⟩

theorem Conduct.of_astray (h : Conduct k q .astray r g') : g' = .astray := by
  rcases h with h | ⟨h, -⟩
  · cases h
  · exact h

theorem Conduct.of_refused {e : ClusterFailure} (h : Conduct k q (.refused e) r g') :
    g' = .astray := by
  rcases h with h | ⟨h, -⟩
  · cases h
  · exact h

/-- No task that is astray ends as a creation does. -/
theorem not_ensures_astray {p : Task (Except BridgeError ContainerCreated)} :
    ¬ Task.Ensures images (Conduct k) Stage.Ends p .astray := by
  intro h
  -- every action has some answer to it, and none leads back
  have hstep : ∀ (a : Action) g, g = Stage.astray →
      ∃ r g', Permits images (Conduct k) a g r g' ∧ g' = .astray := by
    rintro a _ rfl
    cases a with
    | cluster q =>
      obtain ⟨g', hg⟩ := Conduct.exists k q .astray (.error .transport)
      exact ⟨.error .transport, g', hg, hg.of_astray⟩
    | engine q =>
      cases q with
      | inspectImage image => exact ⟨.ok (images.get? image), _, ⟨rfl, .inl rfl⟩, rfl⟩
      | _ => exact ⟨.error .transport, _, rfl, rfl⟩
    | wait d => exact ⟨true, _, rfl, rfl⟩
    | log e => exact ⟨(), _, rfl, rfl⟩
    | measure m => exact ⟨(), _, rfl, rfl⟩
  obtain ⟨res, _, rfl, hend⟩ := h.exists_end hstep rfl
  exact hend

theorem ensures_requireProject_conduct :
    Operation.Ensures images (Conduct k) (fun _ g => g = .asking) (fun _ g => g = .asking)
      (requireProject s) .asking := by
  refine (Operation.ensures_bind _ _).2 (Operation.ensures_cluster.2 fun r g h => ?_)
  obtain rfl := h.eq_of_move .check
  rcases r with e | found
  · exact rfl
  · cases found
    · exact rfl
    · exact rfl

theorem ensures_plan_conduct (hid : Workspace.idOf spec.env = .ok id) :
    Operation.Ensures images (Conduct k)
      (fun p g => g = .asking ∧ p.names.resource = Workspace.resourceName id)
      (fun _ g => g = .asking) (plan s spec) .asking := by
  refine (ensures_plan_of_requireProject ensures_requireProject_conduct fun _ _ => rfl).imp ?_
    fun _ _ h => h
  rintro p g ⟨hg, hn, -⟩
  exact ⟨hg, Names.resource_of_ofSpec hn hid⟩

theorem ensures_createRoutes_conduct (rs : List Route) :
    Operation.Ensures images (Conduct k) (fun _ g => g = .holding) (fun _ g => g = .holding)
      (createRoutes rs) .holding := by
  induction rs with
  | nil => exact rfl
  | cons rt rs ih =>
    refine (Operation.ensures_bind _ _).2 (Operation.ensures_cluster.2 fun r g h => ?_)
    obtain rfl := h.eq_of_move .route
    cases r with
    | error e => exact rfl
    | ok _ => exact ih

theorem ensures_discover_conduct (deployment : String) :
    Operation.Ensures images (Conduct k) (fun _ g => g = .holding) (fun _ g => g = .holding)
      (discover s deployment) .holding := by
  refine ensures_discover_of_kept s (fun g hg => ensures_probe_of_kept ?_ ?_ hg) rfl
  · rintro _ r g rfl h
    exact h.eq_of_move .list
  · rintro name value _ r g rfl h
    exact h.eq_of_move .label

theorem ensures_carryOut_conduct {p : Plan} (hk : (⟨s.project, p.names.resource⟩ : Key) = k) :
    Operation.Ensures images (Conduct k) (fun a => Stage.Ends (.ok a))
      (fun e => Stage.Ends (.error e)) (carryOut s spec p) .asking := by
  unfold carryOut
  rw [Operation.ensures_bind, Operation.ensures_log]
  refine (Operation.ensures_bind _ _).2 (Operation.ensures_cluster.2 fun r g h => ?_)
  rcases r with e | ⟨⟨⟩⟩
  · obtain rfl := h.eq_of_move (.refuse hk)
    exact rfl
  · obtain rfl := h.eq_of_move (.serve hk)
    refine (Operation.ensures_bind _ _).2 ((Operation.ensures_log _).2 ?_)
    refine (Operation.ensures_bind _ _).2 (Operation.ensures_cluster.2 fun r g h => ?_)
    obtain rfl := h.eq_of_move (.deploy hk)
    cases r with
    | error e => exact trivial
    | ok _ =>
      refine (Operation.ensures_bind _ _).2 ((Operation.ensures_log _).2 ?_)
      refine (Operation.ensures_bind _ _).2 ((ensures_createRoutes_conduct _).imp ?_ ?_)
      · rintro _ _ rfl
        refine (Operation.ensures_bind _ _).2 ((ensures_discover_conduct _).imp ?_ ?_)
        · rintro d _ rfl
          exact trivial
        · rintro e _ rfl
          exact trivial
      · rintro e _ rfl
        exact trivial

/-- Every creation conducts itself as the moves tell. -/
theorem ensures_create_conduct (hid : Workspace.idOf spec.env = .ok id)
    (hk : (⟨s.project, Workspace.resourceName id⟩ : Key) = k) :
    Task.Ensures images (Conduct k) Stage.Ends (create s spec).run .asking := by
  have h : Operation.Ensures images (Conduct k) (fun a => Stage.Ends (.ok a))
      (fun e => Stage.Ends (.error e)) (create s spec) .asking := by
    refine Operation.ensures_concluding ?_
    simp only [Program.ensures_bind, Task.ensures_measure]
    refine (Operation.ensures_bind _ _).2 ((ensures_plan_conduct hid).imp ?_ ?_)
    · rintro p _ ⟨rfl, hname⟩
      exact ensures_carryOut_conduct (by rw [hname, hk])
    · rintro e _ rfl
      exact ⟨e, rfl⟩
  refine Program.Ensures.imp h fun res g hg => ?_
  cases res with
  | ok a => exact hg
  | error e => exact hg

end ContainerBridge.Lifecycle
