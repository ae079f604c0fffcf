import ContainerBridge.Connector
import ContainerBridge.Proofs.Conduct
import Mathlib.Logic.Relation

/-! Creations under way at the same time on one cluster, whose calls come in any order. Each of them
stands in a stage that its own calls have led to. -/

namespace ContainerBridge.Lifecycle

open Cluster Cluster.State

/-- A call to the cluster: the request that made it, and what the cluster was before. -/
structure Turn (ι : Type) where
  owner : ι
  call : Request
  before : State

namespace Turn

variable {ι : Type} (t : Turn ι)

/-- The cluster after the call. -/
def after : State := (t.before.answer t.call).2

def Checks : Prop := ∃ project, t.call = .projectExists project

def Serves : Prop := ∃ sv, t.call = .createService sv

def Deploys : Prop := ∃ d, t.call = .createDeployment d

/-- The call was to create a service, and met one of the same name. -/
def Refused (message : String) : Prop :=
  ∃ sv, t.call = .createService sv ∧
    t.before.createService sv = (.error (.api 409 message), t.before)

/-- The calls that a request has made by the time it is in a stage. -/
def Fits : Stage → Prop
  | .asking => t.Checks
  | .holding => ∀ m, ¬ t.Refused m
  | .refused e => t.Checks ∨ ∃ m, e = .api 409 m ∧ t.Refused m
  | .astray => True

end Turn

/-- Requests under way on one cluster, and the calls that they made, in order. -/
structure Race (ι : Type) where
  cluster : State
  tasks : ι → Task (Except BridgeError ContainerCreated)
  turns : List (Turn ι)

variable {ι : Type}

/-- Every request is to create a container, and has done nothing yet. -/
def Race.start (s : Settings) (specs : ι → ContainerSpec) (c : State) : Race ι where
  cluster := c
  tasks i := (Connector.create (specs i) (.cluster s)).run
  turns := []

/-- The race in which `p` is what is left of one request. -/
def Race.withTask [DecidableEq ι] (R : Race ι) (i : ι)
    (p : Task (Except BridgeError ContainerCreated)) : Race ι :=
  { R with tasks := Function.update R.tasks i p }

/-- The race after a call that left the cluster as `c`. -/
def Race.called (R : Race ι) (i : ι) (q : Request) (c : State) : Race ι :=
  { R with cluster := c, turns := R.turns ++ [⟨i, q, R.cluster⟩] }

/-- One action of one request: a call to the cluster, answered at once, or an action that leaves the
cluster alone. -/
inductive Race.Step [DecidableEq ι] (images : OrderedMap String ImageInfo) :
    Race ι → Race ι → Prop
  | call {R : Race ι} {i : ι} {q : Request} {next : Except ClusterFailure q.Answer → Task _}
    {r : Except ClusterFailure q.Answer} {c : State} (hi : R.tasks i = .ask (.cluster q) next)
    (ha : R.cluster.answer q = (r, c)) : Step images R ((R.called i q c).withTask i (next r))
  | idle {R : Race ι} {i : ι} {a : Action} {next : a.Reply → Task _} {r : a.Reply}
    (hi : R.tasks i = .ask a next) (hcall : a.call? = none)
    (ha : Permits images Answers a R.cluster r R.cluster) :
    Step images R (R.withTask i (next r))

/-- What is left of a request calls the cluster no more, and fails. -/
def Fails (images : OrderedMap String ImageInfo) (e : BridgeError)
    (p : Task (Except BridgeError ContainerCreated)) : Prop :=
  ∀ {σ : Type} (calls : Calls σ) (s : σ),
    Task.Ensures images calls (fun res s' => res = .error e ∧ s' = s) p s

/-- The request that made the call was refused its service, fails for it, and has not changed the
cluster. -/
structure Rejected (images : OrderedMap String ImageInfo) (R : Race ι) (t : Turn ι) : Prop where
  conflict : ∃ m, t.Refused m ∧ Fails images (.cluster (.api 409 m)) (R.tasks t.owner)
  harmless : ∀ t' ∈ R.turns, t'.owner = t.owner → t'.after = t'.before

/-- The tasks and the calls of a race go with the stages of its requests. -/
structure Standing (images : OrderedMap String ImageInfo) (k : Key) (R : Race ι)
    (stage : ι → Stage) : Prop where
  tasks : ∀ i, Task.Ensures images (Conduct k) Stage.Ends (R.tasks i) (stage i)
  turns : ∀ t ∈ R.turns, t.Fits (stage t.owner)
  order : R.turns.Pairwise fun t₀ t => t₀.Serves → t.Serves →
    t.owner ≠ t₀.owner ∧ ∃ m, t.Refused m

variable {images : OrderedMap String ImageInfo} {k : Key} {c : State} {R R' : Race ι}
variable {stage : ι → Stage} {i : ι} {t : Turn ι}

theorem Turn.Refused.after {m : String} (h : t.Refused m) : t.after = t.before := by
  obtain ⟨sv, hcall, hanswer⟩ := h
  rw [Turn.after, hcall]
  exact congrArg Prod.snd hanswer

theorem Turn.Refused.serves {m : String} (h : t.Refused m) : t.Serves := by
  obtain ⟨sv, hcall, -⟩ := h
  exact ⟨sv, hcall⟩

theorem Turn.Checks.after (h : t.Checks) : t.after = t.before := by
  obtain ⟨project, hcall⟩ := h
  rw [Turn.after, hcall]
  rfl

theorem Turn.Checks.not_serves (h : t.Checks) : ¬ t.Serves := by
  rintro ⟨sv, hsv⟩
  obtain ⟨project, hcall⟩ := h
  cases hcall.symm.trans hsv

theorem Turn.Checks.fits (h : t.Checks) (g : Stage) : t.Fits g := by
  cases g with
  | asking => exact h
  | holding => exact fun m hm => h.not_serves hm.serves
  | refused e => exact .inl h
  | astray => trivial

/-- Once its service is refused, what is left of a creation fails without another call. -/
theorem fails_of_refused {e : ClusterFailure} {p : Task (Except BridgeError ContainerCreated)}
    (h : Task.Ensures images (Conduct k) Stage.Ends p (.refused e)) :
    Fails images (.cluster e) p := by
  intro σ calls s
  induction p with
  | done res => exact ⟨h, rfl⟩
  | ask a next ih =>
    intro r s' hr
    cases hcall : a.call? with
    | none =>
      obtain ⟨rfl, hr'⟩ := hr.transfer hcall (Stage.refused e)
      exact ih r (h r _ hr')
    | some q =>
      cases a with
      | cluster q' =>
        -- a call would lead astray, where no creation can end
        obtain ⟨g, hg⟩ := Conduct.exists k q' (.refused e) r
        have hastray := h r g hg
        rw [hg.of_refused] at hastray
        exact (not_ensures_astray hastray).elim
      | _ => cases hcall

theorem Standing.checks (h : Standing images k R stage) (hi : stage i = .asking)
    (ht : t ∈ R.turns) (ho : t.owner = i) : t.Checks := by
  have hfits := h.turns t ht
  rw [ho, hi] at hfits
  exact hfits

/-- While a request is asking, the calls that create services are those of others. -/
theorem Standing.owner_ne (h : Standing images k R stage) (hi : stage i = .asking)
    (ht : t ∈ R.turns) (hserves : t.Serves) : i ≠ t.owner := by
  intro ho
  exact (h.checks hi ht ho.symm).not_serves hserves

theorem Standing.holding_of_ok (h : Standing images k R stage) {a : ContainerCreated}
    (hi : R.tasks i = .done (.ok a)) : stage i = .holding := by
  have htask := h.tasks i
  rw [hi] at htask
  cases hg : stage i with
  | asking =>
    rw [hg] at htask
    obtain ⟨e, he⟩ := htask
    cases he
  | holding => rfl
  | refused e =>
    rw [hg] at htask
    cases htask
  | astray =>
    rw [hg] at htask
    exact htask.elim

theorem Standing.holding_of_deploys (h : Standing images k R stage) (ht : t ∈ R.turns)
    (hd : t.Deploys) : stage t.owner = .holding := by
  have hfits := h.turns t ht
  obtain ⟨d, hcall⟩ := hd
  have hchecks : ¬ t.Checks := by
    rintro ⟨project, hp⟩
    cases hp.symm.trans hcall
  cases hg : stage t.owner with
  | asking =>
    rw [hg] at hfits
    exact (hchecks hfits).elim
  | holding => rfl
  | refused e =>
    rw [hg] at hfits
    obtain hc | ⟨m, -, sv, hsv, -⟩ := hfits
    · exact (hchecks hc).elim
    · cases hsv.symm.trans hcall
  | astray =>
    have htask := h.tasks t.owner
    rw [hg] at htask
    exact (not_ensures_astray htask).elim

/-- A call to create a service that was refused is that of a rejected request. -/
theorem Standing.rejected {m : String} (h : Standing images k R stage) (ht : t ∈ R.turns)
    (hm : t.Refused m) : Rejected images R t := by
  have hfits := h.turns t ht
  have htask := h.tasks t.owner
  cases hg : stage t.owner with
  | asking =>
    rw [hg] at hfits
    exact (Turn.Checks.not_serves hfits hm.serves).elim
  | holding =>
    rw [hg] at hfits
    exact (hfits m hm).elim
  | refused e =>
    rw [hg] at hfits htask
    obtain hchecks | ⟨m', rfl, hm'⟩ := hfits
    · exact (hchecks.not_serves hm.serves).elim
    · refine ⟨⟨m', hm', fails_of_refused htask⟩, fun t' ht' ho => ?_⟩
      have hfits' := h.turns t' ht'
      rw [ho, hg] at hfits'
      obtain hchecks | ⟨m'', -, hrefused⟩ := hfits'
      · exact hchecks.after
      · exact hrefused.after
  | astray =>
    rw [hg] at htask
    exact (not_ensures_astray htask).elim

theorem standing_start {s : Settings} {specs : ι → ContainerSpec} {id : String}
    (hid : ∀ i, Workspace.idOf (specs i).env = .ok id) (c₀ : State) :
    Standing images ⟨s.project, Workspace.resourceName id⟩ (.start s specs c₀)
      (fun _ => .asking) where
  tasks i := ensures_create_conduct (hid i) rfl
  turns _ ht := by cases ht
  order := .nil

section Call

variable {q : Request} {r : Except ClusterFailure q.Answer} {g : Stage}
variable {next : Except ClusterFailure q.Answer → Task (Except BridgeError ContainerCreated)}

/-- A call is a move of the request that makes it. -/
theorem Standing.move (h : Standing images k R stage) (hi : R.tasks i = .ask (.cluster q) next)
    (r : Except ClusterFailure q.Answer) :
    ∃ g, Move k (stage i) q r g ∧ Task.Ensures images (Conduct k) Stage.Ends (next r) g := by
  have htask := h.tasks i
  rw [hi] at htask
  obtain ⟨g, hg⟩ := Conduct.exists k q (stage i) r
  have hnext : Task.Ensures images (Conduct k) Stage.Ends (next r) g := htask r g hg
  rcases hg with hm | ⟨rfl, -⟩
  · exact ⟨g, hm, hnext⟩
  · exact (not_ensures_astray hnext).elim

variable [DecidableEq ι]

theorem Race.tasks_withTask_self (R : Race ι) (i : ι)
    (p : Task (Except BridgeError ContainerCreated)) : (R.withTask i p).tasks i = p :=
  Function.update_self ..

theorem Race.tasks_withTask_of_ne {j : ι} (h : j ≠ i) (R : Race ι)
    (p : Task (Except BridgeError ContainerCreated)) : (R.withTask i p).tasks j = R.tasks j :=
  Function.update_of_ne h ..

theorem Standing.idle {a : Action} {next : a.Reply → Task (Except BridgeError ContainerCreated)}
    {r : a.Reply} (h : Standing images k R stage) (hi : R.tasks i = .ask a next)
    (hcall : a.call? = none) (ha : Permits images Answers a R.cluster r R.cluster) :
    Standing images k (R.withTask i (next r)) stage := by
  refine { h with tasks := fun j => ?_ }
  by_cases hj : j = i
  · subst hj
    have htask := h.tasks j
    rw [hi] at htask
    rw [Race.tasks_withTask_self]
    exact htask r _ (ha.transfer hcall (stage j)).2
  · rw [Race.tasks_withTask_of_ne hj]
    exact h.tasks j

theorem Standing.call (h : Standing images k R stage)
    (hnext : Task.Ensures images (Conduct k) Stage.Ends (next r) g)
    (hfits : ∀ t ∈ R.turns, t.owner = i → t.Fits g)
    (hturn : (⟨i, q, R.cluster⟩ : Turn ι).Fits g)
    (horder : ∀ t ∈ R.turns, t.Serves → (⟨i, q, R.cluster⟩ : Turn ι).Serves →
      i ≠ t.owner ∧ ∃ m, (⟨i, q, R.cluster⟩ : Turn ι).Refused m) :
    Standing images k ((R.called i q c).withTask i (next r)) (Function.update stage i g) := by
  constructor
  case tasks =>
    intro j
    by_cases hj : j = i
    · subst hj
      rw [Race.tasks_withTask_self, Function.update_self]
      exact hnext
    · rw [Race.tasks_withTask_of_ne hj, Function.update_of_ne hj]
      exact h.tasks j
  case turns =>
    intro t ht
    rcases List.mem_append.1 ht with ht | ht
    · by_cases hj : t.owner = i
      · rw [hj, Function.update_self]
        exact hfits t ht hj
      · rw [Function.update_of_ne hj]
        exact h.turns t ht
    · obtain rfl := List.mem_singleton.1 ht
      rw [Function.update_self]
      exact hturn
  case order =>
    refine List.pairwise_append.2 ⟨h.order, List.pairwise_singleton .., fun t ht t' ht' => ?_⟩
    obtain rfl := List.mem_singleton.1 ht'
    exact horder t ht

end Call

/-! A schedule that is carried out -/

/-- The race after the next action of a request, when waits pass and the engine answers. -/
def Race.play [DecidableEq ι] (images : OrderedMap String ImageInfo) (R : Race ι) (i : ι) :
    Race ι :=
  match R.tasks i with
  | .done _ => R
  | .ask (.cluster q) next =>
    (R.called i q (R.cluster.answer q).2).withTask i (next (R.cluster.answer q).1)
  | .ask (.engine (.inspectImage image)) next => R.withTask i (next (.ok (images.get? image)))
  | .ask (.engine _) next => R.withTask i (next (.error .transport))
  | .ask (.wait _) next => R.withTask i (next true)
  | .ask (.log _) next => R.withTask i (next ())
  | .ask (.measure _) next => R.withTask i (next ())

variable [DecidableEq ι]

theorem Race.reaches_play (images : OrderedMap String ImageInfo) (R : Race ι) (i : ι) :
    Relation.ReflTransGen (Race.Step images) R (R.play images i) := by
  unfold play
  split
  · exact .refl
  · rename_i hi
    exact .single (.call hi rfl)
  · rename_i hi
    exact .single (.idle hi rfl ⟨rfl, .inl rfl⟩)
  · rename_i q _ hno hi
    refine .single (.idle hi rfl ?_)
    cases q with
    | inspectImage image => exact ⟨rfl, .inr ⟨_, rfl⟩⟩
    | _ => rfl
  · rename_i hi
    exact .single (.idle hi rfl rfl)
  · rename_i hi
    exact .single (.idle hi rfl rfl)
  · rename_i hi
    exact .single (.idle hi rfl rfl)

theorem Race.reaches_plays (images : OrderedMap String ImageInfo) (l : List ι) (R : Race ι) :
    Relation.ReflTransGen (Race.Step images) R (l.foldl (Race.play images) R) := by
  induction l generalizing R with
  | nil => exact .refl
  | cons i l ih => exact (R.reaches_play images i).trans (ih _)

end ContainerBridge.Lifecycle
