import ContainerBridge.Proofs.Race

/-! Creations for one workspace that are under way at the same time. Nothing but the cluster keeps
them apart: the first to create the service excludes all others. -/

namespace ContainerBridge.Lifecycle

open Cluster Cluster.State

variable {ι : Type}

/-- The request has created the service under the key, perhaps the deployment, and no other service
or deployment was changed. -/
structure Wrote (k : Key) (c₀ : State) (R : Race ι) (i : ι) : Prop where
  service : ∃ t ∈ R.turns, ∃ stored, t.owner = i ∧ t.Serves ∧ t.before = c₀ ∧
    t.after.services = c₀.services.insert k stored ∧
    R.cluster.services = c₀.services.insert k stored
  deployment : R.cluster.deployments = c₀.deployments ∨
    ∃ t ∈ R.turns, ∃ d, t.owner = i ∧ t.call = .createDeployment d ∧
      R.cluster.deployments = c₀.deployments.insert k d

/-- Nobody has got past the checks, or one request holds the service and the others do not. -/
def Exclusion (k : Key) (c₀ : State) (R : Race ι) (stage : ι → Stage) : Prop :=
  ((∀ i, stage i = .asking) ∧ R.cluster = c₀) ∨
    ∃ w, stage w = .holding ∧
      (∀ i, i ≠ w → stage i = .asking ∨ ∃ m, stage i = .refused (.api 409 m)) ∧ Wrote k c₀ R w

/-- What is there under the key was written by the request. -/
structure WrittenBy (k : Key) (R : Race ι) (i : ι) : Prop where
  service : ∀ stored, R.cluster.services.get? k = some stored →
    ∃ t ∈ R.turns, t.owner = i ∧ t.Serves ∧ t.before.services.get? k = none ∧
      t.after.services.get? k = some stored
  deployment : ∀ d, R.cluster.deployments.get? k = some d →
    ∃ t ∈ R.turns, t.owner = i ∧ t.call = .createDeployment d

/-- At most one of the requests has its way: it alone creates a deployment and may succeed, and the
service and the deployment are its own. A request that is too late with its service is rejected. -/
structure Exclusive (images : OrderedMap String ImageInfo) (k : Key) (c₀ : State) (R : Race ι) :
    Prop where
  deploys : ∀ t ∈ R.turns, ∀ t' ∈ R.turns, t.Deploys → t'.Deploys → t.owner = t'.owner
  succeeds : ∀ i j a b, R.tasks i = .done (.ok a) → R.tasks j = .done (.ok b) → i = j
  rejects : R.turns.Pairwise fun t₀ t => t₀.Serves → t.Serves →
    t.owner ≠ t₀.owner ∧ Rejected images R t
  written : (R.cluster.services.get? k = none ∧ R.cluster.deployments.get? k = none) ∨
    ∃ i, WrittenBy k R i
  elsewhere : ∀ k', k' ≠ k → R.cluster.services.get? k' = c₀.services.get? k' ∧
    R.cluster.deployments.get? k' = c₀.deployments.get? k'

variable {images : OrderedMap String ImageInfo} {k : Key} {c₀ c : State} {R R' : Race ι}
variable {stage : ι → Stage} {i : ι}

/-- A creation that holds the service changes no service any more, and no deployment but its own. -/
theorem Move.answer_holding {q : Request} {r : Except ClusterFailure q.Answer} {g : Stage}
    {c' : State} (h : Move k .holding q r g) (ha : c.answer q = (r, c')) :
    g = .holding ∧ (¬ ∃ sv, q = .createService sv) ∧ c'.services = c.services ∧
      (c'.deployments = c.deployments ∨
        ∃ d, q = .createDeployment d ∧ c'.deployments = c.deployments.insert k d) := by
  cases h with
  | deploy hk =>
    obtain ⟨-, rfl⟩ := Prod.mk.inj ha
    refine ⟨rfl, by simp, rfl, .inr ⟨_, rfl, ?_⟩⟩
    rw [← hk]
    rfl
  | route =>
    obtain ⟨-, rfl⟩ := Prod.mk.inj ha
    exact ⟨rfl, by simp, rfl, .inl rfl⟩
  | list =>
    obtain ⟨m, -, -, rfl⟩ | ⟨-, -, rfl⟩ := answers_listPods ha
    · exact ⟨rfl, by simp, rfl, .inl rfl⟩
    · have hleft := (LeftByListing.refl c).tick
      exact ⟨rfl, by simp, hleft.services, .inl hleft.deployments⟩
  | label =>
    obtain ⟨e, -, rfl⟩ | ⟨pod, -, -, rfl⟩ := labelPod_cases ha
    · exact ⟨rfl, by simp, rfl, .inl rfl⟩
    · exact ⟨rfl, by simp, rfl, .inl rfl⟩

/-- What was written stays written when the cluster's services and deployments do. -/
theorem Wrote.kept {w : ι} (h : Wrote k c₀ R w) (hs : R'.cluster.services = R.cluster.services)
    (hd : R'.cluster.deployments = R.cluster.deployments) (ht : ∀ t ∈ R.turns, t ∈ R'.turns) :
    Wrote k c₀ R' w := by
  obtain ⟨⟨t, hmem, stored, hw, hserves, hbefore, hafter, hservices⟩, hdeployment⟩ := h
  refine ⟨⟨t, ht t hmem, stored, hw, hserves, hbefore, hafter, hs.trans hservices⟩, ?_⟩
  rcases hdeployment with hnone | ⟨t, hmem, d, hw, hcall, hd'⟩
  · exact .inl (hd.trans hnone)
  · exact .inr ⟨t, ht t hmem, d, hw, hcall, hd.trans hd'⟩

/-- The request that wrote the service may write its deployment, also over one that it wrote. -/
theorem Wrote.deployed {w : ι} {d : Deployment} {b : State} (h : Wrote k c₀ R w)
    (hs : R'.cluster.services = R.cluster.services)
    (hd : R'.cluster.deployments = R.cluster.deployments.insert k d)
    (ht : ∀ t ∈ R.turns, t ∈ R'.turns)
    (hturn : (⟨w, .createDeployment d, b⟩ : Turn ι) ∈ R'.turns) : Wrote k c₀ R' w := by
  obtain ⟨⟨t, hmem, stored, hw, hserves, hbefore, hafter, hservices⟩, hdeployment⟩ := h
  refine ⟨⟨t, ht t hmem, stored, hw, hserves, hbefore, hafter, hs.trans hservices⟩, .inr ?_⟩
  refine ⟨_, hturn, d, rfl, rfl, ?_⟩
  rcases hdeployment with hnone | ⟨t', -, d', -, -, hd'⟩
  · rw [hd, hnone]
  · rw [hd, hd', OrderedMap.insert_insert]

theorem Wrote.writtenBy (h : Wrote k c₀ R i) (hs : c₀.services.contains k = false)
    (hd : c₀.deployments.contains k = false) : WrittenBy k R i := by
  obtain ⟨⟨t, ht, stored, ho, hserves, rfl, hafter, hservices⟩, hdeployment⟩ := h
  constructor
  case service =>
    intro stored' hget
    rw [hservices, OrderedMap.get?_insert_self] at hget
    obtain rfl := Option.some.inj hget
    refine ⟨t, ht, ho, hserves, OrderedMap.contains_eq_false_iff.1 hs, ?_⟩
    rw [hafter, OrderedMap.get?_insert_self]
  case deployment =>
    intro d hget
    rcases hdeployment with hnone | ⟨t', ht', d', ho', hcall, hdeployments⟩
    · rw [hnone, OrderedMap.contains_eq_false_iff.1 hd] at hget
      cases hget
    · rw [hdeployments, OrderedMap.get?_insert_self] at hget
      obtain rfl := Option.some.inj hget
      exact ⟨t', ht', ho', hcall⟩

/-- Nothing was changed under another key. -/
theorem Wrote.elsewhere (h : Wrote k c₀ R i) {k' : Key} (hk : k' ≠ k) :
    R.cluster.services.get? k' = c₀.services.get? k' ∧
      R.cluster.deployments.get? k' = c₀.deployments.get? k' := by
  obtain ⟨⟨-, -, stored, -, -, -, -, hservices⟩, hdeployment⟩ := h
  refine ⟨?_, ?_⟩
  · rw [hservices, OrderedMap.get?_insert_of_ne _ _ hk]
  · rcases hdeployment with hnone | ⟨-, -, d, -, -, hdeployments⟩
    · rw [hnone]
    · rw [hdeployments, OrderedMap.get?_insert_of_ne _ _ hk]

theorem Exclusion.of_wrote {w : ι} (hw : stage w = .holding)
    (hothers : ∀ i, i ≠ w → stage i = .asking ∨ ∃ m, stage i = .refused (.api 409 m))
    (h : Wrote k c₀ R w) : Exclusion k c₀ R stage := .inr ⟨w, hw, hothers, h⟩

/-- An action that leaves the cluster as it is leaves the exclusion as it is. -/
theorem Exclusion.kept (h : Exclusion k c₀ R stage) (hc : R'.cluster = R.cluster)
    (ht : ∀ t ∈ R.turns, t ∈ R'.turns) : Exclusion k c₀ R' stage := by
  obtain ⟨hall, hcluster⟩ | ⟨w, hw, hothers, hwrote⟩ := h
  · exact .inl ⟨hall, hc.trans hcluster⟩
  · exact .of_wrote hw hothers (hwrote.kept (by rw [hc]) (by rw [hc]) ht)

/-- Where all but one are asking or refused, only that one can hold the service. -/
theorem eq_of_holding {w : ι}
    (hothers : ∀ i, i ≠ w → stage i = .asking ∨ ∃ m, stage i = .refused (.api 409 m))
    (hi : stage i = .holding) : i = w := by
  by_contra hne
  rcases hothers i hne with h | ⟨m, h⟩
  · cases h.symm.trans hi
  · cases h.symm.trans hi

/-- Two requests that hold the service are one. -/
theorem Exclusion.unique {j : ι} (h : Exclusion k c₀ R stage) (hi : stage i = .holding)
    (hj : stage j = .holding) : i = j := by
  obtain ⟨hall, -⟩ | ⟨w, hw, hothers, -⟩ := h
  · cases (hall i).symm.trans hi
  · rw [eq_of_holding hothers hi, eq_of_holding hothers hj]

variable [DecidableEq ι]

theorem others_update {w : ι} {g : Stage}
    (h : ∀ i, i ≠ w → stage i = .asking ∨ ∃ m, stage i = .refused (.api 409 m))
    (hg : i ≠ w → g = .asking ∨ ∃ m, g = .refused (.api 409 m)) :
    ∀ j, j ≠ w → Function.update stage i g j = .asking ∨
      ∃ m, Function.update stage i g j = .refused (.api 409 m) := by
  intro j hj
  by_cases hji : j = i
  · subst hji
    rw [Function.update_self]
    exact hg hj
  · rw [Function.update_of_ne hji]
    exact h j hj

section Moves

variable {next : Except ClusterFailure Unit → Task (Except BridgeError ContainerCreated)}
variable {sv : Service}

/-- A request whose service is created holds it from then on: nobody else has got so far. -/
theorem exclusion_serve (hs : Standing images k R stage) (he : Exclusion k c₀ R stage)
    (hsv : sv.key = k) (ha : R.cluster.createService sv = (.ok (), c))
    (hnext : Task.Ensures images (Conduct k) Stage.Ends (next (.ok ())) .holding) :
    Standing images k ((R.called i (.createService sv) c).withTask i (next (.ok ())))
      (Function.update stage i .holding) ∧
    Exclusion k c₀ ((R.called i (.createService sv) c).withTask i (next (.ok ())))
      (Function.update stage i .holding) := by
  obtain ⟨-, ⟨m, hr⟩, -⟩ | ⟨hnew, -, ⟨stored, hservices⟩, hdeployments⟩ := answers_createService ha
  · cases hr
  · obtain ⟨hall, hcluster⟩ | ⟨w, hw, -, hwrote⟩ := he
    · constructor
      · refine hs.call (q := .createService sv) hnext
          (fun t ht _ => (hs.checks (hall t.owner) ht rfl).fits _) ?_
          fun t ht hserves => ((hs.checks (hall t.owner) ht rfl).not_serves hserves).elim
        rintro m ⟨sv', hsv', hrefused⟩
        obtain rfl : sv = sv' := Request.createService.inj hsv'
        cases (congrArg Prod.fst ha).symm.trans (congrArg Prod.fst hrefused)
      · refine .of_wrote (w := i) (Function.update_self ..) (fun j hj => ?_) ⟨?_, ?_⟩
        · rw [Function.update_of_ne hj]
          exact .inl (hall j)
        · have hafter : (Turn.mk i (.createService sv) R.cluster).after = c := congrArg Prod.snd ha
          rw [hsv, hcluster] at hservices
          refine ⟨⟨i, .createService sv, R.cluster⟩, ?_, stored, rfl, ⟨sv, rfl⟩, hcluster, ?_,
            hservices⟩
          · exact List.mem_append_right _ (List.mem_singleton_self _)
          · rw [hafter]
            exact hservices
        · exact .inl (hdeployments.trans (congrArg State.deployments hcluster))
    · -- the service of another holder would have stood in the way
      obtain ⟨-, -, stored, -, -, -, -, hservices⟩ := hwrote.service
      rw [hservices, hsv, OrderedMap.contains_insert] at hnew
      simp at hnew

/-- A request whose service is refused met that of the one that holds it. -/
theorem exclusion_refuse {e : ClusterFailure} (hk : c₀.services.contains k = false)
    (hs : Standing images k R stage) (he : Exclusion k c₀ R stage) (hg : stage i = .asking)
    (hsv : sv.key = k) (ha : R.cluster.createService sv = (.error e, c))
    (hnext : Task.Ensures images (Conduct k) Stage.Ends (next (.error e)) (.refused e)) :
    Standing images k ((R.called i (.createService sv) c).withTask i (next (.error e)))
      (Function.update stage i (.refused e)) ∧
    Exclusion k c₀ ((R.called i (.createService sv) c).withTask i (next (.error e)))
      (Function.update stage i (.refused e)) := by
  obtain ⟨hold, ⟨m, hr⟩, rfl⟩ | ⟨-, hr, -⟩ := answers_createService ha
  · obtain rfl : e = .api 409 m := Except.error.inj hr
    have hrefused : (⟨i, .createService sv, R.cluster⟩ : Turn ι).Refused m := ⟨sv, rfl, ha⟩
    obtain ⟨-, hcluster⟩ | ⟨w, hw, hothers, hwrote⟩ := he
    · rw [hcluster, hsv, hk] at hold
      cases hold
    · have hne : w ≠ i := by
        rintro rfl
        cases hw.symm.trans hg
      constructor
      · refine hs.call (q := .createService sv) hnext (fun t ht ho => ?_)
          (.inr ⟨m, rfl, hrefused⟩) fun t ht hserves _ => ⟨hs.owner_ne hg ht hserves, m, hrefused⟩
        exact (hs.checks hg ht ho).fits _
      · refine .of_wrote (w := w) ?_ (others_update hothers fun _ => .inr ⟨m, rfl⟩)
          (hwrote.kept rfl rfl fun _ ht => List.mem_append_left _ ht)
        rw [Function.update_of_ne hne]
        exact hw
  · cases hr

end Moves

/-- A request that asks whether its project exists changes nothing. -/
theorem exclusion_check {project : String} {r : Except ClusterFailure Bool}
    {next : Except ClusterFailure Bool → Task (Except BridgeError ContainerCreated)}
    (hs : Standing images k R stage) (he : Exclusion k c₀ R stage) (hg : stage i = .asking)
    (ha : R.cluster.answer (.projectExists project) = (r, c))
    (hnext : Task.Ensures images (Conduct k) Stage.Ends (next r) .asking) :
    Standing images k ((R.called i (.projectExists project) c).withTask i (next r))
      (Function.update stage i .asking) ∧
    Exclusion k c₀ ((R.called i (.projectExists project) c).withTask i (next r))
      (Function.update stage i .asking) := by
  obtain ⟨-, rfl⟩ := Prod.mk.inj ha
  have hchecks : (⟨i, .projectExists project, R.cluster⟩ : Turn ι).Checks := ⟨project, rfl⟩
  constructor
  · exact hs.call (q := .projectExists project) hnext (fun t ht ho => hs.checks hg ht ho) hchecks
      fun _ _ _ hserves => (hchecks.not_serves hserves).elim
  · rw [← hg, Function.update_eq_self]
    exact he.kept rfl fun _ ht => List.mem_append_left _ ht

/-- The request that holds the service goes on by itself. -/
theorem exclusion_hold {q : Request} {r : Except ClusterFailure q.Answer} {g : Stage}
    {next : Except ClusterFailure q.Answer → Task (Except BridgeError ContainerCreated)}
    (hs : Standing images k R stage) (he : Exclusion k c₀ R stage) (hg : stage i = .holding)
    (hm : Move k .holding q r g) (ha : R.cluster.answer q = (r, c))
    (hnext : Task.Ensures images (Conduct k) Stage.Ends (next r) g) :
    Standing images k ((R.called i q c).withTask i (next r)) (Function.update stage i g) ∧
    Exclusion k c₀ ((R.called i q c).withTask i (next r)) (Function.update stage i g) := by
  obtain ⟨rfl, hserves, hservices, hdeployments⟩ := hm.answer_holding ha
  constructor
  · refine hs.call hnext (fun t ht ho => ?_) (fun m hm => hserves hm.serves)
      fun t _ _ hserves' => (hserves hserves').elim
    rw [← hg, ← ho]
    exact hs.turns t ht
  · rw [← hg, Function.update_eq_self]
    obtain ⟨hall, -⟩ | ⟨w, hw, hothers, hwrote⟩ := he
    · cases (hall i).symm.trans hg
    · obtain rfl : i = w := eq_of_holding hothers hg
      refine .of_wrote hw hothers ?_
      rcases hdeployments with hsame | ⟨d, rfl, hd⟩
      · exact hwrote.kept hservices hsame fun _ ht => List.mem_append_left _ ht
      · exact hwrote.deployed hservices hd (fun _ ht => List.mem_append_left _ ht)
          (List.mem_append_right _ (List.mem_singleton_self _))

/-- One action keeps the standing and the exclusion, in stages that it may move on. -/
theorem exclusion_step (hk : c₀.services.contains k = false) (hs : Standing images k R stage)
    (he : Exclusion k c₀ R stage) (h : Race.Step images R R') :
    ∃ stage', Standing images k R' stage' ∧ Exclusion k c₀ R' stage' := by
  cases h with
  | idle hi hcall ha => exact ⟨stage, hs.idle hi hcall ha, he.kept rfl fun _ ht => ht⟩
  | @call i q next r c hi ha =>
    obtain ⟨g, hm, hnext⟩ := hs.move hi r
    refine ⟨Function.update stage i g, ?_⟩
    generalize hg : stage i = g₀ at hm
    cases g₀ with
    | asking =>
      cases hm with
      | check => exact exclusion_check hs he hg ha hnext
      | serve hsv => exact exclusion_serve hs he hsv ha hnext
      | refuse hsv => exact exclusion_refuse hk hs he hg hsv ha hnext
    | holding => exact exclusion_hold hs he hg hm ha hnext
    | refused e => cases hm
    | astray => cases hm

/-- However far the race has come, its requests stand somewhere, and one of them at most holds the
service. -/
theorem exclusion_reachable (hk : c₀.services.contains k = false)
    (hs : Standing images k R stage) (he : Exclusion k c₀ R stage)
    (h : Relation.ReflTransGen (Race.Step images) R R') :
    ∃ stage', Standing images k R' stage' ∧ Exclusion k c₀ R' stage' := by
  induction h with
  | refl => exact ⟨stage, hs, he⟩
  | tail _ hstep ih =>
    obtain ⟨stage', hs', he'⟩ := ih
    exact exclusion_step hk hs' he' hstep

/-- However the calls of creations for one workspace are interleaved, at most one of them has its
way. -/
theorem exclusive_create {s : Settings} {specs : ι → ContainerSpec} {id : String}
    (hid : ∀ i, Workspace.idOf (specs i).env = .ok id)
    (hservice : c₀.services.contains ⟨s.project, Workspace.resourceName id⟩ = false)
    (hdeployment : c₀.deployments.contains ⟨s.project, Workspace.resourceName id⟩ = false)
    (h : Relation.ReflTransGen (Race.Step images) (.start s specs c₀) R) :
    Exclusive images ⟨s.project, Workspace.resourceName id⟩ c₀ R := by
  obtain ⟨stage, hs, he⟩ := exclusion_reachable hservice (standing_start hid c₀)
    (.inl ⟨fun _ => rfl, rfl⟩) h
  constructor
  case deploys =>
    intro t ht t' ht' hd hd'
    exact he.unique (hs.holding_of_deploys ht hd) (hs.holding_of_deploys ht' hd')
  case succeeds =>
    intro i j a b hi hj
    exact he.unique (hs.holding_of_ok hi) (hs.holding_of_ok hj)
  case rejects =>
    refine hs.order.imp_of_mem fun {t₀ t} _ ht horder hserves₀ hserves => ?_
    obtain ⟨hne, m, hm⟩ := horder hserves₀ hserves
    exact ⟨hne, hs.rejected ht hm⟩
  case written =>
    obtain ⟨-, hcluster⟩ | ⟨w, -, -, hwrote⟩ := he
    · rw [hcluster]
      exact .inl ⟨OrderedMap.contains_eq_false_iff.1 hservice,
        OrderedMap.contains_eq_false_iff.1 hdeployment⟩
    · exact .inr ⟨w, hwrote.writtenBy hservice hdeployment⟩
  case elsewhere =>
    intro k' hk
    obtain ⟨-, hcluster⟩ | ⟨w, -, -, hwrote⟩ := he
    · rw [hcluster]
      exact ⟨rfl, rfl⟩
    · exact hwrote.elsewhere hk

/-- Two requests for one workspace that differ in their images. -/
def rivalSpecs (first : Bool) : ContainerSpec :=
  if first then sampleSpec else { sampleSpec with image := "other" }

/-- The race of the two requests after 20 turns each, one after the other. -/
def rivalRace : Race Bool :=
  (List.replicate 20 [true, false]).flatten.foldl (Race.play .empty)
    (.start sampleSettings rivalSpecs sampleWorld.cluster)

/-- What a request has come to, if it is at its end. -/
def Race.outcome (R : Race ι) (i : ι) : Option (Except BridgeError ContainerCreated) :=
  match R.tasks i with
  | .done res => some res
  | .ask _ _ => none

theorem exclusive_create_rivalRace :
    Exclusive .empty ⟨"che", "che-ws-k6"⟩ sampleWorld.cluster rivalRace ∧
    rivalRace.outcome true = some (.ok ⟨"8d5e2f0c41a7b3e9", []⟩) ∧
    rivalRace.outcome false =
      some (.error (.cluster (.api 409 "service che-ws-k6 exists"))) := by
  have hid : ∀ i, Workspace.idOf (rivalSpecs i).env = .ok "k6" := by
    intro i
    cases i <;> rfl
  have hservice : sampleWorld.cluster.services.contains
      ⟨sampleSettings.project, Workspace.resourceName "k6"⟩ = false := by decide
  have hdeployment : sampleWorld.cluster.deployments.contains
      ⟨sampleSettings.project, Workspace.resourceName "k6"⟩ = false := by decide
  have hreaches : Relation.ReflTransGen (Race.Step .empty)
      (.start sampleSettings rivalSpecs sampleWorld.cluster) rivalRace := Race.reaches_plays ..
  refine ⟨exclusive_create hid hservice hdeployment hreaches, ?_, ?_⟩
  · decide +kernel
  · decide +kernel

end ContainerBridge.Lifecycle
