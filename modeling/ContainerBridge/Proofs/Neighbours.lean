import ContainerBridge.Proofs.Calls
import ContainerBridge.Proofs.Retry

/-! What a creation leaves of other workspaces, whichever calls fail on the way. Services and
deployments are named for the workspace. Routes are named for a port and the requested container
name: one that is created takes the place of any route of its name, whomever that belongs to. -/

namespace ContainerBridge.Lifecycle

open Cluster Cluster.State

/-- The second cluster has the services, deployments and routes of the first. -/
structure SameObjects (c c' : State) : Prop where
  services : c'.services = c.services
  deployments : c'.deployments = c.deployments
  routes : c'.routes = c.routes

/-- The service under the key was created, perhaps the deployment, and then some routes. -/
structure Underway (k : Key) (made : List Route) (c c' : State) : Prop where
  new : c.services.contains k = false
  services : ∃ stored, c'.services = c.services.insert k stored
  deployments : c'.deployments = c.deployments ∨ ∃ d, c'.deployments = c.deployments.insert k d
  routes : c'.routes = insertRoutes made c.routes

/-- How far a creation gets when any of its calls may fail. -/
inductive Attempt (s : Settings) (spec : ContainerSpec) (images : OrderedMap String ImageInfo)
    (c : State) : Except BridgeError ContainerCreated → State → Prop
  | before {e : BridgeError} {c' : State} (h : SameObjects c c') :
    Attempt s spec images c (.error e) c'
  | partway {p : Plan} {made : List Route} {e : BridgeError} {c' : State}
    (hp : Planned s spec images c p) (hmade : made <+: p.routes s)
    (h : Underway ⟨s.project, p.names.resource⟩ made c c') :
    Attempt s spec images c (.error e) c'
  | through {p : Plan} {created : ContainerCreated} {c' : State}
    (hp : Planned s spec images c p)
    (h : Underway ⟨s.project, p.names.resource⟩ (p.routes s) c c') :
    Attempt s spec images c (.ok created) c'

variable {images : OrderedMap String ImageInfo} {s : Settings} {spec : ContainerSpec} {k : Key}
variable {c c' c'' : State} {t : Trial} {made : List Route} {p : Plan}

theorem SameObjects.refl (c : State) : SameObjects c c := ⟨rfl, rfl, rfl⟩

theorem SameObjects.trans (h : SameObjects c c') (h' : SameObjects c' c'') :
    SameObjects c c'' :=
  ⟨h'.services.trans h.services, h'.deployments.trans h.deployments, h'.routes.trans h.routes⟩

theorem insertRoutes_concat (rs : List Route) (r : Route) (m : OrderedMap Key Route) :
    insertRoutes (rs ++ [r]) m = (insertRoutes rs m).insert r.key r :=
  List.foldl_concat ..

/-! One call -/

theorem Effect.projectExists {project : String} {r : Except ClusterFailure Bool}
    (h : Effect (.projectExists project) r c c') :
    c' = c ∧ (r = .ok true → c.projects.contains project = true) := by
  rcases h with ⟨hr, rfl⟩ | h
  · refine ⟨rfl, ?_⟩
    rintro rfl
    cases hr
  · obtain ⟨rfl, rfl⟩ := Prod.mk.inj h
    exact ⟨rfl, Except.ok.inj⟩

/-- A service is refused and nothing changes, or it is new. -/
theorem Effect.createService {sv : Service} {r : Except ClusterFailure Unit}
    (h : Effect (.createService sv) r c c') :
    ((∃ e, r = .error e) ∧ c' = c) ∨ (r = .ok () ∧ Underway sv.key [] c c') := by
  rcases h with ⟨hr, rfl⟩ | h
  · cases r with
    | error e => exact .inl ⟨⟨e, rfl⟩, rfl⟩
    | ok _ => cases hr
  · cases hs : c.services.contains sv.key with
    | true =>
      obtain ⟨-, ⟨m, rfl⟩, rfl⟩ | ⟨hnew, -⟩ := answers_createService h
      · exact .inl ⟨⟨_, rfl⟩, rfl⟩
      · rw [hs] at hnew
        cases hnew
    | false =>
      obtain ⟨rfl, rfl⟩ := Prod.mk.inj ((createService_of_new hs).symm.trans h)
      exact .inr ⟨rfl, hs, ⟨_, rfl⟩, .inl rfl, rfl⟩

theorem Effect.createDeployment {d : Deployment} {r : Except ClusterFailure Unit} {c₀ : State}
    (h : Effect (.createDeployment d) r c c') (hu : Underway d.key made c₀ c) :
    Underway d.key made c₀ c' := by
  rcases h with ⟨-, rfl⟩ | h
  · exact hu
  · obtain ⟨-, rfl⟩ := Prod.mk.inj h
    refine { hu with deployments := .inr ⟨d, ?_⟩ }
    show c.deployments.insert d.key d = _
    obtain he | ⟨d', he⟩ := hu.deployments
    · rw [he]
    · rw [he, OrderedMap.insert_insert]

theorem Effect.createRoute {rt : Route} {r : Except ClusterFailure Unit} {c₀ : State}
    (h : Effect (.createRoute rt) r c c') (hu : Underway k made c₀ c) :
    ((∃ e, r = .error e) ∧ Underway k made c₀ c') ∨
      (r = .ok () ∧ Underway k (made ++ [rt]) c₀ c') := by
  rcases h with ⟨hr, rfl⟩ | h
  · cases r with
    | error e => exact .inl ⟨⟨e, rfl⟩, hu⟩
    | ok _ => cases hr
  · obtain ⟨rfl, rfl⟩ := Prod.mk.inj h
    refine .inr ⟨rfl, { hu with routes := ?_ }⟩
    rw [insertRoutes_concat, ← hu.routes]
    rfl

theorem Effect.listPods {project : String} {selector : Selector}
    {r : Except ClusterFailure (List Pod)} (h : Effect (.listPods project selector) r c c') :
    SameObjects c c' := by
  rcases h with ⟨-, rfl⟩ | h
  · exact .refl c'
  · obtain ⟨m, -, -, rfl⟩ | ⟨-, -, rfl⟩ := answers_listPods h
    · exact .refl c'
    · have hleft := (LeftByListing.refl c).tick
      exact ⟨hleft.services, hleft.deployments, hleft.routes⟩

theorem Effect.labelPod {project name key value : String} {r : Except ClusterFailure Unit}
    (h : Effect (.labelPod project name key value) r c c') : SameObjects c c' := by
  rcases h with ⟨-, rfl⟩ | h
  · exact .refl c'
  · obtain ⟨e, -, rfl⟩ | ⟨pod, -, -, rfl⟩ := labelPod_cases h
    · exact ⟨rfl, rfl, rfl⟩
    · exact ⟨rfl, rfl, rfl⟩

theorem Underway.same (h : Underway k made c c') (hs : SameObjects c' c'') :
    Underway k made c c'' where
  new := h.new
  services := hs.services ▸ h.services
  deployments := hs.deployments ▸ h.deployments
  routes := hs.routes.trans h.routes

/-! The parts of a creation -/

theorem ensures_requireProject_trial (s : Settings) (t : Trial) :
    Operation.Ensures images Trial.Answers
      (fun _ t' => t'.cluster = t.cluster ∧ t.cluster.projects.contains s.project = true)
      (fun _ t' => t'.cluster = t.cluster) (requireProject s) t := by
  refine (Operation.ensures_bind _ _).2 (Operation.ensures_cluster.2 fun r t' h => ?_)
  obtain ⟨hc, hproject⟩ := h.2.projectExists
  rcases r with e | found
  · exact hc
  · cases found with
    | false => exact hc
    | true => exact ⟨hc, hproject rfl⟩

theorem ensures_plan_trial (s : Settings) (spec : ContainerSpec) (t : Trial) :
    Operation.Ensures images Trial.Answers
      (fun p t' => t'.cluster = t.cluster ∧ Planned s spec images t.cluster p)
      (fun _ t' => t'.cluster = t.cluster) (plan s spec) t := by
  refine (ensures_plan_of_requireProject (ensures_requireProject_trial s t) fun _ _ => rfl).imp ?_
    fun _ _ h => h
  rintro p t' ⟨⟨hc, hproject⟩, hn, hm⟩
  exact ⟨hc, hn, hm, hproject⟩

/-- Routes are created in order, up to one that fails. -/
theorem ensures_createRoutes_trial {rs : List Route} (h : Underway k made c t.cluster) :
    Operation.Ensures images Trial.Answers
      (fun _ t' => Underway k (made ++ rs) c t'.cluster)
      (fun _ t' => ∃ made', made' <+: made ++ rs ∧ Underway k made' c t'.cluster)
      (createRoutes rs) t := by
  induction rs generalizing made t with
  | nil => exact (List.append_nil made).symm ▸ h
  | cons rt rs ih =>
    refine (Operation.ensures_bind _ _).2 (Operation.ensures_cluster.2 fun r t' ht => ?_)
    obtain ⟨⟨e, rfl⟩, hu⟩ | ⟨rfl, hu⟩ := ht.2.createRoute h
    · exact ⟨made, List.prefix_append made _, hu⟩
    · have hrest := ih hu
      rw [List.append_assoc] at hrest
      exact hrest

/-- A search that fails changes as little as one that succeeds. -/
theorem ensures_discover_trial (s : Settings) (deployment : String) (t : Trial) :
    Operation.Ensures images Trial.Answers (fun _ t' => SameObjects t.cluster t'.cluster)
      (fun _ t' => SameObjects t.cluster t'.cluster) (discover s deployment) t := by
  refine ensures_discover_of_kept s (fun t' hs => ensures_probe_of_kept ?_ ?_ hs) (.refl _)
  · intro t₁ r t₂ hs h
    exact hs.trans h.2.listPods
  · intro name value t₁ r t₂ hs h
    exact hs.trans h.2.labelPod

theorem ensures_carryOut_trial (hp : Planned s spec images t.cluster p) :
    Operation.Ensures images Trial.Answers
      (fun a t' => Attempt s spec images t.cluster (.ok a) t'.cluster)
      (fun e t' => Attempt s spec images t.cluster (.error e) t'.cluster)
      (carryOut s spec p) t := by
  unfold carryOut
  rw [Operation.ensures_bind, Operation.ensures_log]
  refine (Operation.ensures_bind _ _).2 (Operation.ensures_cluster.2 fun r t₁ h => ?_)
  obtain ⟨⟨e, rfl⟩, hc⟩ | ⟨rfl, hu⟩ := h.2.createService
  · exact .before (hc ▸ .refl _)
  refine (Operation.ensures_bind _ _).2 ((Operation.ensures_log _).2 ?_)
  refine (Operation.ensures_bind _ _).2 (Operation.ensures_cluster.2 fun r t₂ h => ?_)
  have hu₂ := h.2.createDeployment hu
  cases r with
  | error e => exact .partway hp (List.nil_prefix ..) hu₂
  | ok _ =>
    refine (Operation.ensures_bind _ _).2 ((Operation.ensures_log _).2 ?_)
    refine (Operation.ensures_bind _ _).2 ((ensures_createRoutes_trial hu₂).imp ?_ ?_)
    · intro _ t₃ hu₃
      refine (Operation.ensures_bind _ _).2 ((ensures_discover_trial s _ t₃).imp ?_ ?_)
      · intro d t' hs
        exact .through hp (hu₃.same hs)
      · intro e t' hs
        exact .partway hp (List.prefix_refl _) (hu₃.same hs)
    · rintro e t' ⟨made, hmade, hu₃⟩
      exact .partway hp hmade hu₃

/-- Every creation ends in one of the ways listed, whatever calls fail. -/
theorem ensures_create_trial (s : Settings) (spec : ContainerSpec) (t : Trial) :
    Operation.Ensures images Trial.Answers
      (fun a t' => Attempt s spec images t.cluster (.ok a) t'.cluster)
      (fun e t' => Attempt s spec images t.cluster (.error e) t'.cluster) (create s spec) t := by
  refine Operation.ensures_concluding ?_
  simp only [Program.ensures_bind, Task.ensures_measure]
  refine (Operation.ensures_bind _ _).2 ((ensures_plan_trial s spec t).imp ?_ ?_)
  · rintro p t' ⟨hc, hp⟩
    rw [← hc] at hp ⊢
    exact ensures_carryOut_trial hp
  · intro e t' hc
    exact .before (hc ▸ .refl _)

/-! What is left of other workspaces -/

/-- The plan of the request has the route. -/
def Asks (s : Settings) (spec : ContainerSpec) (images : OrderedMap String ImageInfo) (c : State)
    (r : Route) : Prop :=
  ∃ p, Planned s spec images c p ∧ r ∈ p.routes s

/-- The second cluster is what a creation for the deployment `k` may leave of the first. Nothing
else is changed but routes that go by the name of one of the request's. -/
structure Spared (s : Settings) (spec : ContainerSpec) (images : OrderedMap String ImageInfo)
    (k : Key) (c c' : State) : Prop where
  services : ∀ k', k' ≠ k → c'.services.get? k' = c.services.get? k'
  deployments : ∀ k', k' ≠ k → c'.deployments.get? k' = c.deployments.get? k'
  /-- A request for a service that is there already is refused as a whole. -/
  taken : c.services.contains k = true → SameObjects c c'
  routes : ∀ k', c'.routes.get? k' = c.routes.get? k' ∨
    ∃ r, Asks s spec images c r ∧ r.key = k' ∧ c'.routes.get? k' = some r

theorem Planned.unique {p' : Plan} (h : Planned s spec images c p)
    (h' : Planned s spec images c p') : p' = p := by
  have hn : p.names = p'.names := Except.ok.inj (h.names.symm.trans h'.names)
  have hm := h.made
  rw [hn, h'.made] at hm
  exact Except.ok.inj hm

/-- The routes of a request lead to the service of its workspace. -/
theorem Asks.serviceName {r : Route} {id : String} (h : Asks s spec images c r)
    (hid : Workspace.idOf spec.env = .ok id) : r.serviceName = Workspace.resourceName id := by
  obtain ⟨p, hp, hr⟩ := h
  rw [(Plan.mem_routes hr).2.1, hp.resource hid]

theorem SameObjects.spared (h : SameObjects c c') (k : Key) : Spared s spec images k c c' where
  services k' _ := by rw [h.services]
  deployments k' _ := by rw [h.deployments]
  taken _ := h
  routes k' := .inl (by rw [h.routes])

theorem Underway.spared (h : Underway ⟨s.project, p.names.resource⟩ made c c')
    (hp : Planned s spec images c p) (hmade : made <+: p.routes s) :
    Spared s spec images ⟨s.project, p.names.resource⟩ c c' where
  services k' hne := by
    obtain ⟨stored, he⟩ := h.services
    rw [he, OrderedMap.get?_insert_of_ne _ _ hne]
  deployments k' hne := by
    obtain he | ⟨d, he⟩ := h.deployments
    · rw [he]
    · rw [he, OrderedMap.get?_insert_of_ne _ _ hne]
  taken ht := by
    rw [h.new] at ht
    cases ht
  routes k' := by
    rw [h.routes]
    obtain ⟨-, he⟩ | ⟨r, hr, hk, he⟩ := insertRoutes_cases made c.routes k'
    · exact .inl he
    · exact .inr ⟨r, ⟨p, hp, hmade.mem hr⟩, hk, he⟩

theorem Attempt.spared {id : String} {res : Except BridgeError ContainerCreated}
    (h : Attempt s spec images c res c') (hid : Workspace.idOf spec.env = .ok id) :
    Spared s spec images ⟨s.project, Workspace.resourceName id⟩ c c' := by
  cases h with
  | before h => exact h.spared _
  | partway hp hmade h =>
    rw [← hp.resource hid]
    exact h.spared hp hmade
  | through hp h =>
    rw [← hp.resource hid]
    exact h.spared hp (List.prefix_refl _)

/-- A creation that succeeds has a route under the name of each of its routes. -/
theorem Attempt.routed {created : ContainerCreated} {r : Route}
    (h : Attempt s spec images c (.ok created) c') (hr : Asks s spec images c r) :
    ∃ r', Asks s spec images c r' ∧ r'.key = r.key ∧ c'.routes.get? r.key = some r' := by
  cases h with
  | @through p _ _ hp h =>
    obtain ⟨p', hp', hmem⟩ := hr
    obtain rfl := hp.unique hp'
    rw [h.routes]
    obtain ⟨hne, -⟩ | ⟨r', hr', hk, he⟩ := insertRoutes_cases (p'.routes s) c.routes r.key
    · exact (hne r hmem rfl).elim
    · exact ⟨r', ⟨p', hp', hr'⟩, hk, he⟩

/-- Whatever comes of a creation, and whatever calls fail, other workspaces keep their services and
deployments, and every route whose name is that of none of the request's. Where a name is the same,
a creation that succeeds has put a route of its own in the place of the other. -/
theorem spared_create {w : World} {id : String} (waits : Waits)
    (hid : Workspace.idOf spec.env = .ok id) :
    let k : Key := ⟨s.project, Workspace.resourceName id⟩
    let res := World.runUnder waits (Connector.create spec (.cluster s)) w
    Spared s spec w.engine.images k w.cluster res.2.cluster ∧
    (∀ r, Asks s spec w.engine.images w.cluster r → r.serviceName = k.name) ∧
    ∀ created, res.1 = .ok created → ∀ r, Asks s spec w.engine.images w.cluster r →
      ∃ r', Asks s spec w.engine.images w.cluster r' ∧ r'.key = r.key ∧
        res.2.cluster.routes.get? r.key = some r' := by
  intro k res
  obtain ⟨t, hc, hres⟩ := World.outcome_runUnder (t := (⟨w.cluster, []⟩ : Trial)) represents_trial
    waits rfl (ensures_create_trial s spec ⟨w.cluster, []⟩)
  have ha : Attempt s spec w.engine.images w.cluster res.1 res.2.cluster := by
    change res.2.cluster = t.cluster at hc
    change Outcome _ _ res.1 t at hres
    rw [hc]
    cases hr : res.1 with
    | ok created =>
      rw [hr] at hres
      exact hres
    | error e =>
      rw [hr] at hres
      exact hres
  refine ⟨ha.spared hid, fun r hr => hr.serviceName hid, fun created hcreated r hr => ?_⟩
  rw [hcreated] at ha
  exact ha.routed hr

/-! Two workspaces whose names meet in a route -/

/-- A workspace with an agent and a web server. -/
def settledSpec : ContainerSpec :=
  { sampleSpec with
    name := "workspacejpda-k6_dev"
    env := ["CHE_WORKSPACE_ID=workspacejpda-k6"]
    exposedPorts := .ofMembers ["4401/tcp", "8080/tcp"] }

/-- A workspace with a debug port of the agent. -/
def newcomerSpec : ContainerSpec :=
  { sampleSpec with exposedPorts := .ofMembers ["4403/tcp"] }

/-- A world in which one workspace was created, and nothing else. -/
def settledWorld : World :=
  let rollout : Rollout := ⟨"docker://8d5e2f0c41a7b3e9", 0⟩
  leaveAll sampleSettings [(.create settledSpec, Clock.wait)]
    { cluster := bareCluster (.ofMembers ["che"]) (some rollout) none none }

theorem asks_newcomerSpec {r : Route}
    (h : Asks sampleSettings newcomerSpec settledWorld.engine.images settledWorld.cluster r) :
    r.key = ⟨"che", "wsagent-jpda-k6-dev"⟩ := by
  obtain ⟨p, hp, hr⟩ := h
  have hn : (⟨"k6", "che-ws-k6", "k6-dev"⟩ : Names) = p.names := Except.ok.inj hp.names
  have hkeys : (Plan.make sampleSettings ⟨"k6", "che-ws-k6", "k6-dev"⟩ newcomerSpec
      (declaredPorts settledWorld.engine.images newcomerSpec.image)).toOption.map
        (fun p => (p.routes sampleSettings).map Route.key) =
      some [⟨"che", "wsagent-jpda-k6-dev"⟩] := by decide +kernel
  rw [hn, hp.made] at hkeys
  have hall : (p.routes sampleSettings).map Route.key = [⟨"che", "wsagent-jpda-k6-dev"⟩] :=
    Option.some.inj hkeys
  have hmem : r.key ∈ (p.routes sampleSettings).map Route.key := List.mem_map_of_mem hr
  rw [hall, List.mem_singleton] at hmem
  exact hmem

theorem spared_create_settledWorld :
    let w₁ := (World.runUnder Clock.wait
      (Connector.create newcomerSpec (.cluster sampleSettings)) settledWorld).2
    (w₁.cluster.services.get? ⟨"che", "che-ws-jpda-k6"⟩).isSome = true ∧
    (w₁.cluster.deployments.get? ⟨"che", "che-ws-jpda-k6"⟩).isSome = true ∧
    (w₁.cluster.routes.get? ⟨"che", "tomcat-jpda-k6-dev"⟩).map Route.serviceName =
      some "che-ws-jpda-k6" := by
  have hid : Workspace.idOf newcomerSpec.env = .ok "k6" := by rfl
  obtain ⟨hspared, -, -⟩ := spared_create (s := sampleSettings) (w := settledWorld) Clock.wait hid
  refine ⟨?_, ?_, ?_⟩
  · rw [hspared.services _ (by decide)]
    decide +kernel
  · rw [hspared.deployments _ (by decide)]
    decide +kernel
  · obtain he | ⟨r, hr, hk, -⟩ := hspared.routes ⟨"che", "tomcat-jpda-k6-dev"⟩
    · rw [he]
      decide +kernel
    · rw [asks_newcomerSpec hr] at hk
      exact absurd hk (by decide)

/-- The name of a port and of a container are put together with a dash, which may stand in either of
them: the newcomer's route takes the place of the route to another workspace. -/
theorem create_newcomerSpec :
    let k : Key := ⟨"che", "wsagent-jpda-k6-dev"⟩
    let res := World.runUnder Clock.wait (create sampleSettings newcomerSpec) settledWorld
    Workspace.idOf settledSpec.env = .ok "jpda-k6" ∧ Workspace.idOf newcomerSpec.env = .ok "k6" ∧
    Workspace.resourceName "k6" ≠ Workspace.resourceName "jpda-k6" ∧
    (settledWorld.cluster.routes.get? k).map Route.serviceName = some "che-ws-jpda-k6" ∧
    res.1 = .ok ⟨"8d5e2f0c41a7b3e9", []⟩ ∧
    (res.2.cluster.routes.get? k).map Route.serviceName = some "che-ws-k6" := by
  decide +kernel

end ContainerBridge.Lifecycle
