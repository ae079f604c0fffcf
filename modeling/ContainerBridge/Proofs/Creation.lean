import ContainerBridge.Lifecycle.Create
import ContainerBridge.Proofs.Discovery

/-! What the creation of a container may come to on a cluster kept in memory: it is refused, it
meets a service of the same name, or all resources are there and the container is found or not. -/

namespace ContainerBridge.Lifecycle

open Cluster Cluster.State

/-- The ports that an image declares, if the engine has it. -/
def declaredPorts (images : OrderedMap String ImageInfo) (image : String) : List String :=
  ((images.get? image).map ImageInfo.exposedPorts).getD []

/-- All checks of the request pass, and lead to the plan. -/
structure Planned (s : Settings) (spec : ContainerSpec) (images : OrderedMap String ImageInfo)
    (c : State) (p : Plan) : Prop where
  names : Names.ofSpec spec = .ok p.names
  made : Plan.make s p.names spec (declaredPorts images spec.image) = .ok p
  project : c.projects.contains s.project = true

/-- Why a request may be refused before anything changes. -/
inductive Refusal : BridgeError → Prop
  | spec (f : SpecFault) : Refusal f.error
  | project (name : String) : Refusal (.resourceNotFound .project name)
  | engine (e : EngineFailure) : Refusal (.engine e)

/-- The cluster with the service and the deployment of a plan. -/
def withWorkload (s : Settings) (spec : ContainerSpec) (p : Plan) (c : State) : State :=
  (c.createService (p.service s spec)).2.createDeployment (p.deployment s spec)

/-- The cluster with all resources of a plan. -/
def provisioned (s : Settings) (spec : ContainerSpec) (p : Plan) (c : State) : State :=
  (p.routes s).foldl createRoute (withWorkload s spec p c)

/-- The routes with others put to them. -/
def insertRoutes (rs : List Route) (m : OrderedMap Key Route) : OrderedMap Key Route :=
  rs.foldl (fun m r => m.insert r.key r) m

/-- The service of a plan as the cluster stores it. -/
def storedService (s : Settings) (spec : ContainerSpec) (p : Plan) (c : State) : Service :=
  { p.service s spec with ports := (assignNodePorts c.nextNodePort (p.service s spec).ports).1 }

/-- The second cluster is the first with all resources of a plan. -/
structure Provisioned (s : Settings) (spec : ContainerSpec) (p : Plan) (c c' : State) : Prop where
  services : c'.services = c.services.insert (p.service s spec).key (storedService s spec p c)
  deployments : c'.deployments =
    c.deployments.insert (p.deployment s spec).key (p.deployment s spec)
  routes : c'.routes = insertRoutes (p.routes s) c.routes
  pending : c'.pending =
    if c.rollout.isSome then c.pending.insert (p.deployment s spec).key 0 else c.pending
  pods : c'.pods = c.pods
  controllers : c'.replicationControllers = c.replicationControllers
  jobs : c'.jobs = c.jobs
  rollout : c'.rollout = c.rollout
  listingFailure : c'.listingFailure = c.listingFailure
  projects : c'.projects = c.projects

/-- What a creation may come to on a cluster that was `c` before. -/
inductive Creation (s : Settings) (spec : ContainerSpec) (images : OrderedMap String ImageInfo)
    (c : State) : Except BridgeError ContainerCreated → State → Prop
  | refused {e : BridgeError} (he : Refusal e) : Creation s spec images c (.error e) c
  | conflict {p : Plan} {message : String} (hp : Planned s spec images c p)
    (hs : c.services.contains (p.service s spec).key = true) :
    Creation s spec images c (.error (.cluster (.api 409 message))) c
  | undiscovered {p : Plan} {e : BridgeError} {c' : State} (hp : Planned s spec images c p)
    (hs : c.services.contains (p.service s spec).key = false)
    (hd : Discovery s p.names.resource (provisioned s spec p c) (.error e) c') :
    Creation s spec images c (.error e) c'
  | created {p : Plan} {d : Discovered} {c' : State} (hp : Planned s spec images c p)
    (hs : c.services.contains (p.service s spec).key = false)
    (hd : Discovery s p.names.resource (provisioned s spec p c) (.ok d) c') :
    Creation s spec images c (.ok ⟨d.containerId, []⟩) c'

variable {images : OrderedMap String ImageInfo} {s : Settings} {spec : ContainerSpec} {c : State}

theorem createService_of_new {sv : Service} (h : c.services.contains sv.key = false) :
    c.createService sv = (.ok (), { c.record "create_service" sv.name with
      services := c.services.insert sv.key
        { sv with ports := (assignNodePorts c.nextNodePort sv.ports).1 }
      nextNodePort := (assignNodePorts c.nextNodePort sv.ports).2 }) :=
  if_neg (by simp [h])

/-- A service of a name that is taken is refused, any other is put to the services. -/
theorem answers_createService {sv : Service} {r : Except ClusterFailure Unit} {c' : State}
    (h : c.createService sv = (r, c')) :
    (c.services.contains sv.key = true ∧ (∃ message, r = .error (.api 409 message)) ∧ c' = c) ∨
      (c.services.contains sv.key = false ∧ r = .ok () ∧
        (∃ stored, c'.services = c.services.insert sv.key stored) ∧
        c'.deployments = c.deployments) := by
  cases hs : c.services.contains sv.key with
  | true =>
    rw [createService, if_pos hs] at h
    obtain ⟨rfl, rfl⟩ := Prod.mk.inj h
    exact .inl ⟨rfl, ⟨_, rfl⟩, rfl⟩
  | false =>
    rw [createService_of_new hs] at h
    obtain ⟨rfl, rfl⟩ := Prod.mk.inj h
    exact .inr ⟨rfl, rfl, ⟨_, rfl⟩, rfl⟩

theorem foldl_createRoute (rs : List Route) (c : State) : ∃ calls, rs.foldl createRoute c =
    { c with routes := insertRoutes rs c.routes, calls := calls } := by
  induction rs generalizing c with
  | nil => exact ⟨_, rfl⟩
  | cons r rs ih => exact ih (c.createRoute r)

theorem provisioned_of_new {p : Plan} (hs : c.services.contains (p.service s spec).key = false) :
    Provisioned s spec p c (provisioned s spec p c) := by
  obtain ⟨calls, he⟩ := foldl_createRoute (p.routes s) (withWorkload s spec p c)
  rw [provisioned, he, withWorkload, createService_of_new hs]
  exact ⟨rfl, rfl, rfl, rfl, rfl, rfl, rfl, rfl, rfl, rfl⟩

/-- The only rollout that is new is that of the plan. -/
theorem Provisioned.pending_cases {p : Plan} {c' : State} (h : Provisioned s spec p c c') {k : Key}
    (hk : c'.pending.contains k = true) :
    k = (p.deployment s spec).key ∨ c.pending.contains k = true := by
  rw [h.pending] at hk
  split at hk
  · rw [OrderedMap.contains_insert, Bool.or_eq_true, decide_eq_true_eq] at hk
    exact hk
  · exact .inr hk

/-- Of the routes that are created the last of a name is there in the end. -/
theorem insertRoutes_cases (rs : List Route) (m : OrderedMap Key Route) (k : Key) :
    ((∀ r ∈ rs, r.key ≠ k) ∧ (insertRoutes rs m).get? k = m.get? k) ∨
      ∃ r ∈ rs, r.key = k ∧ (insertRoutes rs m).get? k = some r := by
  induction rs generalizing m with
  | nil => exact .inl ⟨by simp, rfl⟩
  | cons r rs ih =>
    rcases ih (m.insert r.key r) with ⟨hne, hget⟩ | ⟨r', hr', hk, hget⟩
    · by_cases hk : r.key = k
      · refine .inr ⟨r, List.mem_cons_self .., hk, hget.trans ?_⟩
        rw [hk, OrderedMap.get?_insert_self]
      · refine .inl ⟨List.forall_mem_cons.2 ⟨hk, hne⟩, hget.trans ?_⟩
        exact OrderedMap.get?_insert_of_ne _ _ (Ne.symm hk)
    · exact .inr ⟨r', List.mem_cons_of_mem r hr', hk, hget⟩

/-- A route that is there after others were created was there before or is one of them. -/
theorem get?_insertRoutes {rs : List Route} {m : OrderedMap Key Route} {k : Key} {r : Route}
    (h : (insertRoutes rs m).get? k = some r) :
    m.get? k = some r ∨ (r ∈ rs ∧ r.key = k) := by
  obtain ⟨-, he⟩ | ⟨r', hr', hk, he⟩ := insertRoutes_cases rs m k
  · exact .inl (he.symm.trans h)
  · obtain rfl : r' = r := Option.some.inj (he.symm.trans h)
    exact .inr ⟨hr', hk⟩

/-- What a plan is made of. -/
theorem Plan.make_eq_ok {names : Names} {declared : List String} {p : Plan}
    (h : Plan.make s names spec declared = .ok p) :
    p.names = names ∧ p.exposed = Port.exposed declared spec.exposedPorts.members ∧
      exposedPorts p.exposed = .ok p.ports ∧
      Workspace.volumes names.workspaceId spec.binds = .ok (p.volumes, p.mounts) ∧
      hostRoot s.routes = .ok p.routeRoot := by
  unfold Plan.make at h
  dsimp only at h
  split at h
  · cases h
  · split at h
    · cases h
    · cases hr : hostRoot s.routes with
      | error e =>
        rw [hr] at h
        cases h
      | ok root =>
        rw [hr] at h
        cases h
        exact ⟨rfl, rfl, by assumption, by assumption, rfl⟩

/-- The service and the deployment are named for the workspace. -/
theorem Names.resource_of_ofSpec {names : Names} {id : String}
    (h : Names.ofSpec spec = .ok names) (hid : Workspace.idOf spec.env = .ok id) :
    names.resource = Workspace.resourceName id := by
  rw [Names.ofSpec, hid] at h
  cases hc : Workspace.containerName spec.name with
  | error e =>
    rw [hc] at h
    cases h
  | ok name =>
    rw [hc] at h
    rw [← Except.ok.inj h]

theorem Planned.resource {p : Plan} {id : String} (h : Planned s spec images c p)
    (hid : Workspace.idOf spec.env = .ok id) : p.names.resource = Workspace.resourceName id :=
  Names.resource_of_ofSpec h.names hid

theorem Plan.mem_routes {p : Plan} {r : Route} (h : r ∈ p.routes s) : r.project = s.project ∧
    r.serviceName = p.names.resource ∧ r.labels = deploymentSelector p.names.resource := by
  unfold Plan.routes at h
  split at h
  · cases h
  · obtain ⟨port, -, rfl⟩ := List.mem_map.1 h
    exact ⟨rfl, rfl, rfl⟩

/-- While routes are disabled no plan has any. -/
theorem Planned.routes_of_disabled {p : Plan} (h : Planned s spec images c p)
    (hs : s.routes.enabled = false) : p.routes s = [] := by
  have hr : hostRoot s.routes = .ok none := by simp [hostRoot, hs]
  obtain hp : p.routeRoot = none := by
    rw [(Plan.make_eq_ok h.made).2.2.2.2] at hr
    exact Except.ok.inj hr
  simp [Plan.routes, hp]

theorem ensures_imagePorts {σ : Type} {calls : Calls σ} {t : σ} (image : String) :
    Operation.Ensures images calls (fun l t' => t' = t ∧ l = declaredPorts images image)
      (fun e t' => t' = t ∧ Refusal e) (imagePorts image) t := by
  unfold imagePorts
  rw [Operation.ensures_bind, Operation.ensures_inspectImage]
  exact ⟨⟨rfl, rfl⟩, fun e => ⟨rfl, .engine e⟩⟩

theorem ensures_requireProject (s : Settings) :
    Operation.Ensures images Answers (fun _ c' => c' = c ∧ c.projects.contains s.project = true)
      (fun e c' => c' = c ∧ Refusal e) (requireProject s) c := by
  refine (Operation.ensures_bind _ _).2 (Operation.ensures_cluster.2 ?_)
  rintro _ _ ⟨⟩
  cases h : c.projects.contains s.project with
  | true => exact ⟨rfl, rfl⟩
  | false => exact ⟨rfl, .project s.project⟩

/-- A request is refused for what it says or by the engine, or leads to a plan once the project was
asked for. -/
theorem ensures_plan_of_requireProject {σ : Type} {calls : Calls σ} {t : σ} {good : σ → Prop}
    {bad : BridgeError → σ → Prop}
    (hproject : Operation.Ensures images calls (fun _ => good) bad (requireProject s) t)
    (hrefused : ∀ e, Refusal e → bad e t) :
    Operation.Ensures images calls (fun p t' => good t' ∧ Names.ofSpec spec = .ok p.names ∧
      Plan.make s p.names spec (declaredPorts images spec.image) = .ok p) bad (plan s spec) t := by
  unfold plan
  rw [Operation.ensures_bind, Operation.ensures_check]
  cases hn : Names.ofSpec spec with
  | error f => exact hrefused _ (.spec f)
  | ok names =>
    refine (Operation.ensures_bind _ _).2 ((ensures_imagePorts spec.image).imp ?_ ?_)
    · rintro _ _ ⟨rfl, rfl⟩
      rw [Operation.ensures_bind, Operation.ensures_check]
      cases hm : Plan.make s names spec (declaredPorts images spec.image) with
      | error f => exact hrefused _ (.spec f)
      | ok p =>
        refine (Operation.ensures_bind _ _).2 (hproject.imp ?_ fun _ _ h => h)
        intro _ t' ht'
        obtain rfl := (Plan.make_eq_ok hm).1
        exact ⟨ht', rfl, hm⟩
    · rintro e _ ⟨rfl, he⟩
      exact hrefused e he

/-- The checks of a request change nothing, and refuse it or lead to a plan. -/
theorem ensures_plan (s : Settings) (spec : ContainerSpec) :
    Operation.Ensures images Answers (fun p c' => c' = c ∧ Planned s spec images c p)
      (fun e c' => c' = c ∧ Refusal e) (plan s spec) c := by
  refine (ensures_plan_of_requireProject (ensures_requireProject s) fun e he => ⟨rfl, he⟩).imp ?_
    fun _ _ h => h
  rintro p c' ⟨⟨hc, hproject⟩, hn, hm⟩
  exact ⟨hc, hn, hm, hproject⟩

theorem ensures_createRoutes (rs : List Route) (bad : BridgeError → State → Prop) :
    Operation.Ensures images Answers (fun _ c' => c' = rs.foldl createRoute c) bad
      (createRoutes rs) c := by
  induction rs generalizing c with
  | nil => rfl
  | cons r rs ih =>
    refine (Operation.ensures_bind _ _).2 (Operation.ensures_cluster.2 ?_)
    rintro _ _ ⟨⟩
    exact ih

/-- A plan meets a service of its name, or all its resources are created and the container is
searched for. -/
theorem ensures_carryOut {p : Plan} (hp : Planned s spec images c p) :
    Operation.Ensures images Answers (fun a => Creation s spec images c (.ok a))
      (fun e => Creation s spec images c (.error e)) (carryOut s spec p) c := by
  unfold carryOut
  rw [Operation.ensures_bind, Operation.ensures_log]
  refine (Operation.ensures_bind _ _).2 (Operation.ensures_cluster.2 fun r c' h => ?_)
  change c.createService (p.service s spec) = (r, c') at h
  cases hs : c.services.contains (p.service s spec).key with
  | true =>
    rw [createService, if_pos hs] at h
    obtain ⟨rfl, rfl⟩ := Prod.mk.inj h
    exact .conflict hp hs
  | false =>
    obtain rfl : .ok () = r := congrArg Prod.fst ((createService_of_new hs).symm.trans h)
    obtain rfl : (c.createService (p.service s spec)).2 = c' := congrArg Prod.snd h
    refine (Operation.ensures_bind _ _).2 ((Operation.ensures_log _).2 ?_)
    refine (Operation.ensures_bind _ _).2 (Operation.ensures_cluster.2 ?_)
    rintro _ _ ⟨⟩
    refine (Operation.ensures_bind _ _).2 ((Operation.ensures_log _).2 ?_)
    refine (Operation.ensures_bind _ _).2 ((ensures_createRoutes _ _).imp ?_ fun _ _ h => h)
    rintro _ _ rfl
    refine (Operation.ensures_bind _ _).2 ((ensures_discover s p.names.resource).imp ?_ ?_)
    · intro d c' hd
      exact .created hp hs hd
    · intro e c' hd
      exact .undiscovered hp hs hd

/-- Every creation ends in one of the ways listed. -/
theorem ensures_create (s : Settings) (spec : ContainerSpec) :
    Operation.Ensures images Answers (fun a => Creation s spec images c (.ok a))
      (fun e => Creation s spec images c (.error e)) (create s spec) c := by
  refine Operation.ensures_concluding ?_
  simp only [Program.ensures_bind, Task.ensures_measure]
  refine (Operation.ensures_bind _ _).2 ((ensures_plan s spec).imp ?_ ?_)
  · rintro p _ ⟨rfl, hp⟩
    exact ensures_carryOut hp
  · rintro e _ ⟨rfl, he⟩
    exact .refused he

/-! A request, and a world that can meet it -/

def sampleSettings : Settings where
  project := "che"
  serviceAccount := "bridge"
  nodeAddress := "172.17.0.1"
  discovery := { intervalMs := 1000, maxAttempts := 3 }
  routes := { enabled := true, externalAddress := some "che-host" }
  strategy := ⟨.default, {}⟩
  systemServers := []
  claimName := "claim"
  filesJob := {}

def sampleSpec : ContainerSpec where
  name := "workspacek6_dev"
  image := "image"
  env := ["CHE_WORKSPACE_ID=workspacek6"]
  exposedPorts := .ofMembers ["80/tcp", "080/TCP"]
  binds := []
  labels := .empty

/-- A pod of another workspace. -/
def otherPod : Pod where
  project := "che"
  name := "other-1-x7k2p"
  labels := .ofList [(deploymentLabel, "other"), (identityLabel, "1f0c")]
  containerIds := ["docker://1f0c"]

def sampleWorld : World where
  cluster := {
    projects := .ofMembers ["che"]
    rollout := some ⟨"docker://8d5e2f0c41a7b3e9", 1⟩
    pods := .singleton otherPod.key otherPod }
  engine := ({} : Engine.State).withContainer { id := "8d5e2f0c41a7b3e9" }

theorem create_sampleWorld :
    (World.runUnder Clock.wait (create sampleSettings sampleSpec) sampleWorld).1 =
      .ok ⟨"8d5e2f0c41a7b3e9", []⟩ :=
  World.eq_ok_of_toOption (by decide +kernel)

end ContainerBridge.Lifecycle
