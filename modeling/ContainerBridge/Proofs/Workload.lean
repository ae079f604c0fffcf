import ContainerBridge.Connector
import ContainerBridge.Proofs.Creation
import ContainerBridge.Proofs.Entries
import ContainerBridge.Proofs.Ports
import ContainerBridge.Proofs.Undisturbed

/-! The service and the deployment that a creation writes. They are made of one request by functions
that do not know of each other, and yet describe the same container. -/

namespace ContainerBridge

open Cluster

/-! Calls, noted in order -/

/-- Calls may be answered in any way, and are noted. -/
def Noted : Calls (List Request) := fun q l _ l' => l' = l ++ [q]

/-- What is noted of an action is the call that it is. -/
theorem Permits.noted {images : OrderedMap String ImageInfo} {a : Action} {r : a.Reply}
    {l l' : List Request} (h : Permits images Noted a l r l') : l' = l ++ a.call?.toList := by
  cases ha : a.call? with
  | none =>
    obtain ⟨rfl, -⟩ : l' = l ∧ Permits images Noted a l r l := h.transfer ha l
    exact (List.append_nil l').symm
  | some q =>
    cases a with
    | cluster q' =>
      cases ha
      exact h
    | _ => cases ha

namespace World

theorem represents_noted : Represents Noted fun _ _ => True where
  askCluster _ _ := ⟨_, rfl, trivial⟩
  frame _ _ _ := trivial

/-- What holds of the calls of an operation however they are answered holds of those of its run. -/
theorem callsOf_of_ensures {α : Type} {w : World} {x : Operation α} {post : List Request → Prop}
    (h : Operation.Ensures w.engine.images Noted (fun _ => post) (fun _ => post) x []) :
    post (callsOf x w) := by
  let rel := fun (v : World) (l : List Action) (t : List Request) =>
    t = l.filterMap Action.call? ∧ v.engine.images = w.engine.images
  have hrel : ∀ (a : Action) v l t, rel v l t → ∃ t', Permits w.engine.images Noted a t
      (v.answer a).1 t' ∧ rel (v.answer a).2 (l ++ [a]) t' := by
    rintro a v l _ ⟨rfl, hv⟩
    obtain ⟨t', ht, -, hv'⟩ := permits_answerUnder represents_noted Clock.wait a trivial hv
    rw [answerUnder_clock] at ht hv'
    refine ⟨t', ht, ?_, hv'⟩
    rw [ht.noted, List.filterMap_append]
    cases hq : a.call? <;> simp [hq]
  obtain ⟨t, ⟨ht, -⟩, hpost⟩ := Program.Ensures.run_requests rel hrel (l := []) ⟨rfl, rfl⟩ h
  rw [List.nil_append] at ht
  obtain rfl : t = callsOf x w := ht
  exact (outcome_iff fun _ => post).1 hpost

end World

namespace Lifecycle

variable {images : OrderedMap String ImageInfo} {s : Settings} {spec : ContainerSpec} {p : Plan}
variable {l : List Request} {sv : Service} {d : Deployment}

/-! What a creation writes -/

/-- No service and no deployment was written. -/
def Unwritten (l : List Request) : Prop :=
  (∀ sv, .createService sv ∉ l) ∧ ∀ d, .createDeployment d ∉ l

/-- All services and deployments that were written are those of the plan. -/
def PlannedWrites (s : Settings) (spec : ContainerSpec) (p : Plan) (l : List Request) : Prop :=
  (∀ sv, .createService sv ∈ l → sv = p.service s spec) ∧
    ∀ d, .createDeployment d ∈ l → d = p.deployment s spec

/-- The request led to a plan, and to no other service or deployment than those of the plan. -/
def Written (s : Settings) (spec : ContainerSpec) (images : OrderedMap String ImageInfo)
    (l : List Request) : Prop :=
  Unwritten l ∨ ∃ p, Names.ofSpec spec = .ok p.names ∧
    Plan.make s p.names spec (declaredPorts images spec.image) = .ok p ∧ PlannedWrites s spec p l

theorem Unwritten.plannedWrites (h : Unwritten l) (s : Settings) (spec : ContainerSpec) (p : Plan) :
    PlannedWrites s spec p l :=
  ⟨fun sv hm => (h.1 sv hm).elim, fun d hm => (h.2 d hm).elim⟩

theorem PlannedWrites.concat {q : Request} (h : PlannedWrites s spec p l)
    (hs : ∀ sv, q = .createService sv → sv = p.service s spec)
    (hd : ∀ d, q = .createDeployment d → d = p.deployment s spec) :
    PlannedWrites s spec p (l ++ [q]) := by
  constructor
  · intro sv hm
    rcases List.mem_append.1 hm with hm | hm
    · exact h.1 sv hm
    · exact hs sv (List.mem_singleton.1 hm).symm
  · intro d hm
    rcases List.mem_append.1 hm with hm | hm
    · exact h.2 d hm
    · exact hd d (List.mem_singleton.1 hm).symm

theorem ensures_requireProject_noted (s : Settings) :
    Operation.Ensures images Noted (fun _ => Unwritten) (fun _ => Unwritten)
      (requireProject s) [] := by
  refine (Operation.ensures_bind _ _).2 (Operation.ensures_cluster.2 ?_)
  rintro r _ rfl
  have hl : Unwritten ([] ++ [.projectExists s.project]) := by simp [Unwritten]
  rcases r with e | found
  · exact hl
  · cases found
    · exact hl
    · exact hl

theorem ensures_createRoutes_noted {rs : List Route} (h : PlannedWrites s spec p l) :
    Operation.Ensures images Noted (fun _ => PlannedWrites s spec p)
      (fun _ => PlannedWrites s spec p)
      (createRoutes rs) l := by
  induction rs generalizing l with
  | nil => exact h
  | cons rt rs ih =>
    refine (Operation.ensures_bind _ _).2 (Operation.ensures_cluster.2 ?_)
    rintro r _ rfl
    have hl := h.concat (q := .createRoute rt) (by rintro _ ⟨⟩) (by rintro _ ⟨⟩)
    cases r with
    | error e => exact hl
    | ok _ => exact ih hl

theorem ensures_discover_noted (h : PlannedWrites s spec p l) (deployment : String) :
    Operation.Ensures images Noted (fun _ => PlannedWrites s spec p)
      (fun _ => PlannedWrites s spec p)
      (discover s deployment) l := by
  refine ensures_discover_of_kept s (fun t ht => ensures_probe_of_kept ?_ ?_ ht) h
  · rintro t r _ ht rfl
    exact ht.concat (by rintro _ ⟨⟩) (by rintro _ ⟨⟩)
  · rintro name value t r _ ht rfl
    exact ht.concat (by rintro _ ⟨⟩) (by rintro _ ⟨⟩)

theorem ensures_carryOut_noted (h : PlannedWrites s spec p l) :
    Operation.Ensures images Noted (fun _ => PlannedWrites s spec p)
      (fun _ => PlannedWrites s spec p)
      (carryOut s spec p) l := by
  unfold carryOut
  rw [Operation.ensures_bind, Operation.ensures_log]
  refine (Operation.ensures_bind _ _).2 (Operation.ensures_cluster.2 ?_)
  rintro r _ rfl
  have h₁ := h.concat (q := .createService (p.service s spec)) (by rintro _ ⟨⟩; rfl)
    (by rintro _ ⟨⟩)
  cases r with
  | error e => exact h₁
  | ok _ =>
    refine (Operation.ensures_bind _ _).2 ((Operation.ensures_log _).2 ?_)
    refine (Operation.ensures_bind _ _).2 (Operation.ensures_cluster.2 ?_)
    rintro r _ rfl
    have h₂ := h₁.concat (q := .createDeployment (p.deployment s spec)) (by rintro _ ⟨⟩)
      (by rintro _ ⟨⟩; rfl)
    cases r with
    | error e => exact h₂
    | ok _ =>
      refine (Operation.ensures_bind _ _).2 ((Operation.ensures_log _).2 ?_)
      refine (Operation.ensures_bind _ _).2 ((ensures_createRoutes_noted h₂).imp ?_ ?_)
      · intro _ l' hl
        refine (Operation.ensures_bind _ _).2 ((ensures_discover_noted hl _).imp ?_ ?_)
        · intro d l'' hl'
          exact hl'
        · intro e l'' hl'
          exact hl'
      · intro e l' hl
        exact hl

/-- However calls are answered, a creation writes what one plan says. -/
theorem ensures_create_noted (s : Settings) (spec : ContainerSpec) :
    Operation.Ensures images Noted (fun _ => Written s spec images)
      (fun _ => Written s spec images) (create s spec) [] := by
  refine Operation.ensures_concluding ?_
  simp only [Program.ensures_bind, Task.ensures_measure]
  have hstart : ∀ e, Refusal e → Unwritten [] := fun _ _ => by simp [Unwritten]
  refine (Operation.ensures_bind _ _).2
    ((ensures_plan_of_requireProject (ensures_requireProject_noted s) hstart).imp ?_ ?_)
  · rintro p l ⟨hl, hn, hm⟩
    refine (ensures_carryOut_noted (hl.plannedWrites s spec p)).imp ?_ ?_
    · intro _ l' h
      exact .inr ⟨p, hn, hm, h⟩
    · intro _ l' h
      exact .inr ⟨p, hn, hm, h⟩
  · intro e l hl
    exact .inl hl

/-! What they say of the container -/

/-- A port token, and the ports of a service and of a container that it leads to. -/
structure SamePort (token : String) (port : ServicePort) (inside : ContainerPort) : Prop where
  token : Port.parse token = .ok ⟨port.port, port.protocol⟩
  target : port.targetPort = port.port
  name : inside.name = port.name
  number : inside.containerPort = port.port
  protocol : inside.protocol = Text.upper port.protocol

/-- A service and a deployment are of one container, which is as the request asks for it. -/
structure SameContainer (spec : ContainerSpec) (declared : List String) (sv : Service)
    (d : Deployment) : Prop where
  project : d.project = sv.project
  name : d.name = sv.name
  serviceSelector : sv.selector = .singleton deploymentLabel sv.name
  deploymentSelector : d.selector = .singleton deploymentLabel sv.name
  /-- The ports are those of the tokens that the image declares or the request asks for. -/
  ports : ∃ tokens : List String, tokens.Nodup ∧
    (∀ t, t ∈ tokens ↔ t ∈ declared ∨ t ∈ spec.exposedPorts.members) ∧
    Aligned SamePort tokens sv.ports d.container.ports
  env : d.container.env.map EnvVar.entry = spec.env
  envNames : ∀ v ∈ d.container.env, '=' ∉ v.name.toList
  binds : Aligned Workspace.Mounts spec.binds d.volumes d.container.volumeMounts

theorem aligned_samePort {tokens : List String} {ports : List Port}
    (h : tokens.map Port.parse = ports.map .ok) :
    Aligned SamePort tokens (ports.map Port.toService) (ports.map Port.toContainer) := by
  induction ports generalizing tokens with
  | nil =>
    obtain rfl := List.map_eq_nil_iff.1 h
    exact .nil
  | cons p ports ih =>
    obtain ⟨t, tokens, rfl, ht, hrest⟩ := List.map_eq_cons_iff.1 h
    exact .cons ⟨ht, rfl, rfl, rfl, rfl⟩ (ih hrest)

theorem Plan.sameContainer {names : Names} {declared : List String}
    (h : Plan.make s names spec declared = .ok p) :
    SameContainer spec declared (p.service s spec) (p.deployment s spec) where
  project := rfl
  name := rfl
  serviceSelector := rfl
  deploymentSelector := rfl
  ports := by
    obtain ⟨-, hexposed, hports, -⟩ := Plan.make_eq_ok h
    refine ⟨p.exposed.members, OrderedSet.nodup_members _, ?_,
      aligned_samePort (map_parse_of_exposedPorts hports)⟩
    intro t
    rw [hexposed, mem_exposed]
  env := by
    have hid : EnvVar.entry ∘ EnvVar.ofEntry = id := funext fun e => (EnvVar.entry_ofEntry e).1
    show (spec.env.map EnvVar.ofEntry).map EnvVar.entry = spec.env
    rw [List.map_map, hid, List.map_id]
  envNames v hv := by
    obtain ⟨e, -, rfl⟩ := List.mem_map.1 hv
    exact (EnvVar.entry_ofEntry e).2
  binds := by
    obtain ⟨-, -, -, hvolumes, -⟩ := Plan.make_eq_ok h
    exact Workspace.aligned_volumes hvolumes

/-- A service and a deployment that are written by one creation describe the same container, in
whatever world and however the creation ends. -/
theorem sameContainer_create {w : World}
    (hs : .createService sv ∈ World.callsOf (Connector.create spec (.cluster s)) w)
    (hd : .createDeployment d ∈ World.callsOf (Connector.create spec (.cluster s)) w) :
    SameContainer spec (declaredPorts w.engine.images spec.image) sv d := by
  have hw : Written s spec w.engine.images
      (World.callsOf (Connector.create spec (.cluster s)) w) :=
    World.callsOf_of_ensures (ensures_create_noted s spec)
  obtain hno | ⟨p, -, hm, hby⟩ := hw
  · exact (hno.1 sv hs).elim
  · rw [hby.1 sv hs, hby.2 d hd]
    exact Plan.sameContainer hm

/-! A request whose texts hold further separators -/

def boundSpec : ContainerSpec :=
  { sampleSpec with
    env := ["CHE_WORKSPACE_ID=workspacek6", "JAVA_OPTS=-Da=b", "DEBUG"]
    exposedPorts := .ofMembers ["4401/tcp", "80/udp/x"]
    binds := ["/data/workspaces:/projects:Z,ro", "/opt/terminal:/mnt:ro:x"] }

def boundPlan : Plan where
  names := ⟨"k6", "che-ws-k6", "k6-dev"⟩
  exposed := .ofMembers ["22/tcp", "4401/tcp", "80/udp/x"]
  ports := [⟨22, "tcp"⟩, ⟨4401, "tcp"⟩, ⟨80, "udp/x"⟩]
  volumes := [⟨"ws-k6-project", "/data/workspaces"⟩, ⟨"ws-k6-terminal", "/opt/terminal"⟩]
  mounts := [⟨"ws-k6-project", "/projects", true⟩, ⟨"ws-k6-terminal", "/mnt", false⟩]
  routeRoot := some "host"

def boundWorld : World :=
  { sampleWorld with engine := sampleWorld.engine.withImage "image" ["22/tcp", "4401/tcp"] }

theorem sameContainer_create_boundSpec :
    let calls := World.callsOf (Connector.create boundSpec (.cluster sampleSettings)) boundWorld
    let sv := boundPlan.service sampleSettings boundSpec
    let d := boundPlan.deployment sampleSettings boundSpec
    .createService sv ∈ calls ∧ .createDeployment d ∈ calls ∧
      declaredPorts boundWorld.engine.images boundSpec.image = ["22/tcp", "4401/tcp"] ∧
      SameContainer boundSpec (declaredPorts boundWorld.engine.images boundSpec.image) sv d := by
  intro calls sv d
  have hs : .createService sv ∈ calls := by decide +kernel
  have hd : .createDeployment d ∈ calls := by decide +kernel
  exact ⟨hs, hd, by decide +kernel, sameContainer_create hs hd⟩

end Lifecycle
end ContainerBridge
