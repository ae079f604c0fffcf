import ContainerBridge.Connector
import ContainerBridge.Proofs.Identity

/-! What a creation that fails leaves behind. Every check comes before the first change; a failure
after it leaves the service, the deployment and the routes, and gives no pod an identity. -/

namespace ContainerBridge.Lifecycle

open Cluster Cluster.State

/-- The failures that come before the first change: the request is refused, or meets a service of
the same name. -/
def EarlyFailure (e : BridgeError) : Prop :=
  e.kind ∈ ["invalid_spec", "resource_not_found", "engine"] ∨ ∃ m, e = .cluster (.api 409 m)

/-- The failures of the search for the container of a deployment. -/
inductive LateFailure (s : Settings) (deployment : String) (c : State) : BridgeError → Prop
  | exhausted : LateFailure s deployment c
    (.discoveryTimeout deployment s.discovery.maxAttempts.toNat s.discovery.ceiling)
  | cancelled (text : String) : LateFailure s deployment c (.cancelled text)
  | unlisted {message : String} (h : c.listingFailure = some message) :
    LateFailure s deployment c (.cluster (.api 500 message))

/-- The calls that create a service, a deployment and routes, as the cluster records them. -/
def creationCalls (name : String) (routes : List Route) : List String :=
  ("create_service:" ++ name) :: ("create_deployment:" ++ name) ::
    routes.map fun r => "create_route:" ++ r.name

/-- The second cluster is the first with a new service and a deployment of the name, and no pod has
got an identity. -/
structure Abandoned (s : Settings) (name : String) (c c' : State) : Prop where
  unserved : c.services.contains ⟨s.project, name⟩ = false
  service : ∃ sv : Service, sv.name = name ∧
    c'.services = c.services.insert ⟨s.project, name⟩ sv
  deployment : ∃ d : Deployment, d.name = name ∧
    c'.deployments = c.deployments.insert ⟨s.project, name⟩ d
  identity : ∀ k p v, c'.pods.get? k = some p → p.labels.get? identityLabel = some v →
    c.pods.get? k = some p
  calls : ∃ routes, c'.calls = c.calls ++ creationCalls name routes

variable {images : OrderedMap String ImageInfo} {s : Settings} {spec : ContainerSpec}
variable {c c' : State} {p : Plan} {e : BridgeError}

theorem Refusal.early (h : Refusal e) : EarlyFailure e := by
  cases h with
  | spec f => exact .inl (by simp [SpecFault.error, BridgeError.kind])
  | project name => exact .inl (by simp [BridgeError.kind])
  | engine e => exact .inl (by simp [BridgeError.kind])

theorem LateFailure.not_early {deployment : String} (h : LateFailure s deployment c e) :
    ¬ EarlyFailure e := by
  cases h with
  | exhausted => simp [EarlyFailure, BridgeError.kind]
  | cancelled text => simp [EarlyFailure, BridgeError.kind]
  | unlisted h => simp [EarlyFailure, BridgeError.kind]

theorem calls_foldl_createRoute (rs : List Route) (c : State) : (rs.foldl createRoute c).calls =
    c.calls ++ rs.map fun r => "create_route:" ++ r.name := by
  induction rs generalizing c with
  | nil => simp
  | cons r rs ih =>
    have hr : (c.createRoute r).calls = c.calls ++ ["create_route:" ++ r.name] := rfl
    rw [List.foldl_cons, ih, hr, List.append_assoc]
    rfl

theorem calls_provisioned (hs : c.services.contains (p.service s spec).key = false) :
    (provisioned s spec p c).calls = c.calls ++ creationCalls p.names.resource (p.routes s) := by
  have hw : (withWorkload s spec p c).calls =
      c.calls ++
        ["create_service:" ++ p.names.resource, "create_deployment:" ++ p.names.resource] := by
    rw [withWorkload, createService_of_new hs]
    exact List.append_assoc ..
  rw [provisioned, calls_foldl_createRoute, hw, List.append_assoc]
  rfl

/-- Listings after the resources were created change nothing of what a failure leaves. -/
theorem abandoned_ticks (hs : c.services.contains (p.service s spec).key = false) (n : Nat) :
    Abandoned s p.names.resource c (ticks n (provisioned s spec p c)) := by
  have hb := provisioned_of_new hs
  have hleft := left_by_ticks (provisioned s spec p c) n
  constructor
  case unserved => exact hs
  case service => exact ⟨_, rfl, hleft.services.trans hb.services⟩
  case deployment => exact ⟨_, rfl, hleft.deployments.trans hb.deployments⟩
  case identity =>
    intro k q v hq hv
    rw [← hb.pods]
    exact ticks_identity hq hv
  case calls => exact ⟨_, hleft.calls.trans (calls_provisioned hs)⟩

/-- A search that fails has only listed the pods: the pod of a container that is found is there, so
that it can be labelled. -/
theorem Discovery.failed {deployment : String} (h : Discovery s deployment c (.error e) c')
    (hk : Keyed c) : LateFailure s deployment c e ∧ ∃ n, c' = ticks n c := by
  cases h with
  | unlisted h => exact ⟨.unlisted h, 0, rfl⟩
  | @unlabelled n d _ _ hd hlabel =>
    have hok := labelPod_keyed (hk.ticks (n + 1)) hd identityLabel (shortId d.containerId)
    rw [hlabel] at hok
    cases hok
  | exhausted => exact ⟨.exhausted, _, rfl⟩
  | cancelled text => exact ⟨.cancelled text, _, rfl⟩

/-- A creation fails early and changes nothing, or late and leaves its resources. -/
theorem Creation.failed (h : Creation s spec images c (.error e) c') (hk : Keyed c) :
    (EarlyFailure e ∧ c' = c) ∨ ∃ p, Planned s spec images c p ∧
      LateFailure s p.names.resource c e ∧ Abandoned s p.names.resource c c' := by
  cases h with
  | refused he => exact .inl ⟨he.early, rfl⟩
  | conflict => exact .inl ⟨.inr ⟨_, rfl⟩, rfl⟩
  | @undiscovered p _ _ hp hs hd =>
    have hb := provisioned_of_new hs
    obtain ⟨he, n, rfl⟩ := hd.failed (hb.keyed hk)
    refine .inr ⟨p, hp, ?_, abandoned_ticks hs n⟩
    cases he with
    | exhausted => exact .exhausted
    | cancelled text => exact .cancelled text
    | unlisted hl => exact .unlisted (hb.listingFailure.symm.trans hl)

/-- A plan names its resources for the workspace of the request. -/
theorem Planned.workspace (h : Planned s spec images c p) : ∃ id,
    Workspace.idOf spec.env = .ok id ∧ p.names.resource = Workspace.resourceName id := by
  cases hid : Workspace.idOf spec.env with
  | ok id => exact ⟨id, rfl, h.resource hid⟩
  | error f =>
    have hn := h.names
    rw [Names.ofSpec, hid] at hn
    cases hn

/-- The failure of a creation tells what it left: nothing if the request was refused or met a
service of the same name, and otherwise just the resources of its workspace. -/
theorem create_failed {w w₁ : World} (waits : Waits) (hcalm : w.clusterOutages = [])
    (hk : Keyed w.cluster)
    (h : World.runUnder waits (Connector.create spec (.cluster s)) w = (.error e, w₁)) :
    (EarlyFailure e → w₁.cluster = w.cluster) ∧
    (¬ EarlyFailure e → ∃ id, Workspace.idOf spec.env = .ok id ∧
      LateFailure s (Workspace.resourceName id) w.cluster e ∧
      Abandoned s (Workspace.resourceName id) w.cluster w₁.cluster) := by
  obtain ⟨hc, -⟩ := World.runUnder_of_ensures
    (fun res c' => Creation s spec w.engine.images w.cluster res c') waits hcalm
    (ensures_create s spec)
  rw [show create s spec = Connector.create spec (.cluster s) from rfl, h] at hc
  obtain ⟨he, hw⟩ | ⟨p, hp, he, ha⟩ := hc.failed hk
  · exact ⟨fun _ => hw, fun hn => (hn he).elim⟩
  · obtain ⟨id, hid, hname⟩ := hp.workspace
    rw [hname] at he ha
    exact ⟨fun hn => (he.not_early hn).elim, fun _ => ⟨id, hid, he, ha⟩⟩

/-- A world whose rollout outlasts the search. -/
def stalledWorld : World :=
  { sampleWorld with cluster := { sampleWorld.cluster with
    rollout := some ⟨"docker://8d5e2f0c41a7b3e9", 5⟩ } }

theorem keyed_stalledWorld : Keyed stalledWorld.cluster := OrderedMap.forall_get?_iff.2 (by decide)

theorem create_failed_stalledWorld :
    let res := World.runUnder Clock.wait (Connector.create sampleSpec (.cluster sampleSettings))
      stalledWorld
    res.1 = .error (.discoveryTimeout "che-ws-k6" 3 sampleSettings.discovery.ceiling) ∧
    Abandoned sampleSettings "che-ws-k6" stalledWorld.cluster res.2.cluster := by
  have hrun : (World.runUnder Clock.wait (Connector.create sampleSpec (.cluster sampleSettings))
      stalledWorld).1 =
        .error (.discoveryTimeout "che-ws-k6" 3 sampleSettings.discovery.ceiling) := by
    decide +kernel
  have hid : Workspace.idOf sampleSpec.env = .ok "k6" := by rfl
  have hlate : ¬ EarlyFailure
      (.discoveryTimeout "che-ws-k6" 3 sampleSettings.discovery.ceiling) := by
    simp [EarlyFailure, BridgeError.kind]
  obtain ⟨id, hid', -, ha⟩ := (create_failed Clock.wait rfl keyed_stalledWorld
    (Prod.ext hrun rfl)).2 hlate
  obtain rfl : "k6" = id := Except.ok.inj (hid.symm.trans hid')
  exact ⟨hrun, ha⟩

end ContainerBridge.Lifecycle
