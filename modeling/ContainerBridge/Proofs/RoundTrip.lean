import ContainerBridge.Connector
import ContainerBridge.Proofs.Creation
import ContainerBridge.Proofs.Removal
import ContainerBridge.Proofs.Selection

/-! Creating a container and removing it again gives back the cluster that was there before. -/

namespace ContainerBridge.Lifecycle

open Cluster Cluster.State

/-- Nothing in the cluster bears a name that the deployment or its rollout is to use, and nothing
belongs to it. -/
structure Fresh (k : Key) (c : State) : Prop extends Unclaimed k c where
  deployment : c.deployments.contains k = false
  controller : c.replicationControllers.contains ⟨k.project, controllerName k.name⟩ = false
  deployer : c.pods.contains ⟨k.project, deployerName k.name⟩ = false
  pod : c.pods.contains ⟨k.project, podName k.name⟩ = false
  job : c.jobs.contains ⟨k.project, podName k.name⟩ = false

/-- The pod of a deployment once its container is found. -/
def identifiedPod (r : Rollout) (k : Key) (containerId : String) : Pod :=
  withLabel identityLabel (shortId containerId) (rolledOutPod r k)

@[simp] theorem identifiedPod_identity (r : Rollout) (k : Key) (containerId : String) :
    (identifiedPod r k containerId).labels.get? identityLabel = some (shortId containerId) :=
  OrderedMap.get?_insert_self ..

@[simp] theorem identifiedPod_deployment (r : Rollout) (k : Key) (containerId : String) :
    (identifiedPod r k containerId).labels.get? deploymentLabel = some k.name :=
  (OrderedMap.get?_insert_of_ne _ _ (by decide)).trans (rolledOutPod_deployment r k)

@[simp] theorem identifiedPod_controller (r : Rollout) (k : Key) (containerId : String) :
    (identifiedPod r k containerId).labels.get? controllerLabel = some (controllerName k.name) :=
  (OrderedMap.get?_insert_of_ne _ _ (by decide)).trans (rolledOutPod_controller r k)

/-- The second cluster is the first with all resources of a plan, and with what its rollout and the
discovery of the container added. -/
structure Deployed (s : Settings) (spec : ContainerSpec) (p : Plan) (r : Rollout)
    (containerId : String) (c c' : State) : Prop where
  services : c'.services = c.services.insert (p.service s spec).key (storedService s spec p c)
  deployments : c'.deployments =
    c.deployments.insert (p.deployment s spec).key (p.deployment s spec)
  routes : c'.routes = insertRoutes (p.routes s) c.routes
  controllers : c'.replicationControllers =
    c.replicationControllers.add ⟨s.project, controllerName p.names.resource⟩
  pods : c'.pods = c.pods.insert ⟨s.project, podName p.names.resource⟩
    (identifiedPod r (p.deployment s spec).key containerId)
  jobs : c'.jobs = c.jobs
  pending : c'.pending = .empty
  listed : c'.listingFailure = none

variable {images : OrderedMap String ImageInfo} {s : Settings} {spec : ContainerSpec}
variable {c c' : State} {p : Plan} {r : Rollout} {containerId : String}

/-- A container that is found where nothing belonged to its deployment was rolled out there. -/
theorem Discovery.rolledOut {d : Discovered} {b : State} {k : Key} {r : Rollout} {n : Nat}
    (hk : k.project = s.project) (hr : b.rollout = some r) (ha : Alone r k b b)
    (hdeployer : b.pods.get? (deployerPod k).key = none)
    (hu : ∀ k' p, b.pods.get? k' = some p → p.project = k.project →
      p.labels.get? deploymentLabel ≠ some k.name)
    (hd : sighted s.project k.name b n = some d) :
    ticks (n + 1) b = rolledOut r k b ∧ d = ⟨podName k.name, stripRuntimeScheme r.containerId⟩ := by
  obtain ⟨p, raw, hp, hl, hraw, rfl⟩ := findContainer_eq_some hd
  obtain ⟨⟨k', hp'⟩, hproject, -⟩ := mem_podsOf.1 hp
  have hold : b.pods.get? k' ≠ some p := fun hb => hu k' p hb (hproject.trans hk.symm) hl
  have he : ticks (n + 1) b = State.rolledOut r k b :=
    (ha.ticks hr hdeployer (n + 1)).eq_rolledOut hp' hold hl
  refine ⟨he, ?_⟩
  rw [he] at hp'
  rcases OrderedMap.get?_insert_cases hp' with ⟨-, rfl⟩ | hp'
  · obtain rfl : r.containerId = raw := Option.some.inj hraw
    rfl
  · exact (hold hp').elim

/-- Without a rollout no container is ever found where nothing belonged to its deployment. -/
theorem sighted_of_no_rollout {b : State} {k : Key} {n : Nat} (hk : k.project = s.project)
    (hr : b.rollout = none) (hu : ∀ k' p, b.pods.get? k' = some p → p.project = k.project →
      p.labels.get? deploymentLabel ≠ some k.name) : sighted s.project k.name b n = none := by
  have ht : ticks (n + 1) b = b := by
    have htick : b.tick = b := by rw [tick, hr]
    exact Function.iterate_fixed htick _
  refine Option.eq_none_iff_forall_not_mem.2 fun d hd => ?_
  obtain ⟨p, raw, hp, hl, -, -⟩ := findContainer_eq_some hd
  rw [ht] at hp
  obtain ⟨⟨k', hp⟩, hproject, -⟩ := mem_podsOf.1 hp
  exact hu k' p hp (hproject.trans hk.symm) hl

/-- What a creation that succeeds makes of a cluster without pending rollouts. -/
theorem Creation.deployed {id : String} {created : ContainerCreated}
    (h : Creation s spec images c (.ok created) c') (hid : Workspace.idOf spec.env = .ok id)
    (hf : Fresh ⟨s.project, Workspace.resourceName id⟩ c) (hpending : c.pending = .empty) :
    ∃ p r, Planned s spec images c p ∧ p.names.resource = Workspace.resourceName id ∧
      c.services.contains (p.service s spec).key = false ∧
      Deployed s spec p r created.id c c' := by
  cases h with
  | @created p d _ hp hs hd =>
    have hname := hp.resource hid
    have hb := provisioned_of_new hs
    generalize provisioned s spec p c = b at hb hd
    rw [← hname] at hf
    have hu : ∀ k' q, b.pods.get? k' = some q → q.project = s.project →
        q.labels.get? deploymentLabel ≠ some p.names.resource := by
      rw [hb.pods]
      exact hf.unlabelled
    cases hd with
    | @found n _ _ hn hlisted hbefore hd hlabel =>
      cases hr : c.rollout with
      | none =>
        rw [sighted_of_no_rollout (k := ⟨s.project, p.names.resource⟩) rfl (hb.rollout.trans hr) hu]
          at hd
        cases hd
      | some r =>
        have hpend : b.pending = .singleton (p.deployment s spec).key 0 := by
          rw [hb.pending, hr, hpending]
          rfl
        have hdeployer : b.pods.get? (deployerPod (p.deployment s spec).key).key = none := by
          rw [hb.pods]
          exact OrderedMap.contains_eq_false_iff.1 hf.deployer
        obtain ⟨he, rfl⟩ := Discovery.rolledOut (k := (p.deployment s spec).key) rfl
          (hb.rollout.trans hr) (.of_pending hpend) hdeployer hu hd
        refine ⟨p, r, hp, hname, hs, ?_⟩
        rw [he] at hlabel
        obtain ⟨e, he, -⟩ | ⟨pod, hpod, -, rfl⟩ := labelPod_cases hlabel
        · cases he
        · obtain rfl : rolledOutPod r (p.deployment s spec).key = pod :=
            Option.some.inj ((OrderedMap.get?_insert_self ..).symm.trans hpod)
          exact {
            services := hb.services
            deployments := hb.deployments
            routes := hb.routes
            controllers := by rw [← hb.controllers]; rfl
            pods := by rw [← hb.pods]; exact OrderedMap.insert_insert ..
            jobs := hb.jobs
            pending := rfl
            listed := hlisted }

/-- The identity of the new container alone selects its pod. -/
theorem Deployed.podsOf_identity (h : Deployed s spec p r containerId c c')
    (hnew : ∀ k q, c.pods.get? k = some q → q.project = s.project →
      q.labels.get? identityLabel ≠ some (shortId containerId)) :
    c'.podsOf s.project (identitySelector containerId) =
      [identifiedPod r (p.deployment s spec).key containerId] := by
  refine podsOf_eq_singleton (k := ⟨s.project, podName p.names.resource⟩) ?_ rfl ?_ ?_
  · rw [h.pods, OrderedMap.get?_insert_self]
  · simp [identitySelector]
  · intro k q hq hproject hsel
    rw [h.pods] at hq
    rcases OrderedMap.get?_insert_cases hq with ⟨rfl, -⟩ | hold
    · rfl
    · refine (hnew k q hold hproject ?_).elim
      simpa [identitySelector] using hsel

/-- The service that selects the deployment is the one that was created with it. -/
theorem Deployed.serviceOf (h : Deployed s spec p r containerId c c')
    (hu : Unclaimed ⟨s.project, p.names.resource⟩ c) :
    serviceOf s p.names.resource c' = some (storedService s spec p c) :=
  serviceOf_insert h.services rfl (get?_singleton ..) hu.unselected

theorem isSelected_of_insertRoutes {k : Key} {route : Route}
    (h : (insertRoutes (p.routes s) .empty).get? k = some route) :
    isSelected s.project (deploymentSelector p.names.resource) k route = true := by
  obtain h | ⟨hr, rfl⟩ := get?_insertRoutes h
  · cases h
  · obtain ⟨hproject, -, hl⟩ := Plan.mem_routes hr
    rw [isSelected_deployment, hl, deploymentSelector, get?_singleton]
    simp [Route.key, hproject]

/-- All routes that were created carry the label by which a removal finds them. -/
theorem Deployed.routesWithout (h : Deployed s spec p r containerId c c')
    (hp : Planned s spec images c p) (hroutes : c.routes = .empty) :
    routesWithout s p.names.resource c' = .empty := by
  rw [Lifecycle.routesWithout, h.routes, hroutes]
  cases hs : s.routes.enabled with
  | false =>
    rw [if_neg (by simp), hp.routes_of_disabled hs]
    rfl
  | true =>
    rw [if_pos rfl]
    apply OrderedMap.ext_get?
    intro k
    rw [OrderedMap.get?_filter]
    refine Option.eq_none_iff_forall_not_mem.2 fun route hroute => ?_
    obtain ⟨hr, hsel⟩ := Option.filter_eq_some_iff.1 hroute
    rw [isSelected_of_insertRoutes hr] at hsel
    cases hsel

/-- Removing a container that was deployed on a fresh cluster takes away just what was added. -/
theorem Deployed.removal {res : Except BridgeError Unit} {c'' : State}
    (h : Deployed s spec p r containerId c c') (hp : Planned s spec images c p)
    (hs : c.services.contains (p.service s spec).key = false)
    (hf : Fresh ⟨s.project, p.names.resource⟩ c) (hroutes : c.routes = .empty)
    (hnew : ∀ k q, c.pods.get? k = some q → q.project = s.project →
      q.labels.get? identityLabel ≠ some (shortId containerId))
    (hr : Removal s containerId c' res c'') : res = .ok () ∧ SameResources c c'' := by
  have hl : (identifiedPod r (p.deployment s spec).key containerId).labels.get? deploymentLabel =
      some p.names.resource := identifiedPod_deployment ..
  obtain ⟨rfl, hc⟩ := hr.dismantled h.listed h.pending (h.podsOf_identity hnew) hl
  refine ⟨rfl, ?_⟩
  constructor
  case services =>
    rw [hc.services, servicesWithout_of_some (h.serviceOf hf.toUnclaimed), h.services]
    exact OrderedMap.erase_insert (OrderedMap.contains_eq_false_iff.1 hs) _
  case deployments =>
    rw [hc.deployments, h.deployments]
    exact OrderedMap.erase_insert (OrderedMap.contains_eq_false_iff.1 hf.deployment) _
  case controllers =>
    rw [hc.controllers, controllersWithout, identifiedPod_controller, h.controllers]
    exact OrderedMap.erase_insert (OrderedMap.contains_eq_false_iff.1 hf.controller) _
  case pods =>
    rw [hc.pods, h.pods]
    exact OrderedMap.erase_insert (OrderedMap.contains_eq_false_iff.1 hf.pod) _
  case jobs =>
    rw [hc.jobs, h.jobs]
    exact OrderedMap.erase_of_get?_none (OrderedMap.contains_eq_false_iff.1 hf.job)
  case routes => rw [hc.routes, h.routesWithout hp hroutes, hroutes]

/-- What a successful creation made of a fresh cluster, the removal of its container undoes,
whatever its flags: all resources are those that were there before, whatever else was running. -/
theorem remove_create {w w₁ : World} {id : String} {created : ContainerCreated}
    (waits waits' : Waits) (force volumes : Bool) (hcalm : w.clusterOutages = [])
    (hid : Workspace.idOf spec.env = .ok id) (hpending : w.cluster.pending = .empty)
    (hroutes : w.cluster.routes = .empty)
    (hfresh : Fresh ⟨s.project, Workspace.resourceName id⟩ w.cluster)
    (hcreate : World.runUnder waits (Connector.create spec (.cluster s)) w = (.ok created, w₁))
    (hnew : ∀ k q, w.cluster.pods.get? k = some q → q.project = s.project →
      q.labels.get? identityLabel ≠ some (shortId created.id)) :
    ∃ w₂, World.runUnder waits' (Connector.remove created.id force volumes (.cluster s)) w₁ =
      (.ok (), w₂) ∧ SameResources w.cluster w₂.cluster := by
  obtain ⟨hc, hcalm₁⟩ := World.runUnder_of_ensures
    (fun res c' => Creation s spec w.engine.images w.cluster res c') waits hcalm
    (ensures_create s spec)
  rw [show create s spec = Connector.create spec (.cluster s) from rfl, hcreate] at hc hcalm₁
  obtain ⟨p, r, hp, hname, hs, hd⟩ := hc.deployed hid hfresh hpending
  obtain ⟨hr, -⟩ := World.runUnder_of_ensures
    (fun res c' => Removal s created.id w₁.cluster res c') waits' hcalm₁
    (ensures_remove s created.id)
  rw [← hname] at hfresh
  obtain ⟨hres, hsame⟩ := hd.removal hp hs hfresh hroutes hnew hr
  exact ⟨_, Prod.ext hres rfl, hsame⟩

theorem fresh_sampleWorld : Fresh ⟨"che", "che-ws-k6"⟩ sampleWorld.cluster where
  unlabelled := OrderedMap.forall_get?_iff.2 (by decide)
  unselected := OrderedMap.forall_get?_iff.2 (by decide)
  deployment := rfl
  controller := rfl
  deployer := by decide
  pod := by decide
  job := rfl

theorem remove_create_sampleWorld : ∃ w₁ w₂,
    World.runUnder Clock.wait (Connector.create sampleSpec (.cluster sampleSettings)) sampleWorld =
      (.ok ⟨"8d5e2f0c41a7b3e9", []⟩, w₁) ∧
    World.runUnder Clock.wait
      (Connector.remove "8d5e2f0c41a7b3e9" false false (.cluster sampleSettings)) w₁ =
        (.ok (), w₂) ∧
    SameResources sampleWorld.cluster w₂.cluster := by
  have hid : Workspace.idOf sampleSpec.env = .ok "k6" := by rfl
  obtain ⟨w₂, hremove, hsame⟩ := remove_create Clock.wait Clock.wait false false rfl hid rfl
    rfl fresh_sampleWorld (Prod.ext create_sampleWorld rfl)
    (OrderedMap.forall_get?_iff.2 (by decide))
  exact ⟨_, w₂, Prod.ext create_sampleWorld rfl, hremove, hsame⟩

end ContainerBridge.Lifecycle
