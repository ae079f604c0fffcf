import ContainerBridge.Proofs.Creation
import ContainerBridge.Proofs.Removal
import ContainerBridge.Proofs.Selection

/-! The invariant that complete calls keep on a cluster that no one else works on. Its parts hold
only together: a removal finds the service by its selector and the deployment by the label of a pod,
and takes away all three or nothing. -/

namespace ContainerBridge.Lifecycle

open Cluster Cluster.State

/-- The pod belongs to a deployment, and `v` is the short id of its first container. -/
def Identified (p : Pod) (v : String) : Prop :=
  ∃ d raw, p.labels.get? deploymentLabel = some d ∧ p.containerIds.head? = some raw ∧
    v = shortId (stripRuntimeScheme raw)

/-- What complete calls keep. -/
structure Sound (s : Settings) (c : State) : Prop where
  paired : ∀ k, c.services.contains k = c.deployments.contains k
  service : ∀ k sv, c.services.get? k = some sv →
    sv.key = k ∧ sv.selector = deploymentSelector sv.name
  deployment : ∀ k d, c.deployments.get? k = some d →
    d.key = k ∧ d.selector = deploymentSelector d.name
  pending : ∀ k, c.pending.contains k = true → c.deployments.contains k = true
  settled : ∀ k, Settled k c
  owned : ∀ k p d, c.pods.get? k = some p → p.labels.get? deploymentLabel = some d →
    c.deployments.contains ⟨p.project, d⟩ = true
  identified : ∀ k p v, c.pods.get? k = some p → p.labels.get? identityLabel = some v →
    Identified p v
  route : ∀ k r, c.routes.get? k = some r → r.key = k ∧
    r.labels = deploymentSelector r.serviceName ∧
    c.services.contains ⟨r.project, r.serviceName⟩ = true
  unrouted : s.routes.enabled = false → c.routes = .empty

variable {s : Settings} {c c' : State}

/-- A step of a rollout keeps the invariant: it brings about pods of an existing deployment. -/
theorem Sound.advance {r : Rollout} {k : Key} (h : Sound s c) (hk : c.pending.contains k = true) :
    Sound s (advance r c k) := by
  have hleft : LeftByListing c (State.advance r c k) := (LeftByListing.refl c).advance r k
  have hd := hleft.deployments
  constructor
  case paired =>
    rw [hleft.services, hd]
    exact h.paired
  case service =>
    rw [hleft.services]
    exact h.service
  case deployment =>
    rw [hd]
    exact h.deployment
  case pending =>
    intro k' hk'
    rw [hd]
    by_cases he : k' = k
    · rw [he]
      exact h.pending k hk
    · rw [advance_pending_of_ne he] at hk'
      exact h.pending k' hk'
  case settled =>
    exact fun k' => (h.settled k').advance hk
  case owned =>
    intro k' p d hp hl
    rw [hd]
    rcases advance_pods hp with hp | ⟨-, rfl⟩ | ⟨-, rfl, -⟩
    · exact h.owned k' p d hp hl
    · simp at hl
    · rw [rolledOutPod_deployment] at hl
      rw [← Option.some.inj hl]
      exact h.pending k hk
  case identified =>
    intro k' p v hp hl
    rcases advance_pods hp with hp | ⟨-, rfl⟩ | ⟨-, rfl, -⟩
    · exact h.identified k' p v hp hl
    · simp at hl
    · simp at hl
  case route =>
    rw [hleft.routes, hleft.services]
    exact h.route
  case unrouted =>
    rw [hleft.routes]
    exact h.unrouted

theorem Sound.tick (h : Sound s c) : Sound s c.tick :=
  tick_induction h fun _ _ _ hk hs => hs.advance hk

theorem Sound.ticks (h : Sound s c) (n : Nat) : Sound s (ticks n c) :=
  ticks_induction h (fun _ _ _ hk hs => hs.advance hk) n

/-- Without some of the pods the invariant still holds. -/
theorem Sound.of_pods (h : Sound s c) (pods : OrderedMap Key Pod)
    (hp : ∀ k p, pods.get? k = some p → c.pods.get? k = some p) :
    Sound s { c with pods := pods } where
  paired := h.paired
  service := h.service
  deployment := h.deployment
  pending := h.pending
  settled k k' p hk' := h.settled k k' p (hp k' p hk')
  owned k p d hk := h.owned k p d (hp k p hk)
  identified k p v hk := h.identified k p v (hp k p hk)
  route := h.route
  unrouted := h.unrouted

/-- Nothing belongs to a deployment that has no service. -/
theorem Sound.unlabelled {k : Key} (h : Sound s c) (hk : c.services.contains k = false) {k' : Key}
    {p : Pod} (hp : c.pods.get? k' = some p) (hproject : p.project = k.project) :
    p.labels.get? deploymentLabel ≠ some k.name := by
  intro hl
  have hd := h.owned k' p k.name hp hl
  rw [← h.paired, hproject, hk] at hd
  cases hd

/-- The resources of a plan with a new name keep the invariant. -/
theorem Sound.provisioned {spec : ContainerSpec} {images : OrderedMap String ImageInfo} {p : Plan}
    (h : Sound s c) (hp : Planned s spec images c p)
    (hs : c.services.contains (p.service s spec).key = false) (hc : Provisioned s spec p c c') :
    Sound s c' := by
  have hkey : (p.deployment s spec).key = (p.service s spec).key := rfl
  constructor
  case paired =>
    intro k
    rw [hc.services, hc.deployments, hkey, OrderedMap.contains_insert, OrderedMap.contains_insert,
      h.paired]
  case service =>
    intro k sv hk
    rw [hc.services] at hk
    rcases OrderedMap.get?_insert_cases hk with ⟨rfl, rfl⟩ | hold
    · exact ⟨rfl, rfl⟩
    · exact h.service k sv hold
  case deployment =>
    intro k d hk
    rw [hc.deployments] at hk
    rcases OrderedMap.get?_insert_cases hk with ⟨rfl, rfl⟩ | hold
    · exact ⟨rfl, rfl⟩
    · exact h.deployment k d hold
  case pending =>
    intro k hk
    rw [hc.deployments, OrderedMap.contains_insert, Bool.or_eq_true, decide_eq_true_eq]
    exact (hc.pending_cases hk).imp_right (h.pending k)
  case settled =>
    intro k k' pod hpod hproject hl
    rw [hc.pods] at hpod
    obtain ⟨hk', hname, hpending⟩ := h.settled k k' pod hpod hproject hl
    refine ⟨hk', hname, Bool.eq_false_iff.2 fun hk => ?_⟩
    rcases hc.pending_cases hk with rfl | hold
    · exact h.unlabelled hs hpod hproject hl
    · rw [hpending] at hold
      cases hold
  case owned =>
    intro k pod d hpod hl
    rw [hc.pods] at hpod
    rw [hc.deployments, OrderedMap.contains_insert, h.owned k pod d hpod hl, Bool.or_true]
  case identified =>
    intro k pod v hpod hl
    rw [hc.pods] at hpod
    exact h.identified k pod v hpod hl
  case route =>
    intro k r hr
    rw [hc.routes] at hr
    rw [hc.services, OrderedMap.contains_insert, Bool.or_eq_true, decide_eq_true_eq]
    rcases get?_insertRoutes hr with hold | ⟨hnew, rfl⟩
    · obtain ⟨hk, hl, hsv⟩ := h.route k r hold
      exact ⟨hk, hl, .inr hsv⟩
    · obtain ⟨hproject, hname, hl⟩ := Plan.mem_routes hnew
      refine ⟨rfl, by rw [hl, hname], .inl ?_⟩
      rw [hproject, hname]
      rfl
  case unrouted =>
    intro hr
    rw [hc.routes, hp.routes_of_disabled hr]
    exact h.unrouted hr

/-- A pod may be exchanged for one that differs in its identity, if that is its container's. -/
theorem Sound.replaced {k : Key} {p : Pod} (h : Sound s c) (hp : c.pods.get? k = some p)
    (p' : Pod) (hproject : p'.project = p.project) (hname : p'.name = p.name)
    (hl : p'.labels.get? deploymentLabel = p.labels.get? deploymentLabel)
    (hid : ∀ v, p'.labels.get? identityLabel = some v → Identified p' v) :
    Sound s { c with pods := c.pods.insert k p' } := by
  refine { h with
    settled := fun k' => (h.settled k').replaced hp hproject hname hl
    owned := ?_
    identified := ?_ }
  · intro k' q d hq hqd
    rcases OrderedMap.get?_insert_cases hq with ⟨rfl, rfl⟩ | hold
    · rw [hl] at hqd
      rw [hproject]
      exact h.owned _ p d hp hqd
    · exact h.owned k' q d hold hqd
  · intro k' q v hq hqv
    rcases OrderedMap.get?_insert_cases hq with ⟨-, rfl⟩ | hold
    · exact hid v hqv
    · exact h.identified k' q v hold hqv

/-- Labelling a pod that a listing shows with the identity of its container keeps the invariant. -/
theorem Sound.labelled {deployment : String} {d : Discovered} {r : Except ClusterFailure Unit}
    (h : Sound s c) (hd : findContainer (c.podsOf s.project .empty) deployment = some d)
    (hc : c.labelPod s.project d.pod identityLabel (shortId d.containerId) = (r, c')) :
    Sound s c' := by
  obtain ⟨e, -, rfl⟩ | ⟨pod, hpod, -, rfl⟩ := labelPod_cases hc
  · exact { h with }
  · obtain ⟨p, raw, hp, -, hl, hraw, rfl, -⟩ := findContainer_settled (h.settled _) hd
    -- the pod with the deployment's label stands under the very key that is labelled
    obtain rfl : p = pod := Option.some.inj (hp.symm.trans hpod)
    have hother : (withLabel identityLabel (shortId (stripRuntimeScheme raw)) p).labels.get?
        deploymentLabel = p.labels.get? deploymentLabel :=
      OrderedMap.get?_insert_of_ne _ _ (by decide)
    have hs := h.replaced hpod (withLabel identityLabel (shortId (stripRuntimeScheme raw)) p)
      rfl rfl hother fun v hv => ⟨deployment, raw, hother.trans hl, hraw,
        (Option.some.inj ((OrderedMap.get?_insert_self ..).symm.trans hv)).symm⟩
    exact { hs with }

/-! Removal -/

variable {deployment : String}

/-- The service that a removal finds by its selector bears the deployment's name. -/
theorem Sound.servicesWithout_eq (h : Sound s c) (deployment : String) :
    servicesWithout s deployment c = c.services.erase ⟨s.project, deployment⟩ := by
  cases hf : serviceOf s deployment c with
  | some sv =>
    obtain ⟨⟨k, hk⟩, -⟩ := mem_listServices.1 (List.mem_of_find?_eq_some hf)
    have hl : sv.selector.get? deploymentLabel = some deployment := by
      simpa using List.find?_some hf
    rw [(h.service k sv hk).2, deploymentSelector, get?_singleton] at hl
    rw [servicesWithout_of_some hf, Option.some.inj hl]
  | none =>
    rw [servicesWithout_of_none hf]
    refine (OrderedMap.erase_of_get?_none (Option.eq_none_iff_forall_not_mem.2 ?_)).symm
    intro sv hsv
    obtain ⟨hkey, hsel⟩ := h.service _ sv hsv
    have hm : sv ∈ c.listServices s.project :=
      mem_listServices.2 ⟨⟨_, hsv⟩, congrArg Key.project hkey⟩
    have hne := List.find?_eq_none.1 hf sv hm
    rw [hsel, deploymentSelector, get?_singleton, show sv.name = deployment from
      congrArg Key.name hkey] at hne
    simp at hne

/-- The routes that a removal leaves lead to other services. -/
theorem Sound.routesWithout_get? (h : Sound s c) {k : Key} {r : Route}
    (hr : (routesWithout s deployment c).get? k = some r) :
    c.routes.get? k = some r ∧ Key.mk r.project r.serviceName ≠ ⟨s.project, deployment⟩ := by
  unfold routesWithout at hr
  cases hs : s.routes.enabled with
  | false =>
    rw [if_neg (by simp [hs]), h.unrouted hs] at hr
    cases hr
  | true =>
    rw [if_pos hs, OrderedMap.get?_filter, Option.filter_eq_some_iff] at hr
    obtain ⟨hr, hsel⟩ := hr
    refine ⟨hr, fun he => ?_⟩
    obtain ⟨hkey, hl, -⟩ := h.route k r hr
    obtain ⟨hproject, hname⟩ := Key.mk.inj he
    have hk : k.project = s.project := (congrArg Key.project hkey).symm.trans hproject
    rw [isSelected_deployment, hl, deploymentSelector, get?_singleton, hname] at hsel
    simp [hk] at hsel

/-- Taking away what belongs to a deployment, together with its pod, keeps the invariant. -/
theorem Sound.dismantled {selector : Selector} {pod : Pod} (h : Sound s c)
    (hp : pod ∈ c.podsOf s.project selector)
    (hd : pod.labels.get? deploymentLabel = some deployment)
    (hc : Dismantled s pod deployment c c') : Sound s c' := by
  obtain ⟨⟨k, hk⟩, hproject, -⟩ := mem_podsOf.1 hp
  obtain ⟨-, hname, hpending⟩ := h.settled ⟨s.project, deployment⟩ k pod hk hproject hd
  have hpods : ∀ k' p, c'.pods.get? k' = some p →
      k' ≠ ⟨s.project, pod.name⟩ ∧ c.pods.get? k' = some p := by
    intro k' p hp'
    rw [hc.pods] at hp'
    exact OrderedMap.get?_of_get?_erase hp'
  constructor
  case paired =>
    intro k'
    rw [hc.services, hc.deployments, h.servicesWithout_eq, OrderedMap.contains_erase,
      OrderedMap.contains_erase, h.paired]
  case service =>
    intro k' sv hsv
    rw [hc.services, h.servicesWithout_eq] at hsv
    exact h.service k' sv (OrderedMap.get?_of_get?_erase hsv).2
  case deployment =>
    intro k' d hd'
    rw [hc.deployments] at hd'
    exact h.deployment k' d (OrderedMap.get?_of_get?_erase hd').2
  case pending =>
    intro k' hk'
    rw [hc.pending] at hk'
    have hne : k' ≠ ⟨s.project, deployment⟩ := by
      rintro rfl
      rw [hpending] at hk'
      cases hk'
    simp [hc.deployments, OrderedMap.contains_erase, hne, h.pending k' hk']
  case settled =>
    intro k' k'' p hp' hpp hpl
    rw [hc.pending]
    exact h.settled k' k'' p (hpods k'' p hp').2 hpp hpl
  case owned =>
    intro k' p d hp' hpl
    obtain ⟨hk', hp'⟩ := hpods k' p hp'
    have hne : Key.mk p.project d ≠ ⟨s.project, deployment⟩ := by
      rintro he
      obtain ⟨hpp, rfl⟩ := Key.mk.inj he
      obtain ⟨rfl, -, -⟩ := h.settled ⟨s.project, d⟩ k' p hp' hpp hpl
      exact hk' (by rw [hname])
    simp [hc.deployments, OrderedMap.contains_erase, hne, h.owned k' p d hp' hpl]
  case identified => exact fun k' p v hp' => h.identified k' p v (hpods k' p hp').2
  case route =>
    intro k' r hr
    rw [hc.routes] at hr
    obtain ⟨hr, hne⟩ := h.routesWithout_get? hr
    obtain ⟨hkey, hl, hsv⟩ := h.route k' r hr
    refine ⟨hkey, hl, ?_⟩
    simp [hc.services, h.servicesWithout_eq, OrderedMap.contains_erase, hne, hsv]
  case unrouted =>
    intro hs
    rw [hc.routes, routesWithout, if_neg (by simp [hs])]
    exact h.unrouted hs

end ContainerBridge.Lifecycle
