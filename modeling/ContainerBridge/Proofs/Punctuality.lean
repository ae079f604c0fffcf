import ContainerBridge.Connector
import ContainerBridge.Proofs.Quiescence
import ContainerBridge.Proofs.RoundTrip
import ContainerBridge.Proofs.Undisturbed

/-! When a creation that nothing disturbs finds its container: the poll goes in step with the
rollout, and one listing decides. -/

namespace ContainerBridge.Lifecycle

open Cluster Cluster.State

/-- The calls of `n` attempts at discovery that find nothing. -/
def listings (project : String) (n : Nat) : List Request := .replicate n (.listPods project .empty)

/-- The calls that create the resources of a plan, after the check of the project. -/
def provisioning (s : Settings) (spec : ContainerSpec) (p : Plan) : List Request :=
  [.projectExists s.project, .createService (p.service s spec),
    .createDeployment (p.deployment s spec)] ++ (p.routes s).map .createRoute

/-- The search in `c` after the calls `l` comes to its end with the listing after `n` others. -/
structure Found (s : Settings) (deployment : String) (c : State) (l : List Request) (n : Nat)
    (d : Discovered) (t : Ledger) : Prop where
  within : n < s.discovery.maxAttempts.toNat
  before : ∀ m < n, sighted s.project deployment c m = none
  sighted : sighted s.project deployment c n = some d
  cluster : t.cluster =
    ((ticks (n + 1) c).labelPod s.project d.pod identityLabel (shortId d.containerId)).2
  calls : t.calls = l ++ listings s.project (n + 1) ++
    [.labelPod s.project d.pod identityLabel (shortId d.containerId)]

/-- The search in `c` after the calls `l` makes all its attempts in vain. -/
structure InVain (s : Settings) (deployment : String) (c : State) (l : List Request) (t : Ledger) :
    Prop where
  before : ∀ m < s.discovery.maxAttempts.toNat, sighted s.project deployment c m = none
  cluster : t.cluster = ticks s.discovery.maxAttempts.toNat c
  calls : t.calls = l ++ listings s.project s.discovery.maxAttempts.toNat

/-- Whether a call lists pods. -/
def isListing : Request → Bool
  | .listPods _ _ => true
  | _ => false

/-- The rollout shows a container with an id within `n` listings. -/
def Timely (n : Nat) (r : Rollout) : Prop :=
  r.deployerPolls < n ∧ stripRuntimeScheme r.containerId ≠ ""

instance (n : Nat) (r : Rollout) : Decidable (Timely n r) := inferInstanceAs (Decidable (_ ∧ _))

/-- Every part of a request for the workspace is accepted. -/
structure Accepted (s : Settings) (spec : ContainerSpec) (images : OrderedMap String ImageInfo)
    (id : String) : Prop where
  workspace : Workspace.idOf spec.env = .ok id
  name : ∃ name, Workspace.containerName spec.name = .ok name
  ports : ∃ ports, exposedPorts (Port.exposed (declaredPorts images spec.image)
    spec.exposedPorts.members) = .ok ports
  binds : ∃ volumes, Workspace.volumes id spec.binds = .ok volumes
  root : ∃ root, hostRoot s.routes = .ok root

/-- The cluster has the project but no pods, no pending rollouts and no service under the key. -/
structure Vacant (k : Key) (c : State) : Prop where
  project : c.projects.contains k.project = true
  pods : c.pods = .empty
  pending : c.pending = .empty
  service : c.services.contains k = false
  listed : c.listingFailure = none

/-- The rollout of `k` has just begun with no other pending, where there are no pods yet. -/
structure Lone (r : Rollout) (k : Key) (b : State) : Prop where
  rollout : b.rollout = some r
  pending : b.pending = .singleton k 0
  pods : b.pods = .empty

variable {images : OrderedMap String ImageInfo} {s : Settings} {spec : ContainerSpec} {p : Plan}
variable {c b : State} {l : List Request} {t : Ledger} {r : Rollout} {k : Key}

theorem listings_succ (project : String) (n : Nat) :
    listings project (n + 1) = listings project n ++ [.listPods project .empty] :=
  List.replicate_succ'

/-- A search that nothing disturbs ends with the first listing that shows the container. -/
theorem ends_discover {deployment : String} (hl : c.listingFailure = none) (hk : Keyed c) :
    Operation.Ends (Undisturbed images) (fun d t => ∃ n, Found s deployment c l n d t)
      (fun e t => e = .discoveryTimeout deployment s.discovery.maxAttempts.toNat
        s.discovery.ceiling ∧ InVain s deployment c l t) (discover s deployment) ⟨c, l⟩ := by
  unfold discover
  rw [Operation.ends_bind, Operation.ends_lift]
  -- after `n` attempts as many listings are all that was called, and none of them showed it
  refine Program.ensures_poll (fun n t => (∀ m < n, sighted s.project deployment c m = none) ∧
    t = ⟨ticks n c, l ++ listings s.project n⟩) s.discovery ⟨by simp, ?_⟩ ?_ ?_
  · rw [listings, List.replicate_zero, List.append_nil]
    rfl
  · rintro n _ hn ⟨hbefore, rfl⟩
    rw [Task.undisturbed_wait, if_pos rfl, probe, Program.ensures_bind, Task.undisturbed_cluster]
    have hlisted : (ticks n c).listingFailure = none := (left_by_ticks c n).listingFailure.trans hl
    have hanswer : (ticks n c).answer (.listPods s.project .empty) =
        (.ok ((ticks (n + 1) c).podsOf s.project .empty), ticks (n + 1) c) := by
      show (ticks n c).listPods s.project .empty = _
      rw [listPods, hlisted, ticks_succ]
    have hafter : (Ledger.mk (ticks n c) (l ++ listings s.project n)).after
        (.listPods s.project .empty) = ⟨ticks (n + 1) c, l ++ listings s.project (n + 1)⟩ := by
      rw [Ledger.after, hanswer, listings_succ, List.append_assoc]
    rw [hafter, hanswer]
    dsimp only
    cases hd : findContainer ((ticks (n + 1) c).podsOf s.project .empty) deployment with
    | none =>
      refine ⟨fun m hm => ?_, rfl⟩
      rcases Nat.lt_succ_iff_lt_or_eq.1 hm with hm | rfl
      · exact hbefore m hm
      · exact hd
    | some d =>
      rw [Program.ensures_bind, Task.undisturbed_cluster]
      have hlabel : ((ticks (n + 1) c).answer (.labelPod s.project d.pod identityLabel
          (shortId d.containerId))).1 = .ok () := labelPod_keyed (hk.ticks (n + 1)) hd _ _
      rw [hlabel]
      show Operation.Ends _ _ _ (do Operation.measure _; Operation.log _; pure d) _
      rw [Operation.ends_bind, Operation.undisturbed_measure, Operation.ends_bind,
        Operation.undisturbed_log]
      exact ⟨n, hn, hbefore, hd, rfl, rfl⟩
  · rintro _ ⟨hbefore, rfl⟩
    show Operation.Ends _ _ _ (do Operation.log _; throw _) _
    rw [Operation.ends_bind, Operation.undisturbed_log]
    exact ⟨rfl, hbefore, rfl, rfl⟩

theorem ends_plan (hp : Planned s spec images c p) {bad : BridgeError → Ledger → Prop} :
    Operation.Ends (Undisturbed images)
      (fun p' t => p' = p ∧ t = ⟨c, [.projectExists s.project]⟩) bad (plan s spec) ⟨c, []⟩ := by
  unfold plan
  rw [Operation.ends_bind, Operation.ends_check, hp.names]
  show Operation.Ends _ _ _ (imagePorts spec.image >>= _) _
  unfold imagePorts
  rw [Operation.ends_bind, Operation.ends_bind, Operation.undisturbed_inspectImage]
  show Operation.Ends _ _ _ (Operation.check (Plan.make s p.names spec
    (declaredPorts images spec.image)) >>= _) _
  rw [Operation.ends_bind, Operation.ends_check, hp.made]
  show Operation.Ends _ _ _ (requireProject s >>= _) _
  unfold requireProject
  refine (Operation.ends_bind _ _).2 ((Operation.ends_bind _ _).2 ?_)
  refine Operation.undisturbed_cluster.2 ?_
  show Operation.Ends _ _ _ (if c.projects.contains s.project = true then _ else _) _
  rw [if_pos hp.project]
  exact ⟨rfl, rfl⟩

theorem ends_createRoutes (rs : List Route) {bad : BridgeError → Ledger → Prop} :
    Operation.Ends (Undisturbed images)
      (fun _ t => t = ⟨rs.foldl createRoute c, l ++ rs.map .createRoute⟩) bad
      (createRoutes rs) ⟨c, l⟩ := by
  induction rs generalizing c l with
  | nil => simp [createRoutes]
  | cons r rs ih =>
    refine (Operation.ends_bind _ _).2 (Operation.undisturbed_cluster.2 ?_)
    refine Operation.Ends.imp (ih (c := c.createRoute r) (l := l ++ [.createRoute r])) ?_
      fun _ _ h => h
    rintro _ _ rfl
    rw [List.append_assoc]
    rfl

/-- A creation that nothing disturbs, of a plan whose service is new, ends with its search. -/
theorem ends_create (hp : Planned s spec images c p)
    (hs : c.services.contains (p.service s spec).key = false) (hl : c.listingFailure = none)
    (hk : Keyed c) :
    Operation.Ends (Undisturbed images)
      (fun a t => ∃ n d, a = ⟨d.containerId, []⟩ ∧ Found s p.names.resource
        (provisioned s spec p c) (provisioning s spec p) n d t)
      (fun e t => e = .discoveryTimeout p.names.resource s.discovery.maxAttempts.toNat
        s.discovery.ceiling ∧ InVain s p.names.resource (provisioned s spec p c)
          (provisioning s spec p) t) (create s spec) ⟨c, []⟩ := by
  have hb := provisioned_of_new hs
  refine Operation.ends_concluding ?_
  simp only [Program.ensures_bind, Task.undisturbed_measure]
  rw [Operation.ends_bind]
  refine (ends_plan hp).imp ?_ fun _ _ h => h
  rintro p _ ⟨rfl, rfl⟩
  unfold carryOut
  rw [Operation.ends_bind, Operation.undisturbed_log]
  refine (Operation.ends_bind _ _).2 (Operation.undisturbed_cluster.2 ?_)
  have hservice : (c.answer (.createService (p.service s spec))).1 = .ok () :=
    congrArg Prod.fst (createService_of_new hs)
  dsimp only
  rw [hservice]
  refine (Operation.ends_bind _ _).2 (Operation.undisturbed_log.2 ?_)
  refine (Operation.ends_bind _ _).2 (Operation.undisturbed_cluster.2 ?_)
  refine (Operation.ends_bind _ _).2 (Operation.undisturbed_log.2 ?_)
  refine (Operation.ends_bind _ _).2 ((ends_createRoutes _).imp ?_ fun _ _ h => h)
  rintro _ _ rfl
  refine (Operation.ends_bind _ _).2 ((ends_discover ?_ (hb.keyed hk)).imp ?_ fun _ _ h => h)
  · exact hb.listingFailure.trans hl
  · rintro d t ⟨n, hfound⟩
    exact ⟨n, d, rfl, hfound⟩

theorem Accepted.planned {id : String} (h : Accepted s spec images id)
    (hproject : c.projects.contains s.project = true) :
    ∃ p, Planned s spec images c p ∧ p.names.resource = Workspace.resourceName id := by
  obtain ⟨hid, ⟨name, hname⟩, ⟨ports, hports⟩, ⟨⟨volumes, mounts⟩, hbinds⟩, ⟨root, hroot⟩⟩ := h
  have hnames : Names.ofSpec spec = .ok ⟨id, Workspace.resourceName id, name⟩ := by
    rw [Names.ofSpec, hid, hname]
    rfl
  have hmade : Plan.make s ⟨id, Workspace.resourceName id, name⟩ spec
      (declaredPorts images spec.image) = .ok ⟨⟨id, Workspace.resourceName id, name⟩,
        Port.exposed (declaredPorts images spec.image) spec.exposedPorts.members, ports, volumes,
        mounts, root⟩ := by
    unfold Plan.make
    dsimp only
    rw [hports, hbinds, hroot]
    rfl
  exact ⟨⟨⟨id, _, name⟩, _, ports, volumes, mounts, root⟩, ⟨hnames, hmade, hproject⟩, rfl⟩

theorem podsOf_singleton {q : Pod} (h : c.pods = .singleton k q) :
    c.podsOf q.project .empty = [q] := by
  refine podsOf_eq_singleton (k := k) (by rw [h]; exact OrderedMap.get?_insert_self ..) rfl rfl ?_
  rintro k' q' hq' - -
  rw [h] at hq'
  rcases OrderedMap.get?_insert_cases hq' with ⟨rfl, -⟩ | hold
  · rfl
  · cases hold

theorem findContainer_rolledOutPod : findContainer [rolledOutPod r k] k.name =
    if stripRuntimeScheme r.containerId = "" then none
    else some ⟨podName k.name, stripRuntimeScheme r.containerId⟩ := by
  have hdeployer : (rolledOutPod r k).labels.contains deployerLabel = false := by
    rw [OrderedMap.contains, rolledOutPod_labels, OrderedMap.get?_insert_of_ne _ _ (by decide),
      OrderedMap.get?_insert_of_ne _ _ (by decide)]
    rfl
  unfold findContainer
  rw [if_neg (by simp [hdeployer]), List.find?_cons_of_pos (by simp)]
  rfl

theorem Lone.ticks (h : Lone r k b) (n : Nat) : ticks (n + 1) b =
    if n < r.deployerPolls then deploying k (n + 1) b else rolledOut r k b := by
  refine ticks_of_lone h.rollout h.pending ?_ n
  rw [h.pods]
  rfl

theorem Lone.rolledOut_pods (h : Lone r k b) : (rolledOut r k b).pods =
    .singleton ⟨k.project, podName k.name⟩ (rolledOutPod r k) := by
  show b.pods.insert _ _ = _
  rw [h.pods]
  rfl

/-- A listing shows the container of a rollout once the rollout has had enough of them, if the
container has an id. -/
theorem Lone.sighted (h : Lone r k b) (n : Nat) : sighted k.project k.name b n =
    if Timely (n + 1) r then some ⟨podName k.name, stripRuntimeScheme r.containerId⟩
    else none := by
  rw [Lifecycle.sighted, h.ticks]
  by_cases hn : n < r.deployerPolls
  · have hpods : (deploying k (n + 1) b).podsOf k.project .empty = [deployerPod k] := by
      refine podsOf_singleton (k := (deployerPod k).key) (q := deployerPod k) ?_
      show b.pods.insert _ _ = _
      rw [h.pods]
      rfl
    have hlate : ¬ Timely (n + 1) r := fun ht => by
      have := ht.1
      omega
    rw [if_pos hn, if_neg hlate, hpods]
    exact findContainer_of_deployer (List.mem_singleton_self _) (by rfl)
  · have hpods : (rolledOut r k b).podsOf k.project .empty = [rolledOutPod r k] :=
      podsOf_singleton (q := rolledOutPod r k) h.rolledOut_pods
    rw [if_neg hn, hpods, findContainer_rolledOutPod]
    by_cases hid : stripRuntimeScheme r.containerId = ""
    · rw [if_pos hid, if_neg fun ht : Timely (n + 1) r => ht.2 hid]
    · have ht : Timely (n + 1) r := ⟨by omega, hid⟩
      rw [if_neg hid, if_pos ht]

/-- The search for a rollout's container ends with the first listing that the rollout allows. -/
theorem Found.of_lone {d : Discovered} {n : Nat} (h : Found s k.name b l n d t)
    (hk : k.project = s.project) (hl : Lone r k b) : n = r.deployerPolls ∧
      Timely s.discovery.maxAttempts.toNat r ∧
      d = ⟨podName k.name, stripRuntimeScheme r.containerId⟩ := by
  have hsighted := hl.sighted
  rw [hk] at hsighted
  have hd := h.sighted
  rw [hsighted] at hd
  by_cases ht : Timely (n + 1) r
  · rw [if_pos ht] at hd
    have hle : r.deployerPolls ≤ n := Nat.le_of_lt_succ ht.1
    have hge : n ≤ r.deployerPolls := by
      by_contra hlt
      have hearly := h.before r.deployerPolls (by omega)
      have htimely : Timely (r.deployerPolls + 1) r := ⟨by omega, ht.2⟩
      rw [hsighted, if_pos htimely] at hearly
      cases hearly
    have hwithin : r.deployerPolls < s.discovery.maxAttempts.toNat :=
      Nat.lt_of_le_of_lt hle h.within
    exact ⟨Nat.le_antisymm hge hle, ⟨hwithin, ht.2⟩, (Option.some.inj hd).symm⟩
  · rw [if_neg ht] at hd
    cases hd

/-- A search that ends in vain had no timely rollout. -/
theorem InVain.not_timely (h : InVain s k.name b l t) (hk : k.project = s.project)
    (hl : Lone r k b) : ¬ Timely s.discovery.maxAttempts.toNat r := by
  intro ht
  have hbefore := h.before r.deployerPolls ht.1
  have hsighted := hl.sighted r.deployerPolls
  have htimely : Timely (r.deployerPolls + 1) r := ⟨by omega, ht.2⟩
  rw [hk, if_pos htimely, hbefore] at hsighted
  cases hsighted

/-- The pod that was rolled out is the only one, and has got the identity of its container. -/
theorem Found.pods {d : Discovered} {n : Nat} (h : Found s k.name b l n d t)
    (hk : k.project = s.project) (hl : Lone r k b) : t.cluster.pods =
      .singleton ⟨k.project, podName k.name⟩
        (identifiedPod r k (stripRuntimeScheme r.containerId)) := by
  obtain ⟨rfl, -, rfl⟩ := h.of_lone hk hl
  have hpods := hl.rolledOut_pods
  have hpod : (rolledOut r k b).pods.get? ⟨k.project, podName k.name⟩ =
      some (rolledOutPod r k) := by
    rw [hpods]
    exact OrderedMap.get?_insert_self ..
  rw [h.cluster, hl.ticks, if_neg (Nat.lt_irrefl _), ← hk, labelPod_of_get? hpod, hpods]
  exact OrderedMap.insert_insert ..

theorem countP_listings (project : String) (n : Nat) :
    (listings project n).countP isListing = n := by
  rw [listings, List.countP_replicate]
  rfl

theorem countP_provisioning : (provisioning s spec p).countP isListing = 0 := by
  refine List.countP_eq_zero.2 fun q hq => ?_
  rcases List.mem_append.1 hq with hq | hq
  · simp only [List.mem_cons, List.not_mem_nil, or_false] at hq
    rcases hq with rfl | rfl | rfl <;> simp [isListing]
  · obtain ⟨route, -, rfl⟩ := List.mem_map.1 hq
    simp [isListing]

theorem Found.countP {deployment : String} {d : Discovered} {n : Nat}
    (h : Found s deployment b (provisioning s spec p) n d t) :
    t.calls.countP isListing = n + 1 := by
  rw [h.calls, List.countP_append, List.countP_append, countP_provisioning, countP_listings]
  simp [isListing]

theorem InVain.countP {deployment : String} (h : InVain s deployment b (provisioning s spec p) t) :
    t.calls.countP isListing = s.discovery.maxAttempts.toNat := by
  rw [h.calls, List.countP_append, countP_provisioning, countP_listings, Nat.zero_add]

/-- The result of an undisturbed creation, and what was called: its search found the container or
was in vain. -/
theorem create_unhindered {w : World} (hw : w.Unhindered)
    (hp : Planned s spec w.engine.images w.cluster p)
    (hs : w.cluster.services.contains (p.service s spec).key = false)
    (hl : w.cluster.listingFailure = none) (hk : Keyed w.cluster) :
    let res := World.run (create s spec) w
    let t := Ledger.mk res.2.cluster (World.callsOf (create s spec) w)
    (∃ n d, res.1 = .ok ⟨d.containerId, []⟩ ∧ Found s p.names.resource
      (provisioned s spec p w.cluster) (provisioning s spec p) n d t) ∨
    (res.1 = .error (.discoveryTimeout p.names.resource s.discovery.maxAttempts.toNat
      s.discovery.ceiling) ∧ InVain s p.names.resource (provisioned s spec p w.cluster)
        (provisioning s spec p) t) := by
  have hend := hw.outcome (ends_create hp hs hl hk)
  intro res t
  change Outcome _ _ res.1 t at hend
  cases hres : res.1 with
  | ok a =>
    rw [hres] at hend
    obtain ⟨n, d, rfl, hfound⟩ := hend
    exact .inl ⟨n, d, rfl, hfound⟩
  | error e =>
    rw [hres] at hend
    obtain ⟨rfl, hvain⟩ := hend
    exact .inr ⟨rfl, hvain⟩

/-- On a vacant cluster the deployment's rollout is the only one. -/
theorem Vacant.lone (h : Vacant (p.service s spec).key c) (hr : c.rollout = some r) :
    Lone r (p.deployment s spec).key (provisioned s spec p c) := by
  have hb := provisioned_of_new h.service
  constructor
  case rollout => exact hb.rollout.trans hr
  case pending =>
    rw [hb.pending, hr, h.pending]
    rfl
  case pods => exact hb.pods.trans h.pods

/-- On a vacant cluster the search can find nothing but the container of a rollout. -/
theorem Found.rollout {n : Nat} {d : Discovered} (hv : Vacant (p.service s spec).key c)
    (h : Found s p.names.resource (provisioned s spec p c) l n d t) :
    ∃ r, c.rollout = some r := by
  have hb := provisioned_of_new hv.service
  cases hr : c.rollout with
  | some r => exact ⟨r, rfl⟩
  | none =>
    have hunlabelled : ∀ k q, (provisioned s spec p c).pods.get? k = some q →
        q.project = s.project → q.labels.get? deploymentLabel ≠ some p.names.resource := by
      intro k q hq
      rw [hb.pods, hv.pods] at hq
      cases hq
    have hnone := sighted_of_no_rollout (k := (p.deployment s spec).key) (n := n) (s := s) rfl
      (hb.rollout.trans hr) hunlabelled
    cases hnone.symm.trans h.sighted

/-- The two ends that a creation has on a vacant cluster if nothing disturbs it: the rollout is
timely and its container is found, or there is no such rollout and the creation gives up. -/
theorem create_vacant {w : World} (hw : w.Unhindered)
    (hp : Planned s spec w.engine.images w.cluster p)
    (hv : Vacant (p.service s spec).key w.cluster) :
    let total := s.discovery.maxAttempts.toNat
    let res := World.run (create s spec) w
    let listed := (World.callsOf (create s spec) w).countP isListing
    (∃ r, w.cluster.rollout = some r ∧ Timely total r ∧
      res.1 = .ok ⟨stripRuntimeScheme r.containerId, []⟩ ∧ listed = r.deployerPolls + 1 ∧
      res.2.cluster.pods = .singleton ⟨s.project, podName p.names.resource⟩
        (identifiedPod r ⟨s.project, p.names.resource⟩ (stripRuntimeScheme r.containerId))) ∨
    ((∀ r, w.cluster.rollout = some r → ¬ Timely total r) ∧
      res.1 = .error (.discoveryTimeout p.names.resource total
        (s.discovery.interval.repeated total)) ∧ listed = total) := by
  have hk : Keyed w.cluster := by
    intro k q hq
    rw [hv.pods] at hq
    cases hq
  intro total res listed
  rcases create_unhindered hw hp hv.service hv.listed hk with ⟨n, d, hres, hfound⟩ | ⟨hres, hvain⟩
  · obtain ⟨r, hr⟩ := hfound.rollout hv
    have hlone : Lone r ⟨s.project, p.names.resource⟩ (provisioned s spec p w.cluster) := hv.lone hr
    obtain ⟨rfl, ht, rfl⟩ := hfound.of_lone rfl hlone
    exact .inl ⟨r, hr, ht, hres, hfound.countP, hfound.pods rfl hlone⟩
  · refine .inr ⟨fun r hr => ?_, hres, hvain.countP⟩
    have hlone : Lone r ⟨s.project, p.names.resource⟩ (provisioned s spec p w.cluster) := hv.lone hr
    exact hvain.not_timely rfl hlone

/-- On a vacant cluster a creation that nothing disturbs succeeds just when the rollout of its
deployment is timely: as soon as the rollout allows, it finds and labels the container. Otherwise it
gives up after all of its attempts. -/
theorem create_iff_timely {w : World} {id : String} (hw : w.Unhindered)
    (ha : Accepted s spec w.engine.images id)
    (hv : Vacant ⟨s.project, Workspace.resourceName id⟩ w.cluster) :
    let name := Workspace.resourceName id
    let total := s.discovery.maxAttempts.toNat
    let res := World.run (Connector.create spec (.cluster s)) w
    let listed := (World.callsOf (Connector.create spec (.cluster s)) w).countP isListing
    ((∃ created, res.1 = .ok created) ↔ ∃ r, w.cluster.rollout = some r ∧ Timely total r) ∧
    (∀ r, w.cluster.rollout = some r → Timely total r →
      let containerId := stripRuntimeScheme r.containerId
      res.1 = .ok ⟨containerId, []⟩ ∧ listed = r.deployerPolls + 1 ∧
      ∃ pod, res.2.cluster.pods = .singleton ⟨s.project, podName name⟩ pod ∧
        pod = identifiedPod r ⟨s.project, name⟩ containerId ∧
        pod.labels.get? "cheContainerIdentifier" =
          some (String.ofList (containerId.toList.take 12))) ∧
    ((∀ r, w.cluster.rollout = some r → ¬ Timely total r) →
      res.1 = .error (.discoveryTimeout name total (s.discovery.interval.repeated total)) ∧
      listed = total) := by
  obtain ⟨p, hp, hname⟩ := ha.planned hv.project
  rw [← hname] at hv ⊢
  intro name total res listed
  rcases create_vacant hw hp hv with ⟨r, hr, ht, hres, hlisted, hpods⟩ | ⟨hlate, hres, hlisted⟩
  · refine ⟨⟨fun _ => ⟨r, hr, ht⟩, fun _ => ⟨_, hres⟩⟩, ?_, fun hlate => (hlate r hr ht).elim⟩
    intro r' hr' _
    obtain rfl : r = r' := Option.some.inj (hr.symm.trans hr')
    exact ⟨hres, hlisted, _, hpods, rfl, identifiedPod_identity ..⟩
  · refine ⟨⟨?_, ?_⟩, fun r hr ht => (hlate r hr ht).elim, fun _ => ⟨hres, hlisted⟩⟩
    · rintro ⟨created, hcreated⟩
      cases hres.symm.trans hcreated
    · rintro ⟨r, hr, ht⟩
      exact (hlate r hr ht).elim

/-- A world with nothing but a project and a rollout to come. -/
def bareWorld : World :=
  { sampleWorld with cluster := { sampleWorld.cluster with pods := .empty } }

theorem create_iff_timely_bareWorld :
    let create := Connector.create sampleSpec (.cluster sampleSettings)
    (World.run create bareWorld).1 = .ok ⟨"8d5e2f0c41a7b3e9", []⟩ ∧
    (World.callsOf create bareWorld).countP isListing = 2 ∧
    ∃ pod,
      (World.run create bareWorld).2.cluster.pods = .singleton ⟨"che", "che-ws-k6-1-x7k2p"⟩ pod ∧
      pod.labels.get? "cheContainerIdentifier" = some "8d5e2f0c41a7" := by
  have hw : bareWorld.Unhindered := ⟨rfl, rfl, rfl⟩
  have ha : Accepted sampleSettings sampleSpec bareWorld.engine.images "k6" := {
    workspace := by rfl
    name := ⟨"k6-dev", by rfl⟩
    ports := ⟨_, by rfl⟩
    binds := ⟨_, by rfl⟩
    root := ⟨_, by rfl⟩ }
  have hv : Vacant ⟨"che", Workspace.resourceName "k6"⟩ bareWorld.cluster :=
    ⟨by decide, rfl, rfl, rfl, rfl⟩
  have ht : Timely 3 ⟨"docker://8d5e2f0c41a7b3e9", 1⟩ := by decide
  obtain ⟨hres, hlisted, pod, hpods, -, hlabel⟩ := (create_iff_timely hw ha hv).2.1 _ rfl ht
  exact ⟨hres, hlisted, pod, hpods, hlabel⟩

end ContainerBridge.Lifecycle
