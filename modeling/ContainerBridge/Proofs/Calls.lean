import ContainerBridge.Connector
import ContainerBridge.Proofs.Coherence

/-! Sequences of calls on a cluster that no one else works on. Every call runs to its end, whether
it succeeds, fails or is cancelled, and keeps the invariant. -/

namespace ContainerBridge.Lifecycle

open Cluster Cluster.State

variable {images : OrderedMap String ImageInfo} {s : Settings} {c : State}

theorem Sound.discovery {deployment : String} {r : Except BridgeError Discovered} {c' : State}
    (h : Sound s c) (hd : Discovery s deployment c r c') : Sound s c' := by
  cases hd with
  | unlisted => exact h
  | @found n _ _ _ _ _ hd hlabel => exact (h.ticks (n + 1)).labelled hd hlabel
  | @unlabelled n _ _ _ hd hlabel => exact (h.ticks (n + 1)).labelled hd hlabel
  | exhausted => exact h.ticks _
  | cancelled => exact h.ticks _

theorem Sound.creation {spec : ContainerSpec} {r : Except BridgeError ContainerCreated} {c' : State}
    (h : Sound s c) (hc : Creation s spec images c r c') : Sound s c' := by
  cases hc with
  | refused => exact h
  | conflict => exact h
  | undiscovered hp hs hd => exact (h.provisioned hp hs (provisioned_of_new hs)).discovery hd
  | created hp hs hd => exact (h.provisioned hp hs (provisioned_of_new hs)).discovery hd

theorem Sound.removal {containerId : String} {r : Except BridgeError Unit} {c' : State}
    (h : Sound s c) (hr : Removal s containerId c r c') : Sound s c' := by
  cases hr with
  | unlisted => exact h
  | ambiguous => exact h.tick
  | unlabelled => exact h.tick
  | removed _ hp hd hc => exact h.tick.dismantled (by rw [hp]; simp) hd hc

/-! Calls that only read, and calls on directories -/

theorem ensures_inspectContainer_sound (h : Sound s c) (containerId : String) :
    Operation.Ensures images Answers (fun _ => Sound s) (fun _ => Sound s)
      (inspectContainer s containerId) c := by
  unfold inspectContainer
  rw [Operation.ensures_bind, Operation.ensures_inspectContainer]
  refine ⟨fun info => ?_, fun _ => h⟩
  cases info with
  | none => exact h
  | some info =>
    refine (Operation.ensures_bind _ _).2 (ensures_owningPod (fun _ _ => h) (fun _ _ _ _ => h.tick)
      fun pod _ _ => ?_)
    refine (Operation.ensures_bind _ _).2 (ensures_deploymentOf (fun _ => h.tick) fun d _ => ?_)
    refine (Operation.ensures_bind _ _).2 ((ensures_owningService s d).imp ?_ fun _ _ h => h)
    rintro sv _ ⟨rfl, -⟩
    cases sv <;> exact h.tick

theorem ensures_inspect_sound (h : Sound s c) (containerId : String) (servers : List ServerConf) :
    Operation.Ensures images Answers (fun _ => Sound s) (fun _ => Sound s)
      (inspect s containerId servers) c := by
  refine (Operation.ensures_bind _ _).2 (Operation.ensures_concluding ?_)
  simp only [Task.ensures_measure]
  exact (ensures_inspectContainer_sound h containerId).imp (fun _ _ h => h) fun _ _ h => h

theorem Sound.deletePod (h : Sound s c) (project name : String) :
    Sound s (c.deletePod project name).2 := by
  have hp := h.of_pods (c.pods.erase ⟨project, name⟩) fun k p hk =>
    (OrderedMap.get?_of_get?_erase hk).2
  exact { hp with }

theorem ensures_deleteJob_sound (h : Sound s c) (project pod : String) :
    Operation.Ensures images Answers (fun _ => Sound s) (fun _ => Sound s) (deleteJob project pod)
      c := by
  refine (Operation.ensures_bind _ _).2 (Operation.ensures_cluster.2 ?_)
  rintro _ _ ⟨⟩
  exact h.deletePod project pod

theorem Sound.podPhase {project name : String} (h : Sound s c) :
    Sound s (c.podPhase project name).2 := by
  unfold State.podPhase
  split
  · exact h
  · split
    · exact { h with }
    · exact h

theorem Sound.createJobPod {pod : JobPod} (h : Sound s c) : Sound s (c.createJobPod pod).2 := by
  unfold State.createJobPod
  dsimp only
  split
  · exact { h with }
  · exact { h with }

theorem answers_podPhase {project name : String} {r : Except ClusterFailure (Option String)}
    {c' : State} (h : Answers (.podPhase project name) c r c') :
    ∃ phase, r = .ok phase ∧ c' = (c.podPhase project name).2 := by
  obtain ⟨⟩ := h
  exact ⟨_, rfl, rfl⟩

theorem ensures_jobEnd_sound (h : Sound s c) (project pod : String) :
    Task.Ensures images Answers (fun _ => Sound s) (jobEnd project pod) c := by
  unfold jobEnd
  rw [Task.Ensures, Program.ensures_bind]
  refine Task.ensures_cluster.2 fun r c' hr => ?_
  obtain ⟨phase, rfl, rfl⟩ := answers_podPhase hr
  cases phase <;> exact h.podPhase

/-- A call on a directory keeps the invariant: its job pods are kept apart from all other pods, and
deleting one can only take a pod away. -/
theorem ensures_runFiles_sound (h : Sound s c) (command : Workspace.FilesCommand)
    (workspace : String) :
    Operation.Ensures images Answers (fun _ => Sound s) (fun _ => Sound s)
      (runFiles s command workspace) c := by
  unfold runFiles
  rw [Operation.ensures_bind, Operation.ensures_check]
  cases Workspace.jobPod command workspace s.project s.claimName with
  | error f => exact h
  | ok pod =>
    refine (Operation.ensures_bind _ _).2 (Operation.ensures_cluster.2 fun r c₁ hr => ?_)
    obtain rfl : (c.createJobPod pod).2 = c₁ := congrArg Prod.snd hr
    cases r with
    | error e => exact h.createJobPod
    | ok _ =>
      refine (Operation.ensures_bind _ _).2 ((Operation.ensures_log _).2 ?_)
      rw [Operation.ensures_bind, Operation.ensures_lift]
      refine Task.ensures_poll (fun _ => Sound s) s.filesJob h.createJobPod ?_ ?_ ?_
      · intro n c' _ hc
        refine (ensures_jobEnd_sound hc s.project pod.name).imp fun r c'' hc' => ?_
        rcases r with e | (_ | ending)
        · exact hc'
        · exact hc'
        · show Operation.Ensures _ _ _ _ (do Operation.log _; deleteJob _ _; _) _
          rw [Operation.ensures_bind, Operation.ensures_log, Operation.ensures_bind]
          refine (ensures_deleteJob_sound hc' _ _).imp (fun _ _ hd => ?_) fun _ _ hd => hd
          cases ending <;> exact hd
      · exact fun _ _ _ hc => hc
      · intro c' hc
        show Operation.Ensures _ _ _ _ (do deleteJob _ _; throw _) _
        rw [Operation.ensures_bind]
        exact (ensures_deleteJob_sound hc _ _).imp (fun _ _ hd => hd) fun _ _ hd => hd

/-! Sequences of calls -/

/-- A complete call of the connector to the cluster. -/
inductive Call where
  | create (spec : ContainerSpec)
  | inspectContainer (containerId : String)
  | inspect (containerId : String) (servers : List ServerConf)
  | remove (containerId : String) (force volumes : Bool)
  | files (command : Workspace.FilesCommand) (workspace : String)

/-- The world after a call whose waits are cancelled as `waits` decides. -/
def Call.leave (s : Settings) (waits : Waits) (w : World) : Call → World
  | create spec => (World.runUnder waits (Connector.create spec (.cluster s)) w).2
  | inspectContainer id => (World.runUnder waits (Connector.inspectContainer id (.cluster s)) w).2
  | inspect id servers => (World.runUnder waits (Connector.inspect id servers (.cluster s)) w).2
  | remove id force volumes =>
    (World.runUnder waits (Connector.remove id force volumes (.cluster s)) w).2
  | files command workspace =>
    (World.runUnder waits (Connector.files command workspace (.cluster s)) w).2

/-- The world after one call after the other. -/
def leaveAll (s : Settings) (calls : List (Call × Waits)) (w : World) : World :=
  calls.foldl (fun w c => c.1.leave s c.2 w) w

/-- The world has a sound cluster, and no outage strikes it. -/
structure SoundWorld (s : Settings) (w : World) : Prop where
  cluster : Sound s w.cluster
  calm : w.clusterOutages = []

variable {w : World}

theorem SoundWorld.runUnder {α : Type} {x : Operation α} (h : SoundWorld s w) (waits : Waits)
    (hx : Operation.Ensures w.engine.images Answers (fun _ => Sound s) (fun _ => Sound s) x
      w.cluster) : SoundWorld s (World.runUnder waits x w).2 := by
  obtain ⟨hs, hcalm⟩ := World.runUnder_of_ensures (fun _ => Sound s) waits h.calm hx
  exact ⟨hs, hcalm⟩

/-- Every call keeps the invariant. -/
theorem SoundWorld.leave (h : SoundWorld s w) (waits : Waits) (call : Call) :
    SoundWorld s (call.leave s waits w) := by
  cases call with
  | create spec =>
    exact h.runUnder waits ((ensures_create s spec).imp (fun _ _ hc => h.cluster.creation hc)
      fun _ _ hc => h.cluster.creation hc)
  | inspectContainer id => exact h.runUnder waits (ensures_inspectContainer_sound h.cluster id)
  | inspect id servers => exact h.runUnder waits (ensures_inspect_sound h.cluster id servers)
  | remove id =>
    exact h.runUnder waits ((ensures_remove s id).imp (fun _ _ hr => h.cluster.removal hr)
      fun _ _ hr => h.cluster.removal hr)
  | files command workspace =>
    exact h.runUnder waits (ensures_runFiles_sound h.cluster command workspace)

theorem SoundWorld.leaveAll (h : SoundWorld s w) (calls : List (Call × Waits)) :
    SoundWorld s (leaveAll s calls w) := by
  induction calls generalizing w with
  | nil => exact h
  | cons c calls ih => exact ih (h.leave c.2 c.1)

/-- A cluster without resources. -/
def bareCluster (projects : OrderedSet String) (rollout : Option Rollout)
    (jobScript : Option JobScript) (listingFailure : Option String) : State where
  projects := projects
  rollout := rollout
  jobScript := jobScript
  listingFailure := listingFailure

theorem sound_bareCluster (s : Settings) (projects : OrderedSet String) (rollout : Option Rollout)
    (jobScript : Option JobScript) (listingFailure : Option String) :
    Sound s (bareCluster projects rollout jobScript listingFailure) where
  paired _ := rfl
  service _ _ h := by cases h
  deployment _ _ h := by cases h
  pending _ h := by cases h
  settled _ _ _ h := by cases h
  owned _ _ _ h := by cases h
  identified _ _ _ h := by cases h
  route _ _ h := by cases h
  unrouted _ := rfl

/-- What holds between the resources of a cluster. -/
structure Consistent (c : State) : Prop where
  /-- Services and deployments come in pairs of one name. -/
  paired : ∀ k, k ∈ c.services.keys ↔ k ∈ c.deployments.keys
  service : ∀ k sv, c.services.get? k = some sv →
    sv.key = k ∧ sv.selector = .singleton deploymentLabel sv.name
  deployment : ∀ k d, c.deployments.get? k = some d →
    d.key = k ∧ d.selector = .singleton deploymentLabel d.name
  /-- A pod with an identity belongs to a deployment, and the identity is its first container's. -/
  identity : ∀ p ∈ c.pods.values, ∀ v, p.labels.get? identityLabel = some v →
    (∃ d, p.labels.get? deploymentLabel = some d ∧ ⟨p.project, d⟩ ∈ c.deployments.keys) ∧
    ∃ raw, p.containerIds.head? = some raw ∧ v = shortId (stripRuntimeScheme raw)
  route : ∀ r ∈ c.routes.values, ⟨r.project, r.serviceName⟩ ∈ c.services.keys

theorem Sound.consistent (h : Sound s c) : Consistent c where
  paired k := by rw [OrderedMap.mem_keys_iff, OrderedMap.mem_keys_iff, h.paired]
  service := h.service
  deployment := h.deployment
  identity p hp v hv := by
    obtain ⟨k, hk⟩ := OrderedMap.mem_values_iff.1 hp
    obtain ⟨d, raw, hd, hraw, hv⟩ := h.identified k p v hk hv
    exact ⟨⟨d, hd, OrderedMap.mem_keys_iff.2 (h.owned k p d hk hd)⟩, raw, hraw, hv⟩
  route r hr := by
    obtain ⟨k, hk⟩ := OrderedMap.mem_values_iff.1 hr
    exact OrderedMap.mem_keys_iff.2 (h.route k r hk).2.2

/-- From a cluster without resources every sequence of calls leads to a consistent cluster, whatever
comes of each call and whenever it is cancelled. -/
theorem consistent_leaveAll (s : Settings) (projects : OrderedSet String) (rollout : Option Rollout)
    (jobScript : Option JobScript) (listingFailure : Option String) (w : World)
    (calls : List (Call × Waits)) :
    Consistent (leaveAll s calls { w with
      cluster := bareCluster projects rollout jobScript listingFailure
      clusterOutages := [] }).cluster := by
  refine (SoundWorld.leaveAll ⟨?_, rfl⟩ calls).cluster.consistent
  exact sound_bareCluster s projects rollout jobScript listingFailure

end ContainerBridge.Lifecycle
