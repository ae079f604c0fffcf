import ContainerBridge.Lifecycle.Discovery
import ContainerBridge.Proofs.Poll
import ContainerBridge.Proofs.Rollout
import ContainerBridge.Proofs.Selection
import ContainerBridge.Proofs.World

/-! How the search for the container of a deployment may end on a cluster kept in memory. -/

namespace ContainerBridge.Lifecycle

open Cluster Cluster.State

/-- What `n` more listings of pods make of a cluster. -/
abbrev ticks (n : Nat) (c : State) : State := State.tick^[n] c

theorem ticks_succ (n : Nat) (c : State) : ticks (n + 1) c = (ticks n c).tick :=
  Function.iterate_succ_apply' _ _ _

/-- What the listing after `n` others shows of the deployment's container. -/
def sighted (project deployment : String) (c : State) (n : Nat) : Option Discovered :=
  findContainer ((ticks (n + 1) c).podsOf project .empty) deployment

/-- How the search for a deployment's container may end on a cluster that was `c` before. -/
inductive Discovery (s : Settings) (deployment : String) (c : State) :
    Except BridgeError Discovered → State → Prop
  | unlisted {message : String} (h : c.listingFailure = some message) :
    Discovery s deployment c (.error (.cluster (.api 500 message))) c
  | found {n : Nat} {d : Discovered} {c' : State} (hn : n < s.discovery.maxAttempts.toNat)
    (hlisted : c.listingFailure = none)
    (hbefore : ∀ m < n, sighted s.project deployment c m = none)
    (hd : sighted s.project deployment c n = some d)
    (hlabel : (ticks (n + 1) c).labelPod s.project d.pod identityLabel (shortId d.containerId) =
      (.ok (), c')) :
    Discovery s deployment c (.ok d) c'
  | unlabelled {n : Nat} {d : Discovered} {e : ClusterFailure} {c' : State}
    (hd : sighted s.project deployment c n = some d)
    (hlabel : (ticks (n + 1) c).labelPod s.project d.pod identityLabel (shortId d.containerId) =
      (.error e, c')) :
    Discovery s deployment c (.error (.cluster e)) c'
  | exhausted (hbefore : ∀ m < s.discovery.maxAttempts.toNat,
      sighted s.project deployment c m = none) :
    Discovery s deployment c
      (.error (.discoveryTimeout deployment s.discovery.maxAttempts.toNat s.discovery.ceiling))
      (ticks s.discovery.maxAttempts.toNat c)
  | cancelled {n : Nat} (text : String)
    (hbefore : ∀ m < n, sighted s.project deployment c m = none) :
    Discovery s deployment c (.error (.cancelled text)) (ticks n c)

variable {images : OrderedMap String ImageInfo} {c : State}

/-- A container is found in a pod of its deployment that reports its id. -/
theorem findContainer_eq_some {pods : List Pod} {deployment : String} {d : Discovered}
    (h : findContainer pods deployment = some d) :
    ∃ p raw, p ∈ pods ∧ p.labels.get? deploymentLabel = some deployment ∧
      p.containerIds.head? = some raw ∧ d = ⟨p.name, stripRuntimeScheme raw⟩ := by
  unfold findContainer at h
  split at h
  · cases h
  · obtain ⟨p, hp, h⟩ := Option.bind_eq_some_iff.1 h
    obtain ⟨raw, hraw, h⟩ := Option.bind_eq_some_iff.1 h
    refine ⟨p, raw, List.mem_of_find?_eq_some hp, by simpa using List.find?_some hp, hraw, ?_⟩
    dsimp only at h
    split at h
    · cases h
    · exact (Option.some.inj h).symm

/-- The pod in which a container is found stands where the rollout of its deployment puts it. -/
theorem findContainer_settled {project deployment : String} {d : Discovered}
    (hs : Settled ⟨project, deployment⟩ c)
    (h : findContainer (c.podsOf project .empty) deployment = some d) :
    ∃ p raw, c.pods.get? ⟨project, podName deployment⟩ = some p ∧ p.project = project ∧
      p.labels.get? deploymentLabel = some deployment ∧ p.containerIds.head? = some raw ∧
      d = ⟨podName deployment, stripRuntimeScheme raw⟩ ∧
      c.pending.contains ⟨project, deployment⟩ = false := by
  obtain ⟨p, raw, hp, hl, hraw, rfl⟩ := findContainer_eq_some h
  obtain ⟨⟨k, hk⟩, hproject, -⟩ := mem_podsOf.1 hp
  obtain ⟨rfl, hname, hover⟩ := hs k p hk hproject hl
  exact ⟨p, raw, hk, hproject, hl, hraw, by rw [hname], hover⟩

def withLabel (key value : String) (p : Pod) : Pod := { p with labels := p.labels.insert key value }

/-- A label is put on the pod of the name, if there is one. -/
theorem labelPod_cases {project name key value : String} {c' : State}
    {r : Except ClusterFailure Unit} (h : c.labelPod project name key value = (r, c')) :
    (∃ e, r = .error e ∧ c' = c.record "label_pod" name) ∨
      ∃ pod, c.pods.get? ⟨project, name⟩ = some pod ∧ r = .ok () ∧
        c' = { c.record "label_pod" name with
          pods := c.pods.insert ⟨project, name⟩ (withLabel key value pod) } := by
  unfold labelPod at h
  dsimp only at h
  split at h
  · obtain ⟨rfl, rfl⟩ := Prod.mk.inj h
    exact .inl ⟨_, rfl, rfl⟩
  · obtain ⟨rfl, rfl⟩ := Prod.mk.inj h
    exact .inr ⟨_, by assumption, rfl, rfl⟩

theorem labelPod_of_get? {project name : String} {pod : Pod}
    (h : c.pods.get? ⟨project, name⟩ = some pod) (key value : String) :
    c.labelPod project name key value = (.ok (), { c.record "label_pod" name with
      pods := c.pods.insert ⟨project, name⟩ (withLabel key value pod) }) := by
  unfold labelPod
  dsimp only [State.record]
  rw [h]
  rfl

/-- A listing of pods fails as it is told to, or moves the rollouts on and shows the pods. -/
theorem answers_listPods {project : String} {selector : Selector} {c' : State}
    {r : Except ClusterFailure (List Pod)} (h : Answers (.listPods project selector) c r c') :
    (∃ m, c.listingFailure = some m ∧ r = .error (.api 500 m) ∧ c' = c) ∨
      (c.listingFailure = none ∧ r = .ok (c.tick.podsOf project selector) ∧ c' = c.tick) := by
  change c.listPods project selector = (r, c') at h
  unfold listPods at h
  split at h
  · obtain ⟨rfl, rfl⟩ := Prod.mk.inj h
    exact .inl ⟨_, by assumption, rfl, rfl⟩
  · obtain ⟨rfl, rfl⟩ := Prod.mk.inj h
    exact .inr ⟨by assumption, rfl, rfl⟩

/-- A probe lists the pods, and labels the one in which it finds the container. -/
theorem ensures_probe {project deployment : String}
    {post : Except ClusterFailure (Option Discovered) → State → Prop}
    (hunlisted : ∀ m, c.listingFailure = some m → post (.error (.api 500 m)) c)
    (hnone : c.listingFailure = none →
      findContainer (c.tick.podsOf project .empty) deployment = none → post (.ok none) c.tick)
    (hsome : ∀ d r c', c.listingFailure = none →
      findContainer (c.tick.podsOf project .empty) deployment = some d →
      c.tick.labelPod project d.pod identityLabel (shortId d.containerId) = (r, c') →
        post (r.map fun _ => some d) c') :
    Task.Ensures images Answers post (probe project deployment) c := by
  unfold probe
  rw [Task.Ensures, Program.ensures_bind]
  refine Task.ensures_cluster.2 fun r c₁ hr => ?_
  obtain ⟨m, hm, rfl, rfl⟩ | ⟨hm, rfl, rfl⟩ := answers_listPods hr
  · exact hunlisted m hm
  · dsimp only
    cases hd : findContainer (c.tick.podsOf project .empty) deployment with
    | none => exact hnone hm hd
    | some d =>
      rw [Program.ensures_bind]
      refine Task.ensures_cluster.2 fun r c' hl => ?_
      have hs := hsome d r c' hm hd hl
      cases r <;> exact hs

/-- What holds after `n` probes that found nothing. -/
structure Fruitless (s : Settings) (deployment : String) (c : State) (n : Nat) (c' : State) :
    Prop where
  ticked : c' = ticks n c
  before : ∀ m < n, sighted s.project deployment c m = none
  listed : 0 < n → c.listingFailure = none

theorem Fruitless.succ {s : Settings} {deployment : String} {n : Nat} {c' : State}
    (h : Fruitless s deployment c n c') (hl : c'.listingFailure = none)
    (hf : findContainer (c'.tick.podsOf s.project .empty) deployment = none) :
    Fruitless s deployment c (n + 1) c'.tick := by
  obtain ⟨rfl, hbefore, -⟩ := h
  refine ⟨(ticks_succ n c).symm, fun m hm => ?_, fun _ => ?_⟩
  · rcases Nat.lt_succ_iff_lt_or_eq.1 hm with hm | rfl
    · exact hbefore m hm
    · rwa [sighted, ticks_succ]
  · exact (left_by_ticks c n).listingFailure.symm.trans hl

theorem ensures_discover (s : Settings) (deployment : String) :
    Operation.Ensures images Answers (fun d => Discovery s deployment c (.ok d))
      (fun e => Discovery s deployment c (.error e)) (discover s deployment) c := by
  unfold discover
  rw [Operation.ensures_bind, Operation.ensures_lift]
  refine Task.ensures_poll (Fruitless s deployment c) s.discovery ⟨rfl, by simp, by simp⟩ ?_ ?_ ?_
  · intro n c' hn hf
    refine ensures_probe (fun m hm => ?_) (fun hl hnone => hf.succ hl hnone)
      fun d r c'' hm hd hl => ?_
    · cases n with
      | zero =>
        obtain rfl := hf.ticked
        exact Discovery.unlisted hm
      | succ n =>
        rw [hf.ticked, (left_by_ticks c (n + 1)).listingFailure, hf.listed (by omega)] at hm
        cases hm
    · obtain ⟨rfl, hbefore, -⟩ := hf
      rw [← ticks_succ] at hd hl
      rw [(left_by_ticks c n).listingFailure] at hm
      cases r with
      | ok _ =>
        show Operation.Ensures _ _ _ _ (do Operation.measure _; Operation.log _; pure d) _
        rw [Operation.ensures_bind, Operation.ensures_measure, Operation.ensures_bind,
          Operation.ensures_log]
        exact Discovery.found hn hm hbefore hd hl
      | error e => exact Discovery.unlabelled hd hl
  · rintro n _ hn ⟨rfl, hbefore, -⟩
    exact Discovery.cancelled _ hbefore
  · rintro _ ⟨rfl, hbefore, -⟩
    show Operation.Ensures _ _ _ _ (do Operation.log _; throw _) _
    rw [Operation.ensures_bind, Operation.ensures_log]
    exact Discovery.exhausted hbefore

section Kept

variable {σ : Type} {calls : Calls σ} {inv : σ → Prop} {t : σ} {project deployment : String}

/-- A probe keeps what its two calls keep. -/
theorem ensures_probe_of_kept
    (hlist : ∀ t r t', inv t → calls (.listPods project .empty) t r t' → inv t')
    (hlabel : ∀ name value t r t', inv t →
      calls (.labelPod project name identityLabel value) t r t' → inv t') (ht : inv t) :
    Task.Ensures images calls (fun _ => inv) (probe project deployment) t := by
  unfold probe
  rw [Task.Ensures, Program.ensures_bind]
  refine Task.ensures_cluster.2 fun r t₁ h => ?_
  have h₁ : inv t₁ := hlist t r t₁ ht h
  rcases r with e | pods
  · exact h₁
  · dsimp only
    cases findContainer pods deployment with
    | none => exact h₁
    | some d =>
      rw [Program.ensures_bind]
      refine Task.ensures_cluster.2 fun r t₂ h => ?_
      have h₂ : inv t₂ := hlabel d.pod (shortId d.containerId) t₁ r t₂ h₁ h
      cases r <;> exact h₂

/-- A search keeps what every probe keeps, however it ends. -/
theorem ensures_discover_of_kept (s : Settings)
    (hprobe : ∀ t, inv t →
      Task.Ensures images calls (fun _ => inv) (probe s.project deployment) t) (ht : inv t) :
    Operation.Ensures images calls (fun _ => inv) (fun _ => inv) (discover s deployment) t := by
  unfold discover
  rw [Operation.ensures_bind, Operation.ensures_lift]
  refine Task.ensures_poll (fun _ => inv) s.discovery ht ?_ ?_ ?_
  · intro n t' _ ht'
    refine (hprobe t' ht').imp fun r t'' ht'' => ?_
    rcases r with e | (_ | d)
    · exact ht''
    · exact ht''
    · show Operation.Ensures _ _ _ _ (do Operation.measure _; Operation.log _; pure d) _
      rw [Operation.ensures_bind, Operation.ensures_measure, Operation.ensures_bind,
        Operation.ensures_log]
      exact ht''
  · exact fun _ _ _ ht' => ht'
  · intro t' ht'
    show Operation.Ensures _ _ _ _ (do Operation.log _; throw _) _
    rw [Operation.ensures_bind, Operation.ensures_log]
    exact ht'

end Kept

end ContainerBridge.Lifecycle
