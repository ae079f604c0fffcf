import ContainerBridge.Proofs.OrderedMap
import ContainerBridge.Cluster.State
import Mathlib.Logic.Function.Iterate

/-! Rollouts in a cluster kept in memory. A listing of pods moves every pending rollout one step on,
and each of them touches only the pods that bear its own names. -/

namespace ContainerBridge.Cluster.State

variable {r : Rollout} {s : State} {k k' : Key} {p : Pod} {P : State → Prop}

/-! Names -/

theorem podName_inj {a b : String} : podName a = podName b ↔ a = b := by
  simp [podName, controllerName, String.append_left_inj]

theorem deployerName_ne_podName (a b : String) : deployerName a ≠ podName b := by
  intro h
  have hl := congrArg (fun s => s.toList.getLast?) h
  simp [deployerName, podName] at hl

theorem podKey_eq_iff : (rolledOutPod r k).key = (rolledOutPod r k').key ↔ k = k' := by
  cases k
  cases k'
  simp [rolledOutPod, Pod.key, podName_inj]

theorem deployerKey_ne_podKey (r : Rollout) (k k' : Key) :
    (deployerPod k).key ≠ (rolledOutPod r k').key := by
  intro h
  exact deployerName_ne_podName k.name k'.name (congrArg Key.name h)

@[simp] theorem deployerPod_deployment (k : Key) :
    (deployerPod k).labels.get? deploymentLabel = none := by
  rw [deployerPod, OrderedMap.singleton, OrderedMap.get?_insert_of_ne _ _ (by decide)]
  rfl

@[simp] theorem deployerPod_identity (k : Key) :
    (deployerPod k).labels.get? identityLabel = none := by
  rw [deployerPod, OrderedMap.singleton, OrderedMap.get?_insert_of_ne _ _ (by decide)]
  rfl

theorem rolledOutPod_labels (r : Rollout) (k : Key) :
    (rolledOutPod r k).labels = (OrderedMap.empty.insert deploymentLabel k.name).insert
      controllerLabel (controllerName k.name) := rfl

@[simp] theorem rolledOutPod_deployment (r : Rollout) (k : Key) :
    (rolledOutPod r k).labels.get? deploymentLabel = some k.name := by
  rw [rolledOutPod_labels, OrderedMap.get?_insert_of_ne _ _ (by decide)]
  exact OrderedMap.get?_insert_self ..

@[simp] theorem rolledOutPod_controller (r : Rollout) (k : Key) :
    (rolledOutPod r k).labels.get? controllerLabel = some (controllerName k.name) :=
  OrderedMap.get?_insert_self ..

@[simp] theorem rolledOutPod_identity (r : Rollout) (k : Key) :
    (rolledOutPod r k).labels.get? identityLabel = none := by
  rw [rolledOutPod_labels, OrderedMap.get?_insert_of_ne _ _ (by decide),
    OrderedMap.get?_insert_of_ne _ _ (by decide)]
  rfl

/-! One rollout -/

theorem advance_of_lt (h : (s.pending.get? k).getD 0 < r.deployerPolls) :
    advance r s k = { s with
      pending := s.pending.insert k ((s.pending.get? k).getD 0 + 1)
      pods := s.pods.insert (deployerPod k).key (deployerPod k) } :=
  if_pos h

theorem advance_of_le (h : r.deployerPolls ≤ (s.pending.get? k).getD 0) :
    advance r s k = { s with
      pending := s.pending.erase k
      replicationControllers := s.replicationControllers.add ⟨k.project, controllerName k.name⟩
      pods := (s.pods.erase (deployerPod k).key).insert (rolledOutPod r k).key
        (rolledOutPod r k) } :=
  if_neg (Nat.not_lt.2 h)

/-- What one more listing does to a rollout: its deployer is at work, or its pod is there. -/
theorem advance_cases (r : Rollout) (s : State) (k : Key) :
    (∃ polls, advance r s k = { s with
      pending := s.pending.insert k polls
      pods := s.pods.insert (deployerPod k).key (deployerPod k) }) ∨
    advance r s k = { s with
      pending := s.pending.erase k
      replicationControllers := s.replicationControllers.add ⟨k.project, controllerName k.name⟩
      pods := (s.pods.erase (deployerPod k).key).insert (rolledOutPod r k).key
        (rolledOutPod r k) } := by
  by_cases h : (s.pending.get? k).getD 0 < r.deployerPolls
  · exact .inl ⟨_, advance_of_lt h⟩
  · exact .inr (advance_of_le (Nat.le_of_not_lt h))

theorem advance_pending_of_ne (h : k' ≠ k) :
    (advance r s k).pending.contains k' = s.pending.contains k' := by
  obtain ⟨polls, he⟩ | he := advance_cases r s k
  · simp [he, OrderedMap.contains_insert, h]
  · simp [he, OrderedMap.contains_erase, h]

/-- A pod that bears no name of the rollout stays as it is. -/
theorem advance_pods_of_ne (hd : k' ≠ (deployerPod k).key) (hp : k' ≠ (rolledOutPod r k).key) :
    (advance r s k).pods.get? k' = s.pods.get? k' := by
  obtain ⟨polls, he⟩ | he := advance_cases r s k
  · simp [he, OrderedMap.get?_insert, hd]
  · simp [he, OrderedMap.get?_insert, OrderedMap.get?_erase, hd, hp]

/-- Where the pods come from that are there after one more listing. -/
theorem advance_pods (h : (advance r s k).pods.get? k' = some p) :
    s.pods.get? k' = some p ∨ (k' = (deployerPod k).key ∧ p = deployerPod k) ∨
      (k' = (rolledOutPod r k).key ∧ p = rolledOutPod r k ∧
        (advance r s k).pending.contains k = false) := by
  obtain ⟨polls, he⟩ | he := advance_cases r s k
  · rw [he] at h
    rcases OrderedMap.get?_insert_cases h with hnew | hold
    · exact .inr (.inl hnew)
    · exact .inl hold
  · rw [he] at h
    rcases OrderedMap.get?_insert_cases h with ⟨hk, hp⟩ | hold
    · exact .inr (.inr ⟨hk, hp, by simp [he, OrderedMap.contains_erase]⟩)
    · exact .inl (OrderedMap.get?_of_get?_erase hold).2

/-- A pod with an identity that is there after one more listing was there before. -/
theorem advance_identity {v : String} (h : (advance r s k).pods.get? k' = some p)
    (hv : p.labels.get? identityLabel = some v) : s.pods.get? k' = some p := by
  rcases advance_pods h with hold | ⟨-, rfl⟩ | ⟨-, rfl, -⟩
  · exact hold
  · simp at hv
  · simp at hv

/-! All rollouts -/

theorem foldl_advance_induction {ks : List Key} (hn : ks.Nodup)
    (hks : ∀ k ∈ ks, s.pending.contains k = true) (hs : P s)
    (hstep : ∀ s' k, s'.pending.contains k = true → P s' → P (advance r s' k)) :
    P (ks.foldl (advance r) s) := by
  induction ks generalizing s with
  | nil => exact hs
  | cons k ks ih =>
    refine ih hn.of_cons (fun k' hk' => ?_) (hstep s k (hks k (by simp)) hs)
    have hne : k' ≠ k := by
      rintro rfl
      exact (List.nodup_cons.1 hn).1 hk'
    rw [advance_pending_of_ne hne]
    exact hks k' (List.mem_cons_of_mem _ hk')

/-- What every step of a pending rollout keeps, a listing keeps. -/
theorem tick_induction (hs : P s)
    (hstep : ∀ r s' k, s'.pending.contains k = true → P s' → P (advance r s' k)) : P s.tick := by
  unfold tick
  split
  · exact hs
  · refine foldl_advance_induction ?_ (fun k hk => OrderedMap.mem_keys_iff.1 hk) hs (hstep _)
    rw [OrderedMap.keys, List.Nodup, List.pairwise_map]
    refine s.pending.ascending.imp ?_
    rintro a b h he
    exact KeyOrder.irrefl a.1 (he ▸ h)

theorem ticks_induction (hs : P s)
    (hstep : ∀ r s' k, s'.pending.contains k = true → P s' → P (advance r s' k)) (n : Nat) :
    P (State.tick^[n] s) := by
  induction n with
  | zero => exact hs
  | succ n ih =>
    rw [Function.iterate_succ_apply']
    exact tick_induction ih hstep

theorem ticks_identity {n : Nat} {v : String} (h : (State.tick^[n] s).pods.get? k = some p)
    (hv : p.labels.get? identityLabel = some v) : s.pods.get? k = some p := by
  refine ticks_induction (P := fun s' => s'.pods.get? k = some p → s.pods.get? k = some p) id ?_ n h
  intro r s' k' _ hs hp
  exact hs (advance_identity hp hv)

/-- The second state has what a listing of pods leaves as it is from the first. -/
structure LeftByListing (s s' : State) : Prop where
  projects : s'.projects = s.projects
  services : s'.services = s.services
  deployments : s'.deployments = s.deployments
  routes : s'.routes = s.routes
  jobs : s'.jobs = s.jobs
  rollout : s'.rollout = s.rollout
  listingFailure : s'.listingFailure = s.listingFailure
  nextNodePort : s'.nextNodePort = s.nextNodePort
  calls : s'.calls = s.calls

theorem LeftByListing.refl (s : State) : LeftByListing s s :=
  ⟨rfl, rfl, rfl, rfl, rfl, rfl, rfl, rfl, rfl⟩

theorem LeftByListing.advance {s₀ : State} (h : LeftByListing s₀ s) (r : Rollout) (k : Key) :
    LeftByListing s₀ (advance r s k) := by
  obtain ⟨polls, he⟩ | he := advance_cases r s k
  · rw [he]
    exact { h with }
  · rw [he]
    exact { h with }

theorem LeftByListing.tick {s₀ : State} (h : LeftByListing s₀ s) : LeftByListing s₀ s.tick :=
  tick_induction h fun r _ k _ hs => hs.advance r k

theorem left_by_ticks (s : State) (n : Nat) : LeftByListing s (State.tick^[n] s) :=
  ticks_induction (.refl s) (fun r _ k _ hs => hs.advance r k) n

/-- Without pending rollouts a listing changes nothing. -/
theorem tick_of_no_pending (h : s.pending = .empty) : s.tick = s := by
  unfold tick
  split
  · rfl
  · rw [h]
    rfl

/-! A rollout that no other is pending with -/

/-- The cluster with one pending rollout, listed `polls` times. -/
def waiting (k : Key) (polls : Nat) (b : State) : State := { b with pending := .singleton k polls }

/-- The cluster with one pending rollout, whose deployer is at work. -/
def deploying (k : Key) (polls : Nat) (b : State) : State :=
  { b with
    pending := .singleton k polls
    pods := b.pods.insert (deployerPod k).key (deployerPod k) }

/-- The cluster with the pod that a rollout brought about. -/
def rolledOut (r : Rollout) (k : Key) (b : State) : State :=
  { b with
    pending := .empty
    replicationControllers := b.replicationControllers.add ⟨k.project, controllerName k.name⟩
    pods := b.pods.insert (rolledOutPod r k).key (rolledOutPod r k) }

/-- How far the rollout of `k` has come, when it started in `b` with no other pending. -/
inductive Alone (r : Rollout) (k : Key) (b : State) : State → Prop
  | waiting (polls : Nat) : Alone r k b (waiting k polls b)
  | deploying (polls : Nat) : Alone r k b (deploying k polls b)
  | rolledOut : Alone r k b (rolledOut r k b)

variable {b : State}

theorem tick_of_pending_singleton {polls : Nat} (hr : s.rollout = some r)
    (hp : s.pending = .singleton k polls) : s.tick = advance r s k := by
  unfold tick
  rw [hr]
  show s.pending.keys.foldl (advance r) s = _
  rw [hp]
  rfl

theorem waiting_eq {polls : Nat} (h : b.pending = .singleton k polls) :
    State.waiting k polls b = b := by
  rw [State.waiting, ← h]

/-- What a listing does to a rollout that was listed `n` times: the deployer starts, or the rollout
is over at once. -/
theorem tick_waiting (hr : b.rollout = some r) (hd : b.pods.get? (deployerPod k).key = none)
    (n : Nat) : (State.waiting k n b).tick =
      if n < r.deployerPolls then State.deploying k (n + 1) b else State.rolledOut r k b := by
  have hpolls : ((State.waiting k n b).pending.get? k).getD 0 = n := by
    rw [State.waiting, OrderedMap.singleton, OrderedMap.get?_insert_self, Option.getD_some]
  rw [tick_of_pending_singleton (s := State.waiting k n b) hr rfl]
  by_cases h : n < r.deployerPolls
  · rw [if_pos h, advance_of_lt (by rw [hpolls]; exact h), hpolls, State.waiting,
      OrderedMap.singleton, OrderedMap.insert_insert]
    rfl
  · rw [if_neg h, advance_of_le (by rw [hpolls]; exact Nat.le_of_not_lt h), State.waiting,
      OrderedMap.singleton, OrderedMap.erase_insert rfl, OrderedMap.erase_of_get?_none hd]
    rfl

/-- The deployer goes on, or gives way to the pod. -/
theorem tick_deploying (hr : b.rollout = some r) (hd : b.pods.get? (deployerPod k).key = none)
    (n : Nat) : (State.deploying k n b).tick =
      if n < r.deployerPolls then State.deploying k (n + 1) b else State.rolledOut r k b := by
  have hpolls : ((State.deploying k n b).pending.get? k).getD 0 = n := by
    rw [State.deploying, OrderedMap.singleton, OrderedMap.get?_insert_self, Option.getD_some]
  rw [tick_of_pending_singleton (s := State.deploying k n b) hr rfl]
  by_cases h : n < r.deployerPolls
  · rw [if_pos h, advance_of_lt (by rw [hpolls]; exact h), hpolls, State.deploying,
      OrderedMap.singleton, OrderedMap.insert_insert, OrderedMap.insert_insert]
    rfl
  · rw [if_neg h, advance_of_le (by rw [hpolls]; exact Nat.le_of_not_lt h), State.deploying,
      OrderedMap.singleton, OrderedMap.erase_insert hd, OrderedMap.erase_insert rfl]
    rfl

theorem Alone.of_pending {polls : Nat} (h : b.pending = .singleton k polls) : Alone r k b b := by
  have ha : Alone r k b (State.waiting k polls b) := .waiting polls
  rwa [waiting_eq h] at ha

theorem Alone.tick (hr : b.rollout = some r) (hd : b.pods.get? (deployerPod k).key = none)
    (h : Alone r k b s) : Alone r k b s.tick := by
  cases h with
  | waiting n =>
    rw [tick_waiting hr hd]
    split
    · exact .deploying (n + 1)
    · exact .rolledOut
  | deploying n =>
    rw [tick_deploying hr hd]
    split
    · exact .deploying (n + 1)
    · exact .rolledOut
  | rolledOut =>
    rw [tick_of_no_pending rfl]
    exact .rolledOut

theorem Alone.ticks (hr : b.rollout = some r) (hd : b.pods.get? (deployerPod k).key = none)
    (h : Alone r k b s) (n : Nat) : Alone r k b (State.tick^[n] s) := by
  induction n with
  | zero => exact h
  | succ n ih =>
    rw [Function.iterate_succ_apply']
    exact ih.tick hr hd

/-- How far a rollout has come after `n + 1` listings: its deployer is shown by as many listings as
the rollout takes, and its pod by the next one and from then on. -/
theorem ticks_of_lone (hr : b.rollout = some r) (hp : b.pending = .singleton k 0)
    (hd : b.pods.get? (deployerPod k).key = none) (n : Nat) : State.tick^[n + 1] b =
      if n < r.deployerPolls then State.deploying k (n + 1) b else State.rolledOut r k b := by
  induction n with
  | zero =>
    have hstart := tick_waiting hr hd 0
    rw [waiting_eq hp] at hstart
    exact hstart
  | succ n ih =>
    rw [Function.iterate_succ_apply', ih]
    by_cases hn : n < r.deployerPolls
    · rw [if_pos hn, tick_deploying hr hd]
    · have h : ¬ n + 1 < r.deployerPolls := by omega
      rw [if_neg hn, if_neg h]
      exact tick_of_no_pending rfl

/-- A new pod of the deployment is there only when its rollout is over. -/
theorem Alone.eq_rolledOut (h : Alone r k b s) (hs : s.pods.get? k' = some p)
    (hb : b.pods.get? k' ≠ some p) (hl : p.labels.get? deploymentLabel = some k.name) :
    s = State.rolledOut r k b := by
  cases h with
  | waiting n => exact (hb hs).elim
  | deploying n =>
    rcases OrderedMap.get?_insert_cases hs with ⟨-, rfl⟩ | hold
    · simp at hl
    · exact (hb hold).elim
  | rolledOut => rfl

/-! The pods of a deployment -/

/-- Every pod labelled for the deployment stands where its rollout puts it, and the rollout is
over. -/
def Settled (k : Key) (s : State) : Prop :=
  ∀ k' p, s.pods.get? k' = some p → p.project = k.project →
    p.labels.get? deploymentLabel = some k.name →
      k' = ⟨k.project, podName k.name⟩ ∧ p.name = podName k.name ∧ s.pending.contains k = false

theorem Settled.advance (h : Settled k s) (hk' : s.pending.contains k' = true) :
    Settled k (advance r s k') := by
  intro k'' p hp hproject hname
  rcases advance_pods hp with hp | ⟨-, rfl⟩ | ⟨rfl, rfl, hpending⟩
  · obtain ⟨hk'', hn, hpending⟩ := h k'' p hp hproject hname
    have hne : k ≠ k' := by
      rintro rfl
      simp [hpending] at hk'
    exact ⟨hk'', hn, by rw [advance_pending_of_ne hne, hpending]⟩
  · simp at hname
  · have hn : k'.name = k.name := by simpa using hname
    obtain rfl : k' = k := congrArg₂ Key.mk hproject hn
    exact ⟨rfl, rfl, hpending⟩

/-- A pod may be exchanged for one that differs in other labels. -/
theorem Settled.replaced {p' : Pod} (h : Settled k s) (hp : s.pods.get? k' = some p)
    (hproject : p'.project = p.project) (hname : p'.name = p.name)
    (hl : p'.labels.get? deploymentLabel = p.labels.get? deploymentLabel) :
    Settled k { s with pods := s.pods.insert k' p' } := by
  intro k'' q hq hqp hql
  rcases OrderedMap.get?_insert_cases hq with ⟨rfl, rfl⟩ | hold
  · rw [hproject] at hqp
    rw [hl] at hql
    rw [hname]
    exact h _ p hp hqp hql
  · exact h k'' q hold hqp hql

theorem Settled.ticks (h : Settled k s) (n : Nat) : Settled k (State.tick^[n] s) :=
  ticks_induction h (fun _ _ _ hk' hs => hs.advance hk') n

end ContainerBridge.Cluster.State
