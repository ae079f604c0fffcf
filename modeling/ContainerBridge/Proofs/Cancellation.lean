import Mathlib.Data.ENat.Lattice
import ContainerBridge.Proofs.World

/-! Runs next to a cluster in memory of which the clock is followed, so that it is known which of
their waits are cut short. -/

namespace ContainerBridge

/-- A cluster, and the clock against which waits are made. -/
structure Timed where
  cluster : Cluster.State
  clock : Clock

/-- How actions are answered when `waits` decides which waits are cancelled. -/
def Timed.Answers (waits : Waits) : (a : Action) → Timed → a.Reply → Timed → Prop
  | .cluster q, t, r, t' =>
    r = (t.cluster.answer q).1 ∧ t' = { t with cluster := (t.cluster.answer q).2 }
  | .wait d, t, passed, t' =>
    passed = (waits d t.clock).1 ∧ t' = { t with clock := (waits d t.clock).2 }
  | _, t, _, t' => t' = t

section Rules

variable {waits : Waits} {t : Timed}

namespace Task

@[simp] theorem timed_cluster {q : Cluster.Request}
    {post : Except ClusterFailure q.Answer → Timed → Prop} :
    Program.Ensures (Timed.Answers waits) post (cluster q) t ↔
      post (t.cluster.answer q).1 { t with cluster := (t.cluster.answer q).2 } :=
  Program.ensures_request_of_unique fun _ _ => .rfl

@[simp] theorem timed_wait {d : Duration} {post : Bool → Timed → Prop} :
    Program.Ensures (Timed.Answers waits) post (wait d) t ↔
      post (waits d t.clock).1 { t with clock := (waits d t.clock).2 } :=
  Program.ensures_request_of_unique fun _ _ => .rfl

@[simp] theorem timed_log {e : Event} {post : Unit → Timed → Prop} :
    Program.Ensures (Timed.Answers waits) post (log e) t ↔ post () t :=
  Program.ensures_request_of_unique fun _ _ => (and_iff_right rfl).symm

end Task

namespace Operation

variable {bad : BridgeError → Timed → Prop}

@[simp] theorem timed_cluster {q : Cluster.Request} {good : q.Answer → Timed → Prop} :
    Ends (Timed.Answers waits) good bad (cluster q) t ↔
      Outcome good bad ((t.cluster.answer q).1.mapError BridgeError.cluster)
        { t with cluster := (t.cluster.answer q).2 } := by
  show Program.Ensures _ _ (Task.cluster q >>= _) t ↔ _
  rw [Program.ensures_bind, Task.timed_cluster]
  rfl

@[simp] theorem timed_log {e : Event} {good : Unit → Timed → Prop} :
    Ends (Timed.Answers waits) good bad (log e) t ↔ good () t := by
  rw [log, ends_lift, Task.timed_log]

end Operation

end Rules

namespace World

variable {w : World} {α : Type}

theorem askEngine_clock (w : World) (q : Engine.Request) : (w.askEngine q).2.clock = w.clock := by
  unfold askEngine
  split
  · rfl
  · rfl

/-- What holds of an operation whose clock is followed holds of its run in a calm world. -/
theorem runUnder_of_timed (post : Except BridgeError α → Timed → Prop) (waits : Waits)
    (hw : w.clusterOutages = []) {x : Operation α}
    (hx : Operation.Ends (Timed.Answers waits) (fun a => post (.ok a)) (fun e => post (.error e)) x
      ⟨w.cluster, w.clock⟩) :
    let res := runUnder waits x w
    post res.1 ⟨res.2.cluster, res.2.clock⟩ ∧ res.2.clusterOutages = [] := by
  have hrel : ∀ (a : Action) (v : World) (t : Timed),
      t = ⟨v.cluster, v.clock⟩ ∧ v.clusterOutages = [] →
      ∃ t', Timed.Answers waits a t (answerUnder waits a v).1 t' ∧
        t' = ⟨(answerUnder waits a v).2.cluster, (answerUnder waits a v).2.clock⟩ ∧
        (answerUnder waits a v).2.clusterOutages = [] := by
    rintro a v _ ⟨rfl, hv⟩
    cases a with
    | cluster q =>
      have hq : answerUnder waits (.cluster q) v = v.reachCluster q := askCluster_of_calm hv q
      rw [hq]
      exact ⟨_, ⟨rfl, rfl⟩, rfl, hv⟩
    | engine q =>
      obtain ⟨hc, ho⟩ := askEngine_frame v q
      exact ⟨_, rfl, congrArg₂ Timed.mk hc.symm (askEngine_clock v q).symm, ho.trans hv⟩
    | wait d => exact ⟨_, ⟨rfl, rfl⟩, rfl, hv⟩
    | log e => exact ⟨_, rfl, rfl, hv⟩
    | measure m => exact ⟨_, rfl, rfl, hv⟩
  obtain ⟨t, ⟨rfl, hcalm⟩, hpost⟩ := Program.Ensures.run hrel ⟨rfl, hw⟩ hx
  exact ⟨(outcome_iff post).1 hpost, hcalm⟩

end World

/-! Which waits are completed -/

section Waits

variable (waits : Waits) (d : Duration) (c : Clock)

/-- The clock after as many waits of one length. -/
def clockAfter (made : Nat) : Clock := (fun c => (waits d c).2)^[made] c

/-- The wait after `made` others comes to its end. -/
def Passes (made : Nat) : Prop := (waits d (clockAfter waits d c made)).1 = true

/-- Of the waits of one length that follow each other just the first `n` are completed. -/
structure Completes (n : ℕ∞) : Prop where
  passes : ∀ i : ℕ, (i : ℕ∞) < n → Passes waits d c i
  cut : ∀ i : ℕ, n = i → ¬ Passes waits d c i

variable {waits d c} {n : ℕ∞}

theorem clockAfter_succ (made : Nat) :
    clockAfter waits d c (made + 1) = (waits d (clockAfter waits d c made)).2 :=
  Function.iterate_succ_apply' ..

/-- Waits that are completed one after the other are among the first `n`. -/
theorem Completes.le_of_passes (h : Completes waits d c n) {made : Nat}
    (hp : ∀ i < made, Passes waits d c i) : (made : ℕ∞) ≤ n := by
  by_contra hlt
  have hlt := not_le.1 hlt
  obtain ⟨k, rfl⟩ := ENat.ne_top_iff_exists.1 hlt.ne_top
  exact h.cut k rfl (hp k (by exact_mod_cast hlt))

/-- The first wait that is cut short is the one after the first `n`. -/
theorem Completes.eq_of_cut (h : Completes waits d c n) {made : Nat}
    (hp : ∀ i < made, Passes waits d c i) (hc : ¬ Passes waits d c made) : n = made := by
  refine le_antisymm ?_ (h.le_of_passes hp)
  by_contra hlt
  exact hc (h.passes made (not_le.1 hlt))

theorem Completes.le {n' : ℕ∞} (h : Completes waits d c n) (h' : Completes waits d c n') :
    n ≤ n' := by
  by_contra hlt
  have hlt := not_le.1 hlt
  obtain ⟨k, rfl⟩ := ENat.ne_top_iff_exists.1 hlt.ne_top
  exact h'.cut k rfl (h.passes k hlt)

/-- A completed wait comes before those that the clock after it lets be completed. -/
theorem Completes.succ (hfirst : Passes waits d c 0) (h : Completes waits d (waits d c).2 n) :
    Completes waits d c (n + 1) := by
  constructor
  · intro i hi
    cases i with
    | zero => exact hfirst
    | succ i => exact h.passes i ((ENat.add_lt_add_iff_right ENat.one_ne_top).1 hi)
  · intro i hi
    cases i with
    | zero => simp at hi
    | succ i => exact h.cut i (ENat.add_left_injective_of_ne_top ENat.one_ne_top hi)

end Waits

namespace Clock

variable {d : Duration} {c : Clock}

/-- How many waits of a length the clock lets come to their end. -/
def waitsLeft (d : Duration) (c : Clock) : ℕ∞ :=
  match c.cancelAt with
  | none => ⊤
  | some t =>
    if t ≤ c.now then 0
    else if d.nanoseconds = 0 then ⊤
    else ((t - c.now) / d.nanoseconds : ℕ)

/-- A number of waits of a length come to their end before a cancellation. -/
def Fits (d : Duration) (c : Clock) (count : Nat) : Prop :=
  ∀ t, c.cancelAt = some t → c.now < t ∧ c.now + count * d.nanoseconds ≤ t

theorem Fits.of_le {m n : Nat} (h : c.Fits d n) (hle : m ≤ n) : c.Fits d m := by
  intro t ht
  have hmul : m * d.nanoseconds ≤ n * d.nanoseconds := Nat.mul_le_mul_right _ hle
  obtain ⟨hlt, hn⟩ := h t ht
  exact ⟨hlt, by omega⟩

theorem wait_of_fits (h : c.Fits d 1) :
    c.wait d = (true, { c with now := c.now + d.nanoseconds }) := by
  unfold wait
  cases hc : c.cancelAt with
  | none => rfl
  | some t =>
    obtain ⟨hlt, hle⟩ := h t hc
    simp only
    rw [if_neg (by omega), if_neg (by omega)]

theorem fits_of_wait (h : (c.wait d).1 = true) : c.Fits d 1 := by
  intro t ht
  unfold wait at h
  rw [ht] at h
  dsimp only at h
  split at h
  · cases h
  · split at h
    · cases h
    · omega

theorem fits_after_iff {made : Nat} :
    Fits d { c with now := c.now + made * d.nanoseconds } 1 ↔ c.Fits d (made + 1) := by
  refine forall_congr' fun t => imp_congr_right fun _ => ?_
  have hmul : (made + 1) * d.nanoseconds = made * d.nanoseconds + d.nanoseconds := Nat.succ_mul ..
  -- where waits take no time they end before the cancellation all the same
  have hzero : d.nanoseconds = 0 → made * d.nanoseconds = 0 := by
    intro hd
    rw [hd, Nat.mul_zero]
  simp only
  omega

/-- As long as no cancellation comes time passes evenly. -/
theorem clockAfter_wait {made : Nat} (h : c.Fits d made) :
    clockAfter wait d c made = { c with now := c.now + made * d.nanoseconds } := by
  induction made with
  | zero => simp [clockAfter]
  | succ made ih =>
    rw [clockAfter_succ, ih (h.of_le (Nat.le_succ made)), wait_of_fits (fits_after_iff.2 h),
      Nat.succ_mul, Nat.add_assoc]

theorem passes_wait_iff {made : Nat} (h : c.Fits d made) :
    Passes wait d c made ↔ c.Fits d (made + 1) := by
  rw [Passes, clockAfter_wait h, ← fits_after_iff]
  constructor
  · exact fits_of_wait
  · intro hnext
    rw [wait_of_fits hnext]

theorem completes_of_fits {n : ℕ∞} (h : ∀ i : ℕ, c.Fits d i ↔ (i : ℕ∞) ≤ n) :
    Completes wait d c n := by
  constructor
  · intro i hi
    have hnext : ((i + 1 : ℕ) : ℕ∞) ≤ n := Order.add_one_le_of_lt hi
    exact (passes_wait_iff ((h i).2 hi.le)).2 ((h (i + 1)).2 hnext)
  · rintro i rfl hp
    have hnext : i + 1 ≤ i := by
      exact_mod_cast (h (i + 1)).1 ((passes_wait_iff ((h i).2 le_rfl)).1 hp)
    omega

/-- A cancellation lets as many waits be completed as there is time for. -/
theorem completes_wait (d : Duration) (c : Clock) : Completes wait d c (c.waitsLeft d) := by
  unfold waitsLeft
  cases hc : c.cancelAt with
  | none => exact completes_of_fits fun i => by simp [Fits, hc]
  | some t =>
    have hfits : ∀ i, c.Fits d i ↔ c.now < t ∧ c.now + i * d.nanoseconds ≤ t := by
      intro i
      simp [Fits, hc]
    dsimp only
    by_cases hpast : t ≤ c.now
    · rw [if_pos hpast]
      refine ⟨fun i hi => (not_lt_zero hi).elim, ?_⟩
      intro i hi hp
      obtain rfl : i = 0 := by exact_mod_cast hi.symm
      have hfit := (hfits 1).1 (fits_of_wait hp)
      omega
    · rw [if_neg hpast]
      by_cases hd : d.nanoseconds = 0
      · rw [if_pos hd]
        refine completes_of_fits fun i => ?_
        rw [hfits, hd, Nat.mul_zero]
        simp
        omega
      · rw [if_neg hd]
        refine completes_of_fits fun i => ?_
        rw [hfits, Nat.cast_le, Nat.le_div_iff_mul_le (Nat.pos_of_ne_zero hd)]
        omega

theorem waitsLeft_pos_iff : 0 < c.waitsLeft d ↔ (c.wait d).1 = true := by
  constructor
  · exact (completes_wait d c).passes 0
  · intro hpass
    refine pos_iff_ne_zero.2 fun hzero => ?_
    exact (completes_wait d c).cut 0 hzero hpass

theorem waitsLeft_cancel (d : Duration) (c : Clock) : c.cancel.waitsLeft d = 0 := by
  have hpast : ∀ T, c.cancel.cancelAt = some T → T ≤ c.cancel.now := by
    intro T hT
    unfold cancel at hT ⊢
    cases hc : c.cancelAt with
    | none => simp_all
    | some T' =>
      simp_all
      omega
  unfold waitsLeft
  cases hT : c.cancel.cancelAt with
  | none => cases hT
  | some T => exact if_pos (hpast T hT)

/-- A completed wait is one of those that were left. -/
theorem waitsLeft_wait (h : 0 < c.waitsLeft d) :
    c.waitsLeft d = (c.wait d).2.waitsLeft d + 1 := by
  have hnow := completes_wait d c
  have hnext := (completes_wait d (c.wait d).2).succ (waitsLeft_pos_iff.1 h)
  exact le_antisymm (hnow.le hnext) (hnext.le hnow)

end Clock
end ContainerBridge
