import ContainerBridge.Proofs.Cancellation

/-! How polls end. The first result that is a value or an error ends a poll if it is reached; else
the poll runs out of attempts or is cancelled. -/

namespace ContainerBridge.PollTrial

variable {ε α : Type} {d : Duration} {t : PollTrial ε α} {results : List (Except ε (Option α))}
variable {made left i n : Nat}

/-- How many waits are made up to the probe during which the trial is cancelled. -/
def waitsToCancellation (t : PollTrial ε α) : ℕ∞ :=
  match t.cancelOn with
  | none => ⊤
  | some k => if k ≤ t.probes then ⊤ else (k - t.probes : ℕ)

/-- How many waits of a length are completed before the trial is cancelled, be it at a time or
during a probe. -/
noncomputable def waitsLeft (d : Duration) (t : PollTrial ε α) : ℕ∞ :=
  min (t.clock.waitsLeft d) t.waitsToCancellation

/-- The `k`-th of the results is the first that is a value or an error, namely `r`. -/
def FirstEnding (results : List (Except ε (Option α))) (k : Nat) (r : Except ε α) : Prop :=
  ∃ before after, results = before ++ r.map some :: after ∧ before.length + 1 = k ∧
    ∀ x ∈ before, x = .ok none

/-- How a poll of at most `n` attempts ends when `w` waits are completed before it is cancelled. -/
structure Ending (d : Duration) (n : Nat) (w : ℕ∞) (results : List (Except ε (Option α)))
    (res : Except (PollStop ε) (Polled α)) (probes : Nat) : Prop where
  value : ∀ k a, FirstEnding results k (.ok a) → (k : ℕ∞) ≤ min (n : ℕ∞) w →
    res = .ok ⟨a, k⟩ ∧ probes = k
  error : ∀ k e, FirstEnding results k (.error e) → (k : ℕ∞) ≤ min (n : ℕ∞) w →
    res = .error (.failed e) ∧ probes = k
  exhausted : (∀ k r, FirstEnding results k r → ¬ (k : ℕ∞) ≤ min (n : ℕ∞) w) → (n : ℕ∞) ≤ w →
    ∃ waited : Duration, res = .error (.exhausted n waited) ∧
      waited.nanoseconds = min (n * d.nanoseconds) Duration.greatest.nanoseconds ∧ probes = n
  cancelled : (∀ k r, FirstEnding results k r → ¬ (k : ℕ∞) ≤ min (n : ℕ∞) w) →
    ∀ made : ℕ, w = made → made < n → res = .error (.cancelled made) ∧ probes = made

/-! One attempt -/

/-- The trial after a completed wait and a probe. -/
def attempt (d : Duration) (t : PollTrial ε α) : PollTrial ε α where
  clock :=
    if t.cancelOn = some (t.probes + 1) then (t.clock.wait d).2.cancel else (t.clock.wait d).2
  probes := t.probes + 1
  results := t.results.tail
  cancelOn := t.cancelOn

theorem probe_wait (d : Duration) (t : PollTrial ε α) :
    probe (wait d t).2 = (t.results.head?.getD (.ok none), t.attempt d) := by
  unfold probe attempt
  cases h : t.results <;> simp [wait, h]

theorem waitsToCancellation_pos (t : PollTrial ε α) : 0 < t.waitsToCancellation := by
  unfold waitsToCancellation
  cases t.cancelOn with
  | none => exact ENat.top_pos
  | some k =>
    dsimp only
    split
    · exact ENat.top_pos
    · exact_mod_cast (by omega : 0 < k - t.probes)

theorem waitsLeft_pos_iff : 0 < t.waitsLeft d ↔ (t.clock.wait d).1 = true := by
  rw [waitsLeft, lt_min_iff, Clock.waitsLeft_pos_iff]
  exact and_iff_left t.waitsToCancellation_pos

/-- A probe that is not the one of the cancellation leaves that one a wait nearer. -/
theorem waitsToCancellation_attempt (h : t.cancelOn ≠ some (t.probes + 1)) :
    t.waitsToCancellation = (t.attempt d).waitsToCancellation + 1 := by
  unfold waitsToCancellation
  have hon : (t.attempt d).cancelOn = t.cancelOn := rfl
  have hprobes : (t.attempt d).probes = t.probes + 1 := rfl
  rw [hon, hprobes]
  cases hk : t.cancelOn with
  | none => rfl
  | some k =>
    have hne : k ≠ t.probes + 1 := by
      rintro rfl
      exact h hk
    dsimp only
    by_cases hle : k ≤ t.probes
    · rw [if_pos hle, if_pos (by omega)]
      rfl
    · rw [if_neg hle, if_neg (by omega)]
      exact_mod_cast (by omega : k - t.probes = k - (t.probes + 1) + 1)

/-- An attempt takes one of the waits that were left. -/
theorem waitsLeft_attempt (h : 0 < t.waitsLeft d) :
    t.waitsLeft d = (t.attempt d).waitsLeft d + 1 := by
  have hclock : 0 < t.clock.waitsLeft d := Clock.waitsLeft_pos_iff.2 (waitsLeft_pos_iff.1 h)
  by_cases hon : t.cancelOn = some (t.probes + 1)
  · -- no wait is completed after the probe of the cancellation
    have hlast : t.waitsToCancellation = 1 := by
      simp [waitsToCancellation, hon]
    have hover : (t.attempt d).clock.waitsLeft d = 0 := by
      have hclock' : (t.attempt d).clock = (t.clock.wait d).2.cancel := if_pos hon
      rw [hclock', Clock.waitsLeft_cancel]
    have hnow : t.waitsLeft d = 1 := by
      rw [waitsLeft, hlast]
      exact min_eq_right (Order.one_le_iff_pos.2 hclock)
    have hnext : (t.attempt d).waitsLeft d = 0 := by
      rw [waitsLeft, hover]
      exact min_eq_left zero_le
    rw [hnow, hnext, zero_add]
  · have hnext : (t.attempt d).clock = (t.clock.wait d).2 := if_neg hon
    rw [waitsLeft, waitsLeft, hnext, Clock.waitsLeft_wait hclock,
      waitsToCancellation_attempt hon, min_add_add_right]

theorem pollFrom_of_pass (h : 0 < t.waitsLeft d) :
    pollFrom d (wait d) probe made (left + 1) t =
      match t.results.head?.getD (.ok none) with
      | .error e => (.error (.failed e), t.attempt d)
      | .ok (some a) => (.ok ⟨a, made + 1⟩, t.attempt d)
      | .ok none => pollFrom d (wait d) probe (made + 1) left (t.attempt d) := by
  have hpass : (wait d t).1 = true := waitsLeft_pos_iff.1 h
  rw [pollFrom]
  show (if (wait d t).1 then _ else _ : StateM (PollTrial ε α) _) (wait d t).2 = _
  rw [if_pos hpass]
  show (match (probe (wait d t).2).1 with
    | .error e => _
    | .ok (some a) => _
    | .ok none => _ : StateM (PollTrial ε α) _) (probe (wait d t).2).2 = _
  rw [probe_wait]
  rcases t.results.head?.getD (.ok none) with e | (_ | a) <;> rfl

theorem pollFrom_of_cut (h : t.waitsLeft d = 0) :
    pollFrom d (wait d) probe made (left + 1) t = (.error (.cancelled made), (wait d t).2) := by
  have hcut : (wait d t).1 = false := by
    refine Bool.eq_false_iff.2 fun hpass => ?_
    exact (waitsLeft_pos_iff.2 hpass).ne' h
  rw [pollFrom]
  show (if (wait d t).1 then _ else _ : StateM (PollTrial ε α) _) (wait d t).2 = _
  rw [hcut]
  rfl

/-! Attempts in vain -/

theorem results_attempts (i : Nat) (t : PollTrial ε α) :
    ((attempt d)^[i] t).results = t.results.drop i := by
  induction i with
  | zero => rfl
  | succ i ih =>
    rw [Function.iterate_succ_apply']
    show ((attempt d)^[i] t).results.tail = _
    rw [ih, List.tail_drop]

theorem probes_attempts (i : Nat) (t : PollTrial ε α) :
    ((attempt d)^[i] t).probes = t.probes + i := by
  induction i with
  | zero => rfl
  | succ i ih =>
    rw [Function.iterate_succ_apply']
    show ((attempt d)^[i] t).probes + 1 = _
    rw [ih]
    omega

theorem waitsLeft_attempts (h : (i : ℕ∞) ≤ t.waitsLeft d) :
    t.waitsLeft d = ((attempt d)^[i] t).waitsLeft d + i := by
  induction i with
  | zero => simp
  | succ i ih =>
    have hlt : (i : ℕ∞) < t.waitsLeft d := lt_of_lt_of_le (by exact_mod_cast Nat.lt_succ_self i) h
    have hi := ih hlt.le
    have hpos : 0 < ((attempt d)^[i] t).waitsLeft d := pos_of_lt_add_left (hi ▸ hlt)
    rw [hi, waitsLeft_attempt hpos, Function.iterate_succ_apply', Nat.cast_succ, add_assoc,
      add_comm 1 (i : ℕ∞)]

/-- A poll goes on after attempts that neither found a value nor failed. -/
theorem pollFrom_in_vain (hw : (i : ℕ∞) ≤ t.waitsLeft d)
    (hvain : ∀ r ∈ t.results.take i, r = .ok none) :
    pollFrom d (wait d) probe made (i + left) t =
      pollFrom d (wait d) probe (made + i) left ((attempt d)^[i] t) := by
  induction i generalizing made t with
  | zero => rw [Nat.zero_add]; rfl
  | succ i ih =>
    have hpos : 0 < t.waitsLeft d := lt_of_lt_of_le (by simp) hw
    have hhead : t.results.head?.getD (.ok none) = .ok none := by
      cases hr : t.results with
      | nil => rfl
      | cons r rest => exact hvain r (by simp [hr])
    have hw' : (i : ℕ∞) ≤ (t.attempt d).waitsLeft d := by
      rw [waitsLeft_attempt hpos, Nat.cast_succ] at hw
      exact (ENat.add_le_add_iff_right ENat.one_ne_top).1 hw
    have hvain' : ∀ r ∈ (t.attempt d).results.take i, r = .ok none := by
      intro r hr
      refine hvain r ?_
      have htail : r ∈ t.results.tail.take i := hr
      cases hres : t.results with
      | nil => simp [hres] at htail
      | cons x rest =>
        rw [hres] at htail
        exact List.mem_cons_of_mem x htail
    rw [Nat.add_right_comm, pollFrom_of_pass hpos, hhead]
    show pollFrom d (wait d) probe (made + 1) (i + left) (t.attempt d) = _
    rw [ih hw' hvain', Function.iterate_succ_apply, Nat.add_assoc, Nat.add_comm 1 i]

/-! The end of a poll -/

/-- Of results that do not all leave a poll going on one is the first to end it. -/
theorem exists_firstEnding {m : Nat} (h : ∃ x ∈ results.take m, x ≠ .ok none) :
    ∃ k r, FirstEnding results k r ∧ k ≤ m := by
  induction results generalizing m with
  | nil => simp at h
  | cons x rest ih =>
    cases m with
    | zero => simp at h
    | succ m =>
      rcases x with e | (_ | a)
      · exact ⟨1, .error e, ⟨[], rest, rfl, rfl, by simp⟩, by omega⟩
      · have hrest : ∃ x ∈ rest.take m, x ≠ .ok none := by simpa using h
        obtain ⟨k, r, ⟨before, after, hres, hk, hbefore⟩, hle⟩ := ih hrest
        refine ⟨k + 1, r, ⟨.ok none :: before, after, by simp [hres], by simp [hk], ?_⟩, by omega⟩
        exact List.forall_mem_cons.2 ⟨rfl, hbefore⟩
      · exact ⟨1, .ok a, ⟨[], rest, rfl, rfl, by simp⟩, by omega⟩

theorem in_vain_of_no_ending {m : Nat} (h : ∀ k r, FirstEnding results k r → ¬ k ≤ m) :
    ∀ x ∈ results.take m, x = .ok none := by
  intro x hx
  by_contra hne
  obtain ⟨k, r, hfirst, hle⟩ := exists_firstEnding ⟨x, hx, hne⟩
  exact h k r hfirst hle

/-- A poll that reaches the first result that ends it ends there. -/
theorem pollEvery_of_reached {k : Nat} {r : Except ε α} (h : FirstEnding t.results k r)
    (hk : (k : ℕ∞) ≤ min (n : ℕ∞) (t.waitsLeft d)) :
    t.pollEvery d n = match r with
      | .error e => (.error (.failed e), (attempt d)^[k] t)
      | .ok a => (.ok ⟨a, k⟩, (attempt d)^[k] t) := by
  obtain ⟨before, after, hres, rfl, hbefore⟩ := h
  obtain ⟨hn, hw⟩ := le_min_iff.1 hk
  obtain ⟨left, rfl⟩ : ∃ left, n = before.length + (left + 1) := by
    have hle : before.length + 1 ≤ n := by exact_mod_cast hn
    exact ⟨n - (before.length + 1), by omega⟩
  have hlt : (before.length : ℕ∞) < t.waitsLeft d :=
    lt_of_lt_of_le (by exact_mod_cast Nat.lt_succ_self before.length) hw
  have hpos : 0 < ((attempt d)^[before.length] t).waitsLeft d :=
    pos_of_lt_add_left (waitsLeft_attempts hlt.le ▸ hlt)
  have hhead : ((attempt d)^[before.length] t).results.head?.getD (.ok none) =
      r.map some := by
    rw [results_attempts, hres, List.drop_left]
    rfl
  have hvain : ∀ x ∈ t.results.take before.length, x = .ok none := by
    rw [hres, List.take_left]
    exact hbefore
  unfold pollEvery
  rw [pollFrom_in_vain hlt.le hvain, pollFrom_of_pass hpos, hhead, Nat.zero_add,
    ← Function.iterate_succ_apply' (attempt d)]
  cases r <;> rfl

/-- A poll without a result that ends it makes all its attempts where enough waits are completed. -/
theorem pollEvery_of_vain (hw : (n : ℕ∞) ≤ t.waitsLeft d)
    (hvain : ∀ x ∈ t.results.take n, x = .ok none) :
    t.pollEvery d n = (.error (.exhausted n (d.repeated n)), (attempt d)^[n] t) := by
  have hall : pollFrom d (wait d) probe 0 (n + 0) t =
      pollFrom d (wait d) probe (0 + n) 0 ((attempt d)^[n] t) := pollFrom_in_vain hw hvain
  rw [Nat.add_zero, Nat.zero_add] at hall
  exact hall

/-- A poll is cancelled after the last wait that is completed. -/
theorem pollEvery_of_cut (hw : t.waitsLeft d = made) (hmade : made < n)
    (hvain : ∀ x ∈ t.results.take made, x = .ok none) :
    (t.pollEvery d n).1 = .error (.cancelled made) ∧
      (t.pollEvery d n).2.probes = t.probes + made := by
  obtain ⟨left, rfl⟩ : ∃ left, n = made + (left + 1) := ⟨n - (made + 1), by omega⟩
  have hover : ((attempt d)^[made] t).waitsLeft d = 0 := by
    have hsum := waitsLeft_attempts hw.ge
    rw [hw] at hsum
    exact (ENat.add_left_injective_of_ne_top (ENat.natCast_ne_top made) (by simpa using hsum)).symm
  unfold pollEvery
  rw [pollFrom_in_vain hw.ge hvain, pollFrom_of_cut hover, Nat.zero_add]
  exact ⟨rfl, probes_attempts made t⟩

/-- From its beginning a poll ends with the first result that is a value or an error if its attempts
and the waits before a cancellation suffice to reach it. Else it makes all its attempts if the waits
suffice for them, and is cancelled after those waits if not. -/
theorem ending_pollEvery (d : Duration) (n : Nat) (clock : Clock)
    (results : List (Except ε (Option α))) (cancelOn : Option Nat) :
    let t : PollTrial ε α := { clock, results, cancelOn }
    Ending d n (t.waitsLeft d) results (t.pollEvery d n).1 (t.pollEvery d n).2.probes := by
  intro t
  have hprobes : ∀ k, ((attempt d)^[k] t).probes = k := by
    intro k
    rw [probes_attempts]
    exact Nat.zero_add k
  constructor
  case value =>
    intro k a hfirst hk
    rw [pollEvery_of_reached hfirst hk]
    exact ⟨rfl, hprobes k⟩
  case error =>
    intro k e hfirst hk
    rw [pollEvery_of_reached hfirst hk]
    exact ⟨rfl, hprobes k⟩
  case exhausted =>
    intro hnone hw
    have hvain := in_vain_of_no_ending (m := n) fun k r hfirst hle =>
      hnone k r hfirst (le_min (by exact_mod_cast hle) (le_trans (by exact_mod_cast hle) hw))
    rw [pollEvery_of_vain hw hvain]
    exact ⟨d.repeated n, rfl, d.nanoseconds_repeated n, hprobes n⟩
  case cancelled =>
    intro hnone made hw hmade
    have hvain := in_vain_of_no_ending (m := made) fun k r hfirst hle => by
      refine hnone k r hfirst (le_min ?_ ?_)
      · exact_mod_cast hle.trans hmade.le
      · rw [hw]
        exact_mod_cast hle
    obtain ⟨hres, hcount⟩ := pollEvery_of_cut hw hmade hvain
    exact ⟨hres, hcount.trans (Nat.zero_add made)⟩

/-- A value counts although the poll is cancelled during the probe that yields it. -/
example : (pollEvery (.ofMilliseconds 10) 5
    (⟨{}, 0, [.ok none, .ok (some 3)], some 2⟩ : PollTrial String Nat)).1 = .ok ⟨3, 2⟩ := rfl

end ContainerBridge.PollTrial
