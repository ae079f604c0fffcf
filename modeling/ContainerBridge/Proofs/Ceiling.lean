import ContainerBridge.Proofs.Attempts
import ContainerBridge.Proofs.Decoding
import ContainerBridge.Proofs.Poll
import ContainerBridge.Proofs.Printing

/-! How long polls can take. The ceiling is the whole product of interval and attempts up to the
greatest span, also when it is computed in words of seconds and nanoseconds with a carry between
them, and it is what a poll reports that has run out of attempts. -/

namespace ContainerBridge

open Json Json.Record

/-! Spans in words -/

/-- A span of time in two words: whole seconds, and the nanoseconds beyond them. -/
structure SplitSpan where
  seconds : UInt64
  nanos : UInt32
  nanos_lt : nanos.toNat < perSecond
  deriving DecidableEq

namespace SplitSpan

/-- The nanoseconds of the span `n` times. -/
def product (s : SplitSpan) (n : UInt32) : UInt64 := s.nanos.toUInt64 * n.toUInt64

/-- The whole seconds in that. -/
def carry (s : SplitSpan) (n : UInt32) : UInt64 := s.product n / 1000000000

variable {s : SplitSpan}

/-- The product fits a word, since the nanoseconds are those of less than a second. -/
theorem toNat_product (s : SplitSpan) (n : UInt32) :
    (s.product n).toNat = s.nanos.toNat * n.toNat := by
  have hle : s.nanos.toNat * n.toNat ≤ 1000000000 * 4294967296 :=
    Nat.mul_le_mul s.nanos_lt.le n.toNat_lt.le
  rw [product, UInt64.toNat_mul, UInt32.toNat_toUInt64, UInt32.toNat_toUInt64]
  exact Nat.mod_eq_of_lt (hle.trans_lt (by decide))

theorem toNat_carry (s : SplitSpan) (n : UInt32) :
    (s.carry n).toNat = s.nanos.toNat * n.toNat / perSecond := by
  rw [carry, UInt64.toNat_div, toNat_product]
  rfl

theorem toNat_uncarried (s : SplitSpan) (n : UInt32) :
    (s.product n % 1000000000).toUInt32.toNat = s.nanos.toNat * n.toNat % perSecond := by
  rw [UInt64.toNat_toUInt32, UInt64.toNat_mod, toNat_product]
  exact Nat.mod_eq_of_lt ((Nat.mod_lt _ (by decide)).trans (by decide))

theorem toNat_thousandths (n : UInt64) :
    ((n % 1000).toUInt32 * 1000000).toNat = n.toNat % 1000 * 1000000 := by
  simp only [UInt32.toNat_mul, UInt64.toNat_toUInt32, UInt64.toNat_mod]
  show n.toNat % 1000 % 4294967296 * 1000000 % 4294967296 = _
  omega

def greatest : SplitSpan := ⟨18446744073709551615, 999999999, by decide⟩

def ofMilliseconds (n : UInt64) : SplitSpan where
  seconds := n / 1000
  nanos := (n % 1000).toUInt32 * 1000000
  nanos_lt := by
    rw [toNat_thousandths]
    show _ < 1000000000
    omega

/-- The span `n` times if its seconds fit their word. The seconds of the product are carried. -/
def times? (s : SplitSpan) (n : UInt32) : Option SplitSpan :=
  if s.seconds.toNat * n.toNat + (s.carry n).toNat < UInt64.size then
    some {
      seconds := s.seconds * n.toUInt64 + s.carry n
      nanos := (s.product n % 1000000000).toUInt32
      nanos_lt := by rw [toNat_uncarried]; exact Nat.mod_lt _ (by decide) }
  else none

/-- The span `n` times, or the greatest one. -/
def repeated (s : SplitSpan) (n : UInt32) : SplitSpan := (s.times? n).getD greatest

/-- The nanoseconds of the whole span. -/
def total (s : SplitSpan) : Nat := s.seconds.toNat * perSecond + s.nanos.toNat

theorem total_ofMilliseconds (n : UInt64) : (ofMilliseconds n).total = n.toNat * 1000000 := by
  have hseconds : (ofMilliseconds n).seconds.toNat = n.toNat / 1000 := UInt64.toNat_div ..
  have hnanos : (ofMilliseconds n).nanos.toNat = n.toNat % 1000 * 1000000 := toNat_thousandths n
  rw [total, hseconds, hnanos]
  show n.toNat / 1000 * 1000000000 + _ = _
  omega

theorem total_le_greatest (s : SplitSpan) : s.total ≤ greatest.total := by
  have hgreatest : greatest.total = 18446744073709551615 * 1000000000 + 999999999 := rfl
  have hseconds := s.seconds.toNat_lt
  have hnanos : s.nanos.toNat < 1000000000 := s.nanos_lt
  rw [hgreatest]
  show s.seconds.toNat * 1000000000 + s.nanos.toNat ≤ _
  omega

/-- The seconds before the carry and the product make up the whole. -/
theorem total_mul (s : SplitSpan) (n : Nat) :
    s.total * n = s.seconds.toNat * n * perSecond + s.nanos.toNat * n := by
  rw [total, Nat.add_mul, Nat.mul_right_comm]

/-- The sum with the carry does not wrap where it fits. -/
theorem toNat_seconds_times {n : UInt32}
    (hfits : s.seconds.toNat * n.toNat + (s.carry n).toNat < UInt64.size) :
    (s.seconds * n.toUInt64 + s.carry n).toNat = s.seconds.toNat * n.toNat + (s.carry n).toNat := by
  have hmul : (s.seconds * n.toUInt64).toNat = s.seconds.toNat * n.toNat := by
    rw [UInt64.toNat_mul, UInt32.toNat_toUInt64]
    exact Nat.mod_eq_of_lt (Nat.lt_of_le_of_lt (Nat.le_add_right ..) hfits)
  rw [UInt64.toNat_add, hmul]
  exact Nat.mod_eq_of_lt hfits

/-- The multiple is exact where there is one, and else it is beyond the greatest span. -/
theorem total_times (s : SplitSpan) (n : UInt32) :
    (∃ t, s.times? n = some t ∧ t.total = s.total * n.toNat) ∨
      s.times? n = none ∧ greatest.total < s.total * n.toNat := by
  have hparts := Nat.div_add_mod' (s.nanos.toNat * n.toNat) perSecond
  rw [total_mul]
  unfold times?
  split
  case isTrue hfits =>
    refine .inl ⟨_, rfl, ?_⟩
    rw [total, toNat_seconds_times hfits, toNat_carry, toNat_uncarried, Nat.add_mul,
      Nat.add_assoc, hparts]
  case isFalse hover =>
    have hgreatest : greatest.total = UInt64.size * perSecond - 1 := rfl
    have hpos : 0 < UInt64.size * perSecond := by decide
    rw [toNat_carry] at hover
    have hbeyond := Nat.mul_le_mul_right perSecond (Nat.not_lt.1 hover)
    rw [Nat.add_mul] at hbeyond
    exact .inr ⟨rfl, by omega⟩

theorem total_repeated (s : SplitSpan) (n : UInt32) :
    (s.repeated n).total = min (s.total * n.toNat) greatest.total := by
  obtain ⟨t, ht, htotal⟩ | ⟨hnone, hover⟩ := s.total_times n
  · rw [repeated, ht, ← htotal]
    exact (Nat.min_eq_left t.total_le_greatest).symm
  · rw [repeated, hnone]
    exact (Nat.min_eq_right hover.le).symm

/-- The two words of a span are the seconds and the rest of its nanoseconds. -/
theorem words_of_total {d : Duration} (h : s.total = d.nanoseconds) :
    s.seconds.toNat = d.wholeSeconds ∧ s.nanos.toNat = d.subsecond := by
  rw [Duration.wholeSeconds, Duration.subsecond, ← h, total, Nat.mul_comm]
  exact ⟨by rw [Nat.mul_add_div (by decide), Nat.div_eq_of_lt s.nanos_lt, Nat.add_zero],
    by rw [Nat.mul_add_mod, Nat.mod_eq_of_lt s.nanos_lt]⟩

end SplitSpan

/-! Polls that run out of attempts -/

section Exhausted

variable {ε α : Type} {t : PollTrial ε α} {d waited : Duration} {made left n : Nat}

/-- An attempt that leaves a poll going on completes its wait and has no result, or no value. -/
theorem PollTrial.pollFrom_exhausted
    (h : (pollFrom d (wait d) probe made left t).1 = .error (.exhausted n waited)) :
    (left ≤ t.waitsLeft d ∧ ∀ x ∈ t.results.take left, x = .ok none) ∧
      n = made + left ∧ waited = d.repeated n := by
  induction left generalizing made t with
  | zero =>
    injection h with h
    injection h with hn hwaited
    subst hn
    exact ⟨by simp, rfl, hwaited.symm⟩
  | succ left ih =>
    by_cases hw : t.waitsLeft d = 0
    · rw [pollFrom_of_cut hw] at h
      cases h
    have hpos := pos_iff_ne_zero.2 hw
    rw [pollFrom_of_pass hpos] at h
    -- only a result that is no end leads on to the attempts that are left
    rcases hhead : t.results.head?.getD (.ok none) with e | (_ | a) <;> rw [hhead] at h
    · cases h
    · obtain ⟨⟨hleft, hvain⟩, hn, hwaited⟩ := ih h
      refine ⟨⟨?_, ?_⟩, by omega, hwaited⟩
      · rw [waitsLeft_attempt hpos, Nat.cast_succ]
        exact add_le_add_left hleft 1
      · replace hvain : ∀ x ∈ t.results.tail.take left, x = .ok none := hvain
        cases hres : t.results with
        | nil => simp
        | cons x rest =>
          rw [hres] at hhead hvain
          exact List.forall_mem_cons.2 ⟨hhead, hvain⟩
    · cases h

/-- A poll runs out of attempts exactly if their waits come to an end and none has a value or fails.
It then reports the attempts that it was to make, and the span of their waits. -/
theorem PollTrial.pollEvery_eq_exhausted_iff :
    (t.pollEvery d n).1 = .error (.exhausted made waited) ↔
      (n ≤ t.waitsLeft d ∧ ∀ x ∈ t.results.take n, x = .ok none) ∧
        made = n ∧ waited = d.repeated n := by
  constructor
  · intro h
    obtain ⟨hvain, hmade, hwaited⟩ := pollFrom_exhausted h
    rw [Nat.zero_add] at hmade
    exact ⟨hvain, hmade, hmade ▸ hwaited⟩
  · rintro ⟨⟨hw, hvain⟩, rfl, rfl⟩
    rw [pollEvery_of_vain hw hvain]

/-- Where the outcome is out of attempts, it reports all of them, and the ceiling as their time. -/
def PollConfig.ReportsCeiling (c : PollConfig) (res : Except (PollStop ε) (Polled α)) : Prop :=
  ∀ made waited, res = .error (.exhausted made waited) →
    made = c.maxAttempts.toNat ∧ waited = c.ceiling

/-- However the requests of a poll are answered, and whatever its probes are. -/
theorem Program.ensures_reportsCeiling {Q σ : Type} {Reply : Q → Type}
    (step : (q : Q) → σ → Reply q → σ → Prop) (c : PollConfig) (wait : Program Reply Bool)
    (probe : Program Reply (Except ε (Option α))) (s : σ) :
    Ensures step (fun res _ => c.ReportsCeiling res) (c.poll wait probe) s := by
  refine ensures_poll (fun _ _ => True) c trivial (fun n s' _ _ => ?_) fun _ _ _ _ h => ?_
  · refine ensures_of_forall fun passed s'' => ?_
    cases passed with
    | false => exact fun _ _ h => nomatch h
    | true =>
      refine ensures_of_forall fun r _ => ?_
      rcases r with e | (_ | a)
      · exact fun _ _ h => nomatch h
      · trivial
      · exact fun _ _ h => nomatch h
  · cases h
    exact ⟨rfl, rfl⟩

end Exhausted

namespace PollConfig

/-! Reading a configuration -/

/-- The members that a configuration is read from. -/
def toJson (c : PollConfig) : Value :=
  .ofMembers [("interval_ms", some (.nat c.intervalMs.toNat)),
    ("max_attempts", some (.nat c.maxAttempts.toNat))]

theorem exact_toJson (c : PollConfig) : c.toJson.Exact := by
  have hinterval := c.intervalMs.toNat_lt
  have hattempts := c.maxAttempts.toNat_lt
  refine Value.exact_ofMembers ?_
  simp only [List.forall_mem_cons, Option.some.injEq, forall_eq', List.not_mem_nil, false_imp_iff,
    implies_true, and_true]
  refine ⟨⟨?_, ?_⟩, ?_, ?_⟩ <;> omega

theorem ofText_toJson (c : PollConfig) : decoder.ofText (print c.toJson) = .ok c := by
  rw [ofText_print c.exact_toJson]
  refine ofValue_ofMembers (by simp) fun m hm => ?_
  simp only [List.forall_mem_cons] at hm
  obtain ⟨hinterval, hattempts, -⟩ := hm
  exact ((reads_optional hinterval (Decoder.ofValue_uint64 _)).map PollConfig.mk).seq
    (reads_optional hattempts (Decoder.ofValue_uint32 _))

/-! The ceiling and what is reported -/

/-- The time of all waits if no bound is set to it, in nanoseconds. -/
def unboundedNanoseconds (c : PollConfig) : Nat :=
  c.intervalMs.toNat * c.maxAttempts.toNat * 1000000

theorem nanoseconds_ceiling (c : PollConfig) :
    c.ceiling.nanoseconds = min c.unboundedNanoseconds Duration.greatest.nanoseconds := by
  rw [ceiling, interval, Duration.nanoseconds_repeated, Duration.nanoseconds_ofMilliseconds,
    unboundedNanoseconds, Nat.mul_right_comm, Nat.mul_comm c.maxAttempts.toNat]

/-- The ceiling as it comes out in words. -/
theorem words_ceiling (c : PollConfig) :
    let s := (SplitSpan.ofMilliseconds c.intervalMs).repeated c.maxAttempts
    s.seconds.toNat = c.ceiling.wholeSeconds ∧ s.nanos.toNat = c.ceiling.subsecond := by
  refine SplitSpan.words_of_total ?_
  rw [SplitSpan.total_repeated, SplitSpan.total_ofMilliseconds, nanoseconds_ceiling,
    unboundedNanoseconds, Nat.mul_right_comm]
  rfl

theorem ceiling_mono (c c' : PollConfig) (hinterval : c.intervalMs ≤ c'.intervalMs)
    (hattempts : c.maxAttempts ≤ c'.maxAttempts) :
    c.ceiling.nanoseconds ≤ c'.ceiling.nanoseconds := by
  rw [nanoseconds_ceiling, nanoseconds_ceiling]
  have hproduct : c.intervalMs.toNat * c.maxAttempts.toNat ≤
      c'.intervalMs.toNat * c'.maxAttempts.toNat := Nat.mul_le_mul hinterval hattempts
  exact min_le_min_right _ (Nat.mul_le_mul_right _ hproduct)

/-- What the ceiling of a configuration is, and when it is reported. -/
structure ExactCeiling (c : PollConfig) : Prop where
  parsed : decoder.ofText (print c.toJson) = .ok c
  total : c.ceiling.wholeSeconds * perSecond + c.ceiling.subsecond =
    min c.unboundedNanoseconds (18446744073709551615 * perSecond + 999999999)
  subsecond_lt : c.ceiling.subsecond < perSecond
  words : let s := (SplitSpan.ofMilliseconds c.intervalMs).repeated c.maxAttempts
    s.seconds.toNat = c.ceiling.wholeSeconds ∧ s.nanos.toNat = c.ceiling.subsecond
  mono : ∀ c' : PollConfig, c.intervalMs ≤ c'.intervalMs → c.maxAttempts ≤ c'.maxAttempts →
    c.ceiling.nanoseconds ≤ c'.ceiling.nanoseconds
  exhausted : ∀ {ε α : Type} (t : PollTrial ε α) made waited,
    (t.poll c).1 = .error (.exhausted made waited) ↔
      (c.maxAttempts.toNat ≤ t.waitsLeft c.interval ∧
        ∀ x ∈ t.results.take c.maxAttempts.toNat, x = .ok none) ∧
      made = c.maxAttempts.toNat ∧ waited = c.ceiling
  reported : ∀ {Q σ ε α : Type} {Reply : Q → Type} (step : (q : Q) → σ → Reply q → σ → Prop)
    (wait : Program Reply Bool) (probe : Program Reply (Except ε (Option α))) (s : σ),
    Program.Ensures step (fun res _ => c.ReportsCeiling res) (c.poll wait probe) s

/-- Whatever interval and number of attempts are read, their ceiling is exact. -/
theorem exactCeiling (c : PollConfig) : c.ExactCeiling where
  parsed := c.ofText_toJson
  total := by
    rw [Duration.wholeSeconds, Duration.subsecond, Nat.div_add_mod', nanoseconds_ceiling]
    rfl
  subsecond_lt := Nat.mod_lt _ (by decide)
  words := c.words_ceiling
  mono := c.ceiling_mono
  exhausted := fun _ _ _ => PollTrial.pollEvery_eq_exhausted_iff
  reported := fun step wait probe s => Program.ensures_reportsCeiling step c wait probe s

example : (⟨18446744073709551615, 4294967295⟩ : PollConfig).ceiling = .greatest := by decide

end PollConfig
end ContainerBridge
