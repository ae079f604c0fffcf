import ContainerBridge.Lifecycle.Progress
import Mathlib.Data.List.Basic
import Mathlib.Data.List.Induction
import Mathlib.Data.List.TakeWhile

/-! How far a creation comes over a history of requests. Requests out of turn are passed over, so
that the stages reached are the first ones that the requests hold in their order; a failure counts
as long as the last stage is not reached. -/

namespace ContainerBridge.Lifecycle.Progress

/-- A call on the progress of a creation. -/
inductive Update where
  | advance (next : Progress)
  | fail
  deriving DecidableEq

/-- The state that a call asks for. -/
def Update.target : Update → Progress
  | advance next => next
  | fail => failed

/-- Where a history of calls leads. -/
def after (history : List Update) : Progress := requested.advanceAll (history.map Update.target)

/-- The states that are asked for before a failure is. -/
def early (history : List Update) : List Progress :=
  (history.map Update.target).takeWhile (· ≠ failed)

/-- The stages of a creation, in their order. -/
def stages : List Progress := [serviceCreated, deploymentCreated, discovering, ready]

/-- The stages up to a state. -/
def passed : Progress → List Progress
  | requested | failed => []
  | serviceCreated => [serviceCreated]
  | deploymentCreated => [serviceCreated, deploymentCreated]
  | discovering => [serviceCreated, deploymentCreated, discovering]
  | ready => [serviceCreated, deploymentCreated, discovering, ready]

/-- A measure that no request lowers. -/
def rank : Progress → Nat
  | requested => 0
  | serviceCreated => 1
  | deploymentCreated => 2
  | discovering => 3
  | ready => 4
  | failed => 5

/-- The longest of the lists that begin `path` and are held, in their order, by `requests`. -/
structure Longest (path requests l : List Progress) : Prop where
  begins : l <+: path
  held : l.Sublist requests
  length_le : ∀ l', l' <+: path → l'.Sublist requests → l'.length ≤ l.length

variable {p next : Progress} {path requests l : List Progress}

/-- Of two lists that begin a third one and are of one length both are the same. -/
theorem eq_of_prefix_of_length {l' : List Progress} (h : l <+: path) (h' : l' <+: path)
    (hlength : l.length = l'.length) : l = l' :=
  (List.prefix_of_prefix_length_le h h' hlength.le).eq_of_length hlength

theorem passed_prefix (p : Progress) : p.passed <+: stages := by
  cases p <;> decide

theorem getLastD_passed (h : p ≠ failed) : p.passed.getLastD requested = p := by
  revert h
  cases p <;> decide

/-- What is allowed, short of a failure, is the stage that follows. -/
theorem allows_iff (hp : p ≠ failed) (hnext : next ≠ failed) :
    p.allows next = true ↔ p.passed ++ [next] <+: stages := by
  revert hp hnext
  cases p <;> cases next <;> decide

theorem passed_of_allows (h : p.allows next = true) (hnext : next ≠ failed) :
    next.passed = p.passed ++ [next] := by
  revert h hnext
  cases p <;> cases next <;> decide

theorem advance_of_isTerminal (h : p.isTerminal = true) (next : Progress) : p.advance next = p := by
  revert h
  cases p <;> cases next <;> decide

theorem advance_failed (h : p.isTerminal = false) : p.advance failed = failed := by
  revert h
  cases p <;> decide

theorem rank_le_advance (p next : Progress) : p.rank ≤ (p.advance next).rank := by
  cases p <;> cases next <;> decide

/-! Requests before any failure -/

/-- The state has not failed, and is the last of the stages that the requests hold. -/
structure Reached (requests : List Progress) (p : Progress) : Prop where
  live : p ≠ failed
  longest : Longest stages requests p.passed

theorem reached_nil : Reached [] requested where
  live := by decide
  longest := by
    refine ⟨List.nil_prefix, List.nil_sublist [], fun l _ hl => ?_⟩
    rw [List.sublist_nil.1 hl]
    exact le_rfl

/-- What a list with one more request holds, it holds with or without that request. -/
theorem Longest.concat_cases (h : Longest path requests l) {l' : List Progress}
    (hpath : l' <+: path) (hheld : l'.Sublist (requests ++ [next])) :
    l'.length ≤ l.length ∨ l' = l ++ [next] := by
  obtain ⟨l₁, l₂, rfl, h₁, h₂⟩ := List.sublist_append_iff.1 hheld
  have hprefix : l₁ <+: path := (List.prefix_append l₁ l₂).trans hpath
  have hlength : l₁.length ≤ l.length := h.length_le l₁ hprefix h₁
  rcases List.sublist_singleton.1 h₂ with rfl | rfl
  · exact .inl (by simpa using hlength)
  · -- with the last request a list is longer than `l` only if all of `l` stands before it
    rcases hlength.eq_or_lt with heq | hlt
    · exact .inr (by rw [eq_of_prefix_of_length hprefix h.begins heq])
    · exact .inl (by simpa using Nat.succ_le_of_lt hlt)

/-- A request for the stage that follows leads on, and any other adds nothing to the stages held. -/
theorem Reached.advance (h : Reached requests p) (hnext : next ≠ failed) :
    Reached (requests ++ [next]) (p.advance next) := by
  obtain ⟨hlive, hlongest⟩ := h
  unfold Progress.advance
  split
  · next hallows =>
    have hpassed : next.passed = p.passed ++ [next] := passed_of_allows hallows hnext
    refine ⟨hnext, passed_prefix next, ?_, fun l hl hheld => ?_⟩
    · rw [hpassed]
      exact hlongest.held.append (List.Sublist.refl _)
    · rw [hpassed]
      rcases hlongest.concat_cases hl hheld with hle | rfl
      · exact hle.trans (by simp)
      · exact le_rfl
  · next hallows =>
    refine ⟨hlive, hlongest.begins, hlongest.held.trans (List.sublist_append_left ..), ?_⟩
    intro l hl hheld
    refine (hlongest.concat_cases hl hheld).resolve_right ?_
    rintro rfl
    exact hallows ((allows_iff hlive hnext).2 hl)

theorem advanceAll_append (p : Progress) (l l' : List Progress) :
    p.advanceAll (l ++ l') = (p.advanceAll l).advanceAll l' :=
  List.foldl_append

theorem reached_advanceAll (h : failed ∉ requests) :
    Reached requests (requested.advanceAll requests) := by
  -- from the end: the stages reached are told by all the requests so far
  induction requests using List.reverseRecOn with
  | nil => exact reached_nil
  | append_singleton requests next ih =>
    simp only [List.mem_append, List.mem_singleton, not_or] at h
    rw [advanceAll_append]
    exact (ih h.1).advance (Ne.symm h.2)

theorem Reached.eq_ready_iff (h : Reached requests p) : p = ready ↔ stages.Sublist requests := by
  constructor
  · rintro rfl
    exact h.longest.held
  · intro hheld
    have hlength := h.longest.length_le stages (List.prefix_refl _) hheld
    revert hlength
    cases p <;> decide

/-- Short of the last stage the others are as good as all of them. -/
theorem Reached.longest_dropLast (h : Reached requests p) (hp : p ≠ ready) :
    Longest stages.dropLast requests p.passed where
  begins := by
    revert hp
    cases p <;> decide
  held := h.longest.held
  length_le l hl := h.longest.length_le l (hl.trans (List.dropLast_prefix stages))

/-! Histories with failures -/

theorem advanceAll_of_isTerminal (h : p.isTerminal = true) (requests : List Progress) :
    p.advanceAll requests = p := by
  induction requests with
  | nil => rfl
  | cons next requests ih =>
    rw [advanceAll, List.foldl_cons, advance_of_isTerminal h]
    exact ih

theorem rank_le_advanceAll (p : Progress) (requests : List Progress) :
    p.rank ≤ (p.advanceAll requests).rank := by
  induction requests generalizing p with
  | nil => exact le_rfl
  | cons next requests ih => exact (rank_le_advance p next).trans (ih (p.advance next))

theorem after_append (history later : List Update) :
    after (history ++ later) = (after history).advanceAll (later.map Update.target) := by
  rw [after, List.map_append, advanceAll_append]
  rfl

theorem reached_early (history : List Update) :
    Reached (early history) (requested.advanceAll (early history)) := by
  refine reached_advanceAll fun h => ?_
  simpa using List.mem_takeWhile_imp h

/-- A failure keeps a creation from going on, unless it has come to its end. -/
theorem advanceAll_failed_cons (h : p ≠ failed) (requests : List Progress) :
    p.advanceAll (failed :: requests) = if p = ready then ready else failed := by
  show (p.advance failed).advanceAll requests = _
  split
  · next hp =>
    subst hp
    exact advanceAll_of_isTerminal rfl requests
  · next hp =>
    have hterminal : p.isTerminal = false := by
      revert h hp
      cases p <;> decide
    rw [advance_failed hterminal]
    exact advanceAll_of_isTerminal rfl requests

/-- What becomes of a creation is told by the requests before any failure, and by whether there is
one. -/
theorem after_eq (history : List Update) : after history =
    if failed ∈ history.map Update.target ∧ requested.advanceAll (early history) ≠ ready then failed
    else requested.advanceAll (early history) := by
  by_cases h : failed ∈ history.map Update.target
  · obtain ⟨before, late, hrequests, hbefore⟩ := List.eq_append_cons_of_mem h
    have hearly : early history = before := by
      have hkeep : ∀ x ∈ before, decide (x ≠ failed) = true := by
        intro x hx
        refine decide_eq_true ?_
        rintro rfl
        exact hbefore hx
      rw [early, hrequests, List.takeWhile_append_of_pos hkeep,
        List.takeWhile_cons_of_neg (by simp), List.append_nil]
    rw [after, hrequests, advanceAll_append, hearly,
      advanceAll_failed_cons (reached_advanceAll hbefore).live]
    by_cases hready : requested.advanceAll before = ready <;> simp [hready]
  · have hearly : early history = history.map Update.target := by
      refine List.takeWhile_eq_self_iff.2 fun x hx => decide_eq_true ?_
      rintro rfl
      exact h hx
    rw [if_neg fun hfailed => h hfailed.1, hearly, after]

/-- A creation is ready if all stages are held, in their order, by the requests before any failure.
It has failed if they are not and there is a failure, and otherwise it is at the last of the stages
that are held. Once it has come to an end it stays there, and it never goes back. -/
theorem after_history (history : List Update) :
    (after history = ready ↔
      [serviceCreated, deploymentCreated, discovering, ready].Sublist (early history)) ∧
    (after history = failed ↔ failed ∈ history.map Update.target ∧
      ¬ [serviceCreated, deploymentCreated, discovering, ready].Sublist (early history)) ∧
    (after history ≠ ready → after history ≠ failed →
      ∃ l, Longest [serviceCreated, deploymentCreated, discovering] (early history) l ∧
        after history = l.getLastD requested) ∧
    ∀ later, ((after history).isTerminal = true → after (history ++ later) = after history) ∧
      (after history).rank ≤ (after (history ++ later)).rank := by
  have hreached := reached_early history
  have hafter := after_eq history
  generalize requested.advanceAll (early history) = p at hreached hafter
  have hheld : [serviceCreated, deploymentCreated, discovering, ready].Sublist (early history) ↔
      p = ready := hreached.eq_ready_iff.symm
  have hlater : ∀ later, ((after history).isTerminal = true →
      after (history ++ later) = after history) ∧
      (after history).rank ≤ (after (history ++ later)).rank := by
    intro later
    rw [after_append]
    exact ⟨fun h => advanceAll_of_isTerminal h _, rank_le_advanceAll _ _⟩
  rw [hheld]
  split at hafter
  · next h =>
    refine ⟨?_, ⟨fun _ => h, fun _ => hafter⟩, fun _ hfailed => (hfailed hafter).elim, hlater⟩
    rw [hafter]
    exact ⟨nofun, fun hready => (h.2 hready).elim⟩
  · next h =>
    refine ⟨by rw [hafter], ?_, fun hready _ => ?_, hlater⟩
    · rw [hafter]
      exact ⟨fun hfailed => (hreached.live hfailed).elim, fun hbroken => (h hbroken).elim⟩
    · rw [hafter] at hready ⊢
      exact ⟨_, hreached.longest_dropLast hready, (getLastD_passed hreached.live).symm⟩

example : after [.advance serviceCreated, .advance discovering, .advance deploymentCreated,
    .advance serviceCreated, .fail, .advance discovering] = failed := by decide

end ContainerBridge.Lifecycle.Progress
