import ContainerBridge.Proofs.Operation

/-! Polling inside a task: an invariant, indexed by the attempts made, carries a poll to its end. -/

namespace ContainerBridge

variable {σ ε α : Type} {post : Except (PollStop ε) (Polled α) → σ → Prop}

/-- What a probe that follows `made` others is to ensure when the poll goes on with `inv`. -/
def Task.ProbeEnd (inv : Nat → σ → Prop) (post : Except (PollStop ε) (Polled α) → σ → Prop)
    (made : Nat) : Except ε (Option α) → σ → Prop
  | .ok none => inv (made + 1)
  | .ok (some a) => post (.ok ⟨a, made + 1⟩)
  | .error e => post (.error (.failed e))

namespace Program

variable {Q : Type} {Reply : Q → Type} {step : (q : Q) → σ → Reply q → σ → Prop} {s : σ}
variable {wait : Program Reply Bool} {probe : Program Reply (Except ε (Option α))}

theorem ensures_pollFrom (inv : Nat → σ → Prop) {interval : Duration} {total made left : Nat}
    (htotal : made + left = total) (hinv : inv made s)
    (hattempt : ∀ n s', n < total → inv n s' → Ensures step (fun passed s'' =>
      if passed then Ensures step (Task.ProbeEnd inv post n) probe s''
      else post (.error (.cancelled n)) s'') wait s')
    (hexhausted : ∀ s', inv total s' →
      post (.error (.exhausted total (interval.repeated total))) s') :
    Ensures step post (pollFrom interval wait probe made left) s := by
  induction left generalizing made s with
  | zero =>
    obtain rfl : made = total := htotal
    exact hexhausted s hinv
  | succ left ih =>
    rw [pollFrom, ensures_bind]
    refine (hattempt made s (by omega) hinv).imp fun passed s' hpassed => ?_
    cases passed with
    | false => exact hpassed
    | true =>
      rw [if_pos rfl] at hpassed ⊢
      rw [ensures_bind]
      refine hpassed.imp fun r s'' hr => ?_
      rcases r with e | (_ | a)
      · exact hr
      · exact ih (by omega) hr
      · exact hr

/-- A poll ends with `post` if every attempt keeps `inv` or ends it with `post`, and if `inv` gives
`post` when no attempts are left. -/
theorem ensures_poll (inv : Nat → σ → Prop) (c : PollConfig) (hinv : inv 0 s)
    (hattempt : ∀ n s', n < c.maxAttempts.toNat → inv n s' → Ensures step (fun passed s'' =>
      if passed then Ensures step (Task.ProbeEnd inv post n) probe s''
      else post (.error (.cancelled n)) s'') wait s')
    (hexhausted : ∀ s', inv c.maxAttempts.toNat s' →
      post (.error (.exhausted c.maxAttempts.toNat c.ceiling)) s') :
    Ensures step post (c.poll wait probe) s :=
  ensures_pollFrom inv (Nat.zero_add _) hinv hattempt hexhausted

end Program

namespace Task

variable {images : OrderedMap String ImageInfo} {calls : Calls σ} {s : σ}
variable {probe : Task (Except ε (Option α))}

/-- Where waits may be cut short, a poll may also end before any of its attempts. -/
theorem ensures_poll (inv : Nat → σ → Prop) (c : PollConfig) {d : Duration} (hinv : inv 0 s)
    (hprobe : ∀ n s', n < c.maxAttempts.toNat → inv n s' →
      Ensures images calls (ProbeEnd inv post n) probe s')
    (hcancelled : ∀ n s', n < c.maxAttempts.toNat → inv n s' → post (.error (.cancelled n)) s')
    (hexhausted : ∀ s', inv c.maxAttempts.toNat s' →
      post (.error (.exhausted c.maxAttempts.toNat c.ceiling)) s') :
    Ensures images calls post (c.poll (wait d) probe) s := by
  refine Program.ensures_poll inv c hinv (fun n s' hn hs => ?_) hexhausted
  refine ensures_wait.2 fun passed => ?_
  cases passed with
  | false => exact hcancelled n s' hn hs
  | true => exact hprobe n s' hn hs

end Task
end ContainerBridge
