import ContainerBridge.Program

/-! Programs whose requests may be answered in more than one way, and what holds however they are
answered. A program is a finite tree, so that every run of it comes to an end. -/

namespace ContainerBridge.Program

variable {Q : Type} {Reply : Q → Type} {α β σ τ : Type}
variable {step : (q : Q) → σ → Reply q → σ → Prop} {post post' : α → σ → Prop} {s : σ}

/-- Every run from `s` ends with `post`, when `step` tells how requests may be answered. -/
def Ensures (step : (q : Q) → σ → Reply q → σ → Prop) (post : α → σ → Prop) :
    Program Reply α → σ → Prop
  | done a, s => post a s
  | ask q next, s => ∀ r s', step q s r s' → Ensures step post (next r) s'

@[simp] theorem ensures_done (a : α) : Ensures step post (done a : Program Reply α) s ↔ post a s :=
  .rfl

@[simp] theorem ensures_pure (a : α) : Ensures step post (pure a : Program Reply α) s ↔ post a s :=
  .rfl

@[simp] theorem ensures_bind {post : β → σ → Prop} (p : Program Reply α)
    (f : α → Program Reply β) :
    Ensures step post (p >>= f) s ↔ Ensures step (fun a s' => Ensures step post (f a) s') p s := by
  show Ensures step post (p.bind f) s ↔ _
  induction p generalizing s with
  | done a => rfl
  | ask q next ih =>
    exact forall_congr' fun r => forall_congr' fun s' => imp_congr_right fun _ => ih r

/-- A request that can be answered in one way only ends with that answer. -/
theorem ensures_request_of_unique {q : Q} {r : Reply q} {s' : σ} {post : Reply q → σ → Prop}
    (h : ∀ r' t, step q s r' t ↔ r' = r ∧ t = s') :
    Ensures step post (request q) s ↔ post r s' := by
  constructor
  · intro hp
    exact hp r s' ((h r s').2 ⟨rfl, rfl⟩)
  · intro hp r' t ht
    obtain ⟨rfl, rfl⟩ := (h r' t).1 ht
    exact hp

theorem Ensures.imp {p : Program Reply α} (h : Ensures step post p s)
    (hp : ∀ a s', post a s' → post' a s') : Ensures step post' p s := by
  induction p generalizing s with
  | done a => exact hp a s h
  | ask q next ih => exact fun r s' hr => ih r (h r s' hr)

theorem ensures_of_forall {p : Program Reply α} (h : ∀ a s', post a s') :
    Ensures step post p s := by
  induction p generalizing s with
  | done a => exact h a s
  | ask q next ih => exact fun r s' _ => ih r

/-- Where every request has an answer that keeps `P`, some run comes to an end with `P`. -/
theorem Ensures.exists_end {P : σ → Prop}
    (hstep : ∀ q s, P s → ∃ r s', step q s r s' ∧ P s') {p : Program Reply α}
    (h : Ensures step post p s) (hs : P s) : ∃ a s', P s' ∧ post a s' := by
  induction p generalizing s with
  | done a => exact ⟨a, s, hs, h⟩
  | ask q next ih =>
    obtain ⟨r, s', hr, hs'⟩ := hstep q s hs
    exact ih r (h r s' hr) hs'

/-- The requests that a run makes, in order. -/
def requests (answer : (q : Q) → τ → Reply q × τ) : Program Reply α → τ → List Q
  | done _, _ => []
  | ask q next, t => q :: requests answer (next (answer q t).1) (answer q t).2

/-- A run ends with `post` in every world whose answers are among those that `step` allows; `rel`
ties the states of the world, and the requests so far, to the states of the relation. -/
theorem Ensures.run_requests (rel : τ → List Q → σ → Prop) {answer : (q : Q) → τ → Reply q × τ}
    (hrel : ∀ q t l s, rel t l s →
      ∃ s', step q s (answer q t).1 s' ∧ rel (answer q t).2 (l ++ [q]) s')
    {p : Program Reply α} {t : τ} {l : List Q} (ht : rel t l s) (h : Ensures step post p s) :
    ∃ s', rel (run answer p t).2 (l ++ requests answer p t) s' ∧ post (run answer p t).1 s' := by
  induction p generalizing s t l with
  | done a =>
    rw [requests, List.append_nil]
    exact ⟨s, ht, h⟩
  | ask q next ih =>
    obtain ⟨s', hs, ht'⟩ := hrel q t l s ht
    have hrun := ih _ ht' (h _ s' hs)
    rw [List.append_assoc] at hrun
    exact hrun

theorem Ensures.run {answer : (q : Q) → τ → Reply q × τ} {rel : τ → σ → Prop}
    (hrel : ∀ q t s, rel t s → ∃ s', step q s (answer q t).1 s' ∧ rel (answer q t).2 s')
    {p : Program Reply α} {t : τ} (ht : rel t s) (h : Ensures step post p s) :
    ∃ s', rel (run answer p t).2 s' ∧ post (run answer p t).1 s' :=
  Ensures.run_requests (fun t _ => rel t) (l := []) (fun q t _ s => hrel q t s) ht h

end ContainerBridge.Program
