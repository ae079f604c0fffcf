/-! Programs as trees of requests: what is asked next depends on the replies so far. -/

namespace ContainerBridge

/-- A program that makes requests `q`, each with a reply of type `Reply q`, and ends with an `α`. -/
inductive Program {Q : Type} (Reply : Q → Type) (α : Type) where
  | done (a : α)
  | ask (q : Q) (next : Reply q → Program Reply α)

namespace Program
variable {Q : Type} {Reply : Q → Type} {α β σ : Type}

def bind : Program Reply α → (α → Program Reply β) → Program Reply β
  | done a, f => f a
  | ask q next, f => ask q fun r => (next r).bind f

instance : Monad (Program Reply) where
  pure := done
  bind := bind

/-- The program that makes one request. -/
def request (q : Q) : Program Reply (Reply q) := ask q done

/-- Runs a program in a world that answers its requests. -/
def run (answer : (q : Q) → σ → Reply q × σ) : Program Reply α → σ → α × σ
  | done a, s => (a, s)
  | ask q next, s => run answer (next (answer q s).1) (answer q s).2

/-- The program in which a program of other requests stands for each request. -/
def expand {R : Type} {Answer : R → Type} (f : (q : Q) → Program Answer (Reply q)) :
    Program Reply α → Program Answer α
  | done a => done a
  | ask q next => (f q).bind fun r => expand f (next r)

/-- Runs a program whose requests are answered in a monad. -/
def runIn {m : Type → Type} [Monad m] (answer : (q : Q) → m (Reply q)) : Program Reply α → m α
  | done a => pure a
  | ask q next => do runIn answer (next (← answer q))

theorem run_bind (answer : (q : Q) → σ → Reply q × σ) (p : Program Reply α)
    (f : α → Program Reply β) (s : σ) :
    run answer (p.bind f) s = run answer (f (run answer p s).1) (run answer p s).2 := by
  induction p generalizing s with
  | done a => rfl
  | ask q next ih => exact ih _ _

end Program
end ContainerBridge
