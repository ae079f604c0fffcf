import ContainerBridge.Proofs.OrderedMap
import ContainerBridge.Server.Address

/-! Address strategies over a history of registrations. The strategy for all other names is a copy
of an entry, which every registration keeps in step with it. -/

namespace ContainerBridge.StrategyRegistry

/-- A name, and the strategy that is registered under it. -/
abbrev Registration := String × AddressStrategy

def registerAll (r : StrategyRegistry) (l : List Registration) : StrategyRegistry :=
  l.foldl (fun r e => r.register e.1 e.2) r

/-- The registrations that every registry begins with. -/
def builtIn (o : AddressOverrides) : List Registration :=
  [("default", ⟨.default, o⟩), ("docker-local", ⟨.localEngine, o⟩), ("host-port", ⟨.hostPort, o⟩)]

/-- The strategy was registered under the name, and none after it. -/
def Latest (history : List Registration) (name : String) (s : AddressStrategy) : Prop :=
  ∃ before after, history = before ++ (name, s) :: after ∧ ∀ e ∈ after, e.1 ≠ name

/-- The fallback is the strategy under its name. -/
def InStep (r : StrategyRegistry) : Prop := r.strategies.get? fallbackName = some r.fallback

variable {r : StrategyRegistry} {o : AddressOverrides} {history : List Registration}
variable {name : String} {s : AddressStrategy}

theorem inStep_register_fallbackName (r : StrategyRegistry) (s : AddressStrategy) :
    InStep (r.register fallbackName s) := by
  simp [InStep, register]

theorem InStep.register (h : InStep r) (name : String) (s : AddressStrategy) :
    InStep (r.register name s) := by
  by_cases hname : name = fallbackName
  · rw [hname]
    exact inStep_register_fallbackName r s
  · rw [InStep, StrategyRegistry.register, if_neg hname]
    exact (OrderedMap.get?_insert_of_ne _ _ (Ne.symm hname)).trans h

theorem InStep.registerAll (h : InStep r) (l : List Registration) : InStep (r.registerAll l) := by
  induction l generalizing r with
  | nil => exact h
  | cons e l ih => exact ih (h.register e.1 e.2)

theorem inStep_standard (o : AddressOverrides) : InStep (standard o) :=
  ((inStep_register_fallbackName _ _).register _ _).register _ _

theorem strategies_registerAll (r : StrategyRegistry) (l : List Registration) :
    (r.registerAll l).strategies = r.strategies.insertAll l := by
  induction l generalizing r with
  | nil => rfl
  | cons e l ih => exact ih (r.register e.1 e.2)

theorem strategies_standard (o : AddressOverrides) (l : List Registration) :
    ((standard o).registerAll l).strategies = .ofList (builtIn o ++ l) := by
  rw [strategies_registerAll, OrderedMap.ofList, OrderedMap.insertAll_append]
  rfl

theorem latest_iff : OrderedMap.get? (.ofList history) name = some s ↔ Latest history name s :=
  OrderedMap.get?_ofList_eq_some_iff_append

/-- A registry gives for a name what was registered under it last, and for names under which nothing
was registered what was registered last under the name of the fallback. It lists the names of its
registrations in their order, each of them once. -/
theorem get_registerAll (o : AddressOverrides) (l : List Registration) :
    let r := (standard o).registerAll l
    let history := builtIn o ++ l
    (∀ name s, r.get name = s ↔ Latest history name s ∨
      (∀ e ∈ history, e.1 ≠ name) ∧ Latest history "default" s) ∧
    r.names.Pairwise (· < ·) ∧ ∀ name, name ∈ r.names ↔ ∃ s, (name, s) ∈ history := by
  intro r history
  have hstrategies : r.strategies = .ofList history := strategies_standard o l
  have hfallback : ∀ s, r.fallback = s ↔ Latest history "default" s := by
    intro s
    have hstep : r.strategies.get? "default" = some r.fallback := (inStep_standard o).registerAll l
    rw [← latest_iff, ← hstrategies, hstep, Option.some_inj]
  refine ⟨fun name s => ?_, r.strategies.ascending_keys, fun name => ?_⟩
  · rw [get, hstrategies, ← latest_iff, ← hfallback, ← OrderedMap.get?_ofList_eq_none_iff]
    cases OrderedMap.get? (.ofList history) name <;> simp
  · rw [names, hstrategies, OrderedMap.mem_keys_ofList]

/-- Registering a strategy under the fallback's name changes what unknown names stand for. -/
example :
    (((standard {}).registerAll [("default", ⟨.hostPort, {}⟩), ("own", ⟨.localEngine, {}⟩)]).get
      "unknown").variant = .hostPort := by decide

end ContainerBridge.StrategyRegistry
