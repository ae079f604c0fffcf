import ContainerBridge.Lifecycle.Plan
import ContainerBridge.Proofs.OrderedMap
import ContainerBridge.Cluster.State

/-! What listings of pods and services show, and which of them a selector with one label selects. -/

namespace ContainerBridge.Cluster

@[simp] theorem Selector.selects_singleton (k v : String) (labels : OrderedMap String String) :
    Selector.selects (.singleton k v) labels = decide (labels.get? k = some v) := by
  simp [selects, OrderedMap.singleton, OrderedMap.insert, OrderedMap.empty, OrderedMap.place]

@[simp] theorem get?_singleton (k v : String) :
    (OrderedMap.singleton k v).get? k = some v := OrderedMap.get?_insert_self ..

namespace State

variable {c : State} {project : String}

theorem mem_podsOf {selector : Selector} {p : Pod} : p ∈ c.podsOf project selector ↔
    (∃ k, c.pods.get? k = some p) ∧ p.project = project ∧ selector.selects p.labels = true := by
  simp [podsOf, OrderedMap.mem_values_iff]

theorem mem_listServices {sv : Service} : sv ∈ c.listServices project ↔
    (∃ k, c.services.get? k = some sv) ∧ sv.project = project := by
  simp [listServices, OrderedMap.mem_values_iff]

/-- A pod that alone satisfies a selector in its project is all that a listing shows. -/
theorem podsOf_eq_singleton {selector : Selector} {k : Key} {p : Pod} (h : c.pods.get? k = some p)
    (hp : p.project = project) (hs : selector.selects p.labels = true)
    (hu : ∀ k' p', c.pods.get? k' = some p' → p'.project = project →
      selector.selects p'.labels = true → k' = k) : c.podsOf project selector = [p] := by
  refine OrderedMap.filter_values_eq_singleton h (by simp [hp, hs]) fun k' p' hk' hp' => ?_
  simp only [Bool.and_eq_true, decide_eq_true_eq] at hp'
  exact hu k' p' hk' hp'.1 hp'.2

/-- No pod of the project is labelled for the deployment, and no service selects it. -/
structure Unclaimed (k : Key) (c : State) : Prop where
  unlabelled : ∀ k' p, c.pods.get? k' = some p → p.project = k.project →
    p.labels.get? deploymentLabel ≠ some k.name
  unselected : ∀ k' sv, c.services.get? k' = some sv → sv.project = k.project →
    sv.selector.get? deploymentLabel ≠ some k.name

end State
end ContainerBridge.Cluster

namespace ContainerBridge.Lifecycle

open Cluster

theorem isSelected_deployment (project deployment : String) (k : Key) (r : Route) :
    State.isSelected project (deploymentSelector deployment) k r =
      (decide (k.project = project) &&
        decide (r.labels.get? deploymentLabel = some deployment)) := by
  rw [State.isSelected, deploymentSelector, Selector.selects_singleton]

end ContainerBridge.Lifecycle
