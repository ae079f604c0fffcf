import ContainerBridge.Agent.Serve
import ContainerBridge.Proofs.OrderedMap
import Mathlib.Data.List.Induction

/-! The health of components over a history of findings. The registry keeps one record for each
component; all that it reports can be told from the findings in their order. -/

namespace ContainerBridge.Health

/-- What is found of a component. -/
inductive Finding where
  | registered
  | healthy
  | degraded (message : String)
  | unhealthy (message : String)
  /-- What a probe came to; a failure has the status that the prober gives it. -/
  | probed (failure : Option String) (onFailure : Status)

namespace Finding

def status : Finding → Status
  | registered | healthy | probed none _ => .healthy
  | degraded _ => .degraded
  | unhealthy _ => .unhealthy
  | probed (some _) onFailure => onFailure

def message : Finding → Option String
  | registered | healthy => none
  | degraded message | unhealthy message => some message
  | probed failure _ => failure

def isFailure : Finding → Bool
  | probed (some _) _ => true
  | _ => false

end Finding

/-- A call that changes the registry. -/
inductive Update where
  | found (now : Int64) (name : String) (f : Finding)
  | built (b : Bool)

namespace Update

def apply : Update → Registry → Registry
  | found now name .registered => Registry.register now name
  | found now name .healthy => Registry.setHealthy now name
  | found now name (.degraded message) => Registry.setDegraded now name message
  | found now name (.unhealthy message) => Registry.setUnhealthy now name message
  | found now name (.probed failure onFailure) => Registry.probe now name failure onFailure
  | built b => Registry.setBuilt b

def finding? (name : String) : Update → Option Finding
  | found _ name' f => if name' = name then some f else none
  | built _ => none

end Update

/-- The registry after a history of calls, of which the last is the latest. -/
def Registry.after (history : List Update) : Registry := history.foldl (fun r u => u.apply r) {}

/-- The failures since the last finding that was none. -/
def streak (l : List Finding) : Nat := (l.reverse.takeWhile Finding.isFailure).length

variable {history : List Update} {r : Registry} {u : Update} {f : Finding} {c : Component}
variable {name message : String} {l : List Finding}

/-! One component -/

theorem get?_apply_found (now : Int64) (name : String) (f : Finding) (r : Registry) :
    ((Update.found now name f).apply r).components.get? name = some ⟨f.status, f.message, now,
      if f.isFailure then
        Registry.nextFailure (((r.components.get? name).map Component.failures).getD 0)
      else 0⟩ := by
  rcases f with _ | _ | _ | _ | ⟨_ | message, onFailure⟩ <;>
    exact OrderedMap.get?_insert_self _ _ _

/-- A call that finds nothing of a component leaves it as it was. -/
theorem get?_apply_of_none (h : u.finding? name = none) :
    (u.apply r).components.get? name = r.components.get? name := by
  cases u with
  | built b => rfl
  | found now name' f =>
    have hne : name ≠ name' := by
      rintro rfl
      simp [Update.finding?] at h
    rcases f with _ | _ | _ | _ | ⟨_ | message, onFailure⟩ <;>
      exact OrderedMap.get?_insert_of_ne _ _ hne

@[simp] theorem streak_concat (l : List Finding) (f : Finding) :
    streak (l ++ [f]) = if f.isFailure then streak l + 1 else 0 := by
  rw [streak, List.reverse_concat, List.takeWhile_cons]
  split <;> rfl

theorem toNat_nextFailure (n : UInt32) :
    (Registry.nextFailure n).toNat = min (n.toNat + 1) (UInt32.size - 1) := by
  have hn : n.toNat < UInt32.size := n.toNat_lt
  unfold Registry.nextFailure
  split
  · next h =>
    rw [UInt32.toNat_add, UInt32.toNat_one, Nat.mod_eq_of_lt h]
    exact (Nat.min_eq_left (by omega)).symm
  · next h =>
    rw [Nat.min_eq_right (by omega)]
    omega

/-- The record of a component is what its findings come to. -/
structure SumsUp (l : List Finding) (c : Option Component) : Prop where
  status : c.map Component.status = l.getLast?.map Finding.status
  message : c.map Component.message = l.getLast?.map Finding.message
  failures : ((c.map Component.failures).getD 0).toNat = min (streak l) (UInt32.size - 1)

theorem SumsUp.apply (h : SumsUp l (r.components.get? name)) (u : Update) :
    SumsUp (l ++ (u.finding? name).toList) ((u.apply r).components.get? name) := by
  cases hf : u.finding? name with
  | none =>
    rw [get?_apply_of_none hf, Option.toList_none, List.append_nil]
    exact h
  | some f =>
    cases u with
    | built b => cases hf
    | found now name' f' =>
      obtain ⟨rfl, rfl⟩ : name' = name ∧ f' = f := by simpa [Update.finding?] using hf
      rw [get?_apply_found, Option.toList_some]
      refine ⟨by simp, by simp, ?_⟩
      rw [streak_concat, Option.map_some, Option.getD_some]
      split
      · rw [toNat_nextFailure, h.failures]
        omega
      · rfl

end ContainerBridge.Health
