/-! Finite maps and sets whose entries stand in ascending key order. Two of them are equal exactly
when they hold the same entries. -/

namespace ContainerBridge

/-- A decidable strict total order, by which the keys of a map are sorted. -/
class KeyOrder (κ : Type) extends LT κ where
  decideLT (a b : κ) : Decidable (a < b)
  decideEq (a b : κ) : Decidable (a = b)
  irrefl (a : κ) : ¬ a < a
  trans {a b c : κ} : a < b → b < c → a < c
  eq_of_not_lt {a b : κ} : ¬ a < b → ¬ b < a → a = b

instance decidableKeyLT {κ : Type} [KeyOrder κ] : DecidableLT κ := fun a b => KeyOrder.decideLT a b
instance decidableKeyEq {κ : Type} [KeyOrder κ] : DecidableEq κ := fun a b => KeyOrder.decideEq a b

/-- Texts are ordered by their code points. -/
instance : KeyOrder String where
  decideLT _ _ := inferInstance
  decideEq _ _ := inferInstance
  irrefl := String.lt_irrefl
  trans := String.lt_trans
  eq_of_not_lt h₁ h₂ := String.le_antisymm (String.not_lt.1 h₂) (String.not_lt.1 h₁)

/-- A map from `κ` to `α`, kept as its entries in ascending key order. -/
structure OrderedMap (κ : Type) [KeyOrder κ] (α : Type) where
  entries : List (κ × α)
  ascending : entries.Pairwise (fun a b => a.1 < b.1)

namespace OrderedMap
variable {κ α β : Type} [KeyOrder κ]

theorem ext_entries {m n : OrderedMap κ α} (h : m.entries = n.entries) : m = n := by
  cases m; cases n; simp_all

instance [DecidableEq α] : DecidableEq (OrderedMap κ α) := fun m n =>
  if h : m.entries = n.entries then isTrue (ext_entries h)
  else isFalse fun e => h (congrArg entries e)

def empty : OrderedMap κ α := ⟨[], .nil⟩

instance : EmptyCollection (OrderedMap κ α) := ⟨empty⟩
instance : Inhabited (OrderedMap κ α) := ⟨empty⟩

/-- Puts an entry at its place in an ascending list; an entry of the same key gives way. -/
def place (k : κ) (v : α) : List (κ × α) → List (κ × α)
  | [] => [(k, v)]
  | e :: rest =>
    if k < e.1 then (k, v) :: e :: rest
    else if e.1 < k then e :: place k v rest
    else (k, v) :: rest

theorem mem_place {k : κ} {v : α} {e : κ × α} {l : List (κ × α)} (h : e ∈ place k v l) :
    e = (k, v) ∨ e ∈ l := by
  fun_induction place k v l <;> simp_all <;> grind

theorem ascending_place (k : κ) (v : α) {l : List (κ × α)}
    (h : l.Pairwise (fun a b => a.1 < b.1)) : (place k v l).Pairwise (fun a b => a.1 < b.1) := by
  fun_induction place k v l with
  | case1 => simp
  | case2 e rest hk =>
    refine List.Pairwise.cons (fun a ha => ?_) h
    rcases List.mem_cons.1 ha with rfl | ha
    · exact hk
    · exact KeyOrder.trans hk (List.rel_of_pairwise_cons h ha)
  | case3 e rest _ hk ih =>
    refine List.Pairwise.cons (fun a ha => ?_) (ih h.of_cons)
    rcases mem_place ha with rfl | ha
    · exact hk
    · exact List.rel_of_pairwise_cons h ha
  | case4 e rest h₁ h₂ =>
    have he : k = e.1 := KeyOrder.eq_of_not_lt h₁ h₂
    exact List.Pairwise.cons (fun a ha => he ▸ List.rel_of_pairwise_cons h ha) h.of_cons

/-- The map with `k` bound to `v`. -/
def insert (m : OrderedMap κ α) (k : κ) (v : α) : OrderedMap κ α :=
  ⟨place k v m.entries, ascending_place k v m.ascending⟩

/-- The value of the first entry whose key is `k`. -/
def lookup (k : κ) : List (κ × α) → Option α
  | [] => none
  | e :: rest => if e.1 = k then some e.2 else lookup k rest

def get? (m : OrderedMap κ α) (k : κ) : Option α := lookup k m.entries

def contains (m : OrderedMap κ α) (k : κ) : Bool := (m.get? k).isSome

/-- The entries that satisfy `p`. -/
def filter (m : OrderedMap κ α) (p : κ → α → Bool) : OrderedMap κ α :=
  ⟨m.entries.filter (fun e => p e.1 e.2), m.ascending.filter _⟩

def erase (m : OrderedMap κ α) (k : κ) : OrderedMap κ α := m.filter fun k' _ => k' ≠ k

def mapValues (m : OrderedMap κ α) (f : κ → α → β) : OrderedMap κ β :=
  ⟨m.entries.map (fun e => (e.1, f e.1 e.2)), by
    rw [List.pairwise_map]; exact m.ascending.imp (fun h => h)⟩

/-- The entries for which `f` has a value, under the same keys. -/
def filterMap (m : OrderedMap κ α) (f : κ → α → Option β) : OrderedMap κ β :=
  ⟨m.entries.filterMap (fun e => (f e.1 e.2).map (e.1, ·)), by
    rw [List.pairwise_filterMap]
    refine m.ascending.imp fun {a b} h x hx y hy => ?_
    simp only [Option.map_eq_some_iff] at hx hy
    obtain ⟨_, _, rfl⟩ := hx
    obtain ⟨_, _, rfl⟩ := hy
    exact h⟩

/-- The map with every entry of `l` inserted in turn, so that of two entries with one key the
later stays. -/
def insertAll (m : OrderedMap κ α) (l : List (κ × α)) : OrderedMap κ α :=
  l.foldl (fun m e => m.insert e.1 e.2) m

def ofList (l : List (κ × α)) : OrderedMap κ α := insertAll empty l

theorem mem_insertAll {m : OrderedMap κ α} {e : κ × α} {l : List (κ × α)}
    (h : e ∈ (m.insertAll l).entries) : e ∈ m.entries ∨ e ∈ l := by
  induction l generalizing m with
  | nil => exact .inl h
  | cons e' l ih =>
    rcases ih h with h | h
    · rcases mem_place h with rfl | h
      · exact .inr (List.mem_cons_self ..)
      · exact .inl h
    · exact .inr (List.mem_cons_of_mem _ h)

theorem mem_of_mem_ofList {e : κ × α} {l : List (κ × α)} (h : e ∈ (ofList l).entries) : e ∈ l :=
  (mem_insertAll h).resolve_left List.not_mem_nil

def singleton (k : κ) (v : α) : OrderedMap κ α := insert empty k v

def keys (m : OrderedMap κ α) : List κ := m.entries.map (·.1)

def values (m : OrderedMap κ α) : List α := m.entries.map (·.2)

def size (m : OrderedMap κ α) : Nat := m.entries.length

def isEmpty (m : OrderedMap κ α) : Bool := m.entries.isEmpty

@[simp] theorem get?_empty (k : κ) : (empty : OrderedMap κ α).get? k = none := rfl

@[simp] theorem get?_insert_self (m : OrderedMap κ α) (k : κ) (v : α) :
    (m.insert k v).get? k = some v := by
  show lookup k (place k v m.entries) = some v
  fun_induction place k v m.entries with
  | case1 => simp [lookup]
  | case2 => simp [lookup]
  | case3 e rest _ hk ih => rw [lookup, if_neg, ih]; rintro rfl; exact KeyOrder.irrefl _ hk
  | case4 => simp [lookup]

theorem get?_insert_of_ne (m : OrderedMap κ α) {k k' : κ} (v : α) (h : k' ≠ k) :
    (m.insert k v).get? k' = m.get? k' := by
  show lookup k' (place k v m.entries) = lookup k' m.entries
  fun_induction place k v m.entries with
  | case1 => simp [lookup, h.symm]
  | case2 => rw [lookup, if_neg h.symm]
  | case3 e rest _ _ ih => rw [lookup, ih, ← lookup]
  | case4 e rest h₁ h₂ =>
    have he : k = e.1 := KeyOrder.eq_of_not_lt h₁ h₂
    rw [lookup, if_neg h.symm, lookup, if_neg (he ▸ h.symm)]

end OrderedMap

/-- A set, as the map that binds each member to nothing. -/
abbrev OrderedSet (κ : Type) [KeyOrder κ] := OrderedMap κ Unit

namespace OrderedSet
variable {κ : Type} [KeyOrder κ]

def add (s : OrderedSet κ) (k : κ) : OrderedSet κ := OrderedMap.insert s k ()

def ofMembers (l : List κ) : OrderedSet κ := l.foldl add OrderedMap.empty

def members (s : OrderedSet κ) : List κ := OrderedMap.keys s

end OrderedSet
end ContainerBridge
