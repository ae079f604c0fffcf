import ContainerBridge.Json.Decoder
import ContainerBridge.Proofs.OrderedMap
import Mathlib.Data.List.Nodup

/-! Reading typed values out of JSON values that were written from them. Each way of reading has a
lemma that says what it reads; a record is read by reading each of its members. -/

namespace ContainerBridge.Json

variable {α β : Type} {a : α} {v : Value} {o : Option α} {name : String}

/-! Single values -/

namespace Decoder

@[simp] theorem ofValue_text (s : String) : text.ofValue (.text s) = .ok s := rfl

@[simp] theorem ofValue_bool (b : Bool) : bool.ofValue (.bool b) = .ok b := rfl

@[simp] theorem ofValue_int64 (n : Int64) : int64.ofValue (.int n.toInt) = .ok n := by
  have hn : (-0x8000000000000000 : Int) ≤ n.toInt ∧ n.toInt ≤ 0x7FFFFFFFFFFFFFFF :=
    ⟨n.le_toInt, n.toInt_le⟩
  have hread : int64.ofValue (.int n.toInt) =
      (if (-0x8000000000000000 : Int) ≤ n.toInt && n.toInt ≤ 0x7FFFFFFFFFFFFFFF then
        .ok n.toInt else .error .mismatch : Except Fault Int).map Int64.ofInt := rfl
  rw [hread, if_pos (by simpa using hn)]
  exact congrArg Except.ok (Int64.ofInt_toInt n)

theorem ofValue_natural {n limit : Nat} (h : n < limit) :
    (natural limit).ofValue (.nat n) = .ok n := by
  have hrange : ((0 : Int) ≤ n && (n : Int) ≤ (limit - 1 : Nat)) = true := by
    simp only [Bool.and_eq_true, decide_eq_true_eq]
    omega
  have hread : (natural limit).ofValue (.nat n) =
      (if (0 : Int) ≤ n && (n : Int) ≤ (limit - 1 : Nat) then .ok (n : Int) else .error .mismatch :
        Except Fault Int).map Int.toNat := rfl
  rw [hread, if_pos hrange]
  rfl

@[simp] theorem ofValue_uint32 (n : UInt32) : uint32.ofValue (.nat n.toNat) = .ok n := by
  show ((natural UInt32.size).ofValue (.nat n.toNat)).map UInt32.ofNat = _
  rw [ofValue_natural n.toNat_lt]
  exact congrArg Except.ok UInt32.ofNat_toNat

@[simp] theorem ofValue_uint64 (n : UInt64) : uint64.ofValue (.nat n.toNat) = .ok n := by
  show ((natural UInt64.size).ofValue (.nat n.toNat)).map UInt64.ofNat = _
  rw [ofValue_natural n.toNat_lt]
  exact congrArg Except.ok UInt64.ofNat_toNat

theorem ofValue_nullable {d : Decoder α} (hv : v ≠ .null) (h : d.ofValue v = .ok a) :
    d.nullable.ofValue v = .ok (some a) := by
  have hread : d.nullable.ofValue v = (d.ofValue v).map some := by
    cases v with
    | null => exact absurd rfl hv
    | _ => rfl
  rw [hread, h]
  rfl

theorem ofValue_nullAs {d : Decoder α} (a₀ : α) (hv : v ≠ .null) (h : d.ofValue v = .ok a) :
    (d.nullAs a₀).ofValue v = .ok a := by
  show (d.nullable.ofValue v).map (·.getD a₀) = _
  rw [ofValue_nullable hv h]
  rfl

/-- `null` stands for what is absent, and for nothing else. -/
theorem ofValue_orNull {d : Decoder α} {f : α → Value}
    (h : ∀ a, o = some a → f a ≠ .null ∧ d.ofValue (f a) = .ok a) :
    d.nullable.ofValue (.orNull (o.map f)) = .ok o := by
  cases o with
  | none => rfl
  | some a =>
    obtain ⟨hn, hd⟩ := h a rfl
    exact ofValue_nullable hn hd

theorem ofValue_list {d : Decoder α} {f : α → Value} {l : List α}
    (h : ∀ a ∈ l, d.ofValue (f a) = .ok a) : (list d).ofValue (.array (l.map f)) = .ok l := by
  show listItems d none true (Source.ofItems (l.map f)) = .ok l
  induction l with
  | nil => rfl
  | cons a l ih =>
    obtain ⟨ha, hl⟩ := List.forall_mem_cons.1 h
    have hitem : d none (.ofValue (f a)) = .ok a := ha
    rw [List.map_cons, Source.ofItems, listItems, hitem]
    dsimp only
    rw [ih hl]
    rfl

@[simp] theorem ofValue_texts (l : List String) : (list text).ofValue (.texts l) = .ok l :=
  ofValue_list fun _ _ => rfl

theorem mapMembers_ofMembers {d : Decoder α} {f : String → α → Value} {l : List (String × α)}
    (h : ∀ e ∈ l, d.ofValue (f e.1 e.2) = .ok e.2) (m : OrderedMap String α) :
    mapMembers d none true m (Source.ofMembers (l.map fun e => (e.1, f e.1 e.2))) =
      .ok (m.insertAll l) := by
  induction l generalizing m with
  | nil => rfl
  | cons e l ih =>
    obtain ⟨he, hl⟩ := List.forall_mem_cons.1 h
    have hmember : d none (.ofValue (f e.1 e.2)) = .ok e.2 := he
    rw [List.map_cons, Source.ofMembers, mapMembers, hmember]
    exact ih hl _

theorem ofValue_object {d : Decoder α} {f : String → α → Value} {m : OrderedMap String α}
    (h : ∀ k a, m.get? k = some a → d.ofValue (f k a) = .ok a) :
    (object d).ofValue (.ofMap (m.mapValues f)) = .ok m := by
  show mapMembers d none true .empty (Source.ofMembers (m.mapValues f).entries) = .ok m
  rw [OrderedMap.mapValues, mapMembers_ofMembers (OrderedMap.forall_get?_iff.1 h)]
  exact congrArg Except.ok m.ofList_entries

@[simp] theorem ofValue_textMap (m : OrderedMap String String) :
    (object text).ofValue (.textMap m) = .ok m :=
  ofValue_object fun _ _ _ => rfl

@[simp] theorem ofValue_members (s : OrderedSet String) :
    (members text).ofValue (.texts s.members) = .ok s := by
  have hset : OrderedSet.ofMembers s.members = s := by
    have hentries : s.members.map (·, ()) = s.entries := by
      rw [OrderedSet.members, OrderedMap.keys, List.map_map]
      exact List.map_id'' (fun e => rfl) _
    calc OrderedSet.ofMembers s.members
        = OrderedMap.ofList (s.members.map (·, ())) := by
          rw [OrderedMap.ofList, OrderedMap.insertAll, List.foldl_map]
          rfl
      _ = s := by rw [hentries, OrderedMap.ofList_entries]
  show ((list text).ofValue (.texts s.members)).map OrderedSet.ofMembers = .ok s
  rw [ofValue_texts]
  exact congrArg Except.ok hset

mutual

/-- A value is read as it stands. -/
theorem ofValue_value {v : Value} (h : v.Ordered) : value none (.ofValue v) = .ok v := by
  cases v with
  | array items =>
    show (valueItems none true (Source.ofItems items)).map Value.array = _
    rw [valueItems_ofItems h]
    rfl
  | object members =>
    obtain ⟨hsorted, hmembers⟩ := h
    show (valueMembers none true (Source.ofMembers members)).map
      (fun l => Value.object (OrderedMap.ofList l).entries) = _
    rw [valueMembers_ofMembers hmembers]
    show Except.ok (Value.object (OrderedMap.ofList members).entries) = _
    rw [OrderedMap.ofList_entries ⟨members, hsorted⟩]
  | _ => rfl

theorem valueItems_ofItems {items : List Value} (h : Value.OrderedItems items) :
    valueItems none true (Source.ofItems items) = .ok items := by
  cases items with
  | nil => rfl
  | cons v rest =>
    obtain ⟨hv, hrest⟩ := h
    rw [Source.ofItems, valueItems, ofValue_value hv]
    dsimp only
    rw [valueItems_ofItems hrest]
    rfl

theorem valueMembers_ofMembers {members : List (String × Value)}
    (h : Value.OrderedMembers members) :
    valueMembers none true (Source.ofMembers members) = .ok members := by
  cases members with
  | nil => rfl
  | cons e rest =>
    obtain ⟨k, v⟩ := e
    obtain ⟨hv, hrest⟩ := h
    rw [Source.ofMembers, valueMembers, ofValue_value hv]
    dsimp only
    rw [valueMembers_ofMembers hrest]
    rfl

end

@[simp] theorem ofValue_orderedValue (v : OrderedValue) :
    orderedValue.ofValue v.value = .ok v := by
  have hread := ofValue_value v.ordered
  unfold ofValue orderedValue
  split
  · next v' hv =>
    obtain rfl : v' = v.value := Except.ok.inj (hv.symm.trans hread)
    rfl
  · next e he => cases he.symm.trans hread

end Decoder

/-! Records -/

mutual

theorem Source.sound_ofValue (v : Value) : (Source.ofValue v).sound = true := by
  cases v with
  | array items => exact Source.soundItems_ofItems items
  | object members => exact Source.soundMembers_ofMembers members
  | _ => rfl

theorem Source.soundItems_ofItems (items : List Value) :
    Source.soundItems (Source.ofItems items) = true := by
  cases items with
  | nil => rfl
  | cons v rest =>
    rw [Source.ofItems, Source.soundItems, Source.sound_ofValue v, Source.soundItems_ofItems rest]
    rfl

theorem Source.soundMembers_ofMembers (members : List (String × Value)) :
    Source.soundMembers (Source.ofMembers members) = true := by
  cases members with
  | nil => rfl
  | cons e rest =>
    obtain ⟨k, v⟩ := e
    rw [Source.ofMembers, Source.soundMembers, Source.sound_ofValue v,
      Source.soundMembers_ofMembers rest]
    rfl

end

/-- The members of an object that was written. -/
def Members.ofMap (m : OrderedMap String Value) : Members where
  room := none
  listed := Record.listMembers 0 (Source.ofMembers m.entries)
  count := (Source.ofMembers m.entries).length
  byPlace := false

theorem Members.named_listMembers {l : List (String × Value)}
    (hl : l.Pairwise fun a b => a.1 < b.1) (i n : Nat) (name : String) :
    ∃ j, (Members.mk none (Record.listMembers i (Source.ofMembers l)) n false).named name =
      ((OrderedMap.lookup name l).map fun v => (j, Source.ofValue v)).toList := by
  induction l generalizing i with
  | nil => exact ⟨i, rfl⟩
  | cons e l ih =>
    obtain ⟨j, hj⟩ := ih hl.of_cons (i + 1)
    rw [Members.named] at hj
    rw [Source.ofMembers, Record.listMembers, OrderedMap.lookup]
    by_cases hk : e.1 = name
    · have hrest : OrderedMap.lookup name l = none := by
        refine Option.eq_none_iff_forall_ne_some.2 fun v hv => ?_
        have hlt := List.rel_of_pairwise_cons hl ((OrderedMap.lookup_eq_some_iff hl.of_cons).1 hv)
        exact KeyOrder.irrefl _ (hk ▸ hlt)
      rw [hrest] at hj
      exact ⟨i, by simp [Members.named, hk, hj]⟩
    · exact ⟨j, by simp [Members.named, hk, hj]⟩

/-- In an object that was written a name stands at one place at most. -/
theorem Members.named_ofMap (m : OrderedMap String Value) (name : String) :
    ∃ i, (Members.ofMap m).named name = ((m.get? name).map fun v => (i, Source.ofValue v)).toList :=
  Members.named_listMembers m.ascending 0 _ name

namespace Record

variable {m : OrderedMap String Value} {d : Decoder α} {f : α → Value}

theorem strayFault_ofMembers (names : List String) (l : List (String × Value)) (i : Nat) :
    strayFault names Source.sound true i (Source.ofMembers l) = none := by
  induction l generalizing i with
  | nil => rfl
  | cons e l ih =>
    rw [Source.ofMembers, strayFault, Source.sound_ofValue, if_neg (by simp), ih]

/-- The record reads `a` from the members of a written object. -/
def Reads (x : Record α) (m : OrderedMap String Value) (a : α) : Prop :=
  x.read (Members.ofMap m) = .ok a

theorem reads_field {absent : Members → Except (Nat × Fault) α} (h : m.get? name = some v)
    (hd : d.ofValue v = .ok a) : (field name d absent).Reads m a := by
  obtain ⟨i, hi⟩ := Members.named_ofMap m name
  rw [h] at hi
  have hread : d (Members.ofMap m).room (.ofValue v) = .ok a := hd
  simp only [Reads, field, hi, Option.map_some, Option.toList_some, hread]
  rfl

theorem read_field_of_absent {absent : Members → Except (Nat × Fault) α} (h : m.get? name = none) :
    (field name d absent).read (Members.ofMap m) = absent (Members.ofMap m) := by
  obtain ⟨i, hi⟩ := Members.named_ofMap m name
  rw [h] at hi
  simp only [field, hi, Option.map_none, Option.toList_none]

theorem reads_required (h : m.get? name = some v) (hd : d.ofValue v = .ok a) :
    (required name d).Reads m a :=
  reads_field h hd

theorem reads_optional {a₀ : α} (h : m.get? name = some v) (hd : d.ofValue v = .ok a) :
    (optional name a₀ d).Reads m a :=
  reads_field h hd

/-- A member that is left out when there is no value for it. -/
theorem reads_maybe (h : m.get? name = o.map f)
    (hd : ∀ a, o = some a → f a ≠ .null ∧ d.ofValue (f a) = .ok a) :
    (maybe name d).Reads m o := by
  cases o with
  | none => exact read_field_of_absent h
  | some a =>
    obtain ⟨hn, hd⟩ := hd a rfl
    exact reads_field h (Decoder.ofValue_nullable hn hd)

/-- A member that is `null` when there is no value for it. -/
theorem reads_orNull (h : m.get? name = some (.orNull (o.map f)))
    (hd : ∀ a, o = some a → f a ≠ .null ∧ d.ofValue (f a) = .ok a) :
    (maybe name d).Reads m o :=
  reads_field h (Decoder.ofValue_orNull hd)

theorem reads_maybe_text {o : Option String} (h : m.get? name = o.map Value.text) :
    (maybe name Decoder.text).Reads m o :=
  reads_maybe h fun s _ => ⟨nofun, Decoder.ofValue_text s⟩

theorem Reads.map {x : Record α} (h : x.Reads m a) (g : α → β) : (g <$> x).Reads m (g a) := by
  show (x.read (Members.ofMap m)).map g = _
  rw [Reads] at h
  rw [h]
  rfl

theorem Reads.seq {x : Record (α → β)} {y : Record α} {g : α → β} (h : x.Reads m g)
    (ha : y.Reads m a) : (x <*> y).Reads m (g a) := by
  rw [Reads] at h ha
  change (Record.seq x fun _ => y).read (Members.ofMap m) = _
  simp only [Record.seq, h, ha]

theorem ofValue_decoder {x : Record α} (h : x.Reads m a) :
    x.decoder.ofValue (.ofMap m) = .ok a := by
  show settle (strayFault x.names Source.sound true 0 (Source.ofMembers m.entries))
    (x.read (Members.ofMap m)) = _
  rw [strayFault_ofMembers, h]
  rfl

/-- A record is read when each member is, wherever the members stand. -/
theorem ofValue_ofMembers {x : Record α} {l : List (String × Option Value)}
    (hl : (l.map Prod.fst).Nodup)
    (h : ∀ m, (∀ e ∈ l, OrderedMap.get? m e.1 = e.2) → x.Reads m a) :
    x.decoder.ofValue (.ofMembers l) = .ok a := by
  refine ofValue_decoder (h _ fun e he => ?_)
  have hdistinct : ∀ e ∈ l, ∀ e' ∈ l, e.1 = e'.1 → e = e' :=
    fun _ he _ he' hk => List.inj_on_of_nodup_map hl he he' hk
  have hmem : ∀ k v, (k, v) ∈ l.filterMap (fun e => e.2.map (e.1, ·)) ↔ (k, some v) ∈ l := by
    intro k v
    simp only [List.mem_filterMap, Option.map_eq_some_iff, Prod.mk.injEq, Prod.exists]
    grind
  apply Option.ext
  intro v
  rw [OrderedMap.get?_ofList_eq_some_iff, hmem]
  · constructor
    · intro hv
      rw [← hdistinct _ hv _ he rfl]
    · intro hv
      rwa [← hv]
  · rintro ⟨k, v⟩ hv ⟨_, v'⟩ hv' rfl
    have heq := hdistinct _ ((hmem k v).1 hv) _ ((hmem k v').1 hv') rfl
    simpa using heq

end Record
end ContainerBridge.Json
