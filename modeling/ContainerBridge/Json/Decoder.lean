import ContainerBridge.Json.Source

/-! Reading typed values out of JSON texts. A reading fails at the first fault in the text. -/

namespace ContainerBridge.Json

/-- The text is no JSON (`malformed`), or its value is not of the kind asked for. -/
inductive Fault where
  | malformed
  | mismatch
  deriving DecidableEq, Repr

/-- How many more brackets may be opened; `none` is no limit. -/
abbrev Room := Option Nat

/-- The room inside a bracket. -/
def Room.enter : Room → Option Room
  | none => some none
  | some 0 => none
  | some (n + 1) => some (some n)

/-- Reads an `α`. -/
abbrev Decoder (α : Type) := Room → Source → Except Fault α

namespace Decoder
variable {α β : Type}

/-- The fault of a text that spells some other kind of value. -/
def refuse : Source → Fault
  | .broken | .unreadable => .malformed
  | _ => .mismatch

def text : Decoder String := fun _ v => match v with
  | .string s => .ok s
  | v => .error (refuse v)

def bool : Decoder Bool := fun _ v => match v with
  | .bool b => .ok b
  | v => .error (refuse v)

/-- An integer of the range from `low` to `high`. -/
def integer (low high : Int) : Decoder Int := fun _ v => match v with
  | .number (.int n) => if low ≤ n && n ≤ high then .ok n else .error .mismatch
  | v => .error (refuse v)

def natural (limit : Nat) : Decoder Nat := fun r v =>
  (integer 0 (limit - 1 : Nat) r v).map Int.toNat

def uint16 : Decoder UInt16 := fun r v => (natural UInt16.size r v).map UInt16.ofNat

def uint32 : Decoder UInt32 := fun r v => (natural UInt32.size r v).map UInt32.ofNat

def uint64 : Decoder UInt64 := fun r v => (natural UInt64.size r v).map UInt64.ofNat

def int32 : Decoder Int32 := fun r v => (integer (-0x80000000) 0x7FFFFFFF r v).map Int32.ofInt

def int64 : Decoder Int64 := fun r v =>
  (integer (-0x8000000000000000) 0x7FFFFFFFFFFFFFFF r v).map Int64.ofInt

def map (f : α → β) (d : Decoder α) : Decoder β := fun r v => (d r v).map f

/-- Reads on with `f`; a value that `f` has no result for is a mismatch. -/
def filterMap (f : α → Option β) (d : Decoder α) : Decoder β := fun r v =>
  match d r v with
  | .error e => .error e
  | .ok a => match f a with
    | some b => .ok b
    | none => .error .mismatch

/-- One of several names, alone or as the only member of an object, with nothing to it. -/
def variant (f : String → Option α) : Decoder α := fun r v => match v with
  | .string s => match f s with
    | some a => .ok a
    | none => .error .mismatch
  | .object ((some k, v) :: rest) closed => match r.enter, f k with
    | none, _ => .error .malformed
    | _, none => .error .mismatch
    | _, some a => match v with
      | .null => if closed && rest.isEmpty then .ok a else .error .malformed
      | v => .error (refuse v)
  | _ => .error .malformed

/-- `null`, or what `d` reads. -/
def nullable (d : Decoder α) : Decoder (Option α) := fun r v => match v with
  | .null => .ok none
  | v => (d r v).map some

/-- As `d`, with `null` for the value `a`. -/
def nullAs (a : α) (d : Decoder α) : Decoder α := (nullable d).map (·.getD a)

def listItems (d : Decoder α) (r : Room) (closed : Bool) : List Source → Except Fault (List α)
  | [] => if closed then .ok [] else .error .malformed
  | v :: rest => match d r v with
    | .error e => .error e
    | .ok a => (listItems d r closed rest).map (a :: ·)

def list (d : Decoder α) : Decoder (List α) := fun r v => match v with
  | .array items closed => match r.enter with
    | none => .error .malformed
    | some r => listItems d r closed items
  | v => .error (refuse v)

def mapMembers (d : Decoder α) (r : Room) (closed : Bool) (m : OrderedMap String α) :
    List (Option String × Source) → Except Fault (OrderedMap String α)
  | [] => if closed then .ok m else .error .malformed
  | (none, _) :: _ => .error .malformed
  | (some k, v) :: rest => match d r v with
    | .error e => .error e
    | .ok a => mapMembers d r closed (m.insert k a) rest

/-- An object as a map; of members with one name the last stays. -/
def object (d : Decoder α) : Decoder (OrderedMap String α) := fun r v => match v with
  | .object members closed => match r.enter with
    | none => .error .malformed
    | some r => mapMembers d r closed .empty members
  | v => .error (refuse v)

/-- An array as a set. -/
def members (d : Decoder String) : Decoder (OrderedSet String) := (list d).map .ofMembers

mutual

/-- Any value. -/
def value : Decoder Value := fun r v => match v with
  | .null => .ok .null
  | .bool b => .ok (.bool b)
  | .number n => .ok (.number n)
  | .string s => .ok (.string s)
  | .unreadable | .broken => .error .malformed
  | .array items closed => match r.enter with
    | none => .error .malformed
    | some r => (valueItems r closed items).map .array
  | .object members closed => match r.enter with
    | none => .error .malformed
    | some r => (valueMembers r closed members).map fun l => .object (OrderedMap.ofList l).entries

def valueItems (r : Room) (closed : Bool) : List Source → Except Fault (List Value)
  | [] => if closed then .ok [] else .error .malformed
  | v :: rest => match value r v with
    | .error e => .error e
    | .ok a => (valueItems r closed rest).map (a :: ·)

def valueMembers (r : Room) (closed : Bool) :
    List (Option String × Source) → Except Fault (List (String × Value))
  | [] => if closed then .ok [] else .error .malformed
  | (none, _) :: _ => .error .malformed
  | (some k, v) :: rest => match value r v with
    | .error e => .error e
    | .ok a => (valueMembers r closed rest).map ((k, a) :: ·)

end

theorem ok_of_map_eq_ok {ε : Type} {x : Except ε α} {f : α → β} {b : β} (h : x.map f = .ok b) :
    ∃ a, x = .ok a ∧ f a = b := by
  cases x with
  | error e => cases h
  | ok a => exact ⟨a, rfl, Except.ok.inj h⟩

mutual

/-- Whatever is read is a value as it can be. -/
theorem ordered_of_value {r : Room} {s : Source} {v : Value} (h : value r s = .ok v) :
    v.Ordered := by
  cases s with
  | array items closed =>
    rw [value] at h
    split at h
    · cases h
    · obtain ⟨l, hl, rfl⟩ := ok_of_map_eq_ok h
      exact orderedItems_of_valueItems hl
  | object members closed =>
    rw [value] at h
    split at h
    · cases h
    · obtain ⟨l, hl, rfl⟩ := ok_of_map_eq_ok h
      have hordered := Value.orderedMembers_iff.1 (orderedMembers_of_valueMembers hl)
      refine ⟨(OrderedMap.ofList l).ascending, Value.orderedMembers_iff.2 fun e he => ?_⟩
      exact hordered e (OrderedMap.mem_of_mem_ofList he)
  | unreadable | broken => simp [value] at h
  | _ =>
    simp only [value, Except.ok.injEq] at h
    rw [← h]
    trivial

theorem orderedItems_of_valueItems {r : Room} {closed : Bool} {items : List Source}
    {l : List Value} (h : valueItems r closed items = .ok l) : Value.OrderedItems l := by
  cases items with
  | nil =>
    cases closed <;> cases h
    trivial
  | cons s rest =>
    rw [valueItems] at h
    split at h
    · cases h
    · rename_i hs
      obtain ⟨l, hl, rfl⟩ := ok_of_map_eq_ok h
      exact ⟨ordered_of_value hs, orderedItems_of_valueItems hl⟩

theorem orderedMembers_of_valueMembers {r : Room} {closed : Bool}
    {members : List (Option String × Source)} {l : List (String × Value)}
    (h : valueMembers r closed members = .ok l) : Value.OrderedMembers l := by
  cases members with
  | nil =>
    cases closed <;> cases h
    trivial
  | cons e rest =>
    obtain ⟨_ | k, s⟩ := e
    · cases h
    · rw [valueMembers] at h
      split at h
      · cases h
      · rename_i hs
        obtain ⟨l, hl, rfl⟩ := ok_of_map_eq_ok h
        exact ⟨ordered_of_value hs, orderedMembers_of_valueMembers hl⟩

end

/-- Any value, with the order of its objects. -/
def orderedValue : Decoder OrderedValue := fun r s =>
  match h : value r s with
  | .ok v => .ok ⟨v, ordered_of_value h⟩
  | .error e => .error e

end Decoder

/-! Texts that are passed over need only be JSON. -/

mutual

def Source.sound : Source → Bool
  | .broken => false
  | .array items closed => closed && Source.soundItems items
  | .object members closed => closed && Source.soundMembers members
  | _ => true

def Source.soundItems : List Source → Bool
  | [] => true
  | v :: rest => v.sound && Source.soundItems rest

def Source.soundMembers : List (Option String × Source) → Bool
  | [] => true
  | (_, v) :: rest => v.sound && Source.soundMembers rest

end

/-! Records: objects whose members each have a reading of their own. -/

/-- The members at hand, each with its place in the text; `count` is the place after the last. An
array may stand for a record and lists its members by place. -/
structure Members where
  room : Room
  listed : List (Nat × String × Source)
  count : Nat
  byPlace : Bool

/-- The members of one name. -/
def Members.named (m : Members) (name : String) : List (Nat × Source) :=
  m.listed.filterMap fun (i, k, v) => if k = name then some (i, v) else none

/-- Reads an `α` from the members with the names; a failure carries its place. -/
structure Record (α : Type) where
  names : List String
  read : Members → Except (Nat × Fault) α

namespace Record
variable {α β : Type}

/-- The member called `name`, `absent` when there is none; a second one is a fault. -/
def field (name : String) (d : Decoder α) (absent : Members → Except (Nat × Fault) α) :
    Record α where
  names := [name]
  read m := match m.named name with
    | [] => absent m
    | [(i, v)] => (d m.room v).mapError (i, ·)
    | (i, v) :: (j, _) :: _ => match d m.room v with
      | .error e => .error (i, e)
      | .ok _ => .error (j, .mismatch)

def required (name : String) (d : Decoder α) : Record α :=
  field name d fun m => .error (m.count, .mismatch)

def optional (name : String) (a : α) (d : Decoder α) : Record α := field name d fun _ => .ok a

/-- A member that may be `null` or absent. -/
def maybe (name : String) (d : Decoder α) : Record (Option α) := optional name none d.nullable

/-- A member that may be `null`, or absent from an object but not from an array. -/
def named (name : String) (d : Decoder α) : Record (Option α) :=
  field name d.nullable fun m => if m.byPlace then .error (m.count, .mismatch) else .ok none

protected def map (f : α → β) (x : Record α) : Record β := ⟨x.names, fun m => (x.read m).map f⟩

/-- Both readings; of two failures the one that comes first in the text counts. -/
protected def seq (f : Record (α → β)) (x : Unit → Record α) : Record β where
  names := f.names ++ (x ()).names
  read m := match f.read m, (x ()).read m with
    | .ok f, .ok a => .ok (f a)
    | .error e, .ok _ => .error e
    | .ok _, .error e => .error e
    | .error e, .error e' => .error (if e'.1 < e.1 then e' else e)

instance : Functor Record where
  map := Record.map

instance : Seq Record where
  seq := Record.seq

/-- The place of the first fault in what the names do not cover, where `passes` is asked of every
other member. -/
def strayFault (names : List String) (passes : Source → Bool) (closed : Bool) :
    Nat → List (Option String × Source) → Option Nat
  | i, [] => if closed then none else some i
  | i, (none, _) :: _ => some i
  | i, (some k, v) :: rest =>
    if !names.contains k && !passes v then some i
    else strayFault names passes closed (i + 1) rest

def listMembers : Nat → List (Option String × Source) → List (Nat × String × Source)
  | _, [] => []
  | i, (some k, v) :: rest => (i, k, v) :: listMembers (i + 1) rest
  | i, (none, _) :: rest => listMembers (i + 1) rest

/-- The earlier of the record's own failure and a fault beside it. -/
def settle (stray : Option Nat) : Except (Nat × Fault) α → Except Fault α
  | .ok a => if stray.isSome then .error .malformed else .ok a
  | .error (i, e) => match stray with
    | some j => .error (if j ≤ i then .malformed else e)
    | none => .error e

def ofMembers (x : Record α) (passes : Room → Source → Bool) : Decoder α := fun r v => match v with
  | .object members closed => match r.enter with
    | none => .error .malformed
    | some r =>
      settle (strayFault x.names (passes r) closed 0 members)
        (x.read ⟨r, listMembers 0 members, members.length, false⟩)
  | v => .error (Decoder.refuse v)

/-- Reads the record from an object only. -/
def ofObject (x : Record α) : Decoder α := x.ofMembers fun _ => Source.sound

/-- Reads the record from an object only, in which every other member has to be a value too. -/
def ofValues (x : Record α) : Decoder α := x.ofMembers fun r v => (Decoder.value r v).isOk

/-- Reads the record from an object, or from an array of its members in order. -/
def decoder (x : Record α) : Decoder α := fun r v => match v with
  | .array items closed => match r.enter with
    | none => .error .malformed
    | some r =>
      let listed := items.zipIdx.zip x.names |>.map fun ((v, i), k) => (i, k, v)
      let stray :=
        if x.names.length < items.length then some x.names.length
        else if closed then none else some items.length
      settle stray (x.read ⟨r, listed, items.length, true⟩)
  | v => ofObject x r v

end Record

namespace Decoder
variable {α : Type}

/-- The nesting that a text may have. -/
def textRoom : Room := some 127

/-- Reads the value at the start of a text and ignores what follows it. -/
def ofLeading (d : Decoder α) (s : String) : Except Fault α := d textRoom (Source.ofLeading s).1

/-- Reads a whole text. -/
def ofText (d : Decoder α) (s : String) : Except Fault α :=
  let (v, rest) := Source.ofLeading s
  match d textRoom v with
  | .error e => .error e
  | .ok a => match rest with
    | some rest => if (Source.skipSpace rest).isEmpty then .ok a else .error .malformed
    | none => .error .malformed

/-- Reads a value that is no longer text, at any depth. -/
def ofValue (d : Decoder α) (v : Value) : Except Fault α := d none (.ofValue v)

end Decoder
end ContainerBridge.Json
