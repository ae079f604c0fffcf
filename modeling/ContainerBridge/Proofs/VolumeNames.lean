import ContainerBridge.Proofs.Decimal
import ContainerBridge.Proofs.Entries
import Mathlib.Data.List.Count
import Mathlib.Data.List.Nodup

/-! The names of volumes. A number is put behind all volumes of a kind but the first, and the whole
is cut at the limit, so that a long id leaves room for few numbers or for none. -/

namespace ContainerBridge.Workspace

/-! Numbers that are cut -/

/-- What is put behind the name of a volume of which `earlier` others have the same base. -/
def suffix (earlier : Nat) : List Char :=
  if earlier = 0 then [] else '-' :: (toString (earlier + 1)).toList

/-- How many suffixes differ when they are cut after `room` characters. With one digit left the
tenth is still unlike the others, as there is no number one. -/
def capacity : Nat → Nat
  | 0 => 1
  | 1 => 2
  | 2 => 10
  | room + 3 => Nat.pow 10 (room + 2) - 1

variable {room i j n : Nat}

theorem suffix_of_pos (h : 0 < i) : suffix i = '-' :: (toString (i + 1)).toList :=
  if_neg (Nat.ne_of_gt h)

theorem suffix_injective : Function.Injective suffix := by
  intro i j h
  unfold suffix at h
  split at h <;> split at h
  · omega
  · cases h
  · cases h
  · have hdigits : toString (i + 1) = toString (j + 1) :=
      String.toList_inj.1 (List.cons.inj h).2
    have := Text.toString_injective hdigits
    omega

theorem take_suffix_of_lt (h : i + 1 < Nat.pow 10 (room + 1)) :
    (suffix i).take (room + 2) = suffix i := by
  apply List.take_of_length_le
  unfold suffix
  split
  · exact Nat.zero_le _
  · exact Nat.succ_le_succ ((Text.length_toString_le_iff room.succ_pos).2 h)

theorem eq_of_take_suffix (hi : i < capacity room) (hj : j < capacity room)
    (h : (suffix i).take room = (suffix j).take room) : i = j := by
  match room with
  | 0 =>
    change i < 1 at hi
    change j < 1 at hj
    omega
  | 1 =>
    have hall : ∀ i < 2, ∀ j < 2, (suffix i).take 1 = (suffix j).take 1 → i = j := by decide
    exact hall i hi j hj h
  | 2 =>
    have hall : ∀ i < 10, ∀ j < 10, (suffix i).take 2 = (suffix j).take 2 → i = j := by
      decide +kernel
    exact hall i hi j hj h
  | room + 3 =>
    have huncut : ∀ k < capacity (room + 3), (suffix k).take (room + 3) = suffix k := by
      intro k hk
      exact take_suffix_of_lt (Nat.add_lt_of_lt_sub hk)
    rw [huncut i hi, huncut j hj] at h
    exact suffix_injective h

/-- The first suffix beyond the capacity is cut to an earlier one. -/
theorem exists_take_suffix (room : Nat) : ∃ i < capacity room,
    (suffix i).take room = (suffix (capacity room)).take room := by
  match room with
  | 0 => exact ⟨0, by decide, by decide⟩
  | 1 => exact ⟨1, by decide, by decide⟩
  | 2 => exact ⟨9, by decide, by decide +kernel⟩
  | room + 3 =>
    -- The next number is a power of ten: without its last zero it reads like the power before.
    have hpos := Text.pow_ten_pos (room + 1)
    have hten : Nat.pow 10 (room + 2) = Nat.pow 10 (room + 1) * 10 := rfl
    have hone : Nat.pow 10 (room + 1) = Nat.pow 10 room * 10 := rfl
    have hpos' := Text.pow_ten_pos room
    refine ⟨Nat.pow 10 (room + 1) - 1, ?_, ?_⟩
    · show _ < Nat.pow 10 (room + 2) - 1
      omega
    · show _ = (suffix (Nat.pow 10 (room + 2) - 1)).take (room + 3)
      rw [suffix_of_pos (by omega), suffix_of_pos (by omega), Nat.sub_add_cancel (by omega),
        Nat.sub_add_cancel (by omega), List.take_succ_cons, List.take_succ_cons,
        Text.take_toString_pow, List.take_of_length_le]
      exact Nat.le_of_eq (Text.length_toString_pow (room + 1))

/-- As many suffixes as the capacity are told apart, and no more. -/
theorem suffixes_differ_iff :
    (∀ i < n, ∀ j < n, (suffix i).take room = (suffix j).take room → i = j) ↔
      n ≤ capacity room := by
  constructor
  · intro h
    obtain ⟨i, hi, he⟩ := exists_take_suffix room
    by_contra hn
    have := h i (by omega) (capacity room) (by omega) he
    omega
  · intro hn i hi j hj
    exact eq_of_take_suffix (Nat.lt_of_lt_of_le hi hn) (Nat.lt_of_lt_of_le hj hn)

/-! Volumes as their kinds and numbers -/

/-- Each member of a list with the number of its like before it, where `seen` came before all. -/
def numberedAfter (seen : List String) : List String → List (String × Nat)
  | [] => []
  | base :: rest => (base, seen.count base) :: numberedAfter (base :: seen) rest

variable {seen bases binds : List String} {base id kind kind' bind : String}

/-- The numbers of a member begin where those of its like in `seen` end. -/
theorem mem_numberedAfter : (base, i) ∈ numberedAfter seen bases ↔
    seen.count base ≤ i ∧ i < seen.count base + bases.count base := by
  induction bases generalizing seen with
  | nil =>
    refine iff_of_false List.not_mem_nil ?_
    rw [List.count_nil]
    omega
  | cons b bases ih =>
    rw [numberedAfter, List.mem_cons, ih, Prod.mk.injEq]
    by_cases hb : b = base
    · subst hb
      rw [List.count_cons_self, List.count_cons_self, eq_self_iff_true, true_and]
      omega
    · rw [List.count_cons_of_ne hb, List.count_cons_of_ne hb]
      simp [Ne.symm hb]

theorem nodup_numberedAfter (seen bases : List String) : (numberedAfter seen bases).Nodup := by
  induction bases generalizing seen with
  | nil => exact List.nodup_nil
  | cons b bases ih =>
    refine List.nodup_cons.2 ⟨fun h => ?_, ih _⟩
    rw [mem_numberedAfter, List.count_cons_self] at h
    omega

/-- The volumes are named by the bases of their binds and the numbers of these. -/
theorem map_name_volumesAfter {pairs : List (HostPathVolume × VolumeMount)}
    (h : volumesAfter id seen binds = .ok pairs) : pairs.map (fun e => e.1.name) =
      (numberedAfter seen (binds.map (volumeBase id))).map fun e => volumeName e.1 e.2 := by
  induction binds generalizing seen pairs with
  | nil =>
    cases h
    rfl
  | cons bind binds ih =>
    obtain ⟨b, rest, -, hr, rfl⟩ := volumesAfter_cons h
    rw [List.map_cons, ih hr]
    rfl

/-- What binds may be for. -/
def kinds : List String := ["wsagent-lib", "terminal", "project", "unknown-volume"]

theorem bindKind_mem (bind : String) : bindKind bind ∈ kinds := by
  unfold bindKind
  split_ifs <;> decide

/-- The base of the volumes of a kind. -/
def baseOf (id kind : String) : String := "ws-" ++ id ++ "-" ++ kind

theorem volumeBase_eq (id bind : String) : volumeBase id bind = baseOf id (bindKind bind) := rfl

theorem baseOf_injective (id : String) : Function.Injective (baseOf id) :=
  fun _ _ h => (String.append_right_inj _).1 h

/-- How many volumes of a kind the binds ask for. -/
def countOf (kind : String) (binds : List String) : Nat := (binds.map bindKind).count kind

theorem count_baseOf (id kind : String) (binds : List String) :
    (binds.map (volumeBase id)).count (baseOf id kind) = countOf kind binds := by
  have hbases : binds.map (volumeBase id) = (binds.map bindKind).map (baseOf id) := by
    rw [List.map_map]
    rfl
  rw [hbases, List.count_map_of_injective _ _ (baseOf_injective id), countOf]

/-- How many characters of a volume's name are left for its kind and number. -/
def roomFor (id : String) : Nat := nameLimit - (id.length + 4)

theorem toList_volumeName (id kind : String) (i : Nat) : (volumeName (baseOf id kind) i).toList =
    ("ws-" ++ id ++ "-").toList.take nameLimit ++ (kind.toList ++ suffix i).take (roomFor id) := by
  have hlength : ("ws-" ++ id ++ "-").toList.length = id.length + 4 := by
    simp [← String.length_toList]
  have hname : (volumeName (baseOf id kind) i).toList =
      (("ws-" ++ id ++ "-").toList ++ (kind.toList ++ suffix i)).take nameLimit := by
    unfold volumeName normalizeName Text.takeChars suffix baseOf
    split <;> simp
  rw [hname, List.take_append, hlength, roomFor]

theorem volumeName_eq_iff :
    volumeName (baseOf id kind) i = volumeName (baseOf id kind') j ↔
      (kind.toList ++ suffix i).take (roomFor id) =
        (kind'.toList ++ suffix j).take (roomFor id) := by
  rw [← String.toList_inj, toList_volumeName, toList_volumeName, List.append_right_inj]

/-- Of one kind names differ by their numbers, as far as these are kept. -/
theorem volumeName_eq_iff_of_kind :
    volumeName (baseOf id kind) i = volumeName (baseOf id kind) j ↔
      (suffix i).take (roomFor id - kind.length) = (suffix j).take (roomFor id - kind.length) := by
  rw [volumeName_eq_iff, List.take_append, List.take_append, List.append_right_inj,
    String.length_toList]

/-- No two kinds begin with the same letter. -/
theorem volumeName_ne (hroom : 0 < roomFor id) {b b' : String} (hk : bindKind b ≠ bindKind b') :
    volumeName (baseOf id (bindKind b)) i ≠ volumeName (baseOf id (bindKind b')) j := by
  have hletter : ∀ k ∈ kinds, ∀ k' ∈ kinds, k.toList.head? = k'.toList.head? → k = k' := by decide
  have hhead : ∀ k ∈ kinds, ∀ i, ((k.toList ++ suffix i).take (roomFor id)).head? =
      k.toList.head? := by
    intro k hk i
    have hne : k.toList ≠ [] := (by decide : ∀ k ∈ kinds, k.toList ≠ []) k hk
    rw [List.head?_take, if_neg (Nat.ne_of_gt hroom), List.head?_append_of_ne_nil _ hne]
  intro h
  have htakes := congrArg List.head? (volumeName_eq_iff.1 h)
  rw [hhead _ (bindKind_mem b), hhead _ (bindKind_mem b')] at htakes
  exact hk (hletter _ (bindKind_mem b) _ (bindKind_mem b') htakes)

/-- The id leaves room for all that the names of the volumes need: for the kinds, if there are
several, and for the numbers of each kind. -/
structure Roomy (id : String) (binds : List String) : Prop where
  kinds : roomFor id = 0 → ∀ b ∈ binds, ∀ b' ∈ binds, bindKind b = bindKind b'
  numbers : ∀ kind, countOf kind binds ≤ capacity (roomFor id - kind.length)

theorem exists_bind_of_countOf (h : i < countOf kind binds) : ∃ b ∈ binds, bindKind b = kind :=
  List.mem_map.1 (List.count_pos_iff.1 (Nat.zero_lt_of_lt h))

theorem countOf_pos (h : bind ∈ binds) : 0 < countOf (bindKind bind) binds :=
  List.count_pos_iff.2 (List.mem_map_of_mem h)

theorem mem_numberedAfter_nil : (base, i) ∈ numberedAfter [] (binds.map (volumeBase id)) ↔
    ∃ kind, base = baseOf id kind ∧ i < countOf kind binds := by
  rw [mem_numberedAfter, List.count_nil, Nat.zero_add, and_iff_right (Nat.zero_le i)]
  constructor
  · intro h
    obtain ⟨b, -, rfl⟩ := List.mem_map.1 (List.count_pos_iff.1 (Nat.zero_lt_of_lt h))
    rw [volumeBase_eq, count_baseOf] at h
    exact ⟨bindKind b, rfl, h⟩
  · rintro ⟨kind, rfl, h⟩
    rwa [count_baseOf]

/-- Names differ wherever kinds or numbers do just if the id leaves room for both. -/
theorem volumeNames_differ_iff :
    (∀ k i, i < countOf k binds → ∀ k' j, j < countOf k' binds →
      volumeName (baseOf id k) i = volumeName (baseOf id k') j → k = k' ∧ i = j) ↔
      Roomy id binds := by
  constructor
  · intro h
    constructor
    case kinds =>
      intro hroom b hb b' hb'
      have hsame : volumeName (baseOf id (bindKind b)) 0 = volumeName (baseOf id (bindKind b')) 0 :=
        volumeName_eq_iff.2 (by rw [hroom, List.take_zero, List.take_zero])
      exact (h _ 0 (countOf_pos hb) _ 0 (countOf_pos hb') hsame).1
    case numbers =>
      intro kind
      exact suffixes_differ_iff.1 fun i hi j hj he =>
        (h kind i hi kind j hj (volumeName_eq_iff_of_kind.2 he)).2
  · intro h k i hi k' j hj he
    by_cases hk : k = k'
    · subst k'
      have hnumbers := suffixes_differ_iff.2 (h.numbers k)
      exact ⟨rfl, hnumbers i hi j hj (volumeName_eq_iff_of_kind.1 he)⟩
    · obtain ⟨b, hb, rfl⟩ := exists_bind_of_countOf hi
      obtain ⟨b', hb', rfl⟩ := exists_bind_of_countOf hj
      have hroom : 0 < roomFor id :=
        Nat.pos_of_ne_zero fun hzero => hk (h.kinds hzero b hb b' hb')
      exact (volumeName_ne hroom hk he).elim

theorem length_volumeName_le (base : String) (i : Nat) :
    (volumeName base i).length ≤ nameLimit := by
  rw [volumeName, normalizeName, Text.takeChars, String.length_ofList]
  exact List.length_take_le _ _

theorem map_name_volumes {volumes : List HostPathVolume} {mounts : List VolumeMount}
    (h : Workspace.volumes id binds = .ok (volumes, mounts)) : volumes.map HostPathVolume.name =
      (numberedAfter [] (binds.map (volumeBase id))).map fun e => volumeName e.1 e.2 := by
  obtain ⟨pairs, hp, hunzip⟩ := volumesAfter_of_volumes h
  obtain rfl : pairs.map Prod.fst = volumes := by rw [← List.unzip_fst, hunzip]
  rw [← map_name_volumesAfter hp, List.map_map]
  rfl

/-- No name of a volume is longer than the limit, and no two are the same just if the id leaves room
for the kinds and the numbers of all volumes. -/
theorem nodup_volumeNames_iff {volumes : List HostPathVolume} {mounts : List VolumeMount}
    (h : Workspace.volumes id binds = .ok (volumes, mounts)) :
    (∀ v ∈ volumes, v.name.length ≤ nameLimit) ∧
      ((volumes.map HostPathVolume.name).Nodup ↔ Roomy id binds) := by
  have hnames := map_name_volumes h
  constructor
  · intro v hv
    have hmem := List.mem_map_of_mem (f := HostPathVolume.name) hv
    rw [hnames] at hmem
    obtain ⟨e, -, he⟩ := List.mem_map.1 hmem
    rw [← he]
    exact length_volumeName_le e.1 e.2
  · rw [hnames, List.nodup_map_iff_inj_on (nodup_numberedAfter ..), ← volumeNames_differ_iff]
    constructor
    · intro hinj k i hi k' j hj he
      have hpair := hinj (baseOf id k, i) (mem_numberedAfter_nil.2 ⟨k, rfl, hi⟩)
        (baseOf id k', j) (mem_numberedAfter_nil.2 ⟨k', rfl, hj⟩) he
      exact ⟨baseOf_injective id (Prod.mk.inj hpair).1, (Prod.mk.inj hpair).2⟩
    · rintro hdiffer ⟨_, i⟩ he ⟨_, j⟩ he' hsame
      obtain ⟨k, rfl, hi⟩ := mem_numberedAfter_nil.1 he
      obtain ⟨k', rfl, hj⟩ := mem_numberedAfter_nil.1 he'
      obtain ⟨rfl, rfl⟩ := hdiffer k i hi k' j hj hsame
      rfl

theorem nodup_volumeNames_iff_sampleBinds :
    let binds := ["/data/workspaces/k6:/projects:Z", "/tmp/a:/a", "/tmp/b:/b:ro"]
    let volumes : List HostPathVolume := [⟨"ws-k6-project", "/data/workspaces/k6"⟩,
      ⟨"ws-k6-unknown-volume", "/tmp/a"⟩, ⟨"ws-k6-unknown-volume-2", "/tmp/b"⟩]
    let mounts : List VolumeMount := [⟨"ws-k6-project", "/projects", false⟩,
      ⟨"ws-k6-unknown-volume", "/a", false⟩, ⟨"ws-k6-unknown-volume-2", "/b", true⟩]
    Workspace.volumes "k6" binds = .ok (volumes, mounts) ∧ Roomy "k6" binds := by
  intro binds volumes mounts
  have h : Workspace.volumes "k6" binds = .ok (volumes, mounts) := by decide +kernel
  exact ⟨h, (nodup_volumeNames_iff h).2.1 (by decide +kernel)⟩

/-- Behind a name that takes up the whole limit no number is left. -/
theorem volumeNames_repeated :
    let id := String.ofList (List.replicate 45 'k')
    let name := "ws-" ++ id ++ "-unknown-volume"
    (Workspace.volumes id ["/tmp/a:/a", "/tmp/b:/b"]).map Prod.fst =
      .ok [⟨name, "/tmp/a"⟩, ⟨name, "/tmp/b"⟩] := by
  decide +kernel

end ContainerBridge.Workspace
