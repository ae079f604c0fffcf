import ContainerBridge.Workspace.Env
import ContainerBridge.Workspace.Volume
import Mathlib.Data.List.Basic

/-! Entries of a request that are made of several texts, and what is read from them. An entry is
taken apart at its first separator, so that what follows may hold more of them; put together again,
the parts give the entry. -/

namespace ContainerBridge

/-- Three lists of one length, whose members at each place are related. -/
inductive Aligned {α β γ : Type} (R : α → β → γ → Prop) : List α → List β → List γ → Prop
  | nil : Aligned R [] [] []
  | cons {a : α} {b : β} {c : γ} {as : List α} {bs : List β} {cs : List γ} (head : R a b c)
    (tail : Aligned R as bs cs) : Aligned R (a :: as) (b :: bs) (c :: cs)

namespace Text

variable {sep : Char} {l before after : List Char} {s : String}

theorem not_mem_of_cut_eq_none (h : cut sep l = none) : sep ∉ l := by
  induction l with
  | nil => exact List.not_mem_nil
  | cons c l ih =>
    rw [cut] at h
    by_cases hc : c = sep
    · rw [if_pos hc] at h
      cases h
    · rw [if_neg hc, Option.map_eq_none_iff] at h
      simp [ih h, Ne.symm hc]

/-- A list is cut at the first separator in it. -/
theorem append_of_cut_eq_some (h : cut sep l = some (before, after)) :
    sep ∉ before ∧ l = before ++ sep :: after := by
  induction l generalizing before with
  | nil => cases h
  | cons c l ih =>
    rw [cut] at h
    by_cases hc : c = sep
    · rw [if_pos hc] at h
      cases h
      exact ⟨List.not_mem_nil, by rw [hc, List.nil_append]⟩
    · rw [if_neg hc] at h
      obtain ⟨⟨x, y⟩, hr, he⟩ := Option.map_eq_some_iff.1 h
      cases he
      obtain ⟨hx, rfl⟩ := ih hr
      exact ⟨by simp [hx, Ne.symm hc], rfl⟩

theorem cut_append (h : sep ∉ before) (after : List Char) :
    cut sep (before ++ sep :: after) = some (before, after) := by
  induction before with
  | nil => exact if_pos rfl
  | cons c before ih =>
    rw [List.mem_cons, not_or] at h
    rw [List.cons_append, cut, if_neg (Ne.symm h.1), ih h.2]
    rfl

theorem cut_eq_none (h : sep ∉ l) : cut sep l = none := by
  cases hc : cut sep l with
  | none => rfl
  | some r =>
    obtain ⟨-, rfl⟩ := append_of_cut_eq_some hc
    simp at h

/-- What is before the cut is all that comes before a separator. -/
theorem cut_eq_takeWhile (sep : Char) (cs : List Char) :
    ((cut sep cs).map Prod.fst).getD cs = cs.takeWhile (· ≠ sep) := by
  induction cs with
  | nil => rfl
  | cons c cs ih =>
    rw [cut]
    by_cases hc : c = sep
    · simp [hc]
    · rw [if_neg hc, List.takeWhile_cons_of_pos (by simpa using hc), ← ih]
      cases cut sep cs <;> rfl

theorem toList_upTo (sep : Char) (s : String) :
    (upTo sep s).toList = s.toList.takeWhile (· ≠ sep) := by
  rw [← cut_eq_takeWhile, upTo, splitOnce]
  cases cut sep s.toList <;> simp

theorem upTo_eq_self (h : sep ∉ s.toList) : upTo sep s = s := by
  rw [upTo, splitOnce, cut_eq_none h]
  rfl

theorem upTo_append (h : sep ∉ s.toList) (rest : String) :
    upTo sep (s ++ String.singleton sep ++ rest) = s := by
  have hkeep : ∀ c ∈ s.toList, decide (c ≠ sep) = true := by
    intro c hc
    refine decide_eq_true ?_
    rintro rfl
    exact h hc
  apply String.toList_inj.1
  rw [toList_upTo, String.toList_append, String.toList_append, String.toList_singleton,
    List.append_assoc, List.takeWhile_append_of_pos hkeep]
  simp

theorem startsWith_iff {start : String} :
    startsWith start s = true ↔ ∃ rest, s = start ++ rest := by
  unfold startsWith
  rw [List.isPrefixOf_iff_prefix]
  constructor
  · rintro ⟨rest, hrest⟩
    exact ⟨String.ofList rest, String.toList_inj.1 (by simp [← hrest])⟩
  · rintro ⟨rest, rfl⟩
    exact ⟨rest.toList, (String.toList_append ..).symm⟩

theorem not_mem_of_splitOnce_eq_none (h : splitOnce sep s = none) : sep ∉ s.toList :=
  not_mem_of_cut_eq_none (Option.map_eq_none_iff.1 h)

theorem append_of_splitOnce_eq_some {before after : String}
    (h : splitOnce sep s = some (before, after)) :
    sep ∉ before.toList ∧ s = before ++ String.singleton sep ++ after := by
  obtain ⟨⟨x, y⟩, hr, he⟩ := Option.map_eq_some_iff.1 h
  cases he
  obtain ⟨hx, hs⟩ := append_of_cut_eq_some hr
  refine ⟨by rwa [String.toList_ofList], String.toList_inj.1 ?_⟩
  simp [hs]

theorem splitOnce_append {before : String} (h : sep ∉ before.toList) (after : String) :
    splitOnce sep (before ++ String.singleton sep ++ after) = some (before, after) := by
  simp [splitOnce, cut_append h]

theorem splitOnce_eq_none (h : sep ∉ s.toList) : splitOnce sep s = none :=
  Option.map_eq_none_iff.2 (cut_eq_none h)

theorem parts_eq_splitOn (sep : Char) (l : List Char) : parts sep l = l.splitOn sep := by
  induction l with
  | nil => rfl
  | cons c l ih =>
    rw [parts, ih, List.splitOn_cons_eq_if_modifyHead]
    by_cases hc : c = sep
    · simp [hc]
    · rw [if_neg hc, if_neg (by simpa using hc)]
      cases hp : l.splitOn sep with
      | nil => exact (List.splitOn_ne_nil _ _ hp).elim
      | cons p ps => rfl

theorem not_mem_of_mem_parts {p : List Char} (h : p ∈ parts sep l) : sep ∉ p := by
  induction l generalizing p with
  | nil =>
    obtain rfl := List.mem_singleton.1 h
    exact List.not_mem_nil
  | cons c l ih =>
    rw [parts] at h
    by_cases hc : c = sep
    · rw [if_pos hc] at h
      rcases List.mem_cons.1 h with rfl | h
      · exact List.not_mem_nil
      · exact ih h
    · rw [if_neg hc] at h
      have hcons : ∀ q, sep ∉ q → sep ∉ c :: q := by simp [Ne.symm hc]
      cases hp : parts sep l with
      | nil =>
        rw [hp] at h
        obtain rfl := List.mem_singleton.1 h
        exact hcons [] List.not_mem_nil
      | cons q qs =>
        rw [hp] at h ih
        rcases List.mem_cons.1 h with rfl | h
        · exact hcons q (ih (List.mem_cons_self ..))
        · exact ih (List.mem_cons_of_mem q h)

/-- The texts are what stands in the other between separators. -/
def Separates (sep : Char) (s : String) (texts : List String) : Prop :=
  texts ≠ [] ∧ (∀ t ∈ texts, sep ∉ t.toList) ∧ s = (String.singleton sep).intercalate texts

theorem separates_splitAll (sep : Char) (s : String) : Separates sep s (splitAll sep s) := by
  refine ⟨?_, ?_, ?_⟩
  · rw [splitAll, parts_eq_splitOn, Ne, List.map_eq_nil_iff]
    exact List.splitOn_ne_nil sep s.toList
  · intro t ht
    obtain ⟨p, hp, rfl⟩ := List.mem_map.1 ht
    rw [String.toList_ofList]
    exact not_mem_of_mem_parts hp
  · apply String.toList_inj.1
    rw [String.toList_intercalate, splitAll, List.map_map, parts_eq_splitOn]
    simp [Function.comp_def, List.intercalate_splitOn]

/-- There is one way only to take a text apart. -/
theorem Separates.eq_splitAll {texts : List String} (h : Separates sep s texts) :
    texts = splitAll sep s := by
  obtain ⟨hne, hsep, rfl⟩ := h
  rw [splitAll, parts_eq_splitOn, String.toList_intercalate, String.toList_singleton,
    List.splitOn_intercalate]
  · simp [List.map_map, Function.comp_def]
  · simpa using hsep
  · simpa using hne

end Text

namespace EnvVar

/-- The entry that a variable is written as. -/
def entry (v : EnvVar) : String :=
  match v.value with
  | some value => v.name ++ "=" ++ value
  | none => v.name

/-- A variable is read from an entry so that it is written the same; its name ends at the first
equals sign. -/
theorem entry_ofEntry (e : String) : (ofEntry e).entry = e ∧ '=' ∉ (ofEntry e).name.toList := by
  unfold ofEntry
  cases h : Text.splitOnce '=' e with
  | none => exact ⟨rfl, Text.not_mem_of_splitOnce_eq_none h⟩
  | some r =>
    obtain ⟨hn, he⟩ := Text.append_of_splitOnce_eq_some h
    exact ⟨he.symm, hn⟩

end EnvVar

namespace Workspace

/-- The entry that a bind is written as. -/
def Bind.entry (b : Bind) : String :=
  match b.mode with
  | some mode => b.hostPath ++ ":" ++ b.mountPath ++ ":" ++ mode
  | none => b.hostPath ++ ":" ++ b.mountPath

/-- A bind is read from an entry so that it is written the same; both of its paths end at a colon or
with the entry. -/
theorem Bind.entry_of_parse {entry : String} {b : Bind} (h : Bind.parse entry = .ok b) :
    b.entry = entry ∧ ':' ∉ b.hostPath.toList ∧ ':' ∉ b.mountPath.toList := by
  unfold Bind.parse at h
  cases hs : Text.splitOnce ':' entry with
  | none =>
    rw [hs] at h
    cases h
  | some r =>
    obtain ⟨host, rest⟩ := r
    obtain ⟨hhost, hentry⟩ := Text.append_of_splitOnce_eq_some hs
    rw [hs] at h
    dsimp only at h
    cases hr : Text.splitOnce ':' rest with
    | none =>
      rw [hr] at h
      dsimp only at h
      split at h
      · cases h
      · cases h
        exact ⟨hentry.symm, hhost, Text.not_mem_of_splitOnce_eq_none hr⟩
    | some r =>
      obtain ⟨mount, mode⟩ := r
      obtain ⟨hmount, hrest⟩ := Text.append_of_splitOnce_eq_some hr
      rw [hr] at h
      dsimp only at h
      split at h
      · cases h
      · cases h
        refine ⟨?_, hhost, hmount⟩
        rw [hentry, hrest]
        simp [Bind.entry, String.append_assoc]

/-- A mode asks for read-only mounting by an option between commas. -/
def AsksReadOnly (mode : String) : Prop :=
  ∃ options, Text.Separates ',' mode options ∧ "ro" ∈ options

theorem Bind.readOnly_iff (b : Bind) :
    b.readOnly = true ↔ ∃ mode, b.mode = some mode ∧ AsksReadOnly mode := by
  unfold Bind.readOnly
  cases b.mode with
  | none => simp
  | some mode =>
    rw [List.contains_iff_mem]
    constructor
    · intro h
      exact ⟨mode, rfl, _, Text.separates_splitAll ',' mode, h⟩
    · rintro ⟨_, ⟨⟩, options, hoptions, h⟩
      rwa [← hoptions.eq_splitAll]

/-- The volume and the mount that an entry asks for. -/
def Mounts (entry : String) (v : HostPathVolume) (m : VolumeMount) : Prop :=
  m.name = v.name ∧ ∃ b : Bind, b.entry = entry ∧ ':' ∉ b.hostPath.toList ∧
    ':' ∉ b.mountPath.toList ∧ v.path = b.hostPath ∧ m.mountPath = b.mountPath ∧
    (m.readOnly = true ↔ ∃ mode, b.mode = some mode ∧ AsksReadOnly mode)

/-- What is made of the first bind, and what of those after it. -/
theorem volumesAfter_cons {id bind : String} {seen binds : List String}
    {pairs : List (HostPathVolume × VolumeMount)}
    (h : volumesAfter id seen (bind :: binds) = .ok pairs) :
    ∃ b rest, Bind.parse bind = .ok b ∧
      volumesAfter id (volumeBase id bind :: seen) binds = .ok rest ∧
      pairs = let name := volumeName (volumeBase id bind) (seen.count (volumeBase id bind))
        (⟨name, b.hostPath⟩, ⟨name, b.mountPath, b.readOnly⟩) :: rest := by
  rw [volumesAfter] at h
  cases hb : Bind.parse bind with
  | error e =>
    rw [hb] at h
    cases h
  | ok b =>
    rw [hb] at h
    dsimp only at h
    cases hr : volumesAfter id (volumeBase id bind :: seen) binds with
    | error e =>
      rw [hr] at h
      cases h
    | ok rest =>
      rw [hr] at h
      cases h
      exact ⟨b, rest, rfl, rfl, rfl⟩

theorem volumesAfter_of_volumes {id : String} {binds : List String}
    {volumes : List HostPathVolume} {mounts : List VolumeMount}
    (h : Workspace.volumes id binds = .ok (volumes, mounts)) :
    ∃ pairs, volumesAfter id [] binds = .ok pairs ∧ pairs.unzip = (volumes, mounts) := by
  unfold Workspace.volumes at h
  cases hp : volumesAfter id [] binds with
  | error e =>
    rw [hp] at h
    cases h
  | ok pairs =>
    rw [hp] at h
    exact ⟨pairs, rfl, Except.ok.inj h⟩

theorem aligned_volumesAfter {id : String} {seen binds : List String}
    {pairs : List (HostPathVolume × VolumeMount)} (h : volumesAfter id seen binds = .ok pairs) :
    Aligned Mounts binds pairs.unzip.1 pairs.unzip.2 := by
  induction binds generalizing seen pairs with
  | nil =>
    cases h
    exact .nil
  | cons bind binds ih =>
    obtain ⟨b, rest, hb, hr, rfl⟩ := volumesAfter_cons h
    obtain ⟨hentry, hhost, hmount⟩ := Bind.entry_of_parse hb
    exact .cons ⟨rfl, b, hentry, hhost, hmount, rfl, rfl, b.readOnly_iff⟩ (ih hr)

/-- There is a volume and a mount for each bind, in order. -/
theorem aligned_volumes {id : String} {binds : List String} {volumes : List HostPathVolume}
    {mounts : List VolumeMount} (h : Workspace.volumes id binds = .ok (volumes, mounts)) :
    Aligned Mounts binds volumes mounts := by
  obtain ⟨pairs, hp, hunzip⟩ := volumesAfter_of_volumes h
  have ha := aligned_volumesAfter hp
  rwa [hunzip] at ha

end Workspace
end ContainerBridge
