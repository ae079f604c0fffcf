import ContainerBridge.Proofs.Entries

/-! The id of a workspace, read from its environment. The first variable that has a value and whose
name begins like that of the id decides, so that a longer name before it hides the id. -/

namespace ContainerBridge

namespace Text

/-- The second text is the first one without the first `mark` in it, or all of it. -/
inductive Less (mark : String) : String → String → Prop
  | present {before after : String}
    (hfirst : ∀ b a, before ++ mark ++ after = b ++ mark ++ a → before.length ≤ b.length) :
    Less mark (before ++ mark ++ after) (before ++ after)
  | absent {s : String} (h : ∀ before after, s ≠ before ++ mark ++ after) : Less mark s s

/-- There is one text only that is left. -/
theorem Less.unique {mark s t t' : String} (h : Less mark s t) (h' : Less mark s t') : t = t' := by
  cases h with
  | absent h =>
    cases h' with
    | absent => rfl
    | present => exact (h _ _ rfl).elim
  | @present before after hfirst =>
    generalize hs : before ++ mark ++ after = s at h'
    cases h' with
    | absent h' => exact (h' _ _ hs.symm).elim
    | @present b a hfirst' =>
      have hlength : before.toList.length = b.toList.length := by
        rw [String.length_toList, String.length_toList]
        exact Nat.le_antisymm (hfirst b a hs) (hfirst' before after hs.symm)
      have hlists : before.toList ++ (mark.toList ++ after.toList) =
          b.toList ++ (mark.toList ++ a.toList) := by
        simpa using congrArg String.toList hs
      obtain ⟨hbefore, htail⟩ := List.append_inj hlists hlength
      rw [String.toList_inj.1 hbefore, String.toList_inj.1 (List.append_cancel_left htail)]

variable {mark l : List Char}

/-- A list is cut at the first place where the mark stands. -/
theorem append_of_cutAt_eq_some {before after : List Char}
    (h : cutAt mark l = some (before, after)) :
    l = before ++ mark ++ after ∧ ∀ b a, l = b ++ mark ++ a → before.length ≤ b.length := by
  induction l generalizing before with
  | nil =>
    rw [cutAt] at h
    split at h
    · next hmark =>
      cases h
      exact ⟨by simpa using hmark, fun _ _ _ => Nat.zero_le _⟩
    · cases h
  | cons c l ih =>
    rw [cutAt] at h
    split at h
    · next hstart =>
      cases h
      obtain ⟨rest, hrest⟩ := List.isPrefixOf_iff_prefix.1 hstart
      refine ⟨?_, fun _ _ _ => Nat.zero_le _⟩
      rw [← hrest, List.drop_left, List.nil_append]
    · next hstart =>
      obtain ⟨⟨x, y⟩, hr, he⟩ := Option.map_eq_some_iff.1 h
      cases he
      obtain ⟨rfl, hfirst⟩ := ih hr
      refine ⟨rfl, fun b a hba => ?_⟩
      cases b with
      | nil => exact (hstart (List.isPrefixOf_iff_prefix.2 ⟨a, hba.symm⟩)).elim
      | cons d b => exact Nat.succ_le_succ (hfirst b a (List.cons.inj hba).2)

theorem ne_append_of_cutAt_eq_none (h : cutAt mark l = none) (before after : List Char) :
    l ≠ before ++ mark ++ after := by
  induction l generalizing before with
  | nil =>
    intro he
    obtain ⟨hbefore, -⟩ := List.append_eq_nil_iff.1 he.symm
    obtain ⟨-, rfl⟩ := List.append_eq_nil_iff.1 hbefore
    cases h
  | cons c l ih =>
    rw [cutAt] at h
    split at h
    · cases h
    · next hstart =>
      intro he
      cases before with
      | nil => exact hstart (List.isPrefixOf_iff_prefix.2 ⟨after, he.symm⟩)
      | cons d before => exact ih (Option.map_eq_none_iff.1 h) before (List.cons.inj he).2

end Text

namespace Workspace

open Text

variable {env before after : List String} {entry id mark s t value : String}

theorem less_withoutFirst (mark s : String) : Less mark s (withoutFirst mark s) := by
  unfold withoutFirst
  cases h : cutAt mark.toList s.toList with
  | none =>
    refine .absent fun before after hs => ?_
    subst hs
    exact ne_append_of_cutAt_eq_none h before.toList after.toList (by simp)
  | some r =>
    obtain ⟨before, after⟩ := r
    obtain ⟨hs, hfirst⟩ := append_of_cutAt_eq_some h
    obtain rfl : s = String.ofList before ++ mark ++ String.ofList after :=
      String.toList_inj.1 (by simpa using hs)
    dsimp only
    rw [String.ofList_append]
    refine .present fun b a hba => ?_
    have hle := hfirst b.toList a.toList (by simpa using congrArg String.toList hba)
    rwa [String.length_ofList, ← String.length_toList]

theorem less_iff : Less mark s t ↔ withoutFirst mark s = t := by
  constructor
  · intro h
    exact (less_withoutFirst mark s).unique h
  · rintro rfl
    exact less_withoutFirst mark s

/-- The entry gives a value to a variable whose name begins like that of the id. -/
def Offers (entry value : String) : Prop :=
  ∃ more, EnvVar.ofEntry entry = ⟨idVariable ++ more, some value⟩

/-- The entry gives a value to another variable whose name begins like that of the id. -/
def Shadows (entry value : String) : Prop :=
  ∃ more, more ≠ "" ∧ EnvVar.ofEntry entry = ⟨idVariable ++ more, some value⟩

/-- The value of the first entry that is given one by `R`. -/
def First (R : String → String → Prop) (env : List String) (value : String) : Prop :=
  ∃ before entry after, env = before ++ entry :: after ∧ R entry value ∧
    ∀ e ∈ before, ∀ v, ¬ R e v

/-- The value that is read for the id from an entry. -/
def offered (entry : String) : Option String :=
  if startsWith idVariable entry then (splitOnce '=' entry).map (·.2) else none

theorem ofEntry_eq_some_iff {name : String} :
    EnvVar.ofEntry entry = ⟨name, some value⟩ ↔ splitOnce '=' entry = some (name, value) := by
  unfold EnvVar.ofEntry
  cases splitOnce '=' entry <;> simp [Prod.ext_iff]

theorem offered_eq_some_iff : offered entry = some value ↔ Offers entry value := by
  simp only [Offers, ofEntry_eq_some_iff, offered]
  constructor
  · intro h
    split at h
    · next hstart =>
      obtain ⟨⟨name, v⟩, hsplit, rfl⟩ := Option.map_eq_some_iff.1 h
      obtain ⟨rest, hrest⟩ := startsWith_iff.1 hstart
      obtain ⟨hname, hentry⟩ := append_of_splitOnce_eq_some hsplit
      have hlists : idVariable.toList ++ rest.toList = name.toList ++ '=' :: v.toList := by
        simpa [hrest] using congrArg String.toList hentry
      -- The name of the id's variable holds no equals sign, so that it ends before the first one.
      obtain ⟨more, hmore, -⟩ | ⟨_ | ⟨c, cs⟩, hover, hvalue⟩ := List.append_eq_append_iff.1 hlists
      · obtain rfl : name = idVariable ++ String.ofList more :=
          String.toList_inj.1 (by simpa using hmore)
        exact ⟨String.ofList more, hsplit⟩
      · obtain rfl : name = idVariable ++ "" := String.toList_inj.1 (by simpa using hover.symm)
        exact ⟨"", hsplit⟩
      · obtain rfl : '=' = c := (List.cons.inj hvalue).1
        have hmem : '=' ∈ idVariable.toList := by simp [hover]
        exact absurd hmem (by decide)
    · cases h
  · rintro ⟨more, hsplit⟩
    obtain ⟨-, hentry⟩ := append_of_splitOnce_eq_some hsplit
    have hstart : startsWith idVariable entry = true :=
      startsWith_iff.2 ⟨more ++ "=" ++ value, by rw [hentry]; simp [String.append_assoc]⟩
    rw [if_pos hstart, hsplit]
    rfl

theorem findSome?_offered_eq_some_iff :
    env.findSome? offered = some value ↔ First Offers env value := by
  have hnone : ∀ e, offered e = none ↔ ∀ v, ¬ Offers e v := by
    intro e
    simp only [Option.eq_none_iff_forall_ne_some, ← offered_eq_some_iff, Ne]
  simp only [List.findSome?_eq_some_iff, offered_eq_some_iff, hnone, First]

theorem idOf_eq (env : List String) : idOf env = match env.findSome? offered with
    | none => .error .noWorkspaceId
    | some value =>
      if withoutFirst "workspace" value = "" then .error .emptyWorkspaceId
      else .ok (withoutFirst "workspace" value) := by
  have hvalues : ((env.filter (startsWith idVariable)).filterMap fun e =>
      (splitOnce '=' e).map (·.2)) = env.filterMap offered := List.filterMap_filter
  unfold idOf
  rw [← List.head?_filterMap, ← hvalues]
  dsimp only
  cases ((env.filter (startsWith idVariable)).filterMap fun e =>
      (splitOnce '=' e).map (·.2)) <;> rfl

theorem idOf_eq_ok_iff :
    idOf env = .ok id ↔ id ≠ "" ∧ ∃ value, First Offers env value ∧ Less "workspace" value id := by
  simp only [← findSome?_offered_eq_some_iff, less_iff, idOf_eq]
  cases env.findSome? offered with
  | none => simp
  | some value =>
    by_cases hempty : withoutFirst "workspace" value = ""
    · simp [hempty]
    · simp only [if_neg hempty, Except.ok.injEq, Option.some.injEq, exists_eq_left']
      constructor
      · rintro rfl
        exact ⟨hempty, rfl⟩
      · exact And.right

theorem less_append (mark s : String) : Less mark (mark ++ s) s := by
  simpa using @Less.present mark "" s fun _ _ _ => Nat.zero_le _

theorem First.congr {R R' : String → String → Prop} (h : ∀ e ∈ env, ∀ v, R e v ↔ R' e v) :
    First R env value ↔ First R' env value := by
  have hkeep : ∀ {R R' : String → String → Prop}, (∀ e ∈ env, ∀ v, R e v ↔ R' e v) →
      First R env value → First R' env value := by
    rintro R R' h ⟨before, e, after, rfl, he, hnone⟩
    exact ⟨before, e, after, rfl, (h e (by simp) value).1 he,
      fun e' he' v hv => hnone e' he' v ((h e' (by simp [he']) v).2 hv)⟩
  exact ⟨hkeep h, hkeep fun e he v => (h e he v).symm⟩

theorem shadows_iff (h : ∀ v, EnvVar.ofEntry entry ≠ ⟨idVariable, some v⟩) :
    Shadows entry value ↔ Offers entry value := by
  constructor
  · rintro ⟨more, -, he⟩
    exact ⟨more, he⟩
  · rintro ⟨more, he⟩
    refine ⟨more, ?_, he⟩
    rintro rfl
    exact h value (by rw [he, String.append_empty])

/-- In an environment with one entry `CHE_WORKSPACE_ID=workspace<id>` and no other value for that
variable, that id is read just if the first variable before it with a longer name, if there is one,
has a value that yields the same id. -/
theorem idOf_declared_iff
    (hentry : EnvVar.ofEntry entry = ⟨idVariable, some ("workspace" ++ id)⟩) (hid : id ≠ "")
    (hsole : ∀ e ∈ before ++ after, ∀ v, EnvVar.ofEntry e ≠ ⟨idVariable, some v⟩) :
    idOf (before ++ entry :: after) = .ok id ↔
      ∀ value, First Shadows before value → Less "workspace" value id := by
  have hown : offered entry = some ("workspace" ++ id) :=
    offered_eq_some_iff.2 ⟨"", by rw [hentry, String.append_empty]⟩
  have hfirst : ∀ value, First Shadows before value ↔ before.findSome? offered = some value := by
    intro value
    rw [findSome?_offered_eq_some_iff]
    exact First.congr fun e he v => shadows_iff (hsole e (List.mem_append_left after he))
  simp only [idOf_eq_ok_iff, ← findSome?_offered_eq_some_iff, hfirst, List.findSome?_append,
    List.findSome?_cons, hown]
  cases before.findSome? offered with
  | none => simp [hid, less_append]
  | some hidden => simp [hid]

theorem idOf_declared_iff_sampleEnv :
    let before := ["CHE_WORKSPACE_ID", "A_CHE_WORKSPACE_ID=workspacea1", "CHE_WORKSPACE_ID_SET"]
    let entry := "CHE_WORKSPACE_ID=workspacek6=workspace"
    let after := ["CHE_WORKSPACE_ID_PARENT=workspacea1"]
    EnvVar.ofEntry entry = ⟨idVariable, some ("workspace" ++ "k6=workspace")⟩ ∧
      (∀ e ∈ before ++ after, ∀ v, EnvVar.ofEntry e ≠ ⟨idVariable, some v⟩) ∧
      idOf (before ++ entry :: after) = .ok "k6=workspace" := by
  intro before entry after
  have hentry : EnvVar.ofEntry entry = ⟨idVariable, some ("workspace" ++ "k6=workspace")⟩ := by
    decide +kernel
  have hsole : ∀ e ∈ before ++ after, ∀ v, EnvVar.ofEntry e ≠ ⟨idVariable, some v⟩ := by
    have hothers : ∀ e ∈ before ++ after, (EnvVar.ofEntry e).value.isSome →
        (EnvVar.ofEntry e).name ≠ idVariable := by decide +kernel
    intro e he v hv
    exact hothers e he (by rw [hv]; rfl) (by rw [hv])
  refine ⟨hentry, hsole, (idOf_declared_iff hentry (by decide) hsole).2 ?_⟩
  rintro value ⟨earlier, e, later, hbefore, ⟨more, -, he⟩, -⟩
  have hmem : e ∈ before := by rw [hbefore]; simp
  have hnone : ∀ e ∈ before, offered e = none := by decide +kernel
  have hsome : offered e = some value := offered_eq_some_iff.2 ⟨more, he⟩
  rw [hnone e hmem] at hsome
  cases hsome

/-- A variable with a longer name hides the only entry for the id. -/
theorem idOf_hidden :
    let env := ["CHE_WORKSPACE_ID_PARENT=workspacea1", "CHE_WORKSPACE_ID=workspacek6"]
    (env.filter fun e => (EnvVar.ofEntry e).name = idVariable) = ["CHE_WORKSPACE_ID=workspacek6"] ∧
      idOf env = .ok "a1" ∧ idOf env ≠ .ok "k6" := by
  decide +kernel

end Workspace
end ContainerBridge
