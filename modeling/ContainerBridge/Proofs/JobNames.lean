import ContainerBridge.Proofs.Case
import ContainerBridge.Proofs.Entries
import ContainerBridge.Workspace.Directory
import Mathlib.Data.List.DropRight

/-! The names of the pods that work on the directories of workspaces, and the directories that they
work on. A pod is named for what is done and for the workspace, of which only the first characters
are kept: the name is a label just if a letter or digit ends what is kept. -/

namespace ContainerBridge.Workspace

variable {c : Char} {cs : List Char} {s workspace project claimName : String} {n : Nat}
  {command : FilesCommand} {pod : Cluster.JobPod}

/-! Labels -/

/-- A small letter or a digit. -/
def IsLabelLetter (c : Char) : Prop := c.isLower = true ∨ c.isDigit = true

instance (c : Char) : Decidable (IsLabelLetter c) :=
  inferInstanceAs (Decidable (c.isLower = true ∨ c.isDigit = true))

/-- A text that a label of a domain name may begin with. -/
structure LabelStart (s : String) : Prop where
  length : 1 ≤ s.toList.length ∧ s.toList.length ≤ 63
  chars : ∀ c ∈ s.toList, IsLabelLetter c ∨ c = '-'
  first : ∃ c ∈ s.toList.head?, IsLabelLetter c

/-- A label of a domain name. -/
structure DnsLabel (s : String) : Prop extends LabelStart s where
  last : ∃ c ∈ s.toList.getLast?, IsLabelLetter c

/-- A letter or digit stays one, and all else becomes a dash. -/
theorem labelChar_cases (c : Char) : (c.isAlphanum = true ∧ IsLabelLetter (labelChar c)) ∨
    (c.isAlphanum = false ∧ labelChar c = '-') := by
  by_cases hc : c.toNat < 128
  · exact Text.forall_ascii (P := fun c => (c.isAlphanum = true ∧ IsLabelLetter (labelChar c)) ∨
      (c.isAlphanum = false ∧ labelChar c = '-')) (by decide +kernel) hc
  · have hother : c.isAlphanum = false :=
      Bool.eq_false_iff.2 fun h => hc (Text.ascii_of_isAlphanum h)
    refine .inr ⟨hother, ?_⟩
    rw [labelChar, Text.toLower_of_not_ascii hc, hother]
    rfl

theorem not_isLabelLetter_dash : ¬ IsLabelLetter '-' := by decide

theorem not_dnsLabel_of_dash (h : s.toList.getLast? = some '-') : ¬ DnsLabel s := by
  intro hs
  obtain ⟨c, hc, hl⟩ := hs.last
  obtain rfl := Option.some.inj (h.symm.trans hc)
  exact not_isLabelLetter_dash hl

theorem labelChar_eq_dash_iff : labelChar c = '-' ↔ c.isAlphanum = false := by
  obtain ⟨hc, hl⟩ | ⟨hc, hl⟩ := labelChar_cases c
  · simp only [hc, Bool.true_eq_false, iff_false]
    intro h
    exact not_isLabelLetter_dash (h ▸ hl)
  · simp [hc, hl]

theorem isLabelLetter_labelChar_iff : IsLabelLetter (labelChar c) ↔ c.isAlphanum = true := by
  obtain ⟨hc, hl⟩ | ⟨hc, hl⟩ := labelChar_cases c
  · simp [hc, hl]
  · simp [hc, hl, not_isLabelLetter_dash]

theorem toList_dnsLabel (s : String) :
    (dnsLabel s).toList = (s.toList.map labelChar).rdropWhile (· = '-') :=
  String.toList_ofList

/-- What becomes of a text's character is a letter or digit just if it is no dash. -/
theorem isLabelLetter_iff_of_mem (h : c ∈ cs.map labelChar) :
    IsLabelLetter c ↔ decide (c = '-') = false := by
  obtain ⟨d, -, rfl⟩ := List.mem_map.1 h
  rw [isLabelLetter_labelChar_iff, decide_eq_false_iff_not, labelChar_eq_dash_iff,
    Bool.not_eq_false]

theorem exists_letter_map_iff :
    (∃ c ∈ cs.map labelChar, decide (c = '-') = false) ↔ ∃ c ∈ cs, c.isAlphanum = true := by
  constructor
  · rintro ⟨c, hc, hl⟩
    obtain ⟨d, hd, rfl⟩ := List.mem_map.1 hc
    exact ⟨d, hd, isLabelLetter_labelChar_iff.1 ((isLabelLetter_iff_of_mem hc).2 hl)⟩
  · rintro ⟨d, hd, hl⟩
    have hc := List.mem_map_of_mem (f := labelChar) hd
    exact ⟨_, hc, (isLabelLetter_iff_of_mem hc).1 (isLabelLetter_labelChar_iff.2 hl)⟩

/-! What is kept of a name -/

/-- There is a letter or digit, and if one is behind the first `n` characters, one ends these. -/
structure EndsKept (n : Nat) (cs : List Char) : Prop where
  some : ∃ c ∈ cs, c.isAlphanum = true
  cut : (∃ c ∈ cs.drop n, c.isAlphanum = true) → ∃ c ∈ cs[n - 1]?, c.isAlphanum = true

theorem endsKept_iff_of_behind (h : ∃ c ∈ cs.drop n, c.isAlphanum = true) :
    EndsKept n cs ↔ ∃ c ∈ cs[n - 1]?, c.isAlphanum = true := by
  refine ⟨fun he => he.cut h, fun he => ⟨?_, fun _ => he⟩⟩
  obtain ⟨c, hc, hl⟩ := h
  exact ⟨c, List.mem_of_mem_drop hc, hl⟩

theorem endsKept_iff_of_not_behind (h : ¬ ∃ c ∈ cs.drop n, c.isAlphanum = true) :
    EndsKept n cs ↔ ∃ c ∈ cs.take n, c.isAlphanum = true := by
  constructor
  · rintro ⟨⟨c, hc, hl⟩, -⟩
    rw [← List.take_append_drop n cs, List.mem_append] at hc
    exact hc.elim (fun hc => ⟨c, hc, hl⟩) fun hc => (h ⟨c, hc, hl⟩).elim
  · rintro ⟨c, hc, hl⟩
    exact ⟨⟨c, List.mem_of_mem_take hc, hl⟩, fun he => (h he).elim⟩

section
variable {α : Type} {p : α → Bool} {l : List α}

/-- A cut before what is not dropped comes to the same before and after the rest is dropped. -/
theorem take_rdropWhile_of_exists (h : ∃ x ∈ l.drop n, p x = false) :
    (l.rdropWhile p).take n = l.take n := by
  have hrest : ((l.drop n).reverse.dropWhile p).isEmpty = false := by simpa using h
  have hsplit : l.rdropWhile p = l.take n ++ (l.drop n).rdropWhile p := by
    conv_lhs => rw [← List.take_append_drop n l]
    rw [List.rdropWhile, List.reverse_append, List.dropWhile_append, hrest]
    simp [List.rdropWhile]
  obtain ⟨x, hx, -⟩ := h
  have hlong : n < l.length := Nat.not_le.1 (List.drop_eq_nil_iff.not.1 (List.ne_nil_of_mem hx))
  rw [hsplit, List.take_left' (List.length_take_of_le hlong.le)]

/-- If all that is behind the cut is dropped, the cut may come first. -/
theorem take_rdropWhile_of_forall (h : ∀ x ∈ l.drop n, p x = true) :
    (l.rdropWhile p).take n = (l.take n).rdropWhile p := by
  have hrest : ∀ x ∈ (l.drop n).reverse, p x = true := fun x hx => h x (List.mem_reverse.1 hx)
  have hsplit : l.rdropWhile p = (l.take n).rdropWhile p := by
    conv_lhs => rw [← List.take_append_drop n l]
    rw [List.rdropWhile, List.reverse_append, List.dropWhile_append_of_pos hrest, List.rdropWhile]
  rw [hsplit]
  exact List.take_of_length_le
    ((List.rdropWhile_prefix _ _).length_le.trans (List.length_take_le _ _))

theorem getLast?_rdropWhile_iff :
    (∃ x ∈ (l.rdropWhile p).getLast?, p x = false) ↔ ∃ x ∈ l, p x = false := by
  constructor
  · rintro ⟨x, hx, hp⟩
    exact ⟨x, (List.rdropWhile_prefix p l).mem (List.mem_of_getLast? hx), hp⟩
  · rintro ⟨x, hx, hp⟩
    have hne : l.rdropWhile p ≠ [] := by
      rw [Ne, List.rdropWhile_eq_nil_iff]
      intro h
      rw [h x hx] at hp
      cases hp
    refine ⟨_, List.getLast?_eq_some_getLast hne, ?_⟩
    exact Bool.eq_false_iff.2 (List.rdropWhile_last_not p l hne)

end

/-- The first `n` characters of a label end in a letter or digit just if one ends what is kept of
the text. -/
theorem endsKept_iff (hn : 0 < n) (s : String) :
    (∃ c ∈ ((dnsLabel s).toList.take n).getLast?, IsLabelLetter c) ↔ EndsKept n s.toList := by
  rw [toList_dnsLabel]
  by_cases h : ∃ c ∈ s.toList.drop n, c.isAlphanum = true
  · have hcut : ∃ c ∈ (s.toList.map labelChar).drop n, decide (c = '-') = false := by
      rw [← List.map_drop]
      exact exists_letter_map_iff.2 h
    have hlong : n - 1 < s.toList.length := by
      obtain ⟨c, hc, -⟩ := h
      have hlt := Nat.not_le.1 (List.drop_eq_nil_iff.not.1 (List.ne_nil_of_mem hc))
      omega
    rw [endsKept_iff_of_behind h, take_rdropWhile_of_exists hcut, ← List.map_take,
      List.getLast?_map, List.getLast?_take, if_neg hn.ne', List.getElem?_eq_getElem hlong]
    simp [isLabelLetter_labelChar_iff]
  · have hdashes : ∀ c ∈ (s.toList.map labelChar).drop n, decide (c = '-') = true := by
      intro c hc
      rw [← List.map_drop] at hc
      by_contra hl
      exact h (exists_letter_map_iff.1 ⟨c, hc, Bool.eq_false_iff.2 hl⟩)
    rw [endsKept_iff_of_not_behind h, take_rdropWhile_of_forall hdashes, ← List.map_take,
      ← exists_letter_map_iff, ← getLast?_rdropWhile_iff]
    refine exists_congr fun c => and_congr_right fun hc => ?_
    exact isLabelLetter_iff_of_mem ((List.rdropWhile_prefix _ _).mem (List.mem_of_getLast? hc))

/-! The pod of a command -/

/-- How many characters of the workspace's name are kept in the name of the pod. -/
def FilesCommand.room (command : FilesCommand) : Nat :=
  nameLimit - command.podStart.toList.length

theorem toList_jobName (command : FilesCommand) (s : String) :
    (normalizeName (command.podStart ++ dnsLabel s)).toList =
      command.podStart.toList ++ (dnsLabel s).toList.take command.room := by
  have hstart : command.podStart.toList.length ≤ nameLimit := by cases command <;> decide
  rw [normalizeName, Text.takeChars, String.toList_ofList, String.toList_append,
    List.take_append, List.take_of_length_le hstart]
  rfl

/-- Whatever the name of the workspace, the name of the pod begins like a label. -/
theorem labelStart_jobName (command : FilesCommand) (s : String) :
    LabelStart (normalizeName (command.podStart ++ dnsLabel s)) := by
  have hname := toList_jobName command s
  constructor
  case length =>
    have hstart : 1 ≤ command.podStart.toList.length ∧
        command.podStart.toList.length + command.room = 63 := by
      cases command <;> decide
    have hkept : ((dnsLabel s).toList.take command.room).length ≤ command.room :=
      List.length_take_le _ _
    rw [hname, List.length_append]
    omega
  case chars =>
    intro c hc
    rw [hname, List.mem_append] at hc
    obtain hc | hc := hc
    · have hstart : command.podStart.toList.all (fun c => decide (IsLabelLetter c ∨ c = '-')) =
          true := by
        cases command <;> decide
      exact of_decide_eq_true (List.all_eq_true.1 hstart c hc)
    · have hmem := List.mem_of_mem_take hc
      rw [toList_dnsLabel] at hmem
      obtain ⟨d, -, rfl⟩ := List.mem_map.1 ((List.rdropWhile_prefix _ _).mem hmem)
      exact (labelChar_cases d).imp And.right And.right
  case first =>
    rw [hname, List.head?_append]
    cases command with
    | make => exact ⟨'m', rfl, by decide⟩
    | remove => exact ⟨'d', rfl, by decide⟩

/-- The name of the pod is a label just if it does not end in a dash. -/
theorem dnsLabel_jobName_iff (command : FilesCommand) (s : String) :
    DnsLabel (normalizeName (command.podStart ++ dnsLabel s)) ↔ EndsKept command.room s.toList := by
  have hroom : 0 < command.room := by cases command <;> decide
  have hdash : command.podStart.toList.getLast? = some '-' := by cases command <;> rfl
  rw [← endsKept_iff hroom]
  have hlast :
      (∃ c ∈ (normalizeName (command.podStart ++ dnsLabel s)).toList.getLast?, IsLabelLetter c) ↔
        ∃ c ∈ ((dnsLabel s).toList.take command.room).getLast?, IsLabelLetter c := by
    rw [toList_jobName, List.getLast?_append]
    cases ((dnsLabel s).toList.take command.room).getLast? with
    | none => simp [hdash, not_isLabelLetter_dash]
    | some c => rfl
  rw [← hlast]
  exact ⟨DnsLabel.last, DnsLabel.mk (labelStart_jobName command s)⟩

/-! The directory -/

/-- The steps from the root to where a path leads: an empty step and a dot stay where they are, two
dots go back. -/
def stepsOf (path : String) : List String :=
  (Text.splitAll '/' path).foldl (fun dir step =>
    if step = "" ∨ step = "." then dir
    else if step = ".." then dir.dropLast
    else dir ++ [step]) []

/-- A directory with an accepted name lies right in the directory of all projects. -/
theorem stepsOf_child (h : isDirectoryName s = true) :
    stepsOf ("/projects/" ++ s) = ["projects", s] := by
  simp only [isDirectoryName, Bool.and_eq_true, decide_eq_true_eq, Bool.not_eq_true',
    List.contains_eq_mem, decide_eq_false_iff_not] at h
  obtain ⟨⟨⟨hempty, hdot⟩, hup⟩, hslash⟩ := h
  have hparts : Text.splitAll '/' ("/projects/" ++ s) = ["", "projects", s] := by
    refine (Text.Separates.eq_splitAll ⟨by simp, ?_, ?_⟩).symm
    · simp only [List.mem_cons, List.not_mem_nil, or_false, forall_eq_or_imp, forall_eq]
      exact ⟨by decide, by decide, hslash⟩
    · apply String.toList_inj.1
      simp
  rw [stepsOf, hparts]
  simp [hempty, hdot, hup]

/-- The pod's name begins like a label and is one just if a letter or digit ends what is kept of the
workspace's name; the command works on the directory of that name right in that of all projects. -/
theorem dnsLabel_jobPod_iff
    (h : jobPod command workspace project claimName = .ok pod) :
    LabelStart pod.name ∧ (DnsLabel pod.name ↔ EndsKept command.room workspace.toList) ∧
      pod.command.getLast? = some ("/projects/" ++ workspace) ∧
      stepsOf ("/projects/" ++ workspace) = ["projects", workspace] := by
  unfold jobPod at h
  split at h
  · next hname =>
    obtain rfl := Except.ok.inj h
    refine ⟨labelStart_jobName command workspace, dnsLabel_jobName_iff command workspace, ?_,
      stepsOf_child hname⟩
    rw [List.getLast?_concat]
    rfl
  · cases h

theorem dnsLabel_jobPod_iff_sampleName :
    let workspace := "Проект_" ++ String.ofList (List.replicate 50 'a') ++ "B-9"
    let name := "make--------" ++ String.ofList (List.replicate 50 'a') ++ "b"
    let pod : Cluster.JobPod := ⟨"che", name, "busybox", ["mkdir", "-p", "/projects/" ++ workspace],
      "claim", "/projects"⟩
    jobPod .make workspace "che" "claim" = .ok pod ∧ DnsLabel name := by
  intro workspace name pod
  have h : jobPod .make workspace "che" "claim" = .ok pod := by decide +kernel
  refine ⟨h, (dnsLabel_jobPod_iff h).2.1.2 ⟨?_, fun _ => ?_⟩⟩
  · exact ⟨'9', by decide +kernel, by decide⟩
  · exact ⟨'B', by decide +kernel, by decide⟩

/-- A name without a letter or digit leaves the dash of the command at the end, and the cut may
leave one of its own. -/
theorem jobPod_dashed :
    let kept := String.ofList (List.replicate 57 'a') ++ "-"
    (jobPod .make "проект" "che" "claim").map (·.name) = .ok "make-" ∧ ¬ DnsLabel "make-" ∧
      (jobPod .make (kept ++ "b") "che" "claim").map (·.name) = .ok ("make-" ++ kept) ∧
      ¬ DnsLabel ("make-" ++ kept) := by
  intro kept
  refine ⟨by decide +kernel, not_dnsLabel_of_dash (by decide), by decide +kernel, ?_⟩
  exact not_dnsLabel_of_dash (by decide +kernel)

end ContainerBridge.Workspace
