import ContainerBridge.Proofs.Entries
import ContainerBridge.Proofs.Percent
import ContainerBridge.Url.Basic

/-! The segments of a path. Following segments from a directory adds them to it, unless some are
dots; each dot that is followed leaves the path standing for fewer bytes than the segments have
together. -/

namespace ContainerBridge

namespace Text

variable {sep c : Char} {cs ds : List Char}

theorem parts_cons_self (sep : Char) (cs : List Char) :
    parts sep (sep :: cs) = [] :: parts sep cs := by
  rw [parts, if_pos rfl]

theorem parts_cons_of_ne (h : c ≠ sep) (cs : List Char) :
    ∃ p ps, parts sep cs = p :: ps ∧ parts sep (c :: cs) = (c :: p) :: ps := by
  rw [parts, if_neg h]
  cases hp : parts sep cs with
  | nil => exact (List.splitOn_ne_nil sep cs (parts_eq_splitOn sep cs ▸ hp)).elim
  | cons p ps => exact ⟨p, ps, rfl, rfl⟩

theorem parts_of_not_mem (h : sep ∉ cs) : parts sep cs = [cs] := by
  induction cs with
  | nil => rfl
  | cons c cs ih =>
    rw [List.mem_cons, not_or] at h
    rw [parts, if_neg (Ne.symm h.1), ih h.2]

theorem parts_append_cons (h : sep ∉ cs) (ds : List Char) :
    parts sep (cs ++ sep :: ds) = cs :: parts sep ds := by
  induction cs with
  | nil => exact parts_cons_self sep ds
  | cons c cs ih =>
    rw [List.mem_cons, not_or] at h
    rw [List.cons_append, parts, if_neg (Ne.symm h.1), ih h.2]

theorem length_parts (sep : Char) (cs : List Char) :
    (parts sep cs).length = cs.count sep + 1 := by
  induction cs with
  | nil => rfl
  | cons c cs ih =>
    by_cases hc : c = sep
    · subst hc
      rw [parts_cons_self, List.length_cons, ih, List.count_cons_self]
    · obtain ⟨p, ps, hp, hq⟩ := parts_cons_of_ne hc cs
      rw [hp] at ih
      rw [hq, List.count_cons_of_ne hc, ← ih]
      rfl

/-- A text is made of its parts, each behind a separator, but for the first of these. -/
theorem flatMap_parts (sep : Char) (cs : List Char) :
    ((parts sep cs).flatMap fun p => sep :: p) = sep :: cs := by
  induction cs with
  | nil => rfl
  | cons c cs ih =>
    by_cases hc : c = sep
    · subst hc
      rw [parts_cons_self, List.flatMap_cons, ih]
      rfl
    · obtain ⟨p, ps, hp, hq⟩ := parts_cons_of_ne hc cs
      rw [hp, List.flatMap_cons, List.cons_append, List.cons.injEq] at ih
      rw [hq, List.flatMap_cons, List.cons_append, List.cons_append, ih.2]

end Text

namespace Url

open Text

variable {dir l : List String} {s scheme : String} {c : Char} {cs : List Char}

/-- A segment that names what lies in a directory; the others are dots. -/
def IsName (s : String) : Prop := isDot s = false ∧ isDoubleDot s = false

instance (s : String) : Decidable (IsName s) :=
  inferInstanceAs (Decidable (isDot s = false ∧ isDoubleDot s = false))

theorem walk_cons_of_isName (h : IsName s) (dir l : List String) :
    walk dir (s :: l) = walk (dir ++ [s]) l := by
  obtain ⟨hdot, hdouble⟩ := h
  cases l <;> simp [walk, hdot, hdouble]

theorem walk_of_names (h : ∀ s ∈ l, IsName s) : walk dir l = dir ++ l := by
  induction l generalizing dir with
  | nil => rw [walk, List.append_nil]
  | cons s l ih =>
    obtain ⟨hs, hl⟩ := List.forall_mem_cons.1 h
    rw [walk_cons_of_isName hs, ih hl, List.append_assoc, List.singleton_append]

theorem walk_ne_nil (h : l ≠ []) : walk dir l ≠ [] := by
  fun_induction walk dir l with
  | case1 => exact (h rfl).elim
  | case2 | case3 | case4 => simp
  | case5 dir s rest hrest hup ih => exact ih hrest
  | case6 dir s rest hrest hup hstay ih => exact ih hrest
  | case7 dir s rest hrest hup hstay ih => exact ih hrest

/-- Following segments makes no new ones, except for an empty one behind a last dot. -/
theorem forall_mem_walk {P : String → Prop} (hempty : P "") (hdir : ∀ s ∈ dir, P s)
    (hl : ∀ s ∈ l, P s) : ∀ s ∈ walk dir l, P s := by
  have hdrop {dir : List String} (hdir : ∀ s ∈ dir, P s) : ∀ s ∈ dir.dropLast, P s :=
    fun s hs => hdir s (List.mem_of_mem_take (List.dropLast_eq_take ▸ hs))
  fun_induction walk dir l with
  | case1 dir => exact hdir
  | case2 dir s hup =>
    exact List.forall_mem_append.2 ⟨hdrop hdir, List.forall_mem_singleton.2 hempty⟩
  | case3 dir s hup hstay =>
    exact List.forall_mem_append.2 ⟨hdir, List.forall_mem_singleton.2 hempty⟩
  | case4 dir s hup hstay => exact List.forall_mem_append.2 ⟨hdir, hl⟩
  | case5 dir s rest hrest hup ih => exact ih (hdrop hdir) (List.forall_mem_cons.1 hl).2
  | case6 dir s rest hrest hup hstay ih => exact ih hdir (List.forall_mem_cons.1 hl).2
  | case7 dir s rest hrest hup hstay ih =>
    obtain ⟨hs, hl⟩ := List.forall_mem_cons.1 hl
    exact ih (List.forall_mem_append.2 ⟨hdir, List.forall_mem_singleton.2 hs⟩) hl

/-! How much a path stands for -/

/-- The number of bytes that a path of segments stands for, slashes included. -/
def weight (l : List String) : Nat := (l.flatMap fun s => 0x2F :: percentDecode (bytes s)).length

@[simp] theorem weight_nil : weight [] = 0 := rfl

@[simp] theorem weight_cons (s : String) (l : List String) :
    weight (s :: l) = 1 + (percentDecode (bytes s)).length + weight l := by
  rw [weight, List.flatMap_cons, List.length_append, List.length_cons, Nat.add_comm 1, weight]

@[simp] theorem weight_append (l k : List String) : weight (l ++ k) = weight l + weight k := by
  simp [weight]

theorem weight_dropLast_le (l : List String) : weight l.dropLast ≤ weight l := by
  rcases List.eq_nil_or_concat l with rfl | ⟨k, s, rfl⟩
  · exact Nat.le_refl _
  · rw [List.concat_eq_append, List.dropLast_concat, weight_append]
    omega

theorem percentDecode_eq_nil {bs : List UInt8} (h : percentDecode bs = []) : bs = [] := by
  induction bs using percent_induction with
  | nil => rfl
  | hex x y d l hd ih => simp [percentDecode_hex hd] at h
  | percent l hl ih => simp [percentDecode_percent hl] at h
  | cons b l hb ih => simp [percentDecode_cons hb] at h

/-- A dot has a byte besides its slash. -/
theorem length_pos_of_not_isName (h : ¬ IsName s) : 0 < (percentDecode (bytes s)).length := by
  by_contra hlen
  have hbytes : bytes s = [] := percentDecode_eq_nil (List.eq_nil_of_length_eq_zero (by omega))
  have hs : s.toList = [] := by
    cases hl : s.toList with
    | nil => rfl
    | cons c cs => simp [bytes_eq_utf8, hl, String.utf8EncodeChar_ne_nil] at hbytes
  obtain rfl := String.toList_eq_nil_iff.1 hs
  exact h (by decide +kernel)

/-- Following segments never makes a path stand for more than it and they do together, and for as
much only where each of them is a name. -/
theorem weight_walk (dir l : List String) :
    weight (walk dir l) ≤ weight dir + weight l ∧
      (weight (walk dir l) = weight dir + weight l → ∀ s ∈ l, IsName s) := by
  fun_induction walk dir l with
  | case1 dir => simp
  | case2 dir s hup =>
    have hs : 0 < (percentDecode (bytes s)).length :=
      length_pos_of_not_isName fun hn => by simp [hn.2] at hup
    have hdir := weight_dropLast_le dir
    have hempty : (percentDecode (bytes "")).length = 0 := by decide +kernel
    simp only [weight_append, weight_cons, weight_nil, hempty]
    omega
  | case3 dir s hup hstay =>
    have hs : 0 < (percentDecode (bytes s)).length :=
      length_pos_of_not_isName fun hn => by simp [hn.1] at hstay
    have hempty : (percentDecode (bytes "")).length = 0 := by decide +kernel
    simp only [weight_append, weight_cons, weight_nil, hempty]
    omega
  | case4 dir s hup hstay =>
    refine ⟨by simp, fun _ t ht => ?_⟩
    obtain rfl := List.mem_singleton.1 ht
    exact ⟨by simpa using hstay, by simpa using hup⟩
  | case5 dir s rest hrest hup ih =>
    have hdir := weight_dropLast_le dir
    have hle := ih.1
    rw [weight_cons]
    omega
  | case6 dir s rest hrest hup hstay ih =>
    have hle := ih.1
    rw [weight_cons]
    omega
  | case7 dir s rest hrest hup hstay ih =>
    obtain ⟨hle, hnames⟩ := ih
    simp only [weight_append, weight_cons, weight_nil] at hle hnames ⊢
    refine ⟨by omega, fun heq t ht => ?_⟩
    rcases List.mem_cons.1 ht with rfl | ht
    · exact ⟨by simpa using hstay, by simpa using hup⟩
    · exact hnames (by omega) t ht

/-! The segments of a text -/

/-- A text without the signs that end a segment. -/
def IsSegment (s : String) : Prop := ∀ c ∈ s.toList, c ≠ '/' ∧ c ≠ '?' ∧ c ≠ '#'

instance (s : String) : Decidable (IsSegment s) :=
  decidable_of_iff (s.toList.all (fun c => c ≠ '/' ∧ c ≠ '?' ∧ c ≠ '#') = true)
    (by simp only [List.all_eq_true, decide_eq_true_eq, IsSegment])

theorem isSegment_empty : IsSegment "" := by
  intro c hc
  simp at hc

/-- The text in which every sign that counts as a slash is one. -/
def slashesOf (scheme : String) (cs : List Char) : List Char :=
  cs.map fun c => if isSlash scheme c then '/' else c

theorem splitPath_eq_map (scheme : String) (cs : List Char) :
    splitPath scheme cs = (parts '/' (slashesOf scheme cs)).map (percentEncode inPath) := rfl

theorem splitPath_ne_nil (scheme : String) (cs : List Char) : splitPath scheme cs ≠ [] := by
  have hlen := length_parts '/' (slashesOf scheme cs)
  rw [splitPath_eq_map, Ne, List.map_eq_nil_iff, ← List.length_eq_zero_iff]
  omega

theorem isSegment_percentEncode (h : '/' ∉ cs) : IsSegment (percentEncode inPath cs) := by
  intro c hc
  refine ⟨?_, ?_, ?_⟩
  · rintro rfl
    exact h (mem_of_mem_percentEncode hc (by decide) (by decide)).1
  · rintro rfl
    have hq := (mem_of_mem_percentEncode hc (by decide) (by decide)).2
    exact absurd hq (by decide)
  · rintro rfl
    have hq := (mem_of_mem_percentEncode hc (by decide) (by decide)).2
    exact absurd hq (by decide)

theorem isSegment_of_mem_splitPath (h : s ∈ splitPath scheme cs) : IsSegment s := by
  rw [splitPath_eq_map] at h
  obtain ⟨p, hp, rfl⟩ := List.mem_map.1 h
  exact isSegment_percentEncode (not_mem_of_mem_parts hp)

theorem length_utf8_slashesOf (scheme : String) (cs : List Char) :
    (utf8 (slashesOf scheme cs)).length = (utf8 cs).length := by
  induction cs with
  | nil => rfl
  | cons c cs ih =>
    have hc : (String.utf8EncodeChar (if isSlash scheme c then '/' else c)).length =
        (String.utf8EncodeChar c).length := by
      by_cases hs : isSlash scheme c = true
      · rw [if_pos hs]
        have hcase : c = '/' ∨ c = '\\' := by
          simp only [isSlash, Bool.or_eq_true, Bool.and_eq_true, decide_eq_true_eq] at hs
          exact hs.imp id And.right
        rcases hcase with rfl | rfl <;> rfl
      · rw [if_neg hs]
    rw [slashesOf, List.map_cons, utf8_cons, utf8_cons, List.length_append, List.length_append, hc]
    exact congrArg _ ih

theorem weight_percentEncode (ps : List (List Char)) :
    weight (ps.map (percentEncode inPath)) ≤ (utf8 (ps.flatMap fun p => '/' :: p)).length ∧
      (weight (ps.map (percentEncode inPath)) = (utf8 (ps.flatMap fun p => '/' :: p)).length →
        ∀ p ∈ ps, percentDecode (utf8 p) = utf8 p) := by
  induction ps with
  | nil => simp
  | cons p ps ih =>
    obtain ⟨hle, heq⟩ := ih
    have hp := length_percentDecode_le (utf8 p)
    have hslash : (String.utf8EncodeChar '/').length = 1 := rfl
    simp only [List.map_cons, List.flatMap_cons, List.cons_append, utf8_cons, utf8_append,
      List.length_append, weight_cons, hslash,
      percentDecode_percentEncode basic_inPath keepsDigits_inPath]
    refine ⟨by omega, fun h q hq => ?_⟩
    rcases List.mem_cons.1 hq with rfl | hq
    · exact percentDecode_eq_self (by omega)
    · exact heq (by omega) q hq

/-- The segments of a text stand for no more than the text has, and for as much only if each part of
it stands for itself. -/
theorem weight_splitPath (scheme : String) (cs : List Char) :
    weight (splitPath scheme cs) ≤ 1 + (utf8 cs).length ∧
      (weight (splitPath scheme cs) = 1 + (utf8 cs).length →
        ∀ p ∈ parts '/' (slashesOf scheme cs), percentDecode (utf8 p) = utf8 p) := by
  have hlen : (utf8 ((parts '/' (slashesOf scheme cs)).flatMap fun p => '/' :: p)).length =
      1 + (utf8 cs).length := by
    rw [flatMap_parts, utf8_cons, List.length_append, length_utf8_slashesOf]
    rfl
  rw [splitPath_eq_map, ← hlen]
  exact weight_percentEncode _

/-! The text of a path -/

/-- Segments, each behind a slash. -/
def slashed (l : List String) : List Char := l.flatMap fun s => '/' :: s.toList

theorem toList_pathText {u : Url} (h : u.path = .segments l) : u.pathText.toList = slashed l := by
  rw [pathText, h, String.toList_join, List.flatMap_map]
  exact List.flatMap_congr fun s _ => by simp

@[simp] theorem slashed_append (l k : List String) : slashed (l ++ k) = slashed l ++ slashed k :=
  List.flatMap_append

/-- The signs of a path of segments are those of the segments, and slashes. -/
theorem forall_mem_slashed {P : Char → Prop} (hslash : P '/') (h : ∀ s ∈ l, ∀ c ∈ s.toList, P c) :
    ∀ c ∈ slashed l, P c := by
  intro c hc
  obtain ⟨s, hs, hc⟩ := List.mem_flatMap.1 hc
  rcases List.mem_cons.1 hc with rfl | hc
  · exact hslash
  · exact h s hs c hc

/-- No query begins in a path of segments. -/
theorem not_mem_slashed (h : ∀ s ∈ l, IsSegment s) : '?' ∉ slashed l := by
  intro hc
  exact forall_mem_slashed (by decide) (fun s hs c hc => (h s hs c hc).2.1) _ hc rfl

theorem parts_slashed (h : ∀ s ∈ l, IsSegment s) :
    parts '/' (slashed l) = [] :: l.map String.toList := by
  induction l with
  | nil => rfl
  | cons s l ih =>
    obtain ⟨hs, hl⟩ := List.forall_mem_cons.1 h
    have hmem : '/' ∉ s.toList := fun hc => (hs '/' hc).1 rfl
    rw [show slashed (s :: l) = '/' :: (s.toList ++ slashed l) from rfl, parts_cons_self]
    cases l with
    | nil => simp [slashed, parts_of_not_mem hmem]
    | cons t l =>
      have hrest := ih hl
      rw [show slashed (t :: l) = '/' :: (t.toList ++ slashed l) from rfl] at hrest ⊢
      rw [parts_cons_self] at hrest
      rw [parts_append_cons hmem, (List.cons.inj hrest).2]
      rfl

/-- A path is made of its segments in one way. -/
theorem slashed_injective {k : List String} (hl : ∀ s ∈ l, IsSegment s)
    (hk : ∀ s ∈ k, IsSegment s) (h : slashed l = slashed k) : l = k := by
  have hparts : l.map String.toList = k.map String.toList := by
    rw [← List.cons_inj_right [], ← parts_slashed hl, ← parts_slashed hk, h]
  exact List.map_injective_iff.2 (fun _ _ => String.toList_inj.1) hparts

/-! URLs with a path of segments -/

/-- A URL for requests over HTTP. -/
def IsHttp (u : Url) : Prop := u.scheme = "http" ∨ u.scheme = "https"

/-- The URL has a path of segments, at least one. -/
def HasSegments (u : Url) (l : List String) : Prop :=
  u.path = .segments l ∧ l ≠ [] ∧ ∀ s ∈ l, IsSegment s

theorem rootedPath_segments (h : isSpecial scheme = true) (cs : List Char) :
    rootedPath scheme cs ≠ [] ∧ ∀ s ∈ rootedPath scheme cs, IsSegment s := by
  unfold rootedPath
  cases cs with
  | nil =>
    rw [h]
    exact ⟨List.cons_ne_nil _ _, List.forall_mem_singleton.2 isSegment_empty⟩
  | cons c rest =>
    refine ⟨walk_ne_nil (splitPath_ne_nil _ _), ?_⟩
    exact forall_mem_walk isSegment_empty (by simp) fun s hs => isSegment_of_mem_splitPath hs

theorem ok_of_bind_eq_ok {ε α β : Type} {x : Except ε α} {f : α → Except ε β} {b : β}
    (h : x >>= f = .ok b) : ∃ a, x = .ok a ∧ f a = .ok b := by
  cases x with
  | error e => cases h
  | ok a => exact ⟨a, rfl, h⟩

theorem parseAuthority_eq_ok {r : Reference} {u : Url} (h : parseAuthority scheme cs r = .ok u) :
    u.scheme = scheme ∧ ∃ path, u.path = .segments (rootedPath scheme path) := by
  unfold parseAuthority at h
  dsimp only at h
  obtain ⟨host, -, h⟩ := ok_of_bind_eq_ok h
  obtain ⟨-, h⟩ | ⟨-, h⟩ := ite_eq_iff.1 h
  · obtain ⟨_, hthrow, -⟩ := ok_of_bind_eq_ok h
    cases hthrow
  · obtain ⟨port, -, h⟩ := ok_of_bind_eq_ok h
    cases h
    exact ⟨rfl, _, rfl⟩

theorem scheme_parseAfterScheme {u : Url} (h : parseAfterScheme scheme cs = .ok u) :
    u.scheme = scheme := by
  unfold parseAfterScheme at h
  dsimp only at h
  split at h
  · exact (parseAuthority_eq_ok h).1
  · split at h
    · split at h
      · split at h
        · split at h
          · exact (parseAuthority_eq_ok h).1
          · cases h
            rfl
        · cases h
          rfl
      · split at h <;> (cases h; rfl)
    · cases h
      rfl

theorem hasSegments_of_parse {text : String} {u : Url} (h : Url.parse text = .ok u)
    (hu : u.IsHttp) : ∃ l, u.HasSegments l := by
  unfold Url.parse at h
  cases hs : splitScheme (clean text) with
  | none =>
    rw [hs] at h
    cases h
  | some r =>
    obtain ⟨scheme, rest⟩ := r
    rw [hs] at h
    dsimp only at h
    obtain rfl := scheme_parseAfterScheme h
    have hspecial : isSpecial u.scheme = true := by
      rcases hu with hu | hu <;> (rw [hu]; rfl)
    have hfile : u.scheme ≠ "file" := by
      rcases hu with hu | hu <;> (rw [hu]; decide)
    rw [parseAfterScheme, if_pos (by simp [hspecial, hfile])] at h
    obtain ⟨-, path, hpath⟩ := parseAuthority_eq_ok h
    obtain ⟨hne, hsegments⟩ := rootedPath_segments hspecial path
    exact ⟨_, hpath, hne, hsegments⟩

end Url
end ContainerBridge
