import ContainerBridge.Proofs.Case
import ContainerBridge.Proofs.Segments
import Mathlib.Data.List.TakeWhile

/-! Texts that are read relative to a URL. A text that begins with a name is followed from the
directory of the URL; what becomes of the rest of it depends on the signs in it. -/

namespace ContainerBridge.Url

open Text

variable {base : Url} {l : List String} {s t scheme : String} {cs head rest x : List Char}
  {c : Char}

/-! The parts of a reference -/

theorem main_reference (cs : List Char) :
    (Reference.of cs).main = (cs.takeWhile (· ≠ '#')).takeWhile (· ≠ '?') := by
  rw [← cut_eq_takeWhile '#', ← cut_eq_takeWhile '?', Reference.of]
  cases cut '#' cs with
  | none =>
    dsimp only [Option.map_none, Option.getD_none]
    cases cut '?' cs <;> rfl
  | some r =>
    dsimp only [Option.map_some, Option.getD_some]
    cases cut '?' r.1 <;> rfl

theorem reference_of_not_mem (hquery : '?' ∉ cs) (hfragment : '#' ∉ cs) :
    Reference.of cs = ⟨cs, none, none⟩ := by
  simp [Reference.of, cut_eq_none hquery, cut_eq_none hfragment]

/-! Schemes -/

theorem splitScheme_of_not_mem (h : ':' ∉ cs) : splitScheme cs = none := by
  rw [splitScheme, cut_eq_none h]

/-- A colon behind a slash ends no scheme. -/
theorem splitScheme_of_slash (h : ':' ∉ head) (rest : List Char) :
    splitScheme (head ++ '/' :: rest) = none := by
  rw [splitScheme]
  cases hc : cut ':' (head ++ '/' :: rest) with
  | none => rfl
  | some r =>
    obtain ⟨before, after⟩ := r
    obtain ⟨-, heq⟩ := append_of_cut_eq_some hc
    have hslash : '/' ∈ before := by
      obtain ⟨k, rfl, hk⟩ | ⟨k, rfl, hk⟩ := List.append_eq_append_iff.1 heq
      · cases k with
        | nil => simp at hk
        | cons d k =>
          obtain ⟨rfl, -⟩ := List.cons.inj hk
          simp
      · exfalso
        cases k with
        | nil => simp at hk
        | cons d k =>
          obtain ⟨rfl, -⟩ := List.cons.inj hk
          simp at h
    cases before with
    | nil => cases hslash
    | cons d before =>
      dsimp only
      rcases List.mem_cons.1 hslash with rfl | hmem
      · rfl
      · have hall : before.all isSchemeChar = false :=
          List.all_eq_false.2 ⟨'/', hmem, by decide⟩
        rw [hall, Bool.and_false, if_neg Bool.false_ne_true]

/-! Blanks around a text -/

/-- What is left of the end of a text. -/
def cleanEnd (cs : List Char) : List Char :=
  ((cs.reverse.dropWhile fun c => c.toNat ≤ 0x20).reverse).filter
    fun c => c ≠ '\t' && c ≠ '\n' && c ≠ '\r'

theorem cleanEnd_sublist (cs : List Char) : (cleanEnd cs).Sublist cs := by
  refine List.filter_sublist.trans ?_
  have hdrop := (List.dropWhile_sublist (l := cs.reverse) fun c => c.toNat ≤ 0x20).reverse
  rwa [List.reverse_reverse] at hdrop

theorem cleanEnd_eq_self (hlast : ∀ c, cs.getLast? = some c → 0x20 < c.toNat)
    (hcs : ∀ c ∈ cs, c ≠ '\t' ∧ c ≠ '\n' ∧ c ≠ '\r') : cleanEnd cs = cs := by
  have hdrop : (cs.reverse.dropWhile fun c => c.toNat ≤ 0x20) = cs.reverse := by
    cases hr : cs.reverse with
    | nil => rfl
    | cons c r =>
      have hc : 0x20 < c.toNat := hlast c (by rw [List.getLast?_eq_head?_reverse, hr]; rfl)
      exact List.dropWhile_cons_of_neg (by simpa using hc)
  rw [cleanEnd, hdrop, List.reverse_reverse, List.filter_eq_self]
  intro c hc
  simp [hcs c hc]

/-- Only a text without blanks of these kinds is left as it is. -/
theorem of_cleanEnd_eq_self (h : cleanEnd cs = cs) :
    (∀ c, cs.getLast? = some c → 0x20 < c.toNat) ∧ ∀ c ∈ cs, c ≠ '\t' ∧ c ≠ '\n' ∧ c ≠ '\r' := by
  constructor
  · intro c hc
    rw [List.getLast?_eq_head?_reverse] at hc
    cases hr : cs.reverse with
    | nil => simp [hr] at hc
    | cons d r =>
      obtain rfl : d = c := by simpa [hr] using hc
      by_contra hle
      have hlen := congrArg List.length h
      have hfilter := List.length_filter_le (fun c => c ≠ '\t' && c ≠ '\n' && c ≠ '\r')
        (cs.reverse.dropWhile fun c => c.toNat ≤ 0x20).reverse
      have hdrop := (List.dropWhile_sublist (l := r) fun c => c.toNat ≤ 0x20).length_le
      have hcons := congrArg List.length hr
      rw [cleanEnd] at hlen
      rw [hlen, hr, List.dropWhile_cons_of_pos (by simpa using hle)] at hfilter
      simp only [List.length_reverse, List.length_cons] at hfilter hcons hdrop
      omega
  · intro c hc
    rw [← h, cleanEnd, List.mem_filter] at hc
    simpa [and_assoc] using hc.2

/-- A text keeps a beginning of signs that are no blanks. -/
theorem clean_append (hne : head ≠ []) (hhead : ∀ c ∈ head, 0x20 < c.toNat)
    (ht : t.toList = head ++ x) : clean t = head ++ cleanEnd x := by
  have hkept : head.filter (fun c => c ≠ '\t' && c ≠ '\n' && c ≠ '\r') = head := by
    refine List.filter_eq_self.2 fun c hc => ?_
    have h := hhead c hc
    have hblank (d : Char) (hd : d.toNat ≤ 0x20) : c ≠ d := by
      rintro rfl
      omega
    simp [hblank '\t' (by decide), hblank '\n' (by decide), hblank '\r' (by decide)]
  have hfirst : (head ++ x).dropWhile (fun c => c.toNat ≤ 0x20) = head ++ x := by
    cases head with
    | nil => exact (hne rfl).elim
    | cons c head =>
      exact List.dropWhile_cons_of_neg (by simpa using hhead c List.mem_cons_self)
  have hback : head.reverse.dropWhile (fun c => c.toNat ≤ 0x20) = head.reverse := by
    cases hr : head.reverse with
    | nil => rfl
    | cons c r =>
      have hmem : c ∈ head := List.mem_reverse.1 (hr ▸ List.mem_cons_self)
      exact List.dropWhile_cons_of_neg (by simpa using hhead c hmem)
  have hend : ((head ++ x).reverse.dropWhile fun c => c.toNat ≤ 0x20).reverse =
      head ++ (x.reverse.dropWhile fun c => c.toNat ≤ 0x20).reverse := by
    rw [List.reverse_append, List.dropWhile_append, hback]
    split
    · rename_i hnil
      rw [List.isEmpty_iff.1 hnil]
      simp
    · simp
  simp only [clean, ht, hfirst, hend, List.filter_append, hkept]
  rfl

/-! Following a text from a directory -/

theorem join_of_main (hbase : base.path = .segments l) (hscheme : splitScheme (clean t) = none)
    (hmain : (Reference.of (clean t)).main = c :: rest) (hc : isSlash base.scheme c = false) :
    base.join t = .ok { base with
      path := .segments (walk l.dropLast (splitPath base.scheme (c :: rest)))
      query := (Reference.of (clean t)).queryText base.scheme
      fragment := (Reference.of (clean t)).fragmentText } := by
  rw [join, hscheme]
  simp only [hbase]
  rw [joinPath]
  simp only [hmain, hc]
  rfl

/-- A sign of which names are made: a letter, a digit or a dash. -/
def isWordChar (c : Char) : Bool := c.isAlphanum || c = '-' || c = '_'

/-- A text in which no sign has a meaning of its own in a URL. -/
def IsWord (s : String) : Prop := ∀ c ∈ s.toList, isWordChar c = true

instance (s : String) : Decidable (IsWord s) :=
  decidable_of_iff (s.toList.all isWordChar = true) List.all_eq_true

theorem isWordChar_lt (h : isWordChar c = true) : c.toNat < 0x80 := by
  simp only [isWordChar, Bool.or_eq_true, decide_eq_true_eq] at h
  obtain (h | rfl) | rfl := h
  · exact ascii_of_isAlphanum h
  · decide
  · decide

theorem isWordChar_plain (h : isWordChar c = true) :
    0x20 < c.toNat ∧ inPath c = false ∧ c ∉ ['%', '/', '\\', ':', '.'] := by
  refine forall_ascii (P := fun c => isWordChar c = true →
    0x20 < c.toNat ∧ inPath c = false ∧ c ∉ ['%', '/', '\\', ':', '.']) ?_ (isWordChar_lt h) h
  decide +kernel

theorem isSlash_eq_false (scheme : String) (h : isWordChar c = true) :
    isSlash scheme c = false := by
  have hno := (isWordChar_plain h).2.2
  simp only [List.mem_cons, not_or] at hno
  simp [isSlash, hno]

theorem IsWord.not_mem_colon (h : IsWord s) : ':' ∉ s.toList := by
  intro hmem
  have hno := (isWordChar_plain (h ':' hmem)).2.2
  simp at hno

/-- A text that a path takes as one segment as it stands: no sign in it ends the segment, is dropped
or counts as a slash, and it spells no other text with percent signs, nor a dot. -/
structure Plain (s : String) : Prop where
  unbroken : ∀ c ∈ s.toList, c ∉ ['/', '\\', '?', '#', '\t', '\n', '\r']
  undecoded : percentDecode (bytes s) = bytes s
  not_dot : s ≠ "."
  not_double : s ≠ ".."

/-- The segment that is written for a text. -/
def segmentOf (s : String) : String := percentEncode inPath s.toList

theorem percentDecode_segmentOf (s : String) :
    percentDecode (bytes (segmentOf s)) = percentDecode (bytes s) := by
  rw [segmentOf, percentDecode_percentEncode basic_inPath keepsDigits_inPath, bytes_eq_utf8 s]

theorem IsWord.segmentOf_eq (h : IsWord s) : segmentOf s = s := by
  rw [segmentOf, percentEncode_eq_self fun c hc => (isWordChar_plain (h c hc)).2.1,
    String.ofList_toList]

theorem IsWord.plain (h : IsWord s) : Plain s := by
  have hmem {d : Char} (hd : isWordChar d = false) : d ∉ s.toList := by
    intro hc
    rw [h d hc] at hd
    cases hd
  refine ⟨?_, percentDecode_of_not_mem ?_, ?_, ?_⟩
  · intro c hc hl
    have hall : ['/', '\\', '?', '#', '\t', '\n', '\r'].all (!isWordChar ·) = true := by decide
    exact hmem (by simpa using List.all_eq_true.1 hall c hl) hc
  · rw [bytes_eq_utf8, utf8, List.mem_flatMap]
    rintro ⟨c, hc, hb⟩
    rw [utf8EncodeChar_of_lt (isWordChar_lt (h c hc)), List.mem_singleton] at hb
    have hlt := isWordChar_lt (h c hc)
    have hnat : c.toNat = 0x25 := by
      have hn := congrArg UInt8.toNat hb
      rw [UInt8.toNat_ofNat', Nat.mod_eq_of_lt (by omega)] at hn
      exact hn.symm
    have hpercent : c = '%' := Char.toNat_inj.1 hnat
    exact hmem (by decide) (hpercent ▸ hc)
  · rintro rfl
    exact hmem (d := '.') (by decide) (by decide)
  · rintro rfl
    exact hmem (d := '.') (by decide) (by decide)

theorem isSegment_of_unbroken (h : ∀ c ∈ s.toList, c ∉ ['/', '\\', '?', '#', '\t', '\n', '\r']) :
    IsSegment s ∧ '\\' ∉ s.toList := by
  refine ⟨fun c hc => ?_, fun hc => h _ hc (by decide)⟩
  have hmem := h c hc
  simp only [List.mem_cons, not_or] at hmem
  exact ⟨hmem.1, hmem.2.2.1, hmem.2.2.2.1⟩

theorem Plain.isSegment (h : Plain s) : IsSegment s := (isSegment_of_unbroken h.unbroken).1

/-! Dots -/

theorem of_toLower (c : Char) : (c.toLower = '%' → c = '%') ∧ (c.toLower = '2' → c = '2') ∧
    (c.toLower = '.' → c = '.') ∧ (c.toLower = 'e' → c = 'e' ∨ c = 'E') := by
  by_cases hc : c.toNat < 128
  · refine forall_ascii (P := fun c => (c.toLower = '%' → c = '%') ∧ (c.toLower = '2' → c = '2') ∧
      (c.toLower = '.' → c = '.') ∧ (c.toLower = 'e' → c = 'e' ∨ c = 'E')) ?_ hc
    decide +kernel
  · rw [toLower_of_not_ascii hc]
    exact ⟨id, id, id, .inl⟩

theorem percentDecode_of_lower_dot (h : cs.map Char.toLower = '.' :: rest) :
    ∃ ds, ds.map Char.toLower = rest ∧
      percentDecode (utf8 cs) = 0x2E :: percentDecode (utf8 ds) := by
  obtain ⟨c, ds, rfl, hc, hds⟩ := List.map_eq_cons_iff.1 h
  obtain rfl := (of_toLower c).2.2.1 hc
  exact ⟨ds, hds, percentDecode_cons (by decide) _⟩

theorem percentDecode_of_lower_percent (h : cs.map Char.toLower = '%' :: '2' :: 'e' :: rest) :
    ∃ ds, ds.map Char.toLower = rest ∧
      percentDecode (utf8 cs) = 0x2E :: percentDecode (utf8 ds) := by
  obtain ⟨a, cs, rfl, ha, h⟩ := List.map_eq_cons_iff.1 h
  obtain ⟨b, cs, rfl, hb, h⟩ := List.map_eq_cons_iff.1 h
  obtain ⟨c, ds, rfl, hc, hds⟩ := List.map_eq_cons_iff.1 h
  obtain rfl := (of_toLower a).1 ha
  obtain rfl := (of_toLower b).2.1 hb
  refine ⟨ds, hds, ?_⟩
  obtain rfl | rfl := (of_toLower c).2.2.2 hc
  · exact percentDecode_hex (y := 0x65) (by decide) _
  · exact percentDecode_hex (y := 0x45) (by decide) _

/-- However a dot is spelled, it is read as one. -/
theorem percentDecode_of_not_isName (h : ¬ IsName s) :
    percentDecode (bytes s) = bytes "." ∨ percentDecode (bytes s) = bytes ".." := by
  have hspelled {t : String} (hlower : Text.lowerAscii s = t) :
      s.toList.map Char.toLower = t.toList := by
    rw [← hlower, Text.lowerAscii, String.toList_ofList]
  rw [bytes_eq_utf8, bytes_eq_utf8, bytes_eq_utf8]
  rw [IsName, not_and_or, Bool.not_eq_false, Bool.not_eq_false, isDot, isDoubleDot] at h
  simp only [Bool.or_eq_true, decide_eq_true_eq, List.contains_cons, List.contains_nil,
    Bool.or_false, beq_iff_eq] at h
  obtain (rfl | h) | rfl | h | h | h := h
  · exact .inl (by decide)
  · obtain ⟨ds, hds, hs⟩ := percentDecode_of_lower_percent (hspelled h)
    obtain rfl := List.map_eq_nil_iff.1 hds
    exact .inl hs
  · exact .inr (by decide)
  · obtain ⟨cs, hcs, hs⟩ := percentDecode_of_lower_dot (hspelled h)
    obtain ⟨ds, hds, hcs⟩ := percentDecode_of_lower_percent hcs
    obtain rfl := List.map_eq_nil_iff.1 hds
    exact .inr (hs.trans (congrArg _ hcs))
  · obtain ⟨cs, hcs, hs⟩ := percentDecode_of_lower_percent (hspelled h)
    obtain ⟨ds, hds, hcs⟩ := percentDecode_of_lower_dot hcs
    obtain rfl := List.map_eq_nil_iff.1 hds
    exact .inr (hs.trans (congrArg _ hcs))
  · obtain ⟨cs, hcs, hs⟩ := percentDecode_of_lower_percent (hspelled h)
    obtain ⟨ds, hds, hcs⟩ := percentDecode_of_lower_percent hcs
    obtain rfl := List.map_eq_nil_iff.1 hds
    exact .inr (hs.trans (congrArg _ hcs))

theorem Plain.isName (h : Plain s) : IsName (segmentOf s) := by
  by_contra hn
  have hdecode := percentDecode_of_not_isName hn
  rw [percentDecode_segmentOf, h.undecoded] at hdecode
  rcases hdecode with hs | hs
  · exact h.not_dot (bytes_injective hs)
  · exact h.not_double (bytes_injective hs)

/-! Joined paths -/

theorem slashesOf_eq_self (scheme : String) (h : '\\' ∉ cs) : slashesOf scheme cs = cs := by
  have hself : ∀ c ∈ cs, (if isSlash scheme c then '/' else c) = c := by
    intro c hc
    split
    · rename_i hs
      simp only [isSlash, Bool.or_eq_true, Bool.and_eq_true, decide_eq_true_eq] at hs
      obtain rfl | ⟨-, rfl⟩ := hs
      · rfl
      · exact (h hc).elim
    · rfl
  rw [slashesOf, List.map_congr_left hself, List.map_id']

variable {first : String} {segs : List String}

/-- A text of segments that hold no backslash either has those parts. -/
theorem parts_slashesOf (h : ∀ s ∈ first :: segs, IsSegment s ∧ '\\' ∉ s.toList) (scheme : String) :
    parts '/' (slashesOf scheme (first.toList ++ slashed segs)) =
      (first :: segs).map String.toList := by
  have hcons : slashed (first :: segs) = '/' :: (first.toList ++ slashed segs) := rfl
  have hparts := parts_slashed fun s hs => (h s hs).1
  have hbackslash : '\\' ∉ slashed (first :: segs) := by
    intro hc
    refine forall_mem_slashed (P := (· ≠ '\\')) (by decide) (fun s hs c hc heq => ?_) _ hc rfl
    exact (h s hs).2 (heq ▸ hc)
  rw [hcons, parts_cons_self] at hparts
  rw [hcons, List.mem_cons, not_or] at hbackslash
  rw [slashesOf_eq_self scheme hbackslash.2, (List.cons.inj hparts).2]

theorem splitPath_slashed (h : ∀ s ∈ first :: segs, Plain s) (scheme : String) :
    splitPath scheme (first.toList ++ slashed segs) = (first :: segs).map segmentOf := by
  rw [splitPath_eq_map,
    parts_slashesOf (fun s hs => isSegment_of_unbroken (h s hs).unbroken) scheme, List.map_map]
  rfl

/-- A text of plain segments, of which the first is a word, adds them to the directory of the URL.
-/
theorem join_plain (hbase : base.path = .segments l) (hne : first ≠ "") (hfirst : IsWord first)
    (hsegs : ∀ s ∈ segs, Plain s) (hlast : ∀ c, (slashed segs).getLast? = some c → 0x20 < c.toNat)
    (ht : t.toList = first.toList ++ slashed segs) :
    base.join t = .ok { base with
      path := .segments (l.dropLast ++ (first :: segs).map segmentOf)
      query := none
      fragment := none } := by
  have hplain : ∀ s ∈ first :: segs, Plain s := List.forall_mem_cons.2 ⟨hfirst.plain, hsegs⟩
  obtain ⟨c, rest, hc⟩ := List.exists_cons_of_ne_nil (mt String.toList_eq_nil_iff.1 hne)
  have hfree : ∀ c ∈ first.toList ++ slashed segs,
      c ≠ '?' ∧ c ≠ '#' ∧ c ≠ '\t' ∧ c ≠ '\n' ∧ c ≠ '\r' := by
    intro d hd
    have hall := forall_mem_slashed (l := first :: segs)
      (P := fun c => c ∉ ['?', '#', '\t', '\n', '\r']) (by decide) (fun s hs c hc => ?_) d
      (List.mem_cons_of_mem '/' hd)
    · simpa using hall
    · have hmem := (hplain s hs).unbroken c hc
      simp only [List.mem_cons, not_or] at hmem ⊢
      exact hmem.2.2
  have hclean : clean t = first.toList ++ slashed segs := by
    rw [clean_append (mt String.toList_eq_nil_iff.1 hne)
      (fun c hc => (isWordChar_plain (hfirst c hc)).1) ht]
    rw [cleanEnd_eq_self hlast fun c hc => (hfree c (List.mem_append_right _ hc)).2.2]
  have hscheme : splitScheme (clean t) = none := by
    rw [hclean]
    cases segs with
    | nil => exact splitScheme_of_not_mem (by simpa [slashed] using hfirst.not_mem_colon)
    | cons s segs => exact splitScheme_of_slash hfirst.not_mem_colon _
  have hreference : Reference.of (clean t) = ⟨first.toList ++ slashed segs, none, none⟩ := by
    rw [hclean]
    exact reference_of_not_mem (fun h => (hfree _ h).1 rfl) fun h => (hfree _ h).2.1 rfl
  have hslash := isSlash_eq_false base.scheme (hfirst c (hc ▸ List.mem_cons_self))
  have hmain : (Reference.of (clean t)).main = c :: (rest ++ slashed segs) := by
    rw [hreference, hc]
    rfl
  have hnames : ∀ s ∈ (first :: segs).map segmentOf, IsName s := by
    rw [List.forall_mem_map]
    exact fun s hs => (hplain s hs).isName
  have hpath := splitPath_slashed hplain base.scheme
  rw [hc, List.cons_append] at hpath
  rw [join_of_main hbase hscheme hmain hslash, hpath, walk_of_names hnames, hreference]
  rfl

/-- A text that begins with a word and a slash is followed from the directory of the URL, as far as
its signs are read as a path. -/
theorem join_below (hbase : base.path = .segments l) (hne : first ≠ "")
    (hfirst : IsWord first) (ht : t.toList = first.toList ++ '/' :: x) :
    ∃ cs u, (cs.Sublist (cleanEnd x) ∧ '?' ∉ cs ∧ '#' ∉ cs) ∧ base.join t = .ok u ∧
      u.path = .segments (walk l.dropLast (splitPath base.scheme (first.toList ++ '/' :: cs))) := by
  obtain ⟨c, rest, hc⟩ := List.exists_cons_of_ne_nil (mt String.toList_eq_nil_iff.1 hne)
  have hword {c : Char} (hmem : c ∈ first.toList) := isWordChar_plain (hfirst c hmem)
  have hclean : clean t = first.toList ++ '/' :: cleanEnd x := by
    have hhead : ∀ c ∈ first.toList ++ ['/'], 0x20 < c.toNat :=
      List.forall_mem_append.2 ⟨fun c hc => (hword hc).1, List.forall_mem_singleton.2 (by decide)⟩
    rw [clean_append (x := x) (by simp) hhead (by simpa using ht), List.append_assoc]
    rfl
  have hscheme : splitScheme (clean t) = none := by
    rw [hclean]
    exact splitScheme_of_slash hfirst.not_mem_colon _
  have hmain : (Reference.of (clean t)).main = first.toList ++
      '/' :: ((cleanEnd x).takeWhile (· ≠ '#')).takeWhile (· ≠ '?') := by
    have hkeep {d : Char} (hd : inPath d = true) : ∀ c ∈ first.toList, decide (c ≠ d) = true := by
      intro c hc
      refine decide_eq_true ?_
      rintro rfl
      rw [(hword hc).2.1] at hd
      cases hd
    rw [main_reference, hclean, List.takeWhile_append_of_pos (hkeep (by decide)),
      List.takeWhile_cons_of_pos (by decide), List.takeWhile_append_of_pos (hkeep (by decide)),
      List.takeWhile_cons_of_pos (by decide)]
  have hslash := isSlash_eq_false base.scheme (hfirst c (hc ▸ List.mem_cons_self))
  rw [hc] at hmain ⊢
  refine ⟨_, _, ⟨?_, fun hmem => ?_, fun hmem => ?_⟩,
    join_of_main hbase hscheme hmain hslash, rfl⟩
  · exact (List.takeWhile_sublist _).trans (List.takeWhile_sublist _)
  · simpa using List.mem_takeWhile_imp hmem
  · simpa using List.mem_takeWhile_imp ((List.takeWhile_sublist _).subset hmem)

end ContainerBridge.Url
