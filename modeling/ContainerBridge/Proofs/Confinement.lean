import ContainerBridge.Proofs.Addressing

/-! What an engine is asked for by an id. The id is put into the path of a call as it is, so that a
call stays with the container only for some ids: those that a path takes as one segment. For any
other the path that is asked for stands for less than the id, or has more segments. -/

namespace ContainerBridge

namespace Url

open Text

variable {k last : List String} {s first id scheme : String} {head cs x : List Char}

/-- A segment that stands for a text: nothing in it ends it, and its percent signs are read. -/
def StandsFor (s text : String) : Prop := IsSegment s ∧ percentDecode (bytes s) = bytes text

theorem Plain.standsFor (h : Plain s) : StandsFor (segmentOf s) s := by
  refine ⟨isSegment_percentEncode fun hc => ?_, by rw [percentDecode_segmentOf, h.undecoded]⟩
  exact (h.isSegment '/' hc).1 rfl

/-! A path that loses nothing -/

/-- If a path stands for as much as its directory and a text, nothing of the text was dropped, every
part of the text stands for itself, and none is a dot. -/
theorem lossless (hsub : cs.Sublist x)
    (h : weight k + (1 + (utf8 (head ++ '/' :: x)).length) ≤
      weight (walk k (splitPath scheme (head ++ '/' :: cs)))) :
    cs = x ∧
      (∀ p ∈ parts '/' (slashesOf scheme (head ++ '/' :: x)), percentDecode (utf8 p) = utf8 p) ∧
      ∀ s ∈ splitPath scheme (head ++ '/' :: x), IsName s := by
  obtain ⟨hwalk, hnames⟩ := weight_walk k (splitPath scheme (head ++ '/' :: cs))
  obtain ⟨hsplit, hparts⟩ := weight_splitPath scheme (head ++ '/' :: cs)
  have hlen := length_utf8_le_of_sublist ((hsub.cons_cons '/').append_left head)
  have hall : head ++ '/' :: cs = head ++ '/' :: x :=
    eq_of_sublist_of_length_utf8 ((hsub.cons_cons '/').append_left head) (by omega)
  obtain rfl : cs = x := (List.cons.inj (List.append_cancel_left hall)).2
  exact ⟨rfl, hparts (by omega), hnames (by omega)⟩

theorem count_slash_slashed (h : ∀ s ∈ last, IsSegment s) :
    (slashed last).count '/' = last.length := by
  have hlen := length_parts '/' (slashed last)
  rw [parts_slashed h, List.length_cons, List.length_map] at hlen
  omega

theorem weight_words (h : ∀ s ∈ last, IsWord s) : weight last = (utf8 (slashed last)).length := by
  induction last with
  | nil => rfl
  | cons s last ih =>
    obtain ⟨hs, hlast⟩ := List.forall_mem_cons.1 h
    have hslash : (utf8 (slashed (s :: last))).length =
        1 + (bytes s).length + (utf8 (slashed last)).length := by
      rw [show slashed (s :: last) = '/' :: (s.toList ++ slashed last) from rfl, utf8_cons,
        utf8_append, ← bytes_eq_utf8, List.length_append, List.length_append, ← Nat.add_assoc]
      rfl
    rw [weight_cons, hs.plain.undecoded, ih hlast, hslash]

/-- If words and a text between them are as many segments as there are texts, no slash is in it. -/
theorem isSlash_eq_false_of_length (hlast : ∀ s ∈ last, IsWord s)
    (h : (splitPath scheme (first.toList ++ slashed (id :: last))).length = 2 + last.length) :
    ∀ c ∈ id.toList, isSlash scheme c = false := by
  have hcount : (slashesOf scheme id.toList).count '/' = 0 := by
    have hself : slashesOf scheme (slashed last) = slashed last := by
      refine slashesOf_eq_self scheme fun hc => ?_
      refine forall_mem_slashed (P := (· ≠ '\\')) (by decide) (fun s hs c hc => ?_) _ hc rfl
      rintro rfl
      exact (hlast s hs).plain.unbroken '\\' hc (by decide)
    have hslashes := count_slash_slashed fun s hs => (hlast s hs).plain.isSegment
    have hsplit : slashesOf scheme (first.toList ++ slashed (id :: last)) =
        slashesOf scheme first.toList ++
          slashesOf scheme ['/'] ++ slashesOf scheme id.toList ++ slashed last := by
      rw [← hself]
      simp [slashesOf, slashed]
    have hone : slashesOf scheme ['/'] = ['/'] := rfl
    rw [splitPath_eq_map, List.length_map, length_parts, hsplit, hone, List.count_append,
      List.count_append, List.count_append, hslashes, List.count_singleton_self] at h
    omega
  intro c hc
  by_contra hslash
  rw [Bool.not_eq_false] at hslash
  refine List.count_eq_zero.1 hcount (List.mem_map.2 ⟨c, hc, ?_⟩)
  rw [if_pos hslash]

theorem forall_isSegment (hk : ∀ s ∈ k, IsSegment s) (hfirst : IsWord first) (hs : IsSegment s)
    (hlast : ∀ s ∈ last, IsWord s) : ∀ t ∈ k ++ first :: s :: last, IsSegment t :=
  List.forall_mem_append.2 ⟨hk, List.forall_mem_cons.2 ⟨hfirst.plain.isSegment,
    List.forall_mem_cons.2 ⟨hs, fun t ht => (hlast t ht).plain.isSegment⟩⟩⟩

/-- A text of which nothing is lost when it is followed behind a word. -/
structure Whole (scheme : String) (first : String) (x : List Char) : Prop where
  kept : cleanEnd x = x
  query : '?' ∉ x
  fragment : '#' ∉ x
  decoded : ∀ p ∈ parts '/' (slashesOf scheme (first.toList ++ '/' :: x)),
    percentDecode (utf8 p) = utf8 p
  names : ∀ s ∈ splitPath scheme (first.toList ++ '/' :: x), IsName s

/-- If a text leads to a word, a segment that stands for the id and more words below the directory,
then nothing of it is lost, and these are its segments. -/
theorem whole_of_path (hk : ∀ s ∈ k, IsSegment s) (hfirst : IsWord first)
    (hlast : ∀ s ∈ last, IsWord s) (hs : StandsFor s id)
    (hsub : cs.Sublist (cleanEnd (id.toList ++ slashed last))) (hquery : '?' ∉ cs)
    (hfragment : '#' ∉ cs)
    (hpath : slashed (walk k (splitPath scheme (first.toList ++ '/' :: cs))) =
      slashed (k ++ first :: s :: last)) :
    Whole scheme first (id.toList ++ slashed last) ∧
      splitPath scheme (first.toList ++ slashed (id :: last)) = first :: s :: last := by
  have hwalk : walk k (splitPath scheme (first.toList ++ '/' :: cs)) = k ++ first :: s :: last := by
    refine slashed_injective ?_ (forall_isSegment hk hfirst hs.1 hlast) hpath
    exact forall_mem_walk isSegment_empty hk fun s hs => isSegment_of_mem_splitPath hs
  have hweight :
      weight k + (1 + (utf8 (first.toList ++ '/' :: (id.toList ++ slashed last))).length) ≤
        weight (walk k (splitPath scheme (first.toList ++ '/' :: cs))) := by
    have hslash : (String.utf8EncodeChar '/').length = 1 := rfl
    rw [hwalk, weight_append, weight_cons, weight_cons, weight_words hlast, hfirst.plain.undecoded,
      hs.2]
    simp only [bytes_eq_utf8, utf8_append, utf8_cons, List.length_append, hslash]
    omega
  obtain ⟨rfl, hdecoded, hnames⟩ := lossless (hsub.trans (cleanEnd_sublist _)) hweight
  have hkept := (cleanEnd_sublist _).eq_of_length_le hsub.length_le
  rw [walk_of_names hnames] at hwalk
  exact ⟨⟨hkept, hquery, hfragment, hdecoded, hnames⟩, List.append_cancel_left hwalk⟩

/-- If nothing of an id and the words behind it is lost, and they are as many segments as there are
texts, the id is a segment as it stands. -/
theorem Whole.plain (h : Whole scheme first (id.toList ++ slashed last))
    (hspecial : isSpecial scheme = true) (hfirst : IsWord first) (hlast : ∀ s ∈ last, IsWord s)
    (hlength : (splitPath scheme (first.toList ++ slashed (id :: last))).length = 2 + last.length) :
    Plain id := by
  have hunbroken : ∀ c ∈ id.toList, c ∉ ['/', '\\', '?', '#', '\t', '\n', '\r'] := by
    intro c hc
    have hmem : c ∈ id.toList ++ slashed last := List.mem_append_left _ hc
    have hslash := isSlash_eq_false_of_length hlast hlength c hc
    simp only [isSlash, hspecial, Bool.true_and, Bool.or_eq_false_iff, decide_eq_false_iff_not]
      at hslash
    have hq : c ≠ '?' := fun heq => h.query (heq ▸ hmem)
    have hf : c ≠ '#' := fun heq => h.fragment (heq ▸ hmem)
    simp [hslash, hq, hf, (of_cleanEnd_eq_self h.kept).2 c hmem]
  have htexts := parts_slashesOf (List.forall_mem_cons.2
    ⟨isSegment_of_unbroken hfirst.plain.unbroken, List.forall_mem_cons.2
      ⟨isSegment_of_unbroken hunbroken,
        fun s hs => isSegment_of_unbroken (hlast s hs).plain.unbroken⟩⟩) scheme
  have hid : id.toList ∈ parts '/' (slashesOf scheme (first.toList ++ slashed (id :: last))) := by
    rw [htexts]
    exact List.mem_map_of_mem (List.mem_cons_of_mem first List.mem_cons_self)
  have hname : IsName (segmentOf id) := h.names _ (List.mem_map_of_mem hid)
  refine ⟨hunbroken, ?_, ?_, ?_⟩
  · rw [bytes_eq_utf8]
    exact h.decoded _ hid
  · rintro rfl
    exact absurd hname (by decide +kernel)
  · rintro rfl
    exact absurd hname (by decide +kernel)

end Url

namespace Engine.Client

open Http Url Text

variable {c : Client} {url : Url} {k : List String} {s id text : String}

/-- An inspection asks for the container that the id names, and for nothing else: one segment of its
path stands for the id, and it has no query. -/
def InspectsOnly (c : Client) (id : String) : Prop :=
  ∃ s, StandsFor s id ∧ Sends (c.perform (.inspectContainer id))
    { method := "GET", target := c.base.pathText ++ "containers/" ++ s ++ "/json" }

/-- A removal asks for the container that the id names, and for nothing else: one segment of its
path stands for the id, and its query has the two pairs. -/
def RemovesOnly (c : Client) (id : String) (force volumes : Bool) : Prop :=
  ∃ s, StandsFor s id ∧ Sends (c.perform (.removeContainer id force volumes))
    { method := "DELETE", target := c.base.pathText ++ "containers/" ++ s ++ "?force=" ++
        digit force ++ "&v=" ++ digit volumes }

theorem scheme_asDirectory (u : Url) : u.asDirectory.scheme = u.scheme := by
  unfold asDirectory
  split
  · split <;> rfl
  · split <;> rfl

/-- For requests over HTTP, the client's URL is a directory. -/
theorem segments_of_ofUrl (h : ofUrl text = .ok c) (hhttp : c.base.IsHttp) :
    ∃ k, c.base.path = .segments (k ++ [""]) ∧ ∀ s ∈ k, IsSegment s := by
  unfold ofUrl at h
  split at h
  · rename_i url hparse
    cases h
    rw [IsHttp, scheme_asDirectory] at hhttp
    obtain ⟨l, hl⟩ := hasSegments_of_parse hparse hhttp
    obtain ⟨k, hbase, hk, -⟩ := hl.asDirectory
    exact ⟨k, hbase, hk⟩
  · cases h

variable {q : Request} {r : Http.Request} {last : List String}

theorem toList_inspection (hbase : c.base.path = .segments (k ++ [""])) (s : String) :
    (c.base.pathText ++ "containers/" ++ s ++ "/json").toList =
      slashed (k ++ ["containers", s, "json"]) := by
  simp [toList_pathText hbase, slashed]

theorem toList_removal (hbase : c.base.path = .segments (k ++ [""])) (s : String) :
    (c.base.pathText ++ "containers/" ++ s).toList = slashed (k ++ ["containers", s]) := by
  simp [toList_pathText hbase, slashed]

/-- A call that asks for a segment that stands for the id, where its path has the id, needs an id
that is a segment as it stands. -/
theorem plain_of_sends (hhttp : c.base.IsHttp) (hbase : c.base.path = .segments (k ++ [""]))
    (hk : ∀ s ∈ k, IsSegment s) (hlast : ∀ s ∈ last, IsWord s)
    (htext : (relativePath q).toList = "containers".toList ++ slashed (id :: last))
    (hs : StandsFor s id) (hsends : Sends (c.perform q) r)
    (hpath : r.path.toList = slashed (k ++ "containers" :: s :: last)) :
    Plain id ∧ ∀ ch, (id.toList ++ slashed last).getLast? = some ch → 0x20 < ch.toNat := by
  have hword : IsWord "containers" := by decide
  obtain ⟨cs, u, ⟨hsub, hquery, hfragment⟩, hjoin, hupath⟩ :=
    join_below (x := id.toList ++ slashed last) hbase (by decide) hword htext
  rw [List.dropLast_concat] at hupath
  have hplain : '?' ∉ u.pathText.toList := by
    rw [toList_pathText hupath]
    exact not_mem_slashed
      (forall_mem_walk isSegment_empty hk fun s hs => isSegment_of_mem_splitPath hs)
  have hleads : slashed (walk k (splitPath c.base.scheme ("containers".toList ++ '/' :: cs))) =
      slashed (k ++ "containers" :: s :: last) := by
    rw [← toList_pathText hupath, ← hpath, hsends.unique (sends_perform (locate_of_join hjoin)),
      path_requestAt hplain]
  have hspecial : isSpecial c.base.scheme = true := by
    rcases hhttp with h | h <;> (rw [h]; rfl)
  obtain ⟨hwhole, hsplit⟩ := whole_of_path hk hword hlast hs hsub hquery hfragment hleads
  refine ⟨hwhole.plain hspecial hword hlast ?_, (of_cleanEnd_eq_self hwhole.kept).1⟩
  rw [hsplit]
  simp only [List.length_cons]
  omega

/-- A call whose path has an id that is a segment as it stands asks for that segment. -/
theorem sends_of_plain (hbase : c.base.path = .segments (k ++ [""])) (hlast : ∀ s ∈ last, IsWord s)
    (htext : (relativePath q).toList = "containers".toList ++ slashed (id :: last))
    (h : Plain id) (hend : ∀ ch, (slashed (id :: last)).getLast? = some ch → 0x20 < ch.toNat) :
    ∃ u, Sends (c.perform q) (requestAt u q) ∧ u.query = none ∧
      u.pathText.toList = slashed (k ++ "containers" :: segmentOf id :: last) := by
  have hplain : ∀ s ∈ id :: last, Plain s :=
    List.forall_mem_cons.2 ⟨h, fun s hs => (hlast s hs).plain⟩
  have hjoin := join_plain hbase (by decide) (by decide) hplain hend htext
  have hmap : ("containers" :: id :: last).map segmentOf =
      "containers" :: segmentOf id :: last := by
    have hself : last.map segmentOf = last := by
      rw [List.map_congr_left fun s hs => (hlast s hs).segmentOf_eq, List.map_id']
    rw [List.map_cons, List.map_cons, hself, IsWord.segmentOf_eq (by decide)]
  rw [hmap, List.dropLast_concat] at hjoin
  exact ⟨_, sends_perform (locate_of_join hjoin), rfl, toList_pathText rfl⟩

/-- The query of a removal has two pairs, if the URL has none. -/
theorem target_removal (h : url.query = none) (force volumes : Bool) :
    (url.withPairs [("force", digit force), ("v", digit volumes)]).target =
      url.pathText ++ "?force=" ++ digit force ++ "&v=" ++ digit volumes := by
  have hpairs : "?" ++ Form.encodePairs [("force", digit force), ("v", digit volumes)] =
      "?force=" ++ digit force ++ "&v=" ++ digit volumes := by
    revert force volumes
    decide +kernel
  have hquery : (url.withPairs [("force", digit force), ("v", digit volumes)]).query =
      some (Form.encodePairs [("force", digit force), ("v", digit volumes)]) := by
    simp [withPairs, h]
  rw [target, pathText_withPairs, hquery, Option.map_some, Option.getD_some, hpairs]
  simp only [String.append_assoc]

theorem inspectsOnly_iff (hhttp : c.base.IsHttp) (hbase : c.base.path = .segments (k ++ [""]))
    (hk : ∀ s ∈ k, IsSegment s) : c.InspectsOnly id ↔ Plain id := by
  have htext : (relativePath (.inspectContainer id)).toList =
      "containers".toList ++ slashed [id, "json"] := by
    simp [relativePath, slashed]
  have hlast : ∀ s ∈ ["json"], IsWord s := by decide
  constructor
  · rintro ⟨s, hs, hsends⟩
    refine (plain_of_sends hhttp hbase hk hlast htext hs hsends ?_).1
    have hpath := toList_inspection hbase s
    have hquery : '?' ∉ (c.base.pathText ++ "containers/" ++ s ++ "/json").toList := by
      rw [hpath]
      exact not_mem_slashed (forall_isSegment hk (by decide) hs.1 hlast)
    rw [Request.path, upTo_eq_self hquery, hpath]
  · intro h
    have hend : ∀ ch, (slashed [id, "json"]).getLast? = some ch → 0x20 < ch.toNat := by
      have hn : (slashed [id, "json"]).getLast? = some 'n' := by simp [slashed, List.getLast?_cons]
      rintro ch hch
      obtain rfl := Option.some.inj (hn.symm.trans hch)
      decide
    obtain ⟨u, hsends, hquery, hpath⟩ := sends_of_plain hbase hlast htext h hend
    have htarget : u.target = c.base.pathText ++ "containers/" ++ segmentOf id ++ "/json" := by
      apply String.toList_inj.1
      rw [toList_inspection hbase, ← hpath]
      simp [target, hquery]
    exact ⟨segmentOf id, h.standsFor, htarget ▸ hsends⟩

theorem removesOnly_iff (hhttp : c.base.IsHttp) (hbase : c.base.path = .segments (k ++ [""]))
    (hk : ∀ s ∈ k, IsSegment s) (force volumes : Bool) :
    c.RemovesOnly id force volumes ↔
      Plain id ∧ ∀ ch, id.toList.getLast? = some ch → 0x20 < ch.toNat := by
  have htext : (relativePath (.removeContainer id force volumes)).toList =
      "containers".toList ++ slashed [id] := by
    simp [relativePath, slashed]
  have hlast : ∀ s ∈ ([] : List String), IsWord s := by simp
  constructor
  · rintro ⟨s, hs, hsends⟩
    have hpath := toList_removal hbase s
    have hquery : '?' ∉ (c.base.pathText ++ "containers/" ++ s).toList := by
      rw [hpath]
      exact not_mem_slashed (forall_isSegment hk (by decide) hs.1 hlast)
    have hplain := plain_of_sends hhttp hbase hk hlast htext hs hsends ?_
    · simpa [slashed] using hplain
    · have htarget : c.base.pathText ++ "containers/" ++ s ++ "?force=" ++ digit force ++ "&v=" ++
          digit volumes = c.base.pathText ++ "containers/" ++ s ++ String.singleton '?' ++
            ("force=" ++ digit force ++ "&v=" ++ digit volumes) := by
        apply String.toList_inj.1
        simp
      rw [Request.path, htarget, upTo_append hquery, hpath]
  · rintro ⟨h, hend⟩
    have hend' : ∀ ch, (slashed [id]).getLast? = some ch → 0x20 < ch.toNat := by
      intro ch hch
      rw [show slashed [id] = ['/'] ++ id.toList by simp [slashed], List.getLast?_append,
        Option.or_eq_some_iff] at hch
      obtain hch | ⟨-, hch⟩ := hch
      · exact hend ch hch
      · obtain rfl := Option.some.inj hch
        decide
    obtain ⟨u, hsends, hquery, hpath⟩ := sends_of_plain hbase hlast htext h hend'
    have hupath : u.pathText = c.base.pathText ++ "containers/" ++ segmentOf id := by
      apply String.toList_inj.1
      rw [toList_removal hbase, hpath]
    refine ⟨segmentOf id, h.standsFor, ?_⟩
    have htarget := target_removal hquery force volumes
    rw [hupath] at htarget
    exact htarget ▸ hsends

/-- A call about a container stays with it, whatever else is asked, if and only if a path takes its
id as one segment as it stands; a removal also needs an id that does not end with a blank. -/
theorem confined_iff (hc : ofUrl text = .ok c) (hhttp : c.base.IsHttp) (id : String)
    (force volumes : Bool) :
    (c.InspectsOnly id ↔ Plain id) ∧
      (c.RemovesOnly id force volumes ↔
        Plain id ∧ ∀ ch, id.toList.getLast? = some ch → 0x20 < ch.toNat) := by
  obtain ⟨k, hbase, hk⟩ := segments_of_ofUrl hc hhttp
  exact ⟨inspectsOnly_iff hhttp hbase hk, removesOnly_iff hhttp hbase hk force volumes⟩

/-- An engine whose interface has a version. -/
def sampleEngine : Client where
  base := {
    scheme := "http"
    host := some (.name "engine")
    port := some 2375
    path := .segments ["v1.43", ""] }

theorem ofUrl_sampleEngine : ofUrl "http://engine:2375/v1.43" = .ok sampleEngine := by
  rw [ofUrl, show Url.parse "http://engine:2375/v1.43" =
    .ok { sampleEngine.base with path := .segments ["v1.43"] } by decide +kernel]
  rfl

theorem confined_iff_sampleEngine : sampleEngine.InspectsOnly "8d5e2f0c41a7" ∧
    sampleEngine.RemovesOnly "8d5e2f0c41a7" true false := by
  have hword : IsWord "8d5e2f0c41a7" := by decide
  have hend : ∀ ch, "8d5e2f0c41a7".toList.getLast? = some ch → 0x20 < ch.toNat := by
    rintro ch hch
    obtain rfl : '7' = ch := Option.some.inj hch
    decide
  obtain ⟨hinspect, hremove⟩ :=
    confined_iff ofUrl_sampleEngine (.inl rfl) "8d5e2f0c41a7" true false
  exact ⟨hinspect.2 hword.plain, hremove.2 ⟨hword.plain, hend⟩⟩

/-- An id with slashes and dots leads a removal to an image. -/
theorem removal_of_image :
    ofUrl "http://engine:2375/v1.43" = .ok sampleEngine ∧
      Sends (sampleEngine.perform (.removeContainer "../images/x" true false))
        { method := "DELETE", target := "/v1.43/images/x?force=1&v=0" } ∧
      ¬ sampleEngine.RemovesOnly "../images/x" true false := by
  refine ⟨ofUrl_sampleEngine, ?_, fun h => ?_⟩
  · have hjoin : sampleEngine.base.join "containers/../images/x" =
        .ok { sampleEngine.base with path := .segments ["v1.43", "images", "x"] } := by
      decide +kernel
    have htarget : "/v1.43/images/x?force=1&v=0" =
        Url.target (Url.withPairs
          { sampleEngine.base with path := .segments ["v1.43", "images", "x"] }
          [("force", digit true), ("v", digit false)]) := by
      decide +kernel
    rw [htarget]
    exact sends_perform (q := .removeContainer "../images/x" true false) (locate_of_join hjoin)
  · have hplain := ((removesOnly_iff (k := ["v1.43"]) (.inl rfl) rfl (by decide) true false).1 h).1
    exact hplain.unbroken '/' (by decide) (by decide)

end Engine.Client
end ContainerBridge
