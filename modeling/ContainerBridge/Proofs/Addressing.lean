import ContainerBridge.Proofs.References
import ContainerBridge.Proofs.Requests

/-! Where the calls to a server are addressed. A client resolves the path of a call against its URL:
the engine's counts as a directory, below which every call stays; the agent's is taken as it is, so
that what follows its last slash is left out. -/

namespace ContainerBridge

namespace Http

/-- The path that a request is for. -/
def Request.path (r : Request) : String := Text.upTo '?' r.target

variable {ε α : Type} {x : ExceptT ε Exchange α} {path : String}

/-- However the server answers, the call makes one request, which is for this path. -/
def SendsTo (x : ExceptT ε Exchange α) (path : String) : Prop := ∃ r, Sends x r ∧ r.path = path

theorem SendsTo.unique {path' : String} (h : SendsTo x path) (h' : SendsTo x path') :
    path = path' := by
  obtain ⟨r, hr, rfl⟩ := h
  obtain ⟨r', hr', rfl⟩ := h'
  rw [hr.unique hr']

end Http

open Http

namespace Url

variable {base u : Url} {k : List String} {s t : String}

/-! The path of a request -/

theorem upTo_target (h : '?' ∉ u.pathText.toList) : Text.upTo '?' u.target = u.pathText := by
  cases hq : u.query with
  | none => simpa [target, hq] using Text.upTo_eq_self h
  | some query =>
    have htarget : u.target = u.pathText ++ String.singleton '?' ++ query := by
      simp [target, hq, String.append_assoc]
    rw [htarget, Text.upTo_append h]

@[simp] theorem pathText_withPairs (u : Url) (ps : List (String × String)) :
    (u.withPairs ps).pathText = u.pathText := by
  rw [withPairs]
  split <;> rfl

/-- A text of words with slashes between them. -/
def IsWords (t : String) : Prop :=
  ∃ first segs, first ≠ "" ∧ (∀ s ∈ first :: segs, IsWord s) ∧
    t.toList = first.toList ++ slashed segs

theorem isWords_of_name {name : String} (first : String) (rest : List String)
    (h : first ≠ "" ∧ IsWord first ∧ ∀ s ∈ rest, IsWord s) (hname : IsWord name)
    (ht : t.toList = first.toList ++ slashed (name :: rest)) : IsWords t :=
  ⟨first, name :: rest, h.1,
    List.forall_mem_cons.2 ⟨h.2.1, List.forall_mem_cons.2 ⟨hname, h.2.2⟩⟩, ht⟩

/-- A text of words is added to the directory of a URL. -/
theorem join_words (hbase : base.path = .segments (k ++ [s])) (hk : ∀ s ∈ k, IsSegment s)
    (ht : IsWords t) : ∃ u, base.join t = .ok u ∧
      u.pathText.toList = slashed k ++ '/' :: t.toList ∧ '?' ∉ u.pathText.toList := by
  obtain ⟨first, segs, hne, hwords, ht⟩ := ht
  obtain ⟨hfirst, hsegs⟩ := List.forall_mem_cons.1 hwords
  have hsolid : ∀ c ∈ slashed segs, 0x20 < c.toNat :=
    forall_mem_slashed (by decide) fun s hs c hc => (isWordChar_plain (hsegs s hs c hc)).1
  have hjoin := join_plain hbase hne hfirst (fun s hs => (hsegs s hs).plain)
    (fun c hc => hsolid c (List.mem_of_getLast? hc)) ht
  have hmap : (first :: segs).map segmentOf = first :: segs := by
    rw [List.map_congr_left fun s hs => (hwords s hs).segmentOf_eq, List.map_id']
  rw [hmap, List.dropLast_concat] at hjoin
  refine ⟨_, hjoin, ?_, ?_⟩
  · rw [toList_pathText rfl, slashed_append, ht]
    rfl
  · rw [toList_pathText rfl]
    exact not_mem_slashed (List.forall_mem_append.2 ⟨hk, fun s hs => (hwords s hs).plain.isSegment⟩)

/-! The directory of a path -/

/-- A path with a slash at its end. -/
def withSlash (path : String) : String :=
  if path.toList.getLast? = some '/' then path else path ++ "/"

/-- A path up to its last slash. -/
def upToSlash (path : String) : String :=
  String.ofList (path.toList.reverse.dropWhile (· ≠ '/')).reverse

variable {path : String} {before after : List Char}

theorem toList_upToSlash (h : path.toList = before ++ '/' :: after) (hafter : '/' ∉ after) :
    (upToSlash path).toList = before ++ ['/'] := by
  have hall : ∀ c ∈ after.reverse, decide (c ≠ '/') = true := by
    intro c hc
    refine decide_eq_true ?_
    rintro rfl
    exact hafter (List.mem_reverse.1 hc)
  rw [upToSlash, String.toList_ofList, h, List.reverse_append, List.reverse_cons,
    List.append_assoc, List.dropWhile_append_of_pos hall]
  simp

/-- A path ends with its last slash if nothing stands behind that. -/
theorem getLast?_eq_slash_iff (h : path.toList = before ++ '/' :: after) (hafter : '/' ∉ after) :
    path.toList.getLast? = some '/' ↔ after = [] := by
  rw [h, List.getLast?_append]
  rcases List.eq_nil_or_concat after with rfl | ⟨cs, c, rfl⟩
  · simp
  · have hc : c ≠ '/' := by
      rintro rfl
      simp at hafter
    simp [List.getLast?_cons, hc]

theorem upToSlash_eq_withSlash_iff (h : path.toList = before ++ '/' :: after)
    (hafter : '/' ∉ after) : upToSlash path = withSlash path ↔ path.toList.getLast? = some '/' := by
  have hdir := toList_upToSlash h hafter
  have hlast := getLast?_eq_slash_iff h hafter
  rw [hlast, ← String.toList_inj, hdir, withSlash]
  split
  · rename_i hslash
    obtain rfl := hlast.1 hslash
    simp [h]
  · rename_i hslash
    constructor
    · intro heq
      simp [h] at heq
    · intro hnil
      exact (hslash (hlast.2 hnil)).elim

/-- The path of a URL has a last slash. -/
theorem HasSegments.last {l : List String} (h : u.HasSegments l) :
    ∃ k s, l = k ++ [s] ∧ (∀ s ∈ k, IsSegment s) ∧
      u.pathText.toList = slashed k ++ '/' :: s.toList ∧ '/' ∉ s.toList := by
  obtain ⟨hpath, hne, hsegments⟩ := h
  obtain rfl | ⟨k, s, rfl⟩ := List.eq_nil_or_concat l
  · exact (hne rfl).elim
  rw [List.concat_eq_append] at hpath hsegments ⊢
  obtain ⟨hk, hs⟩ := List.forall_mem_append.1 hsegments
  refine ⟨k, s, rfl, hk, ?_, fun hc => (hs s (List.mem_singleton_self s) '/' hc).1 rfl⟩
  rw [toList_pathText hpath, slashed_append]
  simp [slashed]

/-- As a directory, a URL has its path with a slash at the end. -/
theorem HasSegments.asDirectory {l : List String} (h : u.HasSegments l) :
    ∃ k, u.asDirectory.path = .segments (k ++ [""]) ∧ (∀ s ∈ k, IsSegment s) ∧
      (withSlash u.pathText).toList = slashed k ++ ['/'] := by
  obtain ⟨k, s, rfl, hk, htext, hslash⟩ := h.last
  have hlast := getLast?_eq_slash_iff htext hslash
  have hsegments := List.forall_mem_append.1 h.2.2
  by_cases hs : s = ""
  · subst hs
    refine ⟨k, ?_, hk, ?_⟩
    · rw [Url.asDirectory, h.1]
      simp [h.1]
    · rw [withSlash, if_pos (hlast.2 rfl), htext]
      rfl
  · have hne : s.toList ≠ [] := mt String.toList_eq_nil_iff.1 hs
    refine ⟨k ++ [s], ?_, h.2.2, ?_⟩
    · rw [Url.asDirectory, h.1]
      simp [hs]
    · rw [withSlash, if_neg (mt hlast.1 hne), String.toList_append, htext, slashed_append]
      simp [slashed]

end Url

namespace Engine.Client

open Url

variable {c : Client} {q : Request} {url : Url} {k : List String} {dir : String}

/-- The call is about something whose name is a word, if it is about a name at all. -/
def Named : Request → Prop
  | .inspectImage name | .inspectContainer name | .removeContainer name _ _ => IsWord name
  | .createContainer _ | .ping => True

/-- Every call asks for its path below a directory. -/
def Addresses (c : Client) (dir : String) : Prop :=
  ∀ q, Named q → SendsTo (c.perform q) (dir ++ relativePath q)

theorem path_requestAt (h : '?' ∉ url.pathText.toList) (q : Request) :
    (requestAt url q).path = url.pathText := by
  have hpairs (ps : List (String × String)) :
      Text.upTo '?' (url.withPairs ps).target = url.pathText := by
    rw [upTo_target (by rwa [pathText_withPairs]), pathText_withPairs]
  cases q with
  | inspectImage image => exact upTo_target h
  | inspectContainer id => exact upTo_target h
  | createContainer spec =>
    unfold requestAt
    dsimp only
    split
    · exact upTo_target h
    · exact hpairs _
  | removeContainer id force volumes => exact hpairs _
  | ping => exact upTo_target h

theorem isWords_relativePath (h : Named q) : IsWords (relativePath q) := by
  cases q with
  | inspectImage image =>
    exact isWords_of_name "images" ["json"] (by decide) h (by simp [relativePath, slashed])
  | inspectContainer id =>
    exact isWords_of_name "containers" ["json"] (by decide) h (by simp [relativePath, slashed])
  | createContainer spec =>
    exact ⟨"containers", ["create"], by decide, by decide, by simp [relativePath, slashed]⟩
  | removeContainer id force volumes =>
    exact isWords_of_name "containers" [] (by decide) h (by simp [relativePath, slashed])
  | ping => exact ⟨"_ping", [], by decide, by decide, by decide⟩

theorem addresses_of_path (hbase : c.base.path = .segments (k ++ [""]))
    (hk : ∀ s ∈ k, IsSegment s) (hdir : dir.toList = slashed k ++ ['/']) : c.Addresses dir := by
  intro q hq
  obtain ⟨url, hjoin, hpath, hquery⟩ := join_words hbase hk (isWords_relativePath hq)
  refine ⟨requestAt url q, sends_perform (locate_of_join hjoin), ?_⟩
  rw [path_requestAt hquery]
  apply String.toList_inj.1
  simp [hpath, hdir]

end Engine.Client

namespace Agent.Client

open Url

variable {c : Client} {url : Url} {k : List String} {s dir path : String}

/-- Every call about a name that is a word asks for its path below a directory. -/
structure Addresses (c : Client) (dir : String) : Prop where
  create : ∀ spec, SendsTo (c.create spec) (dir ++ "containers/create")
  inspect : ∀ id, IsWord id → SendsTo (c.inspect id) (dir ++ ("containers/" ++ id ++ "/json"))
  runtime : ∀ id servers, IsWord id →
    SendsTo (c.runtime id servers) (dir ++ ("containers/" ++ id ++ "/runtime"))
  remove : ∀ id force volumes, IsWord id →
    SendsTo (c.remove id force volumes) (dir ++ ("containers/" ++ id))
  makeFiles : ∀ workspace, IsWord workspace →
    SendsTo (c.makeFiles workspace) (dir ++ ("workspaces/" ++ workspace ++ "/files"))
  clearFiles : ∀ workspace, IsWord workspace →
    SendsTo (c.clearFiles workspace) (dir ++ ("workspaces/" ++ workspace ++ "/files"))

/-- A path leads below a directory. -/
def LeadsBelow (c : Client) (dir path : String) : Prop :=
  ∃ url, c.locate path = .ok url ∧ url.pathText = dir ++ path ∧ '?' ∉ url.pathText.toList

theorem LeadsBelow.sendsTo_get {α : Type} (h : c.LeadsBelow dir path) (d : Json.Decoder α) :
    SendsTo (c.get path d) (dir ++ path) := by
  obtain ⟨url, hlocate, hpath, hquery⟩ := h
  exact ⟨_, sends_get hlocate d, (upTo_target hquery).trans hpath⟩

theorem LeadsBelow.sendsTo_post {α : Type} (h : c.LeadsBelow dir path) (body : Json.Value)
    (d : Json.Decoder α) : SendsTo (c.post path body d) (dir ++ path) := by
  obtain ⟨url, hlocate, hpath, hquery⟩ := h
  exact ⟨_, sends_post hlocate body d, (upTo_target hquery).trans hpath⟩

theorem LeadsBelow.sendsTo_delete (h : c.LeadsBelow dir path) (query : List (String × String)) :
    SendsTo (c.delete path query) (dir ++ path) := by
  obtain ⟨url, hlocate, hpath, hquery⟩ := h
  refine ⟨_, sends_delete hlocate query, ?_⟩
  rw [← hpath, ← pathText_withPairs url query]
  exact upTo_target (by rwa [pathText_withPairs])

/-- The calls are addressed below the path of the client's URL up to its last slash. -/
theorem addresses_of_path (hbase : c.base.path = .segments (k ++ [s]))
    (hk : ∀ s ∈ k, IsSegment s) (hdir : dir.toList = slashed k ++ ['/']) : c.Addresses dir := by
  have hleads {path : String} (h : IsWords path) : c.LeadsBelow dir path := by
    obtain ⟨url, hjoin, hpath, hquery⟩ := join_words hbase hk h
    refine ⟨url, by rw [locate, hjoin], String.toList_inj.1 ?_, hquery⟩
    simp [hpath, hdir]
  have hfiles {workspace : String} (h : IsWord workspace) :
      c.LeadsBelow dir ("workspaces/" ++ workspace ++ "/files") :=
    hleads (isWords_of_name "workspaces" ["files"] (by decide) h (by simp [slashed]))
  refine ⟨fun spec => ?_, fun id hid => ?_, fun id servers hid => ?_,
    fun id force volumes hid => ?_, fun workspace h => ?_, fun workspace h => ?_⟩
  · have hcreate : c.LeadsBelow dir "containers/create" :=
      hleads ⟨"containers", ["create"], by decide, by decide, by simp [slashed]⟩
    exact hcreate.sendsTo_post _ _
  · have hinspect : c.LeadsBelow dir ("containers/" ++ id ++ "/json") :=
      hleads (isWords_of_name "containers" ["json"] (by decide) hid (by simp [slashed]))
    exact hinspect.sendsTo_get _
  · have hruntime : c.LeadsBelow dir ("containers/" ++ id ++ "/runtime") :=
      hleads (isWords_of_name "containers" ["runtime"] (by decide) hid (by simp [slashed]))
    unfold runtime
    dsimp only
    split
    · exact hruntime.sendsTo_get _
    · exact hruntime.sendsTo_post _ _
  · have hremove : c.LeadsBelow dir ("containers/" ++ id) :=
      hleads (isWords_of_name "containers" [] (by decide) hid (by simp [slashed]))
    exact hremove.sendsTo_delete _
  · obtain ⟨url, hlocate, hpath, hquery⟩ := hfiles h
    exact ⟨_, sends_of_ok hlocate ((sends_send _).bind fun _ => silent_pure _),
      (upTo_target hquery).trans hpath⟩
  · exact (hfiles h).sendsTo_delete _

theorem Addresses.unique {dir' : String} (h : c.Addresses dir) (h' : c.Addresses dir') :
    dir = dir' := by
  have hpath := (h.inspect "" (by decide)).unique (h'.inspect "" (by decide))
  exact (String.append_left_inj _).1 hpath

end Agent.Client

namespace Url

variable {text : String} {url : Url}

/-- Below a URL with a path for HTTP, the engine's calls are addressed below the path with a slash
at its end. The agent's are addressed below the path up to its last slash, which is the same only if
the path ends with one. -/
theorem addresses_of_parse (hparse : Url.parse text = .ok url) (hhttp : url.IsHttp) :
    (∃ c, Engine.Client.ofUrl text = .ok c ∧ c.Addresses (withSlash url.pathText)) ∧
      ∃ c, Agent.Client.ofUrl text = .ok c ∧ c.Addresses (upToSlash url.pathText) ∧
        (c.Addresses (withSlash url.pathText) ↔ url.pathText.toList.getLast? = some '/') := by
  obtain ⟨l, hl⟩ := hasSegments_of_parse hparse hhttp
  constructor
  · obtain ⟨k, hbase, hk, hdir⟩ := hl.asDirectory
    refine ⟨⟨url.asDirectory⟩, by rw [Engine.Client.ofUrl, hparse], ?_⟩
    exact Engine.Client.addresses_of_path hbase hk hdir
  · obtain ⟨k, s, rfl, hk, htext, hslash⟩ := hl.last
    have haddresses : (⟨url⟩ : Agent.Client).Addresses (upToSlash url.pathText) :=
      Agent.Client.addresses_of_path hl.1 hk (toList_upToSlash htext hslash)
    refine ⟨⟨url⟩, by rw [Agent.Client.ofUrl, hparse], haddresses, ?_⟩
    rw [← upToSlash_eq_withSlash_iff htext hslash]
    constructor
    · exact haddresses.unique
    · intro heq
      rwa [← heq]

/-- A URL below which an interface lies. -/
def sampleUrl : Url where
  scheme := "http"
  host := some (.name "agent")
  port := some 8080
  path := .segments ["api", ""]

theorem addresses_of_parse_sampleUrl :
    ∃ c, Agent.Client.ofUrl "http://agent:8080/api/" = .ok c ∧ c.Addresses "/api/" := by
  have hparse : Url.parse "http://agent:8080/api/" = .ok sampleUrl := by decide +kernel
  obtain ⟨-, c, hc, -, haddresses⟩ := addresses_of_parse hparse (.inl rfl)
  exact ⟨c, hc, haddresses.2 (by decide +kernel)⟩

/-- Without a slash at the end of the URL, a removal leaves out the last segment of its path. -/
theorem remove_without_slash :
    ∃ c, Agent.Client.ofUrl "http://agent:8080/api" = .ok c ∧
      SendsTo (c.remove "8d5e2f0c41a7" false false) "/containers/8d5e2f0c41a7" ∧
      ¬ SendsTo (c.remove "8d5e2f0c41a7" false false) "/api/containers/8d5e2f0c41a7" := by
  have hurl : Agent.Client.ofUrl "http://agent:8080/api" =
      .ok ⟨{ sampleUrl with path := .segments ["api"] }⟩ := by
    rw [Agent.Client.ofUrl, show Url.parse "http://agent:8080/api" =
      .ok { sampleUrl with path := .segments ["api"] } by decide +kernel]
  have haddresses : (⟨{ sampleUrl with path := .segments ["api"] }⟩ : Agent.Client).Addresses "/" :=
    Agent.Client.addresses_of_path (k := []) rfl (by simp) rfl
  have hsends := haddresses.remove "8d5e2f0c41a7" false false (by decide)
  refine ⟨_, hurl, hsends, fun hother => ?_⟩
  exact absurd (hsends.unique hother) (by decide)

end Url
end ContainerBridge
