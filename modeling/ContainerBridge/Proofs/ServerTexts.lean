import ContainerBridge.Cli.Command
import ContainerBridge.Proofs.Entries

/-! Servers as they are written on the command line. A text describes a server if it has a port; the
parts that a server is written with are those that are read. -/

namespace ContainerBridge.Cli

/-- The parts of a server, of which each ends where the next begins. -/
structure ServerParts where
  ref : String
  port : String
  protocol : Option String
  path : Option String
  equals_not_mem_ref : '=' ∉ ref.toList
  port_ne_empty : port ≠ ""
  comma_not_mem_port : ',' ∉ port.toList
  protocol_ne_empty : protocol ≠ some ""
  comma_not_mem_protocol : ∀ p ∈ protocol, ',' ∉ p.toList
  path_ne_empty : path ≠ some ""

namespace ServerParts

/-- The fields between commas. An absent protocol before a path is written as an empty one. -/
def fields (p : ServerParts) : String :=
  match p.protocol, p.path with
  | none, none => p.port
  | some protocol, none => p.port ++ "," ++ protocol
  | none, some path => p.port ++ "," ++ "" ++ "," ++ path
  | some protocol, some path => p.port ++ "," ++ protocol ++ "," ++ path

/-- The server as it is written. -/
def text (p : ServerParts) : String := p.ref ++ "=" ++ p.fields

/-- The server that is meant. -/
def conf (p : ServerParts) : ServerConf where
  ref := if p.ref = "" then none else some p.ref
  port := p.port
  protocol := p.protocol
  path := p.path

end ServerParts

variable {s ref first second : String}

/-! The fields of a text -/

theorem fst_threeFields (s : String) : (threeFields s).1 = Text.upTo ',' s := by
  unfold threeFields Text.upTo
  cases Text.splitOnce ',' s with
  | none => rfl
  | some r =>
    dsimp only
    cases Text.splitOnce ',' r.2 <;> rfl

theorem threeFields_of_none (h : ',' ∉ s.toList) : threeFields s = (s, none, none) := by
  rw [threeFields, Text.splitOnce_eq_none h]

theorem threeFields_of_one (h : ',' ∉ first.toList) (h' : ',' ∉ second.toList) :
    threeFields (first ++ "," ++ second) = (first, some second, none) := by
  have hcut : Text.splitOnce ',' (first ++ "," ++ second) = some (first, second) :=
    Text.splitOnce_append h second
  simp only [threeFields, hcut, Text.splitOnce_eq_none h']

/-- Commas in the third field do not end it. -/
theorem threeFields_of_two (h : ',' ∉ first.toList) (h' : ',' ∉ second.toList) (third : String) :
    threeFields (first ++ "," ++ second ++ "," ++ third) = (first, some second, some third) := by
  have hcut : Text.splitOnce ',' (first ++ "," ++ (second ++ "," ++ third)) =
      some (first, second ++ "," ++ third) := Text.splitOnce_append h _
  have hcut' : Text.splitOnce ',' (second ++ "," ++ third) = some (second, third) :=
    Text.splitOnce_append h' third
  simp only [← String.append_assoc] at hcut hcut'
  simp only [threeFields, hcut, hcut']

/-! Texts that are read -/

theorem parseServer_append (h : '=' ∉ ref.toList) (rest : String) :
    parseServer (ref ++ "=" ++ rest) =
      if (threeFields rest).1.isEmpty then .error (.noPort (ref ++ "=" ++ rest))
      else .ok ⟨(some ref).filter (!·.isEmpty), (threeFields rest).1,
        (threeFields rest).2.1.filter (!·.isEmpty),
        (threeFields rest).2.2.filter (!·.isEmpty)⟩ := by
  have hcut : Text.splitOnce '=' (ref ++ "=" ++ rest) = some (ref, rest) :=
    Text.splitOnce_append h rest
  simp only [parseServer, hcut]

theorem isEmpty_port_iff (rest : String) : (threeFields rest).1.isEmpty = true ↔
    rest = "" ∨ rest.toList.head? = some ',' := by
  rw [fst_threeFields, String.isEmpty_iff, ← String.toList_inj, Text.toList_upTo,
    ← String.toList_inj]
  cases rest.toList <;> simp [List.takeWhile_cons]

theorem parseServer_ok_iff : (∃ c, parseServer s = .ok c) ↔ ∃ ref rest, s = ref ++ "=" ++ rest ∧
    '=' ∉ ref.toList ∧ rest ≠ "" ∧ rest.toList.head? ≠ some ',' := by
  constructor
  · rintro ⟨c, h⟩
    cases hcut : Text.splitOnce '=' s with
    | none =>
      rw [parseServer, hcut] at h
      cases h
    | some r =>
      obtain ⟨href, hs⟩ := Text.append_of_splitOnce_eq_some hcut
      obtain rfl : s = r.1 ++ "=" ++ r.2 := hs
      refine ⟨r.1, r.2, rfl, href, not_or.1 fun hempty => ?_⟩
      rw [parseServer_append href, if_pos ((isEmpty_port_iff r.2).2 hempty)] at h
      cases h
  · rintro ⟨ref, rest, rfl, href, hrest⟩
    rw [parseServer_append href, if_neg (mt (isEmpty_port_iff rest).1 (not_or.2 hrest))]
    exact ⟨_, rfl⟩

theorem filter_of_ne_empty {o : Option String} (h : o ≠ some "") :
    o.filter (!·.isEmpty) = o := by
  cases o with
  | none => rfl
  | some s => simp_all [Option.filter]

/-- What is left of the fields when the empty ones are dropped are the parts. -/
theorem threeFields_fields (p : ServerParts) : (threeFields p.fields).1 = p.port ∧
    (threeFields p.fields).2.1.filter (!·.isEmpty) = p.protocol ∧
    (threeFields p.fields).2.2.filter (!·.isEmpty) = p.path := by
  obtain ⟨ref, port, protocol, path, -, -, hport, hprotocol, hplain, hpath⟩ := p
  cases protocol with
  | none =>
    cases path with
    | none =>
      have hfields : threeFields port = (port, none, none) := threeFields_of_none hport
      simp [ServerParts.fields, hfields]
    | some path =>
      have hempty : ',' ∉ "".toList := by simp
      have hfields : threeFields (port ++ "," ++ "" ++ "," ++ path) = (port, some "", some path) :=
        threeFields_of_two hport hempty path
      simp only [ServerParts.fields, hfields, true_and]
      exact ⟨rfl, filter_of_ne_empty hpath⟩
  | some protocol =>
    have hplain : ',' ∉ protocol.toList := hplain protocol rfl
    cases path with
    | none =>
      have hfields : threeFields (port ++ "," ++ protocol) = (port, some protocol, none) :=
        threeFields_of_one hport hplain
      simp only [ServerParts.fields, hfields, true_and]
      exact ⟨filter_of_ne_empty hprotocol, rfl⟩
    | some path =>
      have hfields : threeFields (port ++ "," ++ protocol ++ "," ++ path) =
          (port, some protocol, some path) := threeFields_of_two hport hplain path
      simp only [ServerParts.fields, hfields, true_and]
      exact ⟨filter_of_ne_empty hprotocol, filter_of_ne_empty hpath⟩

theorem parseServer_text (p : ServerParts) : parseServer p.text = .ok p.conf := by
  obtain ⟨hport, hprotocol, hpath⟩ := threeFields_fields p
  have href : (some p.ref).filter (!·.isEmpty) = p.conf.ref := by
    by_cases h : p.ref = "" <;> simp [ServerParts.conf, Option.filter, h]
  rw [ServerParts.text, parseServer_append p.equals_not_mem_ref, hport, hprotocol, hpath, href,
    if_neg (mt String.isEmpty_iff.1 p.port_ne_empty)]
  rfl

/-- The texts that describe a server are those with a port behind the first equals sign. What is
written of the parts of a server is read as just these parts. -/
theorem parseServer_written :
    (∀ s, (∃ c, parseServer s = .ok c) ↔ ∃ ref rest, s = ref ++ "=" ++ rest ∧
      '=' ∉ ref.toList ∧ rest ≠ "" ∧ rest.toList.head? ≠ some ',') ∧
    ∀ p : ServerParts, parseServer p.text = .ok p.conf :=
  ⟨fun _ => parseServer_ok_iff, parseServer_text⟩

example : (ServerParts.mk "a" "b=c" none (some "/x,y=z") (by decide) (by decide) (by decide)
    (by decide) (by decide) (by decide)).text = "a=b=c,,/x,y=z" := by decide

example : ["=22", "ssh=22,,", "ssh=,tcp", "ssh"].map (fun s => (parseServer s).toOption) =
    [some ⟨none, "22", none, none⟩, some ⟨some "ssh", "22", none, none⟩, none, none] := by decide

end ContainerBridge.Cli
