import ContainerBridge.Proofs.Decimal
import ContainerBridge.Proofs.Entries
import ContainerBridge.Proofs.Ports
import Mathlib.Data.List.Nodup

/-! The names of ports. A well-known port is named by its number alone and any other by its number
and protocol, so that ports of different tokens may share a name. -/

namespace ContainerBridge

namespace Port

/-- The number is that of a port with a name of its own. -/
def WellKnown (number : UInt16) : Prop := number ∈ wellKnown.map Prod.fst

/-- The ports get one name: they have one number, and unless it is well known their protocols differ
at most in slashes for dashes. -/
def NamedAlike (p q : Port) : Prop :=
  p.number = q.number ∧ (WellKnown p.number ∨
    Text.replaceChar '/' '-' p.protocol = Text.replaceChar '/' '-' q.protocol)

/-- The tokens are those of ports that get one name. -/
def TokensAlike (t t' : String) : Prop :=
  ∃ p q, parse t = .ok p ∧ parse t' = .ok q ∧ NamedAlike p q

variable {p q : Port} {number m n : UInt16} {s : String}

theorem mem_wellKnown (h : wellKnownName number = some s) : (number, s) ∈ wellKnown := by
  obtain ⟨before, after, hl, -⟩ := List.lookup_eq_some_iff.1 h
  rw [hl]
  simp

theorem wellKnown_of_name (h : wellKnownName number = some s) : WellKnown number :=
  List.mem_map_of_mem (mem_wellKnown h)

theorem not_wellKnown (h : wellKnownName number = none) : ¬ WellKnown number := by
  intro hmem
  obtain ⟨e, he, rfl⟩ := List.mem_map.1 hmem
  simpa using List.lookup_eq_none_iff.1 h e he

/-- No two of the well-known ports have one name. -/
theorem wellKnownName_injective (hm : wellKnownName m = some s) (hn : wellKnownName n = some s) :
    m = n := by
  have hdistinct : (wellKnown.map Prod.snd).Nodup := by decide
  have hsame := List.inj_on_of_nodup_map hdistinct (mem_wellKnown hm) (mem_wellKnown hn) rfl
  exact (Prod.mk.inj hsame).1

theorem name_of_known (h : wellKnownName p.number = some s) : p.name = s := by
  rw [name, h]
  rfl

theorem name_of_unknown (h : wellKnownName p.number = none) :
    p.name = toString p.number ++ "-" ++ Text.replaceChar '/' '-' p.protocol := by
  have hkeep : (toString p.number).toList.map (fun c => if c = '/' then '-' else c) =
      (toString p.number).toList := by
    refine (List.map_congr_left fun c hc => ?_).trans (List.map_id _)
    refine if_neg ?_
    rintro rfl
    exact absurd (Text.isDigit_of_mem_toString hc) (by decide)
  rw [name, h]
  apply String.toList_inj.1
  simp [token, Text.replaceChar, hkeep]

/-- The name of a well-known port holds no digit, that of any other begins with its number. -/
theorem known_ne_unknown (hp : wellKnownName p.number = some s)
    (hq : wellKnownName q.number = none) : p.name ≠ q.name := by
  have hwords : ∀ e ∈ wellKnown, e.2.toList.all (fun c => !c.isDigit) = true := by decide
  obtain ⟨c, hc⟩ : ∃ c, c ∈ (toString q.number).toList :=
    List.exists_mem_of_ne_nil _ (Text.toString_ne_nil q.number.toNat)
  intro h
  rw [name_of_known hp, name_of_unknown hq] at h
  have hmem : c ∈ s.toList := by simp [h, hc]
  have hword := List.all_eq_true.1 (hwords _ (mem_wellKnown hp)) c hmem
  rw [Text.isDigit_of_mem_toString hc] at hword
  cases hword

theorem name_eq_iff_of_unknown (hp : wellKnownName p.number = none)
    (hq : wellKnownName q.number = none) : p.name = q.name ↔ p.number = q.number ∧
      Text.replaceChar '/' '-' p.protocol = Text.replaceChar '/' '-' q.protocol := by
  rw [name_of_unknown hp, name_of_unknown hq]
  constructor
  · intro h
    -- Digits are no dashes, so that the number ends before the first dash.
    have hupTo : ∀ (n : UInt16) (rest : String),
        Text.upTo '-' (toString n ++ "-" ++ rest) = toString n := fun n rest =>
      Text.upTo_append (fun hmem => absurd (Text.isDigit_of_mem_toString hmem) (by decide)) rest
    have hnumbers := congrArg (Text.upTo '-') h
    rw [hupTo, hupTo] at hnumbers
    have hnumber := Text.toString_uint16_injective hnumbers
    rw [hnumber] at h
    exact ⟨hnumber, (String.append_right_inj _).1 h⟩
  · rintro ⟨hnumber, hprotocol⟩
    rw [hnumber, hprotocol]

theorem name_eq_iff : p.name = q.name ↔ NamedAlike p q := by
  cases hp : wellKnownName p.number with
  | some s =>
    have hknown : NamedAlike p q ↔ p.number = q.number :=
      and_iff_left (.inl (wellKnown_of_name hp))
    rw [hknown]
    cases hq : wellKnownName q.number with
    | some s' =>
      rw [name_of_known hp, name_of_known hq]
      constructor
      · rintro rfl
        exact wellKnownName_injective hp hq
      · intro h
        rw [h, hq] at hp
        exact (Option.some.inj hp).symm
    | none =>
      refine iff_of_false (known_ne_unknown hp hq) fun h => ?_
      rw [h, hq] at hp
      cases hp
  | none =>
    have hunknown : NamedAlike p q ↔ p.number = q.number ∧
        Text.replaceChar '/' '-' p.protocol = Text.replaceChar '/' '-' q.protocol :=
      and_congr_right fun _ => or_iff_right (not_wellKnown hp)
    rw [hunknown]
    cases hq : wellKnownName q.number with
    | some s' =>
      refine iff_of_false (known_ne_unknown hq hp).symm fun h => ?_
      rw [← h.1, hp] at hq
      cases hq
    | none => exact name_eq_iff_of_unknown hp hq

end Port

namespace Lifecycle

variable {tokens : OrderedSet String} {ports : List Port}

/-- The ports of a service have names of their own just if no two of the tokens they were read from
are named alike. -/
theorem nodup_portNames_iff (h : exposedPorts tokens = .ok ports) :
    ((ports.map Port.toService).map ServicePort.name).Nodup ↔
      ∀ t ∈ tokens.members, ∀ t' ∈ tokens.members, Port.TokensAlike t t' → t = t' := by
  let nameOf (t : String) : Option String := (Port.parse t).toOption.map Port.name
  have hnames : tokens.members.map nameOf =
      ((ports.map Port.toService).map ServicePort.name).map some := by
    have hparsed := congrArg (List.map fun r => r.toOption.map Port.name)
      (map_parse_of_exposedPorts h)
    simpa [nameOf, Function.comp_def, Except.toOption, Port.toService] using hparsed
  have halike : ∀ t ∈ tokens.members, ∀ t' ∈ tokens.members,
      nameOf t = nameOf t' ↔ Port.TokensAlike t t' := by
    intro t ht t' ht'
    obtain ⟨p, -, hp⟩ := parse_of_mem_exposed h ht
    obtain ⟨q, -, hq⟩ := parse_of_mem_exposed h ht'
    simp [nameOf, Port.TokensAlike, hp, hq, Except.toOption, Port.name_eq_iff]
  rw [← List.nodup_map_iff fun _ _ => Option.some.inj, ← hnames,
    List.nodup_map_iff_inj_on (OrderedSet.nodup_members tokens)]
  refine forall₂_congr fun t ht => forall₂_congr fun t' ht' => ?_
  rw [halike t ht t' ht']

theorem nodup_portNames_iff_sampleTokens :
    let tokens : OrderedSet String := .ofMembers ["80/tcp", "80/udp", "4401/tcp", "8080/tcp"]
    let ports : List Port := [⟨4401, "tcp"⟩, ⟨80, "tcp"⟩, ⟨80, "udp"⟩, ⟨8080, "tcp"⟩]
    exposedPorts tokens = .ok ports ∧
      ∀ t ∈ tokens.members, ∀ t' ∈ tokens.members, Port.TokensAlike t t' → t = t' := by
  intro tokens ports
  have h : exposedPorts tokens = .ok ports := by decide +kernel
  exact ⟨h, (nodup_portNames_iff h).1 (by decide +kernel)⟩

/-- Another spelling of the number and, at a well-known port, another protocol give a name again. -/
theorem portNames_repeated :
    let tokens : OrderedSet String := .ofMembers ["080/tcp", "80/tcp", "4401/tcp", "4401/udp"]
    (exposedPorts tokens).map (fun ports => (ports.map Port.toService).map ServicePort.name) =
      .ok ["80-tcp", "wsagent", "wsagent", "80-tcp"] := by
  decide +kernel

end Lifecycle
end ContainerBridge
