import ContainerBridge.Error
import ContainerBridge.Proofs.Decimal
import ContainerBridge.Proofs.Entries

/-! The tokens of ports. What is read as a token is what is made as one, but that its number may
have a plus sign and zeros before it; the token of a port that was read is read as that port. -/

namespace ContainerBridge.Port

variable {p : Port} {t protocol : String} {n : Nat}

/-- A token of a port: a number in the range of ports, the first slash, and a protocol. -/
structure Token (t : String) (n : Nat) (protocol : String) : Prop where
  parts : ∃ number, t = number ++ "/" ++ protocol ∧ '/' ∉ number.toList ∧
    Text.Spells n number.toList
  range : n ≤ 65535
  named : protocol ≠ ""

/-- The reading of a token in a request. -/
def requested (t : String) : Except BridgeError Port :=
  (parse t).mapError fun f => (SpecFault.badPort t f).error

/-- What is found in a text that is read as a port. -/
theorem parts_of_parse (h : parse t = .ok p) : ∃ number protocol n,
    Text.cut '/' t.toList = some (number, protocol) ∧
      Text.natural? UInt16.size number = some n ∧ protocol ≠ [] ∧
        p = ⟨UInt16.ofNat n, String.ofList protocol⟩ := by
  unfold parse at h
  split at h
  · cases h
  · next number protocol hcut =>
    split at h
    · cases h
    · next n hn =>
      split at h
      · cases h
      · next hnamed =>
        exact ⟨number, protocol, n, hcut, hn, by simpa using hnamed, (Except.ok.inj h).symm⟩

theorem token_of_parse (h : parse t = .ok p) : Token t p.number.toNat p.protocol := by
  obtain ⟨number, protocol, n, hcut, hn, hnamed, rfl⟩ := parts_of_parse h
  obtain ⟨hslash, ht⟩ := Text.append_of_cut_eq_some hcut
  obtain ⟨hspells, hlt⟩ := Text.natural?_eq_some_iff.1 hn
  have hvalue : (UInt16.ofNat n).toNat = n := UInt16.toNat_ofNat_of_lt hlt
  constructor
  case parts =>
    refine ⟨String.ofList number, String.toList_inj.1 ?_, ?_, ?_⟩
    · simp [ht]
    · rwa [String.toList_ofList]
    · rwa [String.toList_ofList, hvalue]
  case range => exact Nat.le_of_lt_succ (UInt16.toNat_lt _)
  case named => simpa using hnamed

theorem parse_of_token (h : Token t n protocol) : parse t = .ok ⟨UInt16.ofNat n, protocol⟩ := by
  obtain ⟨⟨number, rfl, hslash, hspells⟩, hrange, hnamed⟩ := h
  have hcut : Text.cut '/' (number ++ "/" ++ protocol).toList =
      some (number.toList, protocol.toList) := by
    rw [← Text.cut_append hslash protocol.toList]
    simp
  have hn : Text.natural? UInt16.size number.toList = some n :=
    Text.natural?_eq_some_iff.2 ⟨hspells, Nat.lt_succ_of_le hrange⟩
  have hnonempty : protocol.toList.isEmpty = false := by simpa using hnamed
  simp only [parse, hcut, hn, hnonempty, String.ofList_toList]
  rfl

theorem parse_eq_ok_iff : parse t = .ok p ↔ Token t p.number.toNat p.protocol := by
  refine ⟨token_of_parse, fun h => ?_⟩
  rw [parse_of_token h, UInt16.ofNat_toNat]

theorem token_token (h : p.protocol ≠ "") : Token p.token p.number.toNat p.protocol where
  parts := by
    refine ⟨toString p.number, rfl, fun hslash => ?_,
      .plain (Text.isDecimal_toString p.number.toNat)⟩
    exact absurd (Text.isDigit_of_mem_toString hslash) (by decide)
  range := Nat.le_of_lt_succ p.number.toNat_lt
  named := h

theorem parse_token_iff : parse p.token = .ok p ↔ p.protocol ≠ "" :=
  ⟨fun h => (token_of_parse h).named, fun h => parse_eq_ok_iff.2 (token_token h)⟩

theorem requested_eq_error_iff :
    (∃ text, requested t = .error (.invalidSpec text)) ↔ ¬ ∃ n protocol, Token t n protocol := by
  constructor
  · rintro ⟨text, h⟩ ⟨n, protocol, htoken⟩
    rw [requested, parse_of_token htoken] at h
    cases h
  · intro h
    cases hp : parse t with
    | ok p => exact (h ⟨_, _, token_of_parse hp⟩).elim
    | error f => exact ⟨f.message t, by rw [requested, hp]; rfl⟩

/-- Just the tokens of ports are read, as the ports they are tokens of, and anything else is an
invalid request. A port with a protocol is read from its own token, so that writing and reading once
more changes nothing. -/
theorem parse_tokens (t : String) :
    (∀ p, parse t = .ok p ↔ Token t p.number.toNat p.protocol) ∧
      ((∃ text, requested t = .error (.invalidSpec text)) ↔ ¬ ∃ n protocol, Token t n protocol) ∧
      (∀ p : Port, parse p.token = .ok p ↔ p.protocol ≠ "") ∧
      ((parse t).bind fun p => parse p.token) = parse t := by
  refine ⟨fun p => parse_eq_ok_iff, requested_eq_error_iff, fun p => parse_token_iff, ?_⟩
  cases h : parse t with
  | error f => rfl
  | ok p => exact parse_token_iff.2 (token_of_parse h).named

example : ["+0080/tcp/x", "65536/tcp", "80/", "+/tcp"].map (fun t => (parse t).toOption) =
    [some ⟨80, "tcp/x"⟩, none, none, none] := by decide

end ContainerBridge.Port
