import ContainerBridge.Lifecycle.Settings
import ContainerBridge.Proofs.ServerAddresses

/-! The hosts of servers. An empty host is never observed, so that a plan has one only where an
override is empty, which the configuration lets through. -/

namespace ContainerBridge

theorem ObservedNetwork.ReachedAt.ne_empty {n : ObservedNetwork} {host : String}
    (h : n.ReachedAt host) : host ≠ "" := by
  cases h with
  | gateway _ hne => exact hne
  | fallback _ _ hne => exact hne
  | localhost => decide

/-- What stands before a colon decides whether the address begins with one. -/
theorem Text.startsWith_colon {host port : String} :
    Text.startsWith ":" (host ++ ":" ++ port) = true ↔
      host = "" ∨ Text.startsWith ":" host = true := by
  cases h : host.toList with
  | nil =>
    obtain rfl : host = "" := String.toList_inj.1 h
    simp [startsWith]
  | cons c cs =>
    have hne : host ≠ "" := by
      rintro rfl
      cases h
    simp [startsWith, h, hne]

theorem AddressOverrides.internal_of_some (o : AddressOverrides) {host : String}
    (hi : o.internalAddress = some host) (direct : Bool) (n : ObservedNetwork) :
    o.internal direct n = (host, true) := by
  unfold internal
  rw [hi]

namespace AddressStrategy

variable {s : AddressStrategy} {n : ObservedNetwork}

/-- The override that takes the place of the host outside is an empty one. -/
inductive BlankOutside (s : AddressStrategy) : Prop
  | external (he : s.overrides.externalAddress = some "") : s.BlankOutside
  | internal (hv : s.variant = .hostPort) (he : s.overrides.externalAddress = none)
    (hi : s.overrides.internalAddress = some "") : s.BlankOutside

/-- The hosts of a strategy's plan are empty only by an override, and the addresses of its records
begin with a colon only if the hosts are empty or begin with one. -/
structure HostsKept (s : AddressStrategy) (n : ObservedNetwork)
    (servers : OrderedMap String ServerRecord) : Prop where
  inside : (s.plan n).internalHost = "" ↔ s.overrides.internalAddress = some ""
  outside : (s.plan n).externalHost = "" ↔ s.BlankOutside
  internalAddress : ∀ token r, servers.get? token = some r →
    (Text.startsWith ":" r.properties.internalAddress = true ↔
      s.overrides.internalAddress = some "" ∨ Text.startsWith ":" (s.plan n).internalHost = true)
  address : ∀ token r, servers.get? token = some r → (Text.startsWith ":" r.address = true ↔
    s.BlankOutside ∨ Text.startsWith ":" (s.plan n).externalHost = true)

theorem internalHost_eq_empty_iff :
    (s.plan n).internalHost = "" ↔ s.overrides.internalAddress = some "" := by
  constructor
  · intro h
    obtain ⟨port, hinside⟩ : ∃ port, s.InsideAddress n "" "" (s.plan n).internalHost port :=
      ⟨_, s.insideAddress_plan n "" ""⟩
    rw [h] at hinside
    cases hinside with
    | override hi => exact hi
    | direct _ _ _ hne => exact (hne rfl).elim
    | observed _ _ hn => exact (hn.ne_empty rfl).elim
  · intro hi
    unfold plan
    cases s.variant with
    | default => exact congrArg Prod.fst (s.overrides.internal_of_some hi _ n)
    | localEngine => exact congrArg Prod.fst (s.overrides.internal_of_some hi _ n)
    | hostPort => exact congrArg Prod.fst (s.overrides.internal_of_some hi _ n)

theorem externalHost_eq_empty_iff : (s.plan n).externalHost = "" ↔ s.BlankOutside := by
  constructor
  · intro h
    have houtside := s.outsideHost_plan n
    rw [h] at houtside
    cases houtside with
    | external he => exact .external he
    | internal hv he hi => exact .internal hv he hi
    | observed _ _ hn => exact (hn.ne_empty rfl).elim
  · intro h
    cases h with
    | external he =>
      unfold plan
      cases s.variant with
      | default => simp [AddressOverrides.defaultPlan, he]
      | localEngine => simp [AddressOverrides.localEnginePlan, he]
      | hostPort => simp [AddressOverrides.hostPortPlan, he]
    | internal hv he hi => simp [plan, AddressOverrides.hostPortPlan, hv, he, hi]

theorem hostsKept_resolve (s : AddressStrategy) (n : ObservedNetwork) (confs : ServerConfs) :
    s.HostsKept n (s.resolve n confs) := by
  have hrecord : ∀ token r, (s.resolve n confs).get? token = some r → ∃ b : PortBinding, ∃ port,
      r.address = (s.plan n).externalHost ++ ":" ++ b.hostPort ∧
      r.properties.internalAddress = (s.plan n).internalHost ++ ":" ++ port := by
    intro token r hr
    rw [get?_resolve] at hr
    obtain ⟨b, -, rfl⟩ := Option.map_eq_some_iff.1 hr
    exact ⟨b, _, rfl, rfl⟩
  constructor
  case inside => exact internalHost_eq_empty_iff
  case outside => exact externalHost_eq_empty_iff
  case internalAddress =>
    intro token r hr
    obtain ⟨b, port, -, hinternal⟩ := hrecord token r hr
    rw [hinternal, Text.startsWith_colon, internalHost_eq_empty_iff]
  case address =>
    intro token r hr
    obtain ⟨b, port, haddress, -⟩ := hrecord token r hr
    rw [haddress, Text.startsWith_colon, externalHost_eq_empty_iff]

/-- An address may begin with a colon that belongs to its host. -/
example : ((⟨.default, {}⟩ : AddressStrategy).resolve (sampleNetwork (some "::1") none)
    .empty).values.map (·.address) = ["::1:32100"] := by
  decide +kernel

/-- The overrides of the configuration are taken as they are: an empty one leaves the addresses
without a host. -/
theorem resolve_blankOverrides :
    let file : Json.Value := .ofMembers [("address", some (.ofMembers
      [("internal_address", some (.text "")), ("strategy", some (.text "host-port"))]))]
    (BridgeConfig.decoder.ofValue file).toOption.map (fun c => ((Lifecycle.strategyOf c).resolve
      (sampleNetwork (some "172.17.0.1") (some "10.0.0.1")) .empty).values.map fun r =>
        (r.address, r.properties.internalAddress)) = some [(":32100", ":32100")] := by
  decide +kernel

end AddressStrategy
end ContainerBridge
