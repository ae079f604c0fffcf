import ContainerBridge.Proofs.Precedence

/-! The addresses of servers. Which hosts and ports a record leads to follows from the overrides and
from what is observed; what clients outside see does not depend on how those inside are led, and the
variants are one under different overrides. -/

namespace ContainerBridge

namespace ObservedNetwork

/-- No host is observed. An empty one counts as none. -/
def Missing (host : Option String) : Prop := ∀ h, host = some h → h = ""

/-- The host through which a container is reached unless a configuration names another. -/
inductive ReachedAt (n : ObservedNetwork) : String → Prop
  | gateway {host : String} (hg : n.gateway = some host) (hne : host ≠ "") : n.ReachedAt host
  | fallback {host : String} (hg : Missing n.gateway) (hf : n.fallbackHost = some host)
    (hne : host ≠ "") : n.ReachedAt host
  | localhost (hg : Missing n.gateway) (hf : Missing n.fallbackHost) : n.ReachedAt "localhost"

theorem nonEmpty_eq_some_iff {host : Option String} {h : String} :
    nonEmpty host = some h ↔ host = some h ∧ h ≠ "" := by
  simp [nonEmpty, Option.filter_eq_some_iff]

theorem nonEmpty_eq_none_iff {host : Option String} : nonEmpty host = none ↔ Missing host := by
  simp [nonEmpty, Missing, Option.filter_eq_none_iff]

theorem reachedAt_host (n : ObservedNetwork) : n.ReachedAt n.host := by
  unfold host
  cases hg : nonEmpty n.gateway with
  | some gateway =>
    obtain ⟨hgateway, hne⟩ := nonEmpty_eq_some_iff.1 hg
    exact .gateway hgateway hne
  | none =>
    have hgateway := nonEmpty_eq_none_iff.1 hg
    cases hf : nonEmpty n.fallbackHost with
    | some fallback =>
      obtain ⟨hfallback, hne⟩ := nonEmpty_eq_some_iff.1 hf
      exact .fallback hgateway hfallback hne
    | none => exact .localhost hgateway (nonEmpty_eq_none_iff.1 hf)

end ObservedNetwork

namespace ServerRecord

/-- What stands for a path at the end of a URL: a path that does not begin with a slash gets one. -/
inductive Suffix : Option String → String → Prop
  | absent : Suffix none ""
  | empty : Suffix (some "") ""
  | rooted (rest : String) : Suffix (some ("/" ++ rest)) ("/" ++ rest)
  | relative {path : String} (hne : path ≠ "") (hslash : ∀ rest, path ≠ "/" ++ rest) :
    Suffix (some path) ("/" ++ path)

theorem suffix_pathSuffix (path : Option String) : Suffix path (pathSuffix path) := by
  rcases path with _ | path
  · exact .absent
  · by_cases hne : path = ""
    · subst path
      exact .empty
    · have hsuffix : pathSuffix (some path) =
          if Text.startsWith "/" path then path else "/" ++ path := if_neg hne
      rw [hsuffix]
      split
      · next hslash =>
        obtain ⟨rest, rfl⟩ := Text.startsWith_iff.1 hslash
        exact .rooted rest
      · next hslash =>
        refine .relative hne fun rest hpath => ?_
        exact hslash (Text.startsWith_iff.2 ⟨rest, hpath⟩)

/-- What clients outside see of a server. -/
structure OutsideView where
  ref : String
  protocol : Option String
  path : Option String
  address : String
  url : Option String
  deriving DecidableEq

def outside (r : ServerRecord) : OutsideView :=
  ⟨r.ref, r.protocol, r.properties.path, r.address, r.url⟩

/-- Of a plan clients outside see just the host that is meant for them. -/
theorem outside_make {p₁ p₂ : AddressPlan} (h : p₁.externalHost = p₂.externalHost) (token : String)
    (b : PortBinding) (conf : ServerConf) :
    (make token b conf p₁).outside = (make token b conf p₂).outside := by
  unfold make outside
  rw [h]

end ServerRecord

namespace AddressStrategy

/-- Whether inside clients go straight to the container. -/
def GoesDirect (s : AddressStrategy) : Prop :=
  s.variant = .localEngine ∨ s.overrides.useInternalAddress = true

/-- The host for outside clients. -/
inductive OutsideHost (s : AddressStrategy) (n : ObservedNetwork) : String → Prop
  | external {host : String} (he : s.overrides.externalAddress = some host) : s.OutsideHost n host
  | internal {host : String} (hv : s.variant = .hostPort)
    (he : s.overrides.externalAddress = none) (hi : s.overrides.internalAddress = some host) :
    s.OutsideHost n host
  | observed {host : String} (he : s.overrides.externalAddress = none)
    (hi : s.variant = .hostPort → s.overrides.internalAddress = none) (hn : n.ReachedAt host) :
    s.OutsideHost n host

/-- The host and port for inside clients of the server on a token, whose node port is `hostPort`. -/
inductive InsideAddress (s : AddressStrategy) (n : ObservedNetwork) (token hostPort : String) :
    String → String → Prop
  | override {host : String} (hi : s.overrides.internalAddress = some host) :
    s.InsideAddress n token hostPort host hostPort
  | direct {host : String} (hi : s.overrides.internalAddress = none) (hd : s.GoesDirect)
    (hc : n.containerAddress = some host) (hne : host ≠ "") :
    s.InsideAddress n token hostPort host (ServerConf.portOf token)
  | observed {host : String} (hi : s.overrides.internalAddress = none)
    (hd : s.GoesDirect → ObservedNetwork.Missing n.containerAddress) (hn : n.ReachedAt host) :
    s.InsideAddress n token hostPort host hostPort

/-- What is to be reported of the server on a token with the binding `b` that `conf` describes. -/
structure Addressed (s : AddressStrategy) (n : ObservedNetwork) (conf : ServerConf) (token : String)
    (b : PortBinding) (r : ServerRecord) : Prop where
  protocol : r.protocol = conf.protocol
  path : r.properties.path = conf.path
  address : ∃ host, s.OutsideHost n host ∧ r.address = host ++ ":" ++ b.hostPort
  internalAddress : ∃ host port, s.InsideAddress n token b.hostPort host port ∧
    r.properties.internalAddress = host ++ ":" ++ port
  noUrl : conf.protocol = none → r.url = none ∧ r.properties.internalUrl = none
  url : ∀ protocol, conf.protocol = some protocol → ∃ suffix, ServerRecord.Suffix conf.path suffix ∧
    r.url = some (protocol ++ "://" ++ r.address ++ suffix) ∧
    r.properties.internalUrl =
      some (protocol ++ "://" ++ r.properties.internalAddress ++ suffix)

/-- The servers that are to be reported of a network: those of the tokens with a binding, at their
first one. -/
structure ServersAddressed (s : AddressStrategy) (n : ObservedNetwork) (confs : ServerConfs)
    (servers : OrderedMap String ServerRecord) : Prop where
  bound : ∀ token b bs, n.ports.get? token = some (b :: bs) → ∃ r, servers.get? token = some r ∧
    s.Addressed n (ServerConf.resolve token confs n.labels) token b r
  unbound : ∀ token, (∀ b bs, n.ports.get? token ≠ some (b :: bs)) → servers.get? token = none

variable {s s₁ s₂ : AddressStrategy} {n n₁ n₂ : ObservedNetwork} {token hostPort : String}

/-- Without the host-port variant the internal override plays no part outside. -/
theorem outsideHost_getD (hv : s.variant ≠ .hostPort) :
    s.OutsideHost n (s.overrides.externalAddress.getD n.host) := by
  cases he : s.overrides.externalAddress with
  | some host => exact .external he
  | none => exact .observed he (fun h => (hv h).elim) n.reachedAt_host

theorem outsideHost_or (hv : s.variant = .hostPort) : s.OutsideHost n
    ((s.overrides.externalAddress.or s.overrides.internalAddress).getD n.host) := by
  cases he : s.overrides.externalAddress with
  | some host => exact .external he
  | none =>
    cases hi : s.overrides.internalAddress with
    | some host => exact .internal hv he hi
    | none => exact .observed he (fun _ => hi) n.reachedAt_host

theorem outsideHost_plan (s : AddressStrategy) (n : ObservedNetwork) :
    s.OutsideHost n (s.plan n).externalHost := by
  obtain ⟨variant, o⟩ := s
  cases variant with
  | default => exact outsideHost_getD nofun
  | localEngine => exact outsideHost_getD nofun
  | hostPort => exact outsideHost_or rfl

theorem insideAddress_internal {direct : Bool} (hd : direct = true ↔ s.GoesDirect) :
    s.InsideAddress n token hostPort (s.overrides.internal direct n).1
      (if (s.overrides.internal direct n).2 then hostPort else Text.upTo '/' token) := by
  rw [ServerConf.upTo_slash]
  unfold AddressOverrides.internal
  cases hi : s.overrides.internalAddress with
  | some host => exact .override hi
  | none =>
    dsimp only
    cases hc : ObservedNetwork.nonEmpty n.containerAddress with
    | none =>
      have hmissing := ObservedNetwork.nonEmpty_eq_none_iff.1 hc
      exact .observed hi (fun _ => hmissing) n.reachedAt_host
    | some host =>
      obtain ⟨hcontainer, hne⟩ := ObservedNetwork.nonEmpty_eq_some_iff.1 hc
      dsimp only
      cases direct with
      | true => exact .direct hi (hd.1 rfl) hcontainer hne
      | false =>
        have hnot : ¬ s.GoesDirect := fun h => nomatch hd.2 h
        exact .observed hi (fun h => (hnot h).elim) n.reachedAt_host

theorem insideAddress_plan (s : AddressStrategy) (n : ObservedNetwork) (token hostPort : String) :
    s.InsideAddress n token hostPort (s.plan n).internalHost
      (if (s.plan n).useEphemeralPorts then hostPort else Text.upTo '/' token) := by
  obtain ⟨variant, o⟩ := s
  cases variant with
  | default => exact insideAddress_internal (by simp [GoesDirect])
  | localEngine => exact insideAddress_internal (by simp [GoesDirect])
  | hostPort => exact insideAddress_internal (by simp [GoesDirect])

theorem addressed_make (s : AddressStrategy) (n : ObservedNetwork) (conf : ServerConf)
    (token : String) (b : PortBinding) :
    s.Addressed n conf token b (.make token b conf (s.plan n)) where
  protocol := rfl
  path := rfl
  address := ⟨_, s.outsideHost_plan n, rfl⟩
  internalAddress := ⟨_, _, s.insideAddress_plan n token b.hostPort, rfl⟩
  noUrl h := by simp [ServerRecord.make, h]
  url protocol h := ⟨_, ServerRecord.suffix_pathSuffix conf.path, by simp [ServerRecord.make, h],
    by simp [ServerRecord.make, h]⟩

/-- Whatever the strategy, its records lead to the hosts and ports that the overrides and the
network call for. -/
theorem serversAddressed_resolve (s : AddressStrategy) (n : ObservedNetwork) (confs : ServerConfs) :
    s.ServersAddressed n confs (s.resolve n confs) := by
  constructor
  case bound =>
    intro token b bs hb
    have hbinding : n.binding token = some b := by
      unfold ObservedNetwork.binding
      rw [hb]
      rfl
    have hget : (s.resolve n confs).get? token =
        some (.make token b (ServerConf.resolve token confs n.labels) (s.plan n)) := by
      rw [get?_resolve, hbinding]
      rfl
    exact ⟨_, hget, s.addressed_make n _ token b⟩
  case unbound =>
    intro token hnone
    have hbinding : n.binding token = none := by
      unfold ObservedNetwork.binding
      rcases hports : n.ports.get? token with _ | (_ | ⟨b, bs⟩)
      · rfl
      · rfl
      · exact (hnone b bs hports).elim
    rw [get?_resolve, hbinding]
    rfl

/-- A network on which a web server is bound. -/
def sampleNetwork (gateway containerAddress : Option String) : ObservedNetwork where
  gateway := gateway
  containerAddress := containerAddress
  ports := .singleton "80/tcp" [⟨"", "32100"⟩]
  labels := .singleton "che:server:80/tcp:protocol" "http"

/-- Inside clients of a local engine use the port of the container, those outside its node port. -/
example : ((⟨.localEngine, {}⟩ : AddressStrategy).resolve
    (sampleNetwork (some "172.17.0.1") (some "10.0.0.1")) .empty).values.map
      (fun r => (r.url, r.properties.internalUrl)) =
    [(some "http://172.17.0.1:32100", some "http://10.0.0.1:80")] := by
  decide +kernel

/-! What clients outside see -/

/-- Two strategies and networks that differ at most in how inside clients are led: in the internal
override, which the host-port variant shows outside, in whether these go straight to the container,
and in the address of the container. -/
structure SameOutside (s₁ s₂ : AddressStrategy) (n₁ n₂ : ObservedNetwork) : Prop where
  variant : s₁.variant = s₂.variant
  external : s₁.overrides.externalAddress = s₂.overrides.externalAddress
  internal : s₁.variant = .hostPort → s₁.overrides.internalAddress = s₂.overrides.internalAddress
  gateway : n₁.gateway = n₂.gateway
  fallbackHost : n₁.fallbackHost = n₂.fallbackHost
  ports : n₁.ports = n₂.ports
  labels : n₁.labels = n₂.labels

theorem SameOutside.externalHost_eq (h : SameOutside s₁ s₂ n₁ n₂) :
    (s₁.plan n₁).externalHost = (s₂.plan n₂).externalHost := by
  have hhost : n₁.host = n₂.host := by
    unfold ObservedNetwork.host
    rw [h.gateway, h.fallbackHost]
  unfold plan
  rw [← h.variant]
  cases hv : s₁.variant with
  | default =>
    dsimp only [AddressOverrides.defaultPlan]
    rw [h.external, hhost]
  | localEngine =>
    dsimp only [AddressOverrides.localEnginePlan]
    rw [h.external, hhost]
  | hostPort =>
    dsimp only [AddressOverrides.hostPortPlan]
    rw [h.external, h.internal hv, hhost]

/-- How inside clients are led makes no difference to what clients outside see of the servers. -/
theorem outside_resolve (h : SameOutside s₁ s₂ n₁ n₂) (confs : ServerConfs) :
    (s₁.resolve n₁ confs).mapValues (fun _ r => r.outside) =
      (s₂.resolve n₂ confs).mapValues (fun _ r => r.outside) := by
  apply OrderedMap.ext_get?
  intro token
  have hbinding : n₁.binding token = n₂.binding token := by
    unfold ObservedNetwork.binding
    rw [h.ports]
  rw [OrderedMap.get?_mapValues, OrderedMap.get?_mapValues, get?_resolve, get?_resolve, hbinding,
    h.labels]
  cases n₂.binding token with
  | none => rfl
  | some b =>
    exact congrArg some (ServerRecord.outside_make h.externalHost_eq token b _)

theorem outside_resolve_sampleNetwork :
    let s₁ : AddressStrategy := ⟨.localEngine, {}⟩
    let s₂ : AddressStrategy := ⟨.localEngine, ⟨some "10.0.0.9", none, true⟩⟩
    let n₁ := sampleNetwork (some "172.17.0.1") (some "10.0.0.1")
    let n₂ := sampleNetwork (some "172.17.0.1") none
    SameOutside s₁ s₂ n₁ n₂ ∧ s₁.resolve n₁ .empty ≠ s₂.resolve n₂ .empty ∧
      (s₁.resolve n₁ .empty).mapValues (fun _ r => r.outside) =
        (s₂.resolve n₂ .empty).mapValues (fun _ r => r.outside) := by
  intro s₁ s₂ n₁ n₂
  have hsame : SameOutside s₁ s₂ n₁ n₂ := ⟨rfl, rfl, nofun, rfl, rfl, rfl, rfl⟩
  exact ⟨hsame, by decide +kernel, outside_resolve hsame .empty⟩

/-- The host-port variant shows its internal override outside. -/
example : ((⟨.hostPort, ⟨some "10.0.0.9", none, false⟩⟩ : AddressStrategy).resolve
    (sampleNetwork none none) .empty).values.map (·.address) = ["10.0.0.9:32100"] := by
  decide +kernel

/-! The variants -/

/-- The records depend on the strategy only through its plan. -/
theorem resolve_congr (h : s₁.plan n = s₂.plan n) (confs : ServerConfs) :
    s₁.resolve n confs = s₂.resolve n confs := by
  unfold resolve
  rw [h]

/-- The plans of the variants are computed from the same parts, so that the overrides make up for
all that tells them apart. -/
theorem plan_localEngine (o : AddressOverrides) (n : ObservedNetwork) :
    plan ⟨.localEngine, o⟩ n = plan ⟨.default, { o with useInternalAddress := true }⟩ n := rfl

theorem plan_hostPort (o : AddressOverrides) (n : ObservedNetwork) :
    plan ⟨.hostPort, o⟩ n =
      plan ⟨.default, { o with externalAddress := o.externalAddress.or o.internalAddress }⟩ n := rfl

/-- The variants are the default one under other overrides: with direct addressing asked for, and
with the internal override in place of a missing external one. -/
theorem resolve_eq_default (o : AddressOverrides) (n : ObservedNetwork) (confs : ServerConfs) :
    resolve ⟨.localEngine, o⟩ n confs =
        resolve ⟨.default, { o with useInternalAddress := true }⟩ n confs ∧
      resolve ⟨.hostPort, o⟩ n confs =
        resolve ⟨.default, { o with externalAddress := o.externalAddress.or o.internalAddress }⟩ n
          confs :=
  ⟨resolve_congr (plan_localEngine o n) confs, resolve_congr (plan_hostPort o n) confs⟩

end AddressStrategy
end ContainerBridge
