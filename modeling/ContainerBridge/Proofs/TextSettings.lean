import ContainerBridge.Agent.Settings
import ContainerBridge.Proofs.Printing
import ContainerBridge.Proofs.VariableValues

/-! The settings of the bridge that are texts, each set by a variable of its own. The kind of a
variable's value is settled before its setting is known, so that texts that spell truth values or
numbers are refused, while a file may set any text. -/

namespace ContainerBridge.Agent

open Json

/-- The settings that are texts. -/
inductive TextSetting where
  | connector
  | project
  | serviceAccount
  | kubeconfig
  | apiEndpoint
  | nodeAddress
  | claimName
  | strategy
  | internalAddress
  | externalAddress
  | routeAddress
  | engineUrl
  deriving DecidableEq, Repr

namespace TextSetting

/-- The variable of the setting. -/
def variableName : TextSetting → String
  | connector => "BRIDGE_CONNECTOR"
  | project => "BRIDGE_PLATFORM__NAMESPACE"
  | serviceAccount => "BRIDGE_PLATFORM__SERVICE_ACCOUNT"
  | kubeconfig => "BRIDGE_PLATFORM__KUBECONFIG"
  | apiEndpoint => "BRIDGE_PLATFORM__API_ENDPOINT"
  | nodeAddress => "BRIDGE_PLATFORM__NODE_ADDRESS"
  | claimName => "BRIDGE_PLATFORM__WORKSPACES_PVC_NAME"
  | strategy => "BRIDGE_ADDRESS__STRATEGY"
  | internalAddress => "BRIDGE_ADDRESS__INTERNAL_ADDRESS"
  | externalAddress => "BRIDGE_ADDRESS__EXTERNAL_ADDRESS"
  | routeAddress => "BRIDGE_ROUTES__EXTERNAL_ADDRESS"
  | engineUrl => "BRIDGE_ENGINE__URL"

/-- The names on the way to the setting. -/
def names : TextSetting → List String
  | connector => ["connector"]
  | project => ["platform", "namespace"]
  | serviceAccount => ["platform", "service_account"]
  | kubeconfig => ["platform", "kubeconfig"]
  | apiEndpoint => ["platform", "api_endpoint"]
  | nodeAddress => ["platform", "node_address"]
  | claimName => ["platform", "workspaces_pvc_name"]
  | strategy => ["address", "strategy"]
  | internalAddress => ["address", "internal_address"]
  | externalAddress => ["address", "external_address"]
  | routeAddress => ["routes", "external_address"]
  | engineUrl => ["engine", "url"]

/-- The configuration with the setting at `v`. -/
def set (v : String) (c : BridgeConfig) : TextSetting → BridgeConfig
  | connector => { c with connector := v }
  | project => { c with platform.project := v }
  | serviceAccount => { c with platform.serviceAccount := v }
  | kubeconfig => { c with platform.kubeconfig := some v }
  | apiEndpoint => { c with platform.apiEndpoint := some v }
  | nodeAddress => { c with platform.nodeAddress := v }
  | claimName => { c with platform.workspacesPvcName := v }
  | strategy => { c with address.strategy := v }
  | internalAddress => { c with address.overrides.internalAddress := some v }
  | externalAddress => { c with address.overrides.externalAddress := some v }
  | routeAddress => { c with routes.externalAddress := some v }
  | engineUrl => { c with engine.url := v }

end TextSetting

variable {names : List String} {v : Value} {t : TextSetting}

/-- Settings that hold a value at the end of the names, and nothing else. -/
def nested : List String → Value → Value
  | [], v => v
  | name :: rest, v => .object [(name, nested rest v)]

/-! Laying a variable's value where nothing is -/

/-- A value that is no group of settings is put where it stands. -/
theorem Layer.put_of_not_object {name : String} {base : Value} (h : ∀ ms, v ≠ .object ms) :
    put name v base = .ofMap ((members base).insert (Text.lower name) v) := by
  cases v with
  | object ms => exact absurd rfl (h ms)
  | _ => rfl

theorem Layer.putAt_nested {base : Value} (hbase : members base = .empty) (hnames : names ≠ [])
    (hlower : ∀ name ∈ names, Text.lower name = name) (hv : ∀ ms, v ≠ .object ms) :
    putAt (names.map .member) v base = nested names v := by
  induction names generalizing base with
  | nil => exact absurd rfl hnames
  | cons name rest ih =>
    obtain ⟨hname, hrest⟩ := List.forall_mem_cons.1 hlower
    cases rest with
    | nil =>
      show put name v base = _
      rw [put_of_not_object hv, hbase, hname]
      rfl
    | cons next rest =>
      have hinner : putAt ((next :: rest).map .member) v .null = nested (next :: rest) v :=
        ih rfl (by simp) hrest
      show Value.ofMap ((members base).insert (Text.lower name)
        (putAt ((next :: rest).map .member) v _)) = _
      rw [hbase, hname]
      show Value.ofMap (OrderedMap.empty.insert name
        (putAt ((next :: rest).map .member) v .null)) = _
      rw [hinner]
      rfl

namespace TextSetting

theorem variableKey_variableName (t : TextSetting) :
    Layer.variableKey t.variableName = some (".".intercalate t.names) := by
  cases t <;> decide +kernel

theorem place_names (t : TextSetting) :
    Layer.place (".".intercalate t.names) = t.names.map .member := by
  cases t <;> decide +kernel

theorem lower_names (t : TextSetting) : ∀ name ∈ t.names, Text.lower name = name := by
  cases t <;> decide +kernel

theorem names_ne_nil (t : TextSetting) : t.names ≠ [] := by
  cases t <;> decide

/-- The variable alone sets the setting alone. -/
theorem lay_ofEnvironment (t : TextSetting) (s : String) :
    Layer.lay (Layer.ofEnvironment (.singleton t.variableName s)) (.object []) =
      nested t.names (Layer.variableValue s) := by
  have henvironment : Layer.ofEnvironment (.singleton t.variableName s) =
      [(".".intercalate t.names, Layer.variableValue s)] := by
    show [(t.variableName, s)].filterMap _ = _
    simp [t.variableKey_variableName]
  have hplain : ∀ ms, Layer.variableValue s ≠ .object ms := by
    intro ms h
    have htaken := Layer.taken_variableValue s
    rw [h] at htaken
    cases htaken
  rw [henvironment]
  show Layer.putAt (Layer.place _) _ _ = _
  rw [t.place_names]
  exact Layer.putAt_nested rfl t.names_ne_nil t.lower_names hplain

/-! Reading a setting -/

theorem ofLayers_text (t : TextSetting) (s : String) :
    Settings.ofLayers (nested t.names (.text s)) = .ok { bridge := t.set s {} } := by
  cases t <;> rfl

theorem ofLayers_bool (t : TextSetting) (b : Bool) :
    Settings.ofLayers (nested t.names (.bool b)) = .error .invalid := by
  cases t <;> rfl

theorem ofLayers_number (t : TextSetting) (n : Number) :
    Settings.ofLayers (nested t.names (.number n)) = .error .invalid := by
  cases t <;> rfl

/-! Files -/

theorem narrow_nested (names : List String) (s : String) :
    Layer.narrow (nested names (.text s)) = nested names (.text s) := by
  induction names with
  | nil => rfl
  | cons name rest ih =>
    show Value.object [(name, Layer.narrow (nested rest (.text s)))] = _
    rw [ih]
    rfl

theorem put_nested {name : String} {base : Value} (hbase : Layer.members base = .empty)
    (hlower : ∀ n ∈ name :: names, Text.lower n = n) (s : String) :
    Layer.put name (nested names (.text s)) base = nested (name :: names) (.text s) := by
  induction names generalizing name base with
  | nil =>
    rw [nested, Layer.put_of_not_object (by rintro ms ⟨⟩), hbase, hlower name (by simp)]
    rfl
  | cons next rest ih =>
    obtain ⟨hname, hrest⟩ := List.forall_mem_cons.1 hlower
    have hinner : Layer.put next (nested rest (.text s)) (.object []) =
        nested (next :: rest) (.text s) := ih rfl hrest
    show Value.ofMap ((Layer.members base).insert (Text.lower name) (Layer.put next
      (nested rest (.text s)) (.ofMap (Layer.members
        (((Layer.members base).get? (Text.lower name)).getD .null))))) = _
    rw [hbase, hname]
    show Value.ofMap (OrderedMap.empty.insert name
      (Layer.put next (nested rest (.text s)) (.object []))) = _
    rw [hinner]
    rfl

theorem exists_place (t : TextSetting) :
    ∃ name rest, t.names = name :: rest ∧ Layer.place name = [.member name] := by
  cases t <;> exact ⟨_, _, rfl, by decide +kernel⟩

theorem exact_nested (names : List String) (s : String) : (nested names (.text s)).Exact := by
  induction names with
  | nil => trivial
  | cons name rest ih => exact ⟨ih, trivial⟩

theorem ofText_nested (t : TextSetting) (s : String) :
    Decoder.value.ofText (print (nested t.names (.text s))) = .ok (nested t.names (.text s)) := by
  rw [ofText_print (exact_nested t.names s)]
  cases t <;> rfl

/-- A file sets the setting to any text. -/
theorem ofSources_file (t : TextSetting) (s : String) :
    Settings.ofSources (some (.present (print (nested t.names (.text s))))) .empty =
      .ok { bridge := t.set s {} } := by
  obtain ⟨name, rest, hnames, hplace⟩ := t.exists_place
  have hread := t.ofText_nested s
  rw [hnames] at hread
  have hfile : Layer.ofFile (print (nested t.names (.text s))) =
      some [(name, nested rest (.text s))] := by
    rw [hnames]
    unfold Layer.ofFile
    rw [hread]
    show some [(name, Layer.narrow (nested rest (.text s)))] = _
    rw [narrow_nested]
  have hlay : Layer.lay [(name, nested rest (.text s))] (.object []) =
      nested t.names (.text s) := by
    show Layer.putAt (Layer.place name) _ _ = _
    rw [hplace, hnames]
    exact put_nested rfl (hnames ▸ t.lower_names) s
  simp only [Settings.ofSources, hfile, hlay]
  exact t.ofLayers_text s

/-- The variable of a text sets it exactly if what it holds spells no truth value and no number. All
else is then as it is by itself; otherwise there are no settings. -/
theorem ofSources_variable_iff (t : TextSetting) (s : String) :
    (Settings.ofSources none (.singleton t.variableName s) = .ok { bridge := t.set s {} } ↔
        ¬ Layer.Mistakable s) ∧
      (Settings.ofSources none (.singleton t.variableName s) = .error .invalid ↔
        Layer.Mistakable s) := by
  have hlayers : Settings.ofSources none (.singleton t.variableName s) =
      Settings.ofLayers (nested t.names (Layer.variableValue s)) := by
    rw [← t.lay_ofEnvironment]
    rfl
  rw [hlayers]
  have htaken := Layer.taken_variableValue s
  generalize Layer.variableValue s = v at htaken
  cases htaken with
  | bool h b => simp [t.ofLayers_bool, h]
  | number h n => simp [t.ofLayers_number, h]
  | text h => simp [t.ofLayers_text, h]

/-- A name made of digits is taken for a number, and refused. -/
theorem ofSources_digits :
    let env := OrderedMap.singleton "BRIDGE_PLATFORM__NAMESPACE" "007"
    Settings.ofSources none env = .error .invalid ∧
      Settings.ofSources none env ≠ .ok { bridge := { platform := { project := "007" } } } := by
  decide +kernel

end TextSetting
end ContainerBridge.Agent
