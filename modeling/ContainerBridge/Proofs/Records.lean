import ContainerBridge.Container.Image
import ContainerBridge.Container.Info
import ContainerBridge.Container.Spec
import ContainerBridge.Proofs.Decoding
import ContainerBridge.Server.Conf
import ContainerBridge.Server.Record

/-! Requests, images, containers and servers on their way between the command line, the agent and
the engine: what one side writes, the other side reads as it was. -/

namespace ContainerBridge

open Json Json.Record Json.Decoder

/-! Requests -/

theorem ContainerSpec.ofValue_toJson (s : ContainerSpec) : decoder.ofValue s.toJson = .ok s := by
  refine ofValue_ofMembers (by simp) fun m hm => ?_
  simp only [List.forall_mem_cons] at hm
  obtain ⟨hname, himage, henv, hports, hbinds, hlabels, -⟩ := hm
  have hread := ofValue_object (d := .nullable .text) (f := fun _ v => .orNull (v.map .text))
    (m := s.labels) fun _ _ _ => ofValue_orNull fun t _ => ⟨nofun, ofValue_text t⟩
  exact ((((((reads_required hname (ofValue_text _)).map ContainerSpec.mk).seq
    (reads_required himage (ofValue_text _))).seq
    (reads_optional henv (ofValue_texts _))).seq
    (reads_optional hports (ofValue_members _))).seq
    (reads_optional hbinds (ofValue_texts _))).seq
    (reads_optional hlabels hread)

theorem ContainerCreated.ofValue_toJson (c : ContainerCreated) :
    decoder.ofValue c.toJson = .ok c := by
  refine ofValue_ofMembers (by simp) fun m hm => ?_
  simp only [List.forall_mem_cons] at hm
  obtain ⟨hid, hwarnings, -⟩ := hm
  exact ((reads_required hid (ofValue_text _)).map ContainerCreated.mk).seq
    (reads_optional hwarnings (ofValue_texts _))

theorem ServerConf.ofValue_toJson (c : ServerConf) : decoder.ofValue c.toJson = .ok c := by
  refine ofValue_ofMembers (by simp) fun m hm => ?_
  simp only [List.forall_mem_cons] at hm
  obtain ⟨href, hport, hprotocol, hpath, -⟩ := hm
  exact ((((reads_maybe_text href).map ServerConf.mk).seq
    (reads_required hport (ofValue_text _))).seq
    (reads_maybe_text hprotocol)).seq
    (reads_maybe_text hpath)

/-! Reports -/

theorem PortBinding.ofValue_toJson (b : PortBinding) : decoder.ofValue b.toJson = .ok b := by
  refine ofValue_ofMembers (by simp) fun m hm => ?_
  simp only [List.forall_mem_cons] at hm
  obtain ⟨hip, hport, -⟩ := hm
  exact ((reads_orNull hip fun t _ => ⟨nofun, ofValue_text t⟩).map PortBinding.mk).seq
    (reads_optional hport (ofValue_text _))

theorem ServerProperties.ofValue_toJson (p : ServerProperties) :
    decoder.ofValue p.toJson = .ok p := by
  refine ofValue_ofMembers (by simp) fun m hm => ?_
  simp only [List.forall_mem_cons] at hm
  obtain ⟨hpath, haddress, hurl, -⟩ := hm
  exact (((reads_maybe_text hpath).map ServerProperties.mk).seq
    (reads_required haddress (ofValue_text _))).seq
    (reads_maybe_text hurl)

theorem ServerRecord.ofValue_toJson (s : ServerRecord) : decoder.ofValue s.toJson = .ok s := by
  refine ofValue_ofMembers (by simp) fun m hm => ?_
  simp only [List.forall_mem_cons] at hm
  obtain ⟨href, hprotocol, haddress, hurl, hproperties, -⟩ := hm
  exact (((((reads_required href (ofValue_text _)).map ServerRecord.mk).seq
    (reads_maybe_text hprotocol)).seq
    (reads_required haddress (ofValue_text _))).seq
    (reads_maybe_text hurl)).seq
    (reads_required hproperties (ServerProperties.ofValue_toJson _))

theorem RuntimeInfo.ofValue_toJson (r : RuntimeInfo) : decoder.ofValue r.toJson = .ok r := by
  refine ofValue_ofMembers (by simp) fun m hm => ?_
  simp only [List.forall_mem_cons] at hm
  obtain ⟨hproperties, henv, hservers, -⟩ := hm
  exact (((reads_required hproperties (ofValue_textMap _)).map RuntimeInfo.mk).seq
    (reads_required henv (ofValue_textMap _))).seq
    (reads_required hservers (ofValue_object fun _ s _ => s.ofValue_toJson))

/-! Images and containers. The values beside exposed ports are free. -/

theorem reads_exposedPorts {m : OrderedMap String Value} {name : String}
    {ports : Option (OrderedMap String OrderedValue)}
    (hm : m.get? name = some (.orNull (ports.map Value.orderedMap))) :
    (maybe name (.object .orderedValue)).Reads m ports :=
  reads_orNull hm fun _ _ => ⟨nofun, ofValue_object fun _ v _ => ofValue_orderedValue v⟩

theorem reads_texts {m : OrderedMap String Value} {name : String} {o : Option (List String)}
    (hm : m.get? name = some (.orNull (o.map Value.texts))) :
    (maybe name (.list .text)).Reads m o :=
  reads_orNull hm fun l _ => ⟨nofun, ofValue_texts l⟩

theorem reads_textMap {m : OrderedMap String Value} {name : String}
    {o : Option (OrderedMap String String)}
    (hm : m.get? name = some (.orNull (o.map Value.textMap))) :
    (maybe name (.object .text)).Reads m o :=
  reads_orNull hm fun l _ => ⟨nofun, ofValue_textMap l⟩

theorem ImageConfig.ofValue_toJson (c : ImageConfig) : decoder.ofValue c.toJson = .ok c := by
  refine ofValue_ofMembers (by simp) fun m hm => ?_
  simp only [List.forall_mem_cons] at hm
  obtain ⟨hports, henv, hlabels, -⟩ := hm
  exact (((reads_exposedPorts hports).map ImageConfig.mk).seq (reads_texts henv)).seq
    (reads_textMap hlabels)

theorem ImageInfo.ofValue_toJson (i : ImageInfo) : decoder.ofValue i.toJson = .ok i := by
  refine ofValue_ofMembers (by simp) fun m hm => ?_
  simp only [List.forall_mem_cons] at hm
  obtain ⟨hid, hconfig, -⟩ := hm
  exact ((reads_optional hid (ofValue_text _)).map ImageInfo.mk).seq
    (reads_orNull hconfig fun c _ => ⟨nofun, c.ofValue_toJson⟩)

theorem ContainerConfig.ofValue_toJson (c : ContainerConfig) :
    decoder.ofValue c.toJson = .ok c := by
  refine ofValue_ofMembers (by simp) fun m hm => ?_
  simp only [List.forall_mem_cons] at hm
  obtain ⟨hhostname, himage, hdir, huser, henv, hlabels, hports, -⟩ := hm
  exact (((((((reads_maybe_text hhostname).map ContainerConfig.mk).seq
    (reads_maybe_text himage)).seq
    (reads_maybe_text hdir)).seq
    (reads_maybe_text huser)).seq
    (reads_texts henv)).seq
    (reads_textMap hlabels)).seq
    (reads_exposedPorts hports)

theorem ContainerState.ofValue_toJson (s : ContainerState) : decoder.ofValue s.toJson = .ok s := by
  refine ofValue_ofMembers (by simp) fun m hm => ?_
  simp only [List.forall_mem_cons] at hm
  obtain ⟨hstatus, hrunning, hpid, hexit, hstarted, hfinished, -⟩ := hm
  exact ((((((reads_maybe_text hstatus).map ContainerState.mk).seq
    (reads_optional hrunning (ofValue_bool _))).seq
    (reads_optional hpid (ofValue_int64 _))).seq
    (reads_optional hexit (ofValue_int64 _))).seq
    (reads_maybe_text hstarted)).seq
    (reads_maybe_text hfinished)

theorem NetworkSettings.ofValue_toJson (n : NetworkSettings) :
    decoder.ofValue n.toJson = .ok n := by
  refine ofValue_ofMembers (by simp) fun m hm => ?_
  simp only [List.forall_mem_cons] at hm
  obtain ⟨hip, hgateway, hmac, hports, -⟩ := hm
  have hread := ofValue_object (d := .nullable (.list PortBinding.decoder))
    (f := fun _ bs => .orNull (bs.map fun bs => .array (bs.map PortBinding.toJson)))
    (m := n.ports) fun _ _ _ => ofValue_orNull fun bs _ =>
      ⟨nofun, ofValue_list fun b _ => b.ofValue_toJson⟩
  exact ((((reads_maybe_text hip).map NetworkSettings.mk).seq
    (reads_maybe_text hgateway)).seq
    (reads_maybe_text hmac)).seq
    (reads_optional hports (ofValue_nullAs _ nofun hread))

theorem HostConfig.ofValue_toJson (h : HostConfig) : decoder.ofValue h.toJson = .ok h := by
  refine ofValue_ofMembers (by simp) fun m hm => ?_
  simp only [List.forall_mem_cons] at hm
  obtain ⟨hmode, hprivileged, hmemory, hbinds, -⟩ := hm
  exact ((((reads_maybe_text hmode).map HostConfig.mk).seq
    (reads_optional hprivileged (ofValue_bool _))).seq
    (reads_optional hmemory (ofValue_int64 _))).seq
    (reads_texts hbinds)

theorem ContainerInfo.ofValue_toJson (i : ContainerInfo) :
    decoder.ofValue i.toJson = .ok i := by
  refine ofValue_ofMembers (by simp) fun m hm => ?_
  simp only [List.forall_mem_cons] at hm
  obtain ⟨hid, hcreated, hname, himage, hconfig, hstate, hnetwork, hhost, -⟩ := hm
  have htext (t : String) : Value.text t ≠ .null ∧ Decoder.text.ofValue (.text t) = .ok t :=
    ⟨nofun, ofValue_text t⟩
  exact ((((((((reads_required hid (ofValue_text _)).map ContainerInfo.mk).seq
    (reads_orNull hcreated fun t _ => htext t)).seq
    (reads_orNull hname fun t _ => htext t)).seq
    (reads_orNull himage fun t _ => htext t)).seq
    (reads_optional hconfig (ofValue_nullAs _ nofun i.config.ofValue_toJson))).seq
    (reads_optional hstate (ofValue_nullAs _ nofun i.state.ofValue_toJson))).seq
    (reads_optional hnetwork (ofValue_nullAs _ nofun i.networkSettings.ofValue_toJson))).seq
    (reads_optional hhost (ofValue_nullAs _ nofun i.hostConfig.ofValue_toJson))

/-- Nothing is lost of what is written as a JSON value and read again. -/
theorem read_back :
    (∀ s : ContainerSpec, ContainerSpec.decoder.ofValue s.toJson = .ok s) ∧
    (∀ c : ContainerCreated, ContainerCreated.decoder.ofValue c.toJson = .ok c) ∧
    (∀ c : ServerConf, ServerConf.decoder.ofValue c.toJson = .ok c) ∧
    (∀ b : PortBinding, PortBinding.decoder.ofValue b.toJson = .ok b) ∧
    (∀ s : ServerRecord, ServerRecord.decoder.ofValue s.toJson = .ok s) ∧
    (∀ r : RuntimeInfo, RuntimeInfo.decoder.ofValue r.toJson = .ok r) ∧
    (∀ i : ImageInfo, ImageInfo.decoder.ofValue i.toJson = .ok i) ∧
    ∀ i : ContainerInfo, ContainerInfo.decoder.ofValue i.toJson = .ok i :=
  ⟨ContainerSpec.ofValue_toJson, ContainerCreated.ofValue_toJson, ServerConf.ofValue_toJson,
    PortBinding.ofValue_toJson, ServerRecord.ofValue_toJson, RuntimeInfo.ofValue_toJson,
    ImageInfo.ofValue_toJson, ContainerInfo.ofValue_toJson⟩

/-- Ports beside one of which stands an object of its own. -/
def samplePorts : OrderedMap String OrderedValue :=
  .singleton "80/tcp" ⟨.object [("", .null), ("a", .array [.number (.double ⟨1⟩), .object []])], by
    have hlt : "" < "a" := by decide
    simp only [Value.Ordered, Value.OrderedMembers, Value.OrderedItems, List.pairwise_cons,
      List.forall_mem_singleton, hlt]
    simp⟩

def sampleImage : ImageInfo := ⟨"", some { exposedPorts := some samplePorts }⟩

def sampleContainer : ContainerInfo where
  id := "8d5e2f0c41a7"
  config := { env := some [], exposedPorts := some samplePorts }
  state := { exitCode := -1 }
  networkSettings := { ports := .ofList [("80/tcp", some [⟨none, ""⟩]), ("22/tcp", none)] }

theorem read_back_sampleContainer :
    ImageInfo.decoder.ofValue sampleImage.toJson = .ok sampleImage ∧
      ContainerInfo.decoder.ofValue sampleContainer.toJson = .ok sampleContainer := by
  obtain ⟨-, -, -, -, -, -, himage, hcontainer⟩ := read_back
  exact ⟨himage sampleImage, hcontainer sampleContainer⟩

end ContainerBridge
