import ContainerBridge.Proofs.Inspection
import ContainerBridge.Proofs.Label

/-! The labels that are reported of a container that was just created. They come back from the
annotations of its service, so that what an annotation cannot carry is missing in the report. -/

namespace ContainerBridge.Lifecycle

open Cluster Cluster.State

variable {s : Settings} {spec : ContainerSpec} {w w₁ : World} {info : ContainerInfo}

/-- A container that the engine finds and the cluster knows is reported with its service. -/
theorem runUnder_inspectContainer {containerId deployment : String} {sv : Service} (waits : Waits)
    (hcalm : w.clusterOutages = []) (hengine : w.engineOutages = [])
    (hfind : w.engine.find containerId = some info)
    (hk : Known ⟨s.project, deployment⟩ (shortId info.id) w.cluster)
    (hl : w.cluster.listingFailure = none) (hsv : serviceOf s deployment w.cluster = some sv) :
    (World.runUnder waits (inspectContainer s containerId) w).1 = .ok (withService s info sv) := by
  rw [inspectContainer, World.runUnder_inspectContainer_bind waits hengine, hfind]
  refine (World.runUnder_of_ensures (fun res _ => res = .ok (withService s info sv)) waits hcalm
    ?_).1
  exact (ensures_describe hk hl hsv).imp (fun _ _ h => congrArg _ h) fun _ _ h => h.elim

/-- Next to a container without labels the annotations of labels give the server labels. -/
theorem get?_clusterLabels_encode {labels : OrderedMap String (Option String)}
    {native : Option (OrderedMap String String)} (hbare : native.getD .empty = .empty)
    (k v : String) : (clusterLabels (Label.encode labels) native).get? k = some v ↔
      Label.Carried labels k v ∧ "che:server".toList <+: k.toList := by
  have hnative : (native.map (·.entries)).getD [] = [] := by
    cases native with
    | none => rfl
    | some m =>
      obtain rfl : m = .empty := hbare
      rfl
  have hread : (Label.decode (Label.encode labels)).get? k = some v ↔ Label.Carried labels k v :=
    Label.get?_decode_eq_some_iff (fun _ _ h => h) fun _ _ h _ _ => h
  have hstart : Text.startsWith Label.serverNamespace k = true ↔ "che:server".toList <+: k.toList :=
    List.isPrefixOf_iff_prefix
  rw [clusterLabels, hnative, Label.serverLabels, OrderedMap.get?_filter, Option.filter_eq_some_iff,
    hstart]
  exact and_congr_left fun _ => hread

/-- Of a container that was created and has no labels of its own the report gives the server labels
of the request, with their keys and values. Only a label with a line feed is lost. -/
theorem inspectContainer_labels {id : String} {created : ContainerCreated} (waits waits' : Waits)
    (hcalm : w.clusterOutages = []) (hid : Workspace.idOf spec.env = .ok id)
    (hu : Unclaimed ⟨s.project, Workspace.resourceName id⟩ w.cluster)
    (hcreate : World.runUnder waits (Connector.create spec (.cluster s)) w = (.ok created, w₁))
    (hnew : Unseen s.project (shortId created.id) w.cluster) (hengine : w₁.engineOutages = [])
    (hinfo : w₁.engine.containers.get? created.id = some info) (hinfoId : info.id = created.id)
    (hbare : info.config.labels.getD .empty = .empty) :
    ∃ report labels,
      (World.runUnder waits' (Connector.inspectContainer created.id (.cluster s)) w₁).1 =
        .ok report ∧
      report.config.labels = some labels ∧
      ∀ k v, labels.get? k = some v ↔
        Label.Carried spec.labels k v ∧ "che:server".toList <+: k.toList := by
  obtain ⟨hc, hcalm₁⟩ := World.runUnder_of_ensures
    (fun res c' => Creation s spec w.engine.images w.cluster res c') waits hcalm
    (ensures_create s spec)
  rw [show create s spec = Connector.create spec (.cluster s) from rfl, hcreate] at hc hcalm₁
  obtain ⟨p, -, hname, hk, hservices, hlisted⟩ := hc.known hid hu hnew
  rw [← hname] at hu
  rw [← hinfoId] at hk
  have hsv := serviceOf_insert hservices rfl (get?_singleton ..) hu.unselected
  have hfind : w₁.engine.find created.id = some info := by
    rw [Engine.State.find, hinfo]
    rfl
  exact ⟨_, _, runUnder_inspectContainer waits' hcalm₁ hengine hfind hk hlisted hsv, rfl,
    get?_clusterLabels_encode hbare⟩

/-- A request with a server label, a label of another kind and a server label with a line feed. -/
def labelledSpec : ContainerSpec :=
  { sampleSpec with labels := .ofList [("che:server:80/tcp:ref", some "web_1-ß"),
      ("maintainer", some "someone"), ("che:server:80/tcp:path", some "/a\nb")] }

theorem create_labelledSpec :
    (World.runUnder Clock.wait (create sampleSettings labelledSpec) sampleWorld).1 =
      .ok ⟨"8d5e2f0c41a7b3e9", []⟩ :=
  World.eq_ok_of_toOption (by decide +kernel)

theorem inspectContainer_labels_sampleWorld : ∃ report labels,
    let w₁ := (World.runUnder Clock.wait (create sampleSettings labelledSpec) sampleWorld).2
    (World.runUnder Clock.wait
      (Connector.inspectContainer "8d5e2f0c41a7b3e9" (.cluster sampleSettings)) w₁).1 =
        .ok report ∧
    report.config.labels = some labels ∧
    labels.get? "che:server:80/tcp:ref" = some "web_1-ß" ∧ labels.get? "maintainer" = none := by
  have hid : Workspace.idOf labelledSpec.env = .ok "k6" := by rfl
  have hu : Unclaimed ⟨"che", "che-ws-k6"⟩ sampleWorld.cluster :=
    ⟨OrderedMap.forall_get?_iff.2 (by decide), OrderedMap.forall_get?_iff.2 (by decide)⟩
  have hnew : Unseen "che" (shortId "8d5e2f0c41a7b3e9") sampleWorld.cluster :=
    OrderedMap.forall_get?_iff.2 (by decide)
  obtain ⟨info, hinfo, hshown⟩ := Option.map_eq_some_iff.1 (show
    ((World.runUnder Clock.wait (create sampleSettings labelledSpec)
      sampleWorld).2.engine.containers.get? "8d5e2f0c41a7b3e9").map (fun info =>
        (info.id, info.config.labels)) = some ("8d5e2f0c41a7b3e9", none) by decide +kernel)
  obtain ⟨hinfoId, hnative⟩ := Prod.mk.inj hshown
  obtain ⟨report, labels, hreport, hlabels, hread⟩ := inspectContainer_labels Clock.wait Clock.wait
    rfl hid hu (Prod.ext create_labelledSpec rfl) hnew (by decide +kernel) hinfo hinfoId
    (by rw [hnative]; rfl)
  refine ⟨report, labels, hreport, hlabels, ?_, ?_⟩
  · exact (hread _ _).2 ⟨⟨by decide +kernel, by decide, by decide⟩, by decide⟩
  · refine Option.eq_none_iff_forall_ne_some.2 fun v hv => ?_
    exact absurd ((hread _ v).1 hv).2 (by decide)

/-- A server label with a line feed in its value is stored with the service and left out of the
report. -/
theorem inspectContainer_labelledSpec :
    let res := World.runUnder Clock.wait (create sampleSettings labelledSpec) sampleWorld
    labelledSpec.labels.get? "che:server:80/tcp:path" = some (some "/a\nb") ∧
    res.1 = .ok ⟨"8d5e2f0c41a7b3e9", []⟩ ∧
    ((res.2.cluster.services.get? ⟨"che", "che-ws-k6"⟩).bind fun sv =>
      sv.annotations.get? (Label.encodeKey "che:server:80/tcp:path")) = some "0.a\nb0" ∧
    ((World.runUnder Clock.wait
      (Connector.inspectContainer "8d5e2f0c41a7b3e9" (.cluster sampleSettings))
        res.2).1.toOption.bind fun report => report.config.labels.map OrderedMap.entries) =
      some [("che:server:80/tcp:ref", "web_1-ß")] := by
  decide +kernel

end ContainerBridge.Lifecycle
