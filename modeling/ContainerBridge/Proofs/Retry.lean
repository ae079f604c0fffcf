import ContainerBridge.Connector
import ContainerBridge.Proofs.Creation
import ContainerBridge.Proofs.Removal

/-! A removal that fails can be tried again. Its deletes follow a fixed plan, none is issued after
one that failed, and the pod, by which all else is found, goes last; whatever the failed deletes
left, a removal that no call fails in ends in the same resources as one that was never interrupted.
-/

namespace ContainerBridge.Lifecycle

open Cluster Cluster.State

/-! A cluster whose calls may fail -/

/-- A cluster, and the deletes that were issued, with whether each was answered. -/
structure Trial where
  cluster : State
  issued : List (Request × Bool) := []

def deletes : Request → Bool
  | .deleteService .. | .deleteRoutes .. | .deleteDeployment ..
  | .deleteReplicationController .. | .deletePod .. => true
  | _ => false

/-- What a call may do to a cluster. However a delete is answered, its targets may be gone or not,
and of several routes some may be; only a pod whose delete failed is certain to be there. The phase
of a pod may be anything. Any other call fails, or is answered as the cluster answers it. -/
def Effect : (q : Request) → Except ClusterFailure q.Answer → State → State → Prop
  | .deleteService project name, _, c, c' => c' = c ∨ c' = (c.deleteService project name).2
  | .deleteDeployment project name, _, c, c' => c' = c ∨ c' = (c.deleteDeployment project name).2
  | .deleteReplicationController project name, _, c, c' =>
    c' = c ∨ c' = (c.deleteReplicationController project name).2
  | .deleteRoutes project selector, _, c, c' =>
    ∃ (doomed : Key → Route → Bool) (calls : List String), c' = { c with
      routes := c.routes.filter fun k r => !(isSelected project selector k r && doomed k r)
      calls := calls }
  | .deletePod project name, r, c, c' =>
    c' = c ∨ (r.isOk = true ∧ c' = (c.deletePod project name).2)
  | .podPhase project name, r, c, c' => c' = c ∨ c.answer (.podPhase project name) = (r, c')
  | q, r, c, c' => (r.isOk = false ∧ c' = c) ∨ c.answer q = (r, c')

/-- How calls may be answered, and which of them are noted. -/
def Trial.Answers : Calls Trial := fun q t r t' =>
  t'.issued = t.issued ++ (if deletes q then [(q, r.isOk)] else []) ∧
    Effect q r t.cluster t'.cluster

theorem effect_of_error (q : Request) (e : ClusterFailure) (c : State) :
    Effect q (.error e) c c := by
  cases q with
  | deleteRoutes project selector =>
    exact ⟨fun _ _ => false, c.calls, by simp [OrderedMap.filter_of_forall]⟩
  | deleteService _ _ | deleteDeployment _ _ | deleteReplicationController _ _ | deletePod _ _
  | podPhase _ _ => exact .inl rfl
  | _ => exact .inl ⟨rfl, rfl⟩

theorem effect_of_answer (q : Request) (c : State) : Effect q (c.answer q).1 c (c.answer q).2 := by
  cases q with
  | deleteRoutes project selector =>
    refine ⟨fun _ _ => true, (c.deleteRoutes project selector).2.calls, ?_⟩
    simp only [Bool.and_true]
    rfl
  | deletePod _ _ => exact .inr ⟨rfl, rfl⟩
  | _ => exact .inr rfl

/-- Every world stands for such a cluster, whatever outages strike it. -/
theorem represents_trial : World.Represents Trial.Answers fun w t => w.cluster = t.cluster where
  askCluster {w t} q h := by
    have he : Effect q (w.askCluster q).1 t.cluster (w.askCluster q).2.cluster := by
      rw [← h]
      unfold World.askCluster
      split
      · exact effect_of_error q _ _
      · split
        · split
          · exact .inl rfl
          · exact effect_of_answer _ _
        · exact effect_of_answer q _
    exact ⟨⟨(w.askCluster q).2.cluster, _⟩, ⟨rfl, he⟩, rfl⟩
  frame h hc _ := hc.trans h

variable {images : OrderedMap String ImageInfo} {s : Settings} {pod : Pod} {deployment : String}
variable {c c' : State} {t : Trial}

def serviceDeletions (s : Settings) (deployment : String) (c : State) : List Request :=
  (serviceOf s deployment c).toList.map fun sv => .deleteService s.project sv.name

def routeDeletions (s : Settings) (deployment : String) : List Request :=
  if s.routes.enabled then [.deleteRoutes s.project (deploymentSelector deployment)] else []

def controllerDeletions (s : Settings) (pod : Pod) : List Request :=
  (pod.labels.get? controllerLabel).toList.map fun name =>
    .deleteReplicationController s.project name

/-- The deletes of a removal that nothing interrupts, in order. -/
def deletions (s : Settings) (pod : Pod) (deployment : String) (c : State) : List Request :=
  serviceDeletions s deployment c ++ (routeDeletions s deployment ++
    ([.deleteDeployment s.project deployment] ++
      (controllerDeletions s pod ++ [.deletePod s.project pod.name])))

/-- The deletes were issued as planned, and only after all before them were answered. -/
structure Orderly (plan : List Request) (t : Trial) : Prop where
  planned : t.issued.map Prod.fst <+: plan
  answered : ∀ e ∈ t.issued.dropLast, e.2 = true

/-- Removing from the second cluster leaves what removing from the first leaves. -/
structure Resumable (s : Settings) (pod : Pod) (deployment : String) (c c' : State) : Prop where
  pods : c'.pods = c.pods
  jobs : c'.jobs = c.jobs
  pending : c'.pending = c.pending
  listed : c'.listingFailure = c.listingFailure
  services : servicesWithout s deployment c' = servicesWithout s deployment c
  routes : routesWithout s deployment c' = routesWithout s deployment c
  deployments : c'.deployments.erase ⟨s.project, deployment⟩ =
    c.deployments.erase ⟨s.project, deployment⟩
  controllers : controllersWithout s pod c' = controllersWithout s pod c

theorem Resumable.refl (s : Settings) (pod : Pod) (deployment : String) (c : State) :
    Resumable s pod deployment c c :=
  ⟨rfl, rfl, rfl, rfl, rfl, rfl, rfl, rfl⟩

theorem Resumable.trans {c'' : State} (h : Resumable s pod deployment c c')
    (h' : Resumable s pod deployment c' c'') : Resumable s pod deployment c c'' where
  pods := h'.pods.trans h.pods
  jobs := h'.jobs.trans h.jobs
  pending := h'.pending.trans h.pending
  listed := h'.listed.trans h.listed
  services := h'.services.trans h.services
  routes := h'.routes.trans h.routes
  deployments := h'.deployments.trans h.deployments
  controllers := h'.controllers.trans h.controllers

/-- The services of the project that select the deployment. -/
def contenders (s : Settings) (deployment : String) (c : State) : List Service :=
  (c.listServices s.project).filter fun sv => sv.selector.get? deploymentLabel = some deployment

/-! What a delete leaves, whether it took its targets away or not -/

theorem serviceOf_eq_head? (s : Settings) (deployment : String) (c : State) :
    serviceOf s deployment c = (contenders s deployment c).head? := List.head?_filter.symm

theorem contenders_erase_sublist (s : Settings) (deployment : String) (c : State) (k : Key) :
    (contenders s deployment { c with services := c.services.erase k }).Sublist
      (contenders s deployment c) :=
  ((List.filter_sublist.map _).filter _).filter _

theorem eq_of_mem_contenders {sv sv' : Service} (h : (contenders s deployment c).length ≤ 1)
    (hf : serviceOf s deployment c = some sv) (hm : sv' ∈ contenders s deployment c) :
    sv' = sv := by
  rw [serviceOf_eq_head?] at hf
  rcases hl : contenders s deployment c with _ | ⟨a, _ | ⟨b, l⟩⟩
  · rw [hl] at hm
    cases hm
  · rw [hl] at hf hm
    rw [List.mem_singleton.1 hm]
    exact Option.some.inj hf
  · simp [hl] at h

/-- Once its service is erased, a removal finds no other. -/
theorem servicesWithout_servicesWithout (h : (contenders s deployment c).length ≤ 1) :
    servicesWithout s deployment { c with services := servicesWithout s deployment c } =
      servicesWithout s deployment c := by
  cases hf : serviceOf s deployment c with
  | none =>
    rw [servicesWithout_of_none hf]
    exact servicesWithout_of_none hf
  | some sv =>
    rw [servicesWithout_of_some hf]
    have hsub := contenders_erase_sublist s deployment c ⟨s.project, sv.name⟩
    cases hl : contenders s deployment
        { c with services := c.services.erase ⟨s.project, sv.name⟩ } with
    | nil => exact servicesWithout_of_none (by rw [serviceOf_eq_head?, hl]; rfl)
    | cons sv' l =>
      have hm : sv' ∈ contenders s deployment c :=
        hsub.mem (by rw [hl]; exact List.mem_cons_self ..)
      obtain rfl := eq_of_mem_contenders h hf hm
      rw [servicesWithout_of_some (by rw [serviceOf_eq_head?, hl]; rfl)]
      exact OrderedMap.erase_erase ..

/-- Some of the routes that a removal takes away may be gone already. -/
theorem routesWithout_filter (hs : s.routes.enabled = true) (doomed : Key → Route → Bool) :
    routesWithout s deployment { c with
      routes := c.routes.filter fun k r =>
        !(isSelected s.project (deploymentSelector deployment) k r && doomed k r) } =
    routesWithout s deployment c := by
  rw [routesWithout, routesWithout, if_pos hs, if_pos hs, OrderedMap.filter_filter]
  congr
  funext k r
  cases isSelected s.project (deploymentSelector deployment) k r <;> simp

theorem controllersWithout_erase {name : String}
    (h : pod.labels.get? controllerLabel = some name) : controllersWithout s pod { c with
      replicationControllers := c.replicationControllers.erase ⟨s.project, name⟩ } =
    controllersWithout s pod c := by
  rw [controllersWithout, controllersWithout, h]
  exact OrderedMap.erase_erase ..

theorem resumable_deleteService {sv : Service} {r : Except ClusterFailure Bool}
    (h : (contenders s deployment c).length ≤ 1) (hf : serviceOf s deployment c = some sv)
    (he : Effect (.deleteService s.project sv.name) r c c') : Resumable s pod deployment c c' := by
  obtain rfl | rfl := he
  · exact .refl s pod deployment c'
  · have hs := servicesWithout_servicesWithout h
    rw [servicesWithout_of_some hf] at hs
    exact { Resumable.refl s pod deployment c with
      services := hs.trans (servicesWithout_of_some hf).symm }

theorem resumable_deleteRoutes {r : Except ClusterFailure Nat} (hs : s.routes.enabled = true)
    (he : Effect (.deleteRoutes s.project (deploymentSelector deployment)) r c c') :
    Resumable s pod deployment c c' := by
  obtain ⟨doomed, calls, rfl⟩ := he
  exact { Resumable.refl s pod deployment c with routes := routesWithout_filter hs doomed }

theorem resumable_deleteDeployment {r : Except ClusterFailure Bool}
    (he : Effect (.deleteDeployment s.project deployment) r c c') :
    Resumable s pod deployment c c' := by
  obtain rfl | rfl := he
  · exact .refl s pod deployment c'
  · exact { Resumable.refl s pod deployment c with deployments := OrderedMap.erase_erase .. }

theorem resumable_deleteController {name : String} {r : Except ClusterFailure Bool}
    (h : pod.labels.get? controllerLabel = some name)
    (he : Effect (.deleteReplicationController s.project name) r c c') :
    Resumable s pod deployment c c' := by
  obtain rfl | rfl := he
  · exact .refl s pod deployment c'
  · exact { Resumable.refl s pod deployment c with controllers := controllersWithout_erase h }

/-! The course of a removal -/

/-- The deletes `done` were issued and answered, and what they left can be removed. -/
structure Halfway (s : Settings) (pod : Pod) (deployment : String) (c : State) (done : List Request)
    (t : Trial) : Prop where
  issued : t.issued = done.map (·, true)
  resumable : Resumable s pod deployment c t.cluster

/-- A call failed after some of the deletes of `plan`, and what they left can be removed. -/
structure Stopped (s : Settings) (pod : Pod) (deployment : String) (c : State) (plan : List Request)
    (t : Trial) : Prop where
  orderly : Orderly plan t
  resumable : Resumable s pod deployment c t.cluster

variable {plan done rest : List Request}

theorem Trial.Answers.issued_of_deletes {q : Request} {r : Except ClusterFailure q.Answer}
    {t' : Trial} (h : Trial.Answers q t r t') (hq : deletes q = true) :
    t'.issued = t.issued ++ [(q, r.isOk)] := by
  rw [h.1, if_pos hq]

/-- A listing of pods without pending rollouts fails or shows them, and changes nothing. -/
theorem Trial.Answers.listPods {project : String} {selector : Selector} {t' : Trial}
    {r : Except ClusterFailure (List Pod)} (h : Trial.Answers (.listPods project selector) t r t')
    (hp : t.cluster.pending = .empty) :
    t' = t ∧ ((∃ e, r = .error e) ∨ r = .ok (t.cluster.podsOf project selector)) := by
  obtain ⟨hi, he⟩ := h
  have hissued : t'.issued = t.issued := hi.trans (List.append_nil _)
  have ht : t'.cluster = t.cluster → t' = t := fun hc => congrArg₂ Trial.mk hc hissued
  rcases he with ⟨hr, hc⟩ | he
  · cases r with
    | error e => exact ⟨ht hc, .inl ⟨e, rfl⟩⟩
    | ok _ => cases hr
  · obtain ⟨m, -, rfl, hc⟩ | ⟨-, rfl, hc⟩ := answers_listPods he
    · exact ⟨ht hc, .inl ⟨_, rfl⟩⟩
    · rw [tick_of_no_pending hp] at hc ⊢
      exact ⟨ht hc, .inr rfl⟩

theorem Trial.Answers.listServices {project : String} {t' : Trial}
    {r : Except ClusterFailure (List Service)} (h : Trial.Answers (.listServices project) t r t') :
    t' = t ∧ ((∃ e, r = .error e) ∨ r = .ok (t.cluster.listServices project)) := by
  obtain ⟨hi, he⟩ := h
  have hissued : t'.issued = t.issued := hi.trans (List.append_nil _)
  have ht : t'.cluster = t.cluster → t' = t := fun hc => congrArg₂ Trial.mk hc hissued
  rcases he with ⟨hr, hc⟩ | he
  · cases r with
    | error e => exact ⟨ht hc, .inl ⟨e, rfl⟩⟩
    | ok _ => cases hr
  · obtain ⟨hr, hc⟩ := Prod.mk.inj he
    exact ⟨ht hc.symm, .inr hr.symm⟩

theorem orderly_of_issued (hplan : plan = done ++ rest) (h : t.issued = done.map (·, true)) :
    Orderly plan t where
  planned := by
    rw [h, hplan, List.map_map]
    exact ⟨rest, by simp [Function.comp_def]⟩
  answered e he := by
    obtain ⟨q, -, rfl⟩ := List.mem_map.1 (h ▸ List.dropLast_subset _ he)
    rfl

theorem orderly_of_last {q : Request} {answered : Bool} (hplan : plan = done ++ q :: rest)
    (h : t.issued = done.map (·, true) ++ [(q, answered)]) : Orderly plan t where
  planned := by
    rw [h, hplan, List.map_append, List.map_map]
    exact ⟨rest, by simp [Function.comp_def]⟩
  answered e he := by
    rw [h, List.dropLast_concat] at he
    obtain ⟨q, -, rfl⟩ := List.mem_map.1 he
    rfl

theorem Stopped.none_issued (s : Settings) (pod : Pod) (deployment : String) (c : State)
    (plan : List Request) : Stopped s pod deployment c plan ⟨c, []⟩ :=
  ⟨orderly_of_issued (List.nil_append plan).symm rfl, .refl s pod deployment c⟩

theorem ensures_deletion {q : Request} (hq : deletes q = true)
    (h : Halfway s pod deployment c done t) (hplan : plan = done ++ q :: rest)
    (he : ∀ r c', Effect q r t.cluster c' → Resumable s pod deployment t.cluster c') :
    Operation.Ensures images Trial.Answers (fun _ => Halfway s pod deployment c (done ++ [q]))
      (fun _ => Stopped s pod deployment c plan) (Operation.cluster q) t := by
  refine Operation.ensures_cluster.2 fun r t' hr => ?_
  have hres := h.resumable.trans (he r t'.cluster hr.2)
  have hissued := hr.issued_of_deletes hq
  rw [h.issued] at hissued
  cases r with
  | error e => exact ⟨orderly_of_last hplan hissued, hres⟩
  | ok a => exact ⟨by rw [hissued, List.map_append]; rfl, hres⟩

theorem ensures_owningService_trial (s : Settings) (deployment : String) :
    Operation.Ensures images Trial.Answers
      (fun sv t' => t' = t ∧ sv = serviceOf s deployment t.cluster) (fun _ t' => t' = t)
      (owningService s.project deployment) t := by
  refine (Operation.ensures_bind _ _).2 (Operation.ensures_cluster.2 fun r t' hr => ?_)
  obtain ⟨rfl, ⟨e, rfl⟩ | rfl⟩ := hr.listServices
  · rfl
  · exact ⟨rfl, rfl⟩

theorem ensures_removeService_trial (hone : (contenders s deployment c).length ≤ 1)
    (hplan : plan = serviceDeletions s deployment c ++ rest) :
    Operation.Ensures images Trial.Answers
      (fun _ => Halfway s pod deployment c (serviceDeletions s deployment c))
      (fun _ => Stopped s pod deployment c plan) (removeService s deployment) ⟨c, []⟩ := by
  have hstart : Halfway s pod deployment c [] ⟨c, []⟩ := ⟨rfl, .refl s pod deployment c⟩
  refine (Operation.ensures_bind _ _).2 ((ensures_owningService_trial s deployment).imp ?_ ?_)
  · rintro _ _ ⟨rfl, rfl⟩
    unfold serviceDeletions at hplan ⊢
    cases hf : serviceOf s deployment c with
    | none => exact ensures_reportGone _ _ _ hstart
    | some sv =>
      rw [hf] at hplan
      refine (Operation.ensures_bind _ _).2 ((ensures_deletion rfl hstart hplan ?_).imp ?_
        fun _ _ h => h)
      · exact fun _ _ he => resumable_deleteService hone hf he
      · exact fun _ _ h => ensures_reportGone _ _ _ h
  · rintro _ _ rfl
    exact .none_issued s pod deployment c plan

theorem ensures_removeRoutes_trial (h : Halfway s pod deployment c done t)
    (hplan : plan = done ++ (routeDeletions s deployment ++ rest)) :
    Operation.Ensures images Trial.Answers
      (fun _ => Halfway s pod deployment c (done ++ routeDeletions s deployment))
      (fun _ => Stopped s pod deployment c plan) (removeRoutes s deployment) t := by
  unfold removeRoutes
  unfold routeDeletions at hplan ⊢
  cases hs : s.routes.enabled with
  | false =>
    rw [if_neg (by simp), List.append_nil]
    exact h
  | true =>
    rw [hs] at hplan
    refine (Operation.ensures_bind _ _).2 ((ensures_deletion rfl h hplan ?_).imp ?_ fun _ _ h => h)
    · exact fun _ _ he => resumable_deleteRoutes hs he
    · exact fun _ _ h => h

theorem ensures_removeController_trial (h : Halfway s pod deployment c done t)
    (hplan : plan = done ++ (controllerDeletions s pod ++ rest)) :
    Operation.Ensures images Trial.Answers
      (fun _ => Halfway s pod deployment c (done ++ controllerDeletions s pod))
      (fun _ => Stopped s pod deployment c plan) (removeController s pod deployment) t := by
  unfold removeController
  unfold controllerDeletions at hplan ⊢
  cases hl : pod.labels.get? controllerLabel with
  | none =>
    refine ensures_reportGone _ _ _ ?_
    show Halfway s pod deployment c (done ++ []) t
    rw [List.append_nil]
    exact h
  | some name =>
    rw [hl] at hplan
    refine (Operation.ensures_bind _ _).2 ((ensures_deletion rfl h hplan ?_).imp ?_ fun _ _ h => h)
    · exact fun _ _ he => resumable_deleteController hl he
    · exact fun _ _ h => ensures_reportGone _ _ _ h

/-- With the delete of the pod all deletes were issued, and if it fails it leaves the pod. -/
theorem ensures_deletePod_trial (h : Halfway s pod deployment c done t)
    (hplan : plan = done ++ [.deletePod s.project pod.name]) :
    Operation.Ensures images Trial.Answers (fun _ t' => t'.issued = plan.map (·, true))
      (fun _ => Stopped s pod deployment c plan)
      (Operation.cluster (.deletePod s.project pod.name)) t := by
  refine Operation.ensures_cluster.2 fun r t' hr => ?_
  have hissued := hr.issued_of_deletes rfl
  rw [h.issued] at hissued
  cases r with
  | ok _ =>
    show t'.issued = plan.map (·, true)
    rw [hissued, hplan, List.map_append]
    rfl
  | error e =>
    obtain hc | ⟨hr, -⟩ := hr.2
    · exact ⟨orderly_of_last hplan hissued, hc ▸ h.resumable⟩
    · cases hr

theorem ensures_tearDown_trial {containerId : String} (hpending : c.pending = .empty)
    (hpod : c.podsOf s.project (identitySelector containerId) = [pod])
    (hd : pod.labels.get? deploymentLabel = some deployment)
    (hone : (contenders s deployment c).length ≤ 1) :
    Operation.Ensures images Trial.Answers
      (fun _ t => t.issued = (deletions s pod deployment c).map (·, true))
      (fun _ => Stopped s pod deployment c (deletions s pod deployment c))
      (tearDown s containerId) ⟨c, []⟩ := by
  unfold tearDown owningPod
  refine (Operation.ensures_bind _ _).2 ((Operation.ensures_bind _ _).2
    (Operation.ensures_cluster.2 fun r t' hr => ?_))
  obtain ⟨rfl, ⟨e, rfl⟩ | rfl⟩ := hr.listPods hpending
  · exact .none_issued ..
  generalize hplan : deletions s pod deployment c = plan
  have hplan := hplan.symm
  unfold deletions at hplan
  rw [hpod]
  refine (Operation.ensures_bind _ _).2 (ensures_deploymentOf (fun hn => ?_) fun d hd' => ?_)
  · rw [hd] at hn
    cases hn
  obtain rfl : deployment = d := Option.some.inj (hd.symm.trans hd')
  refine (Operation.ensures_bind _ _).2 ((ensures_removeService_trial hone hplan).imp ?_
    fun _ _ h => h)
  intro _ t₁ h₁
  refine (Operation.ensures_bind _ _).2 ((ensures_removeRoutes_trial h₁ hplan).imp ?_
    fun _ _ h => h)
  intro _ t₂ h₂
  rw [← List.append_assoc] at hplan
  refine (Operation.ensures_bind _ _).2 ((ensures_deletion rfl h₂ hplan ?_).imp ?_ fun _ _ h => h)
  · exact fun _ _ he => resumable_deleteDeployment he
  intro _ t₃ h₃
  refine (Operation.ensures_bind _ _).2 (ensures_reportGone _ _ _ ?_)
  rw [← List.append_assoc] at hplan
  refine (Operation.ensures_bind _ _).2 ((ensures_removeController_trial h₃ hplan).imp ?_
    fun _ _ h => h)
  intro _ t₄ h₄
  rw [← List.append_assoc] at hplan
  refine (Operation.ensures_bind _ _).2 ((ensures_deletePod_trial h₄ hplan).imp ?_ fun _ _ h => h)
  intro _ t₅ h₅
  exact (Operation.ensures_bind _ _).2 (ensures_reportGone _ _ _ ((Operation.ensures_log _).2 h₅))

/-- A removal from the second cluster that no call fails in succeeds, and ends in the same resources
as one from the first. -/
def Retriable (s : Settings) (containerId : String) (c c' : State) : Prop :=
  c.listingFailure = none →
    ∀ (waits waits' : Waits) (force volumes force' volumes' : Bool) (w w' : World),
    w.cluster = c → w'.cluster = c' → w.clusterOutages = [] → w'.clusterOutages = [] →
    let first := World.runUnder waits (Connector.remove containerId force volumes (.cluster s)) w
    let retry :=
      World.runUnder waits' (Connector.remove containerId force' volumes' (.cluster s)) w'
    retry.1 = .ok () ∧ SameResources first.2.cluster retry.2.cluster

theorem Resumable.sameResources {d d' : State} (h : Resumable s pod deployment c c')
    (hd : Dismantled s pod deployment c d) (hd' : Dismantled s pod deployment c' d') :
    SameResources d d' where
  services := by rw [hd.services, hd'.services, h.services]
  deployments := by rw [hd.deployments, hd'.deployments, h.deployments]
  controllers := by rw [hd.controllers, hd'.controllers, h.controllers]
  pods := by rw [hd.pods, hd'.pods, h.pods]
  jobs := by rw [hd.jobs, hd'.jobs, h.jobs]
  routes := by rw [hd.routes, hd'.routes, h.routes]

theorem Resumable.retriable {containerId : String} (h : Resumable s pod deployment c c')
    (hpending : c.pending = .empty)
    (hpod : c.podsOf s.project (identitySelector containerId) = [pod])
    (hd : pod.labels.get? deploymentLabel = some deployment) : Retriable s containerId c c' := by
  rintro hlisted waits waits' force volumes force' volumes' w w' rfl rfl hw hw'
  have hr := World.runUnder_of_ensures (Removal s containerId w.cluster) waits hw
    (ensures_remove s containerId)
  have hr' := World.runUnder_of_ensures (Removal s containerId w'.cluster) waits' hw'
    (ensures_remove s containerId)
  have hpod' : w'.cluster.podsOf s.project (identitySelector containerId) = [pod] := by
    rw [podsOf, h.pods]
    exact hpod
  obtain ⟨-, hc⟩ := hr.1.dismantled hlisted hpending hpod hd
  obtain ⟨hok, hc'⟩ := hr'.1.dismantled (h.listed.trans hlisted) (h.pending.trans hpending) hpod' hd
  exact ⟨hok, h.sameResources hc hc'⟩

theorem ensures_remove_trial {containerId : String} (hpending : c.pending = .empty)
    (hpod : c.podsOf s.project (identitySelector containerId) = [pod])
    (hd : pod.labels.get? deploymentLabel = some deployment)
    (hone : (contenders s deployment c).length ≤ 1) :
    Operation.Ensures images Trial.Answers
      (fun _ t => t.issued = (deletions s pod deployment c).map (·, true))
      (fun _ => Stopped s pod deployment c (deletions s pod deployment c))
      (remove s containerId) ⟨c, []⟩ := by
  refine Operation.ensures_concluding ?_
  simp only [Task.ensures_measure]
  exact ensures_tearDown_trial hpending hpod hd hone

/-- In a world with outages of the cluster a removal that fails leaves every pod, with its labels,
and can be tried again. -/
theorem retriable_of_outages {containerId : String} {w : World} {e : BridgeError} (waits : Waits)
    (hpending : w.cluster.pending = .empty)
    (hpod : w.cluster.podsOf s.project (identitySelector containerId) = [pod])
    (hd : pod.labels.get? deploymentLabel = some deployment)
    (hone : (contenders s deployment w.cluster).length ≤ 1)
    (herror : (World.runUnder waits (remove s containerId) w).1 = .error e) :
    (World.runUnder waits (remove s containerId) w).2.cluster.pods = w.cluster.pods ∧
      Retriable s containerId w.cluster
        (World.runUnder waits (remove s containerId) w).2.cluster := by
  obtain ⟨t, ht, hp⟩ := World.outcome_runUnder (t := ⟨w.cluster, []⟩) represents_trial waits rfl
    (ensures_remove_trial hpending hpod hd hone)
  rw [herror] at hp
  rw [ht]
  exact ⟨hp.resumable.pods, hp.resumable.retriable hpending hpod hd⟩

/-- However the calls of a removal are answered, its deletes keep to their order. One that succeeds
has issued them all, and one that fails leaves every pod, with its labels, and can be tried again.
-/
theorem ensures_remove_retriable {containerId : String} (force volumes : Bool)
    (hpending : c.pending = .empty)
    (hpod : c.podsOf s.project (identitySelector containerId) = [pod])
    (hd : pod.labels.get? deploymentLabel = some deployment)
    (hone : (contenders s deployment c).length ≤ 1) :
    Operation.Ensures images Trial.Answers
      (fun _ t => Orderly (deletions s pod deployment c) t ∧
        t.issued = (deletions s pod deployment c).map (·, true))
      (fun _ t => Orderly (deletions s pod deployment c) t ∧ t.cluster.pods = c.pods ∧
        Retriable s containerId c t.cluster)
      (Connector.remove containerId force volumes (.cluster s)) ⟨c, []⟩ := by
  refine (ensures_remove_trial hpending hpod hd hone).imp (fun _ t h => ?_) fun _ t h => ?_
  · exact ⟨orderly_of_issued (List.append_nil _).symm h, h⟩
  · exact ⟨h.orderly, h.resumable.pods, h.resumable.retriable hpending hpod hd⟩

def samplePod : Pod where
  project := "che"
  name := "che-ws-k6-1-x7k2p"
  labels := .ofList [(deploymentLabel, "che-ws-k6"), (controllerLabel, "che-ws-k6-1"),
    (identityLabel, "8d5e2f0c41a7")]
  containerIds := ["docker://8d5e2f0c41a7b3e9"]

def sampleService : Service where
  project := "che"
  name := "che-ws-k6"
  serviceType := "NodePort"
  selector := deploymentSelector "che-ws-k6"
  ports := []
  annotations := .empty

def sampleCluster : State where
  projects := .ofMembers ["che"]
  services := .singleton sampleService.key sampleService
  replicationControllers := .ofMembers [⟨"che", "che-ws-k6-1"⟩]
  pods := .ofList [(otherPod.key, otherPod), (samplePod.key, samplePod)]

theorem ensures_remove_retriable_sampleCluster :
    Operation.Ensures .empty Trial.Answers
      (fun _ t => Orderly (deletions sampleSettings samplePod "che-ws-k6" sampleCluster) t ∧
        t.issued = [(.deleteService "che" "che-ws-k6", true),
          (.deleteRoutes "che" (.singleton "deploymentConfig" "che-ws-k6"), true),
          (.deleteDeployment "che" "che-ws-k6", true),
          (.deleteReplicationController "che" "che-ws-k6-1", true),
          (.deletePod "che" "che-ws-k6-1-x7k2p", true)])
      (fun _ t => Orderly (deletions sampleSettings samplePod "che-ws-k6" sampleCluster) t ∧
        t.cluster.pods = sampleCluster.pods ∧
        Retriable sampleSettings "8d5e2f0c41a7b3e9" sampleCluster t.cluster)
      (Connector.remove "8d5e2f0c41a7b3e9" false false (.cluster sampleSettings))
      ⟨sampleCluster, []⟩ :=
  ensures_remove_retriable false false rfl (by decide) (by decide) (by decide)

end ContainerBridge.Lifecycle
