import ContainerBridge.Connector
import ContainerBridge.Proofs.Creation
import ContainerBridge.Proofs.Ports
import ContainerBridge.Proofs.Removal
import ContainerBridge.Proofs.Selection

/-! What is reported of a container that was just created. Its pod and its service are found among
those of other workspaces, whose rollouts may still be under way. -/

namespace ContainerBridge.Lifecycle

open Cluster Cluster.State

/-- No pod of the project carries the identity. -/
def Unseen (project identity : String) (c : State) : Prop :=
  ∀ k p, c.pods.get? k = some p → p.project = project → p.labels.get? identityLabel ≠ some identity

/-- The deployment's pod alone carries the identity, and its rollout is over. -/
structure Known (k : Key) (identity : String) (c : State) : Prop where
  pod : ∃ p, c.pods.get? ⟨k.project, podName k.name⟩ = some p ∧ p.project = k.project ∧
    p.labels.get? deploymentLabel = some k.name ∧ p.labels.get? identityLabel = some identity
  alone : ∀ k' p, c.pods.get? k' = some p → p.project = k.project →
    p.labels.get? identityLabel = some identity → k' = ⟨k.project, podName k.name⟩
  settled : c.pending.contains k = false

variable {k k' : Key} {identity : String} {r : Rollout} {c c' : State}

theorem Unseen.ticks {project : String} (h : Unseen project identity c) (n : Nat) :
    Unseen project identity (ticks n c) := by
  intro k p hp hproject hl
  exact h k p (ticks_identity hp hl) hproject hl

/-- Rollouts of other deployments leave the pod and its identity alone. -/
theorem Known.advance (h : Known k identity c) (hk' : c.pending.contains k' = true) :
    Known k identity (advance r c k') := by
  have hne : k ≠ k' := by
    rintro rfl
    rw [h.settled] at hk'
    cases hk'
  constructor
  case pod =>
    obtain ⟨p, hp, hl⟩ := h.pod
    refine ⟨p, ?_, hl⟩
    rw [advance_pods_of_ne, hp]
    · exact (deployerKey_ne_podKey r k' k).symm
    · exact fun he => hne (podKey_eq_iff (r := r).1 he)
  case alone =>
    intro k'' p hp hproject hl
    exact h.alone k'' p (advance_identity hp hl) hproject hl
  case settled => rw [advance_pending_of_ne hne, h.settled]

theorem Known.tick (h : Known k identity c) : Known k identity c.tick :=
  tick_induction h fun _ _ _ hk' hs => hs.advance hk'

theorem Known.podsOf {containerId : String} (h : Known k (shortId containerId) c) : ∃ pod,
    c.podsOf k.project (identitySelector containerId) = [pod] ∧
      pod.labels.get? deploymentLabel = some k.name := by
  obtain ⟨p, hp, hproject, hd, hi⟩ := h.pod
  refine ⟨p, podsOf_eq_singleton hp hproject (by simp [identitySelector, hi]) ?_, hd⟩
  intro k' p' hp' hproject' hs
  exact h.alone k' p' hp' hproject' (by simpa [identitySelector] using hs)

/-- Labelling the deployment's pod makes it known. -/
theorem Known.of_labelled {p : Pod} (hproject : p.project = k.project)
    (hl : p.labels.get? deploymentLabel = some k.name) (hover : c.pending.contains k = false)
    (hnew : Unseen k.project identity c)
    (hpods : c'.pods =
      c.pods.insert ⟨k.project, podName k.name⟩ (withLabel identityLabel identity p))
    (hpending : c'.pending = c.pending) : Known k identity c' := by
  constructor
  case pod =>
    refine ⟨withLabel identityLabel identity p, ?_, hproject, ?_, OrderedMap.get?_insert_self ..⟩
    · rw [hpods, OrderedMap.get?_insert_self]
    · exact (OrderedMap.get?_insert_of_ne _ _ (by decide)).trans hl
  case alone =>
    intro k' q hq hqproject hqi
    rw [hpods] at hq
    rcases OrderedMap.get?_insert_cases hq with ⟨rfl, -⟩ | hold
    · rfl
    · exact (hnew k' q hold hqproject hqi).elim
  case settled => rw [hpending, hover]

/-- A container that was found is known by its identity from then on. -/
theorem Discovery.known {s : Settings} {deployment : String} {d : Discovered}
    (h : Discovery s deployment c (.ok d) c')
    (hu : ∀ k p, c.pods.get? k = some p → p.project = s.project →
      p.labels.get? deploymentLabel ≠ some deployment)
    (hnew : Unseen s.project (shortId d.containerId) c) :
    Known ⟨s.project, deployment⟩ (shortId d.containerId) c' ∧ c'.services = c.services ∧
      c'.listingFailure = none := by
  cases h with
  | @found n _ _ hn hlisted hbefore hd hlabel =>
    have hleft := left_by_ticks c (n + 1)
    have hs : Settled ⟨s.project, deployment⟩ c :=
      fun k' p hp hproject hl => (hu k' p hp hproject hl).elim
    obtain ⟨e, he, -⟩ | ⟨pod, hpod, -, rfl⟩ := labelPod_cases hlabel
    · cases he
    · obtain ⟨p, raw, hp, hproject, hl, -, rfl, hover⟩ :=
        findContainer_settled (hs.ticks (n + 1)) hd
      obtain rfl : p = pod := Option.some.inj (hp.symm.trans hpod)
      exact ⟨.of_labelled hproject hl hover (hnew.ticks (n + 1)) rfl rfl, hleft.services,
        hleft.listingFailure.trans hlisted⟩

variable {images : OrderedMap String ImageInfo} {s : Settings} {spec : ContainerSpec} {p : Plan}

/-- What a creation that succeeds leaves where nothing belonged to the deployment before. -/
theorem Creation.known {id : String} {created : ContainerCreated}
    (h : Creation s spec images c (.ok created) c') (hid : Workspace.idOf spec.env = .ok id)
    (hu : Unclaimed ⟨s.project, Workspace.resourceName id⟩ c)
    (hnew : Unseen s.project (shortId created.id) c) :
    ∃ p, Planned s spec images c p ∧ p.names.resource = Workspace.resourceName id ∧
      Known ⟨s.project, p.names.resource⟩ (shortId created.id) c' ∧
      c'.services = c.services.insert (p.service s spec).key (storedService s spec p c) ∧
      c'.listingFailure = none := by
  cases h with
  | @created p d _ hp hs hd =>
    have hname := hp.resource hid
    have hb := provisioned_of_new hs
    have hul := hu.unlabelled
    have hbnew : Unseen s.project (shortId d.containerId) (provisioned s spec p c) := by
      rw [Unseen, hb.pods]
      exact hnew
    rw [← hname, ← hb.pods] at hul
    obtain ⟨hk, hsv, hl⟩ := hd.known hul hbnew
    exact ⟨p, hp, hname, hk, hsv.trans hb.services, hl⟩

/-- The owning pod and the owning service of a known container are found. -/
theorem ensures_describe {info : ContainerInfo} {deployment : String} {sv : Service}
    (hk : Known ⟨s.project, deployment⟩ (shortId info.id) c)
    (hl : c.listingFailure = none) (hsv : serviceOf s deployment c = some sv) :
    Operation.Ensures images Answers (fun report _ => report = withService s info sv)
      (fun _ _ => False) (do
        let deployment ← deploymentOf (← owningPod s.project info.id)
        match ← owningService s.project deployment with
        | none => throw (.resourceNotFound .service deployment)
        | some service => return withService s info service : Operation ContainerInfo) c := by
  refine (Operation.ensures_bind _ _).2 (ensures_owningPod (fun m hm => ?_)
    (fun pods _ hp hn => ?_) fun pod _ hp => ?_)
  · rw [hl] at hm
    cases hm
  · obtain ⟨pod, hpod, -⟩ := hk.tick.podsOf
    rw [hpod] at hp
    simp [← hp] at hn
  · obtain ⟨pod', hpod, hd⟩ := hk.tick.podsOf
    rw [hpod] at hp
    obtain rfl := (List.cons.inj hp).1
    refine (Operation.ensures_bind _ _).2 (ensures_deploymentOf (fun hn => ?_) fun d hd' => ?_)
    · rw [hd] at hn
      cases hn
    · obtain rfl : deployment = d := Option.some.inj (hd.symm.trans hd')
      refine (Operation.ensures_bind _ _).2 ((ensures_owningService s deployment).imp ?_
        fun _ _ h => h)
      rintro _ _ ⟨rfl, rfl⟩
      have htick : serviceOf s deployment c.tick = some sv := by
        rw [← hsv, serviceOf, serviceOf, listServices, (LeftByListing.refl c).tick.services]
        rfl
      rw [htick]
      rfl

end ContainerBridge.Lifecycle
