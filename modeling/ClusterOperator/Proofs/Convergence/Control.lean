import ClusterOperator.Proofs.Convergence.Managed
import ClusterOperator.Store.Memory

/-!
# Owners in control

A child is written with its cluster as an owner in control. The other owner references of a live
child are carried over as they are, those in control too, so the cluster is in control alone
exactly if nobody else was.

* `Metadata.controllers`, `Metadata.IsSolelyControlledBy` : the references in control, and the one
  reference in control;
* `Metadata.rivals` : the references in control that an owner leaves in control beside itself;
* `Metadata.isSolelyControlledBy_upsertOwner` : an owner is in control alone exactly if it has no
  rivals;
* `ChildDialogue.writes` : the manifests that a dialogue creates or updates;
  `writes_convergeChild`, one at most;
* `written_solely_controlled_iff` : which children are written with one owner in control;
  `written_with_two_controllers`, one that is not.
-/

namespace ClusterOperator

open Dialogue

/-! ## References in control -/

def OwnerReference.hasControl (r : OwnerReference) : Bool :=
  r.controller = some true

namespace Metadata

def controllers (m : Metadata) : List OwnerReference :=
  (m.ownerReferences.getD []).filter (·.hasControl)

def IsSolelyControlledBy (m : Metadata) (uid : String) : Prop :=
  ∃ r, m.controllers = [r] ∧ r.uid = uid

/-- The references in control beside the first one with an identity, which is the one that an owner
with this identity takes. -/
def rivals (m : Metadata) (uid : String) : List OwnerReference :=
  ((m.ownerReferences.getD []).eraseP (·.uid = uid)).filter (·.hasControl)

/-- The owner comes into control, and those in control beside its own reference stay there. -/
theorem filter_upsert_perm {owner : OwnerReference} (h : owner.hasControl = true)
    (rs : List OwnerReference) :
    ((upsert owner rs).filter (·.hasControl)).Perm
      (owner :: (rs.eraseP (·.uid = owner.uid)).filter (·.hasControl)) := by
  induction rs with
  | nil => simp [upsert, h]
  | cons r rest ih =>
    rw [upsert, List.eraseP_cons]
    by_cases hr : r.uid = owner.uid
    · simp [hr, h]
    · simp only [hr, if_false, decide_false, cond_false]
      cases hc : r.hasControl with
      | false => simpa [hc] using ih
      | true =>
        rw [List.filter_cons_of_pos hc, List.filter_cons_of_pos hc]
        exact (ih.cons r).trans (List.Perm.swap owner r _)

theorem controllers_upsertOwner_perm (m : Metadata) {owner : OwnerReference}
    (h : owner.hasControl = true) :
    (m.upsertOwner owner).controllers.Perm (owner :: m.rivals owner.uid) :=
  filter_upsert_perm h _

theorem isSolelyControlledBy_upsertOwner (m : Metadata) {owner : OwnerReference}
    (h : owner.hasControl = true) :
    (m.upsertOwner owner).IsSolelyControlledBy owner.uid ↔ m.rivals owner.uid = [] := by
  have hperm := m.controllers_upsertOwner_perm h
  constructor
  · rintro ⟨r, hr, -⟩
    rw [hr, List.singleton_perm] at hperm
    exact (List.cons.inj hperm).2.symm
  · intro hnone
    rw [hnone] at hperm
    exact ⟨owner, List.perm_singleton.1 hperm, rfl⟩

end Metadata

/-! ## What is written -/

/-- The manifest that a call creates or updates. -/
def ChildRequest.written? : ChildRequest → Option Manifest
  | .create m | .update m => some m
  | .get _ | .delete _ => none

/-- The manifests that a dialogue creates or updates when a state answers it. -/
def ChildDialogue.writes {α σ : Type} (answer : (q : ChildRequest) → σ → q.Reply × σ)
    (d : ChildDialogue α) (s : σ) : List Manifest :=
  (d.transcript answer s).filterMap fun asked => asked.1.written?

section

variable {σ : Type} (answer : (q : ChildRequest) → σ → q.Reply × σ) (s : σ)

/-- A child is written once at most: as it is wanted when there is none, and with what the platform
assigned to the live one when that drifted. -/
theorem writes_convergeChild (owner : OwnerReference) (wanted : Manifest) :
    (convergeChild owner wanted).writes answer s =
      match (answer (.get wanted.ref) s).1 with
      | .error _ => []
      | .ok none => [wanted.owned owner]
      | .ok (some live) =>
        let next := (live.carryForward wanted).owned owner
        if live.needsUpdate next owner then [next] else [] := by
  unfold ChildDialogue.writes convergeChild
  simp only [ChildDialogue.get, request, bind_eq, ask_bind, finish_bind, transcript,
    List.filterMap_cons, ChildRequest.written?]
  cases answer (.get wanted.ref) s with
  | mk reply t =>
    rcases reply with e | (_ | live)
    · rfl
    · simp only [ChildDialogue.create, request, ask_bind, finish_bind, transcript,
        List.filterMap_cons]
      cases (answer (.create (wanted.owned owner)) t).1 <;> rfl
    · dsimp only
      split
      · simp only [ChildDialogue.update, request, ask_bind, finish_bind, transcript,
          List.filterMap_cons]
        cases (answer (.update ((live.carryForward wanted).owned owner)) t).1 <;> rfl
      · rfl

end

namespace Children

theorem ownerReferences_of_wanted {c : Cluster} {m : Manifest} (h : m ∈ wanted c) :
    m.metadata.ownerReferences = none := by
  rcases mem_wanted.1 h with rfl | ⟨rfl, -⟩ <;> rfl

theorem rivals_carryForward {c : Cluster} {m : Manifest} (h : m ∈ wanted c) (live : Manifest)
    (uid : String) : (live.carryForward m).metadata.rivals uid = live.metadata.rivals uid := by
  rw [Manifest.metadata_carryForward, Manifest.carryMetadata, ownerReferences_of_wanted h]
  rfl

end Children

/-- Whatever answers the calls, each child of a cluster that is written has one owner in control,
the cluster, exactly if nobody else is in control of the live child that was read. -/
theorem written_solely_controlled_iff {σ : Type}
    (answer : (q : ChildRequest) → σ → q.Reply × σ) (s : σ) {c : Cluster} {uid : String}
    (hname : c.metadata.name.isSome) (huid : c.metadata.uid = some uid) :
    ∃ owner, ownerReference c = .ok owner ∧ ∀ wanted ∈ Children.wanted c,
      ∀ m ∈ (convergeChild owner wanted).writes answer s,
        m.metadata.IsSolelyControlledBy uid ↔
          ∀ live, (answer (.get wanted.ref) s).1 = .ok (some live) →
            live.metadata.rivals uid = [] := by
  obtain ⟨owner, howner, rfl⟩ := exists_ownerReference hname huid
  have hcontrol : owner.hasControl = true := by
    simp [OwnerReference.hasControl, controller_ownerReference howner]
  refine ⟨owner, howner, fun wanted hw m hm => ?_⟩
  rw [writes_convergeChild] at hm
  generalize (answer (.get wanted.ref) s).1 = reply at hm ⊢
  rcases reply with e | (_ | live)
  · cases hm
  · -- a new child has no other owner
    rw [List.mem_singleton.1 hm, Manifest.owned, Manifest.metadata_withMetadata,
      Metadata.isSolelyControlledBy_upsertOwner _ hcontrol]
    simp [Metadata.rivals, Children.ownerReferences_of_wanted hw]
  · dsimp only at hm
    split at hm
    · rw [List.mem_singleton.1 hm, Manifest.owned, Manifest.metadata_withMetadata,
        Metadata.isSolelyControlledBy_upsertOwner _ hcontrol, Children.rivals_carryForward hw]
      constructor
      · rintro hnone live' h
        cases h
        exact hnone
      · exact fun h => h live rfl
    · cases hm

def exposedCluster : Cluster where
  metadata := { name := some "demo", namespaceName := some "ns", uid := some "u" }
  spec := { image := "a" }

/-- A service under the name of the cluster that another object owns, with or without control. -/
def ownedService (control : Bool) : Manifest :=
  .service {
    metadata := {
      name := some "demo", namespaceName := some "ns", resourceVersion := some "1"
      ownerReferences := some [{ kind := "Other", uid := "v", controller := some control }] } }

def ownedStore (control : Bool) : ChildStore where
  objects := ({} : Dict ChildRef Manifest).insert (ownedService control).ref (ownedService control)
  versions := 1

/-- The service drifts from whatever the cluster wants, since another object owns it. -/
theorem needsUpdate_ownedService (control : Bool) {owner : OwnerReference} (h : owner.uid = "u")
    (next : Manifest) : (ownedService control).needsUpdate next owner = true := by
  simp [Manifest.needsUpdate, ownedService, Manifest.metadata, Metadata.isControlledBy, h]

theorem writes_over_ownedStore (control : Bool) {owner : OwnerReference} (h : owner.uid = "u") :
    (convergeChild owner (.service (Children.service exposedCluster))).writes
      ChildStore.answer (ownedStore control) =
        [((ownedService control).carryForward
          (.service (Children.service exposedCluster))).owned owner] := by
  have hget : (ownedStore control).answer (.get
      (Manifest.service (Children.service exposedCluster)).ref) =
        (.ok (some (ownedService control)), ownedStore control) := rfl
  rw [writes_convergeChild, hget]
  simp only [needsUpdate_ownedService control h, if_true]

/-- A service that another object owns without control comes under the control of the cluster
alone. -/
theorem written_solely_controlled_over_owned :
    ∃ owner m, ownerReference exposedCluster = .ok owner ∧
      (convergeChild owner (.service (Children.service exposedCluster))).writes ChildStore.answer
        (ownedStore false) = [m] ∧
      m.metadata.IsSolelyControlledBy "u" := by
  obtain ⟨owner, howner, hiff⟩ := written_solely_controlled_iff ChildStore.answer
    (ownedStore false) (c := exposedCluster) rfl rfl
  have huid : owner.uid = "u" := by
    cases howner
    rfl
  have hm := writes_over_ownedStore false huid
  refine ⟨owner, _, howner, hm, ?_⟩
  refine (hiff _ List.mem_cons_self _ (hm ▸ List.mem_singleton_self _)).2 fun live hl => ?_
  cases hl
  decide

/-- A service that another object controls is written with two owners in control. -/
theorem written_with_two_controllers :
    ¬ ∀ (s : ChildStore) (c : Cluster) (uid : String) (owner : OwnerReference),
      c.metadata.name.isSome → c.metadata.uid = some uid → ownerReference c = .ok owner →
      ∀ wanted ∈ Children.wanted c, ∀ m ∈ (convergeChild owner wanted).writes ChildStore.answer s,
        m.metadata.IsSolelyControlledBy uid := by
  intro h
  let owner : OwnerReference :=
    { apiVersion, kind := Managed.kindName ClusterSpec, name := "demo", uid := "u",
      controller := some true }
  have hw : .service (Children.service exposedCluster) ∈ Children.wanted exposedCluster :=
    List.mem_cons_self
  have hm := writes_over_ownedStore true (show owner.uid = "u" from rfl)
  have hsole := h (ownedStore true) exposedCluster "u" owner rfl rfl rfl _ hw _
    (hm ▸ List.mem_singleton_self _)
  have hcontrol : owner.hasControl = true := rfl
  have hrivals := (Metadata.isSolelyControlledBy_upsertOwner _ hcontrol).1
    (Manifest.metadata_withMetadata _ _ ▸ hsole)
  rw [Children.rivals_carryForward hw] at hrivals
  exact absurd hrivals (by decide)

end ClusterOperator
