import ClusterOperator.Proofs.Convergence.Calls

/-!
# What a child is replaced with

A child is written right after it was read. What is written has three sources: the version and the
addresses of what was read, its owner references with the cluster among them, and for all else what
the cluster wants.

* `Metadata.Upserts` : an owner is put in its place among some references; `Upserts.filter_eq`, the
  others stay;
* `Manifest.addresses`, `Manifest.bare` : what the platform gave to a service, and a child without
  what the store and the platform gave to it;
* `Manifest.IsReplacement` : a child is what a wanted one replaces what was found with;
* `isReplacement_of_writeOver` : what a call writes over what was found.
-/

namespace ClusterOperator

open Dialogue

/-! ## Owners -/

namespace Metadata

def owners (m : Metadata) : List OwnerReference :=
  m.ownerReferences.getD []

/-- An owner is put in its place among some references: in that of the first one with its identity,
or at the end if there is none. -/
inductive Upserts (owner : OwnerReference) : List OwnerReference → List OwnerReference → Prop where
  | replaced {before after : List OwnerReference} {old : OwnerReference}
      (hbefore : ∀ r ∈ before, r.uid ≠ owner.uid) (hold : old.uid = owner.uid) :
    Upserts owner (before ++ old :: after) (before ++ owner :: after)
  | added {rs : List OwnerReference} (h : ∀ r ∈ rs, r.uid ≠ owner.uid) :
    Upserts owner rs (rs ++ [owner])

theorem upserts_upsert (owner : OwnerReference) (rs : List OwnerReference) :
    Upserts owner rs (upsert owner rs) := by
  induction rs with
  | nil => exact .added (List.forall_mem_nil _)
  | cons r rest ih =>
    rw [upsert]
    split
    · next h => exact .replaced (List.forall_mem_nil _) h
    · next h =>
      generalize upsert owner rest = rs' at ih
      cases ih with
      | replaced hbefore hold => exact .replaced (List.forall_mem_cons.2 ⟨h, hbefore⟩) hold
      | added hrest => exact .added (List.forall_mem_cons.2 ⟨h, hrest⟩)

theorem Upserts.filter_eq {owner : OwnerReference} {rs rs' : List OwnerReference}
    (h : Upserts owner rs rs') :
    rs'.filter (·.uid ≠ owner.uid) = rs.filter (·.uid ≠ owner.uid) := by
  cases h with
  | replaced _ hold =>
    rw [List.filter_append, List.filter_append, List.filter_cons_of_neg (by simp),
      List.filter_cons_of_neg (by simp [hold])]
  | added _ =>
    rw [List.filter_append, List.filter_cons_of_neg (by simp), List.filter_nil, List.append_nil]

end Metadata

namespace Manifest

@[simp] theorem owners_owned (m : Manifest) (owner : OwnerReference) :
    (m.owned owner).metadata.owners = Metadata.upsert owner m.metadata.owners := by
  unfold owned
  rw [metadata_withMetadata]
  rfl

theorem owners_carryForward (live : Manifest) {wanted : Manifest}
    (h : wanted.metadata.ownerReferences = none) :
    (live.carryForward wanted).metadata.owners = live.metadata.owners := by
  rw [metadata_carryForward]
  unfold Metadata.owners carryMetadata
  rw [h, Option.none_or]

/-! ## Addresses, and all else -/

def addresses : Manifest → Option String × Option (List String)
  | .service s => (s.spec.bind (·.clusterIP), s.spec.bind (·.clusterIPs))
  | .deployment _ => (none, none)

/-- A child without its version, its owner references and its addresses. -/
def bare (m : Manifest) : Manifest :=
  match m.withMetadata { m.metadata with resourceVersion := none, ownerReferences := none } with
  | .service s =>
    .service { s with spec := s.spec.map fun x => { x with clusterIP := none, clusterIPs := none } }
  | .deployment d => .deployment d

@[simp] theorem addresses_owned (m : Manifest) (owner : OwnerReference) :
    (m.owned owner).addresses = m.addresses := by
  cases m <;> rfl

@[simp] theorem bare_owned (m : Manifest) (owner : OwnerReference) :
    (m.owned owner).bare = m.bare := by
  cases m <;> rfl

@[simp] theorem bare_carryForward (live wanted : Manifest) :
    (live.carryForward wanted).bare = wanted.bare := by
  cases live with
  | deployment l => cases wanted <;> rfl
  | service l =>
    cases wanted with
    | deployment w => rfl
    | service w =>
      obtain ⟨lm, ls⟩ := l
      obtain ⟨wm, ws⟩ := w
      cases ls <;> cases ws <;> rfl

end Manifest

namespace Children

variable {c : Cluster} {wanted : Manifest}

theorem resourceVersion_of_wanted (h : wanted ∈ Children.wanted c) :
    wanted.metadata.resourceVersion = none := by
  rcases mem_wanted.1 h with rfl | ⟨rfl, -⟩ <;> rfl

theorem addresses_of_wanted (h : wanted ∈ Children.wanted c) : wanted.addresses = (none, none) := by
  rcases mem_wanted.1 h with rfl | ⟨rfl, -⟩ <;> rfl

/-- A child that a cluster wants leaves to the store and the platform what is theirs to give. -/
theorem bare_of_wanted (h : wanted ∈ Children.wanted c) : wanted.bare = wanted := by
  rcases mem_wanted.1 h with rfl | ⟨rfl, -⟩ <;> rfl

theorem addresses_carryForward (h : wanted ∈ Children.wanted c) (hkind : wanted.kind = .service)
    (live : Manifest) : (live.carryForward wanted).addresses = live.addresses := by
  rcases mem_wanted.1 h with rfl | ⟨rfl, -⟩
  · cases hkind
  · cases live with
    | deployment l => rfl
    | service l =>
      obtain ⟨lm, ls⟩ := l
      cases ls <;> rfl

end Children

/-! ## Replacements -/

/-- A child is what a wanted one replaces what was found with: it has the version of what was found,
as a service its addresses too, and its owner references with the owner put in its place, so that
those to others stay as they are. All else is as wanted. -/
structure Manifest.IsReplacement (m : Manifest) (found : Option Manifest) (wanted : Manifest)
    (owner : OwnerReference) : Prop where
  version : m.metadata.resourceVersion = found.bind (·.metadata.resourceVersion)
  addresses : m.kind = .service → m.addresses = found.elim (none, none) Manifest.addresses
  owners : Metadata.Upserts owner (found.elim [] (·.metadata.owners)) m.metadata.owners
  others : m.metadata.owners.filter (·.uid ≠ owner.uid) =
    (found.elim [] (·.metadata.owners)).filter (·.uid ≠ owner.uid)
  rest : m.bare = wanted

section

variable {c : Cluster} {owner : OwnerReference} {wanted m : Manifest}

theorem isReplacement_created (h : wanted ∈ Children.wanted c) :
    (wanted.owned owner).IsReplacement none wanted owner := by
  have howners : Metadata.Upserts owner [] (wanted.owned owner).metadata.owners := by
    have hnone : wanted.metadata.owners = [] := by
      unfold Metadata.owners
      rw [Children.ownerReferences_of_wanted h, Option.getD_none]
    rw [Manifest.owners_owned, hnone]
    exact Metadata.upserts_upsert owner []
  refine ⟨?_, fun _ => ?_, howners, howners.filter_eq, ?_⟩
  · unfold Manifest.owned Metadata.upsertOwner
    rw [Manifest.metadata_withMetadata]
    exact Children.resourceVersion_of_wanted h
  · rw [Manifest.addresses_owned]
    exact Children.addresses_of_wanted h
  · rw [Manifest.bare_owned]
    exact Children.bare_of_wanted h

theorem isReplacement_updated (h : wanted ∈ Children.wanted c) (live : Manifest) :
    ((live.carryForward wanted).owned owner).IsReplacement (some live) wanted owner := by
  have howners : Metadata.Upserts owner live.metadata.owners
      ((live.carryForward wanted).owned owner).metadata.owners := by
    rw [Manifest.owners_owned,
      Manifest.owners_carryForward live (Children.ownerReferences_of_wanted h)]
    exact Metadata.upserts_upsert owner _
  refine ⟨live.resourceVersion_carryForward_owned wanted owner, fun hkind => ?_, howners,
    howners.filter_eq, ?_⟩
  · have hservice : wanted.kind = .service := by
      rw [← hkind]
      unfold Manifest.owned
      rw [Manifest.kind_withMetadata, Manifest.kind_carryForward]
    rw [Manifest.addresses_owned]
    exact Children.addresses_carryForward h hservice live
  · rw [Manifest.bare_owned, Manifest.bare_carryForward]
    exact Children.bare_of_wanted h

theorem isReplacement_of_writeOver (h : wanted ∈ Children.wanted c) {found : Option Manifest}
    (hm : (writeOver owner wanted found).written? = some m) :
    m.ref = wanted.ref ∧ m.IsReplacement found wanted owner ∧
      writeOver owner wanted found = if found.isSome then .update m else .create m := by
  cases found with
  | none =>
    obtain rfl : wanted.owned owner = m := Option.some.inj hm
    exact ⟨wanted.ref_owned owner, isReplacement_created h, rfl⟩
  | some live =>
    obtain rfl : (live.carryForward wanted).owned owner = m := Option.some.inj hm
    refine ⟨?_, isReplacement_updated h live, rfl⟩
    rw [Manifest.ref_owned, Manifest.ref_carryForward]

end

end ClusterOperator
