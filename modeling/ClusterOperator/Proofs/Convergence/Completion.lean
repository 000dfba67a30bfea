import ClusterOperator.Proofs.Convergence.Calls

/-!
# Completed convergences

A convergence that succeeds has seen to every child, whoever else writes the store meanwhile: each
wanted child was read as it is wanted or written so, and each dropped one was deleted, or found to
be gone or foreign.

* `ConvergedBy`, `RemovedBy` : the calls that see to a child;
* `ChildrenConverged` : the calls see to every child of a cluster;
  `childrenConverged_of_convergeChildren`, those of a convergence that succeeds;
* `refs_of_convergeChildren` : the children that it returns are the wanted ones, and there are
  some.
-/

namespace ClusterOperator

open Dialogue

/-- The calls see to it that a wanted child is there: it was read as it is wanted, or written so. -/
inductive ConvergedBy (calls : List ChildExchange) (wanted : Manifest) (uid : String) : Prop where
  | kept {live : Manifest}
      (hread : (⟨.get wanted.ref, .ok (some live)⟩ : ChildExchange) ∈ calls)
      (h : live.IsConverged wanted uid)
  | created {written stored : Manifest}
      (hwrite : (⟨.create written, .ok stored⟩ : ChildExchange) ∈ calls)
      (href : written.ref = wanted.ref) (h : written.IsConverged wanted uid)
  | updated {written stored : Manifest}
      (hwrite : (⟨.update written, .ok stored⟩ : ChildExchange) ∈ calls)
      (href : written.ref = wanted.ref) (h : written.IsConverged wanted uid)

/-- The calls see to it that a dropped child is gone, unless somebody else controls it. -/
inductive RemovedBy (calls : List ChildExchange) (child : ChildRef) (uid : String) : Prop where
  | absent (hread : (⟨.get child, .ok none⟩ : ChildExchange) ∈ calls)
  | foreign {live : Manifest} (hread : (⟨.get child, .ok (some live)⟩ : ChildExchange) ∈ calls)
      (h : live.metadata.isControlledBy uid = false)
  | deleted (hdelete : (⟨.delete child, .ok ()⟩ : ChildExchange) ∈ calls)
  | gone {error : StoreError} (hdelete : (⟨.delete child, .error error⟩ : ChildExchange) ∈ calls)
      (h : error.isNotFound = true)

/-- The calls see to every child of a cluster. -/
structure ChildrenConverged (calls : List ChildExchange) (c : Cluster) (uid : String) : Prop where
  owner : c.metadata.uid = some uid
  wanted : ∀ m ∈ Children.wanted c, ConvergedBy calls m uid
  dropped : ∀ r ∈ Children.dropped c, RemovedBy calls r uid

section

variable {owner : OwnerReference} {t t' : List ChildExchange} {wanted : Manifest}
  {child : ChildRef} {uid : String}

theorem ConvergedBy.mono (h : ConvergedBy t wanted uid) (ht : t ⊆ t') :
    ConvergedBy t' wanted uid := by
  cases h with
  | kept hread h => exact .kept (ht hread) h
  | created hwrite href h => exact .created (ht hwrite) href h
  | updated hwrite href h => exact .updated (ht hwrite) href h

theorem RemovedBy.mono (h : RemovedBy t child uid) (ht : t ⊆ t') : RemovedBy t' child uid := by
  cases h with
  | absent hread => exact .absent (ht hread)
  | foreign hread h => exact .foreign (ht hread) h
  | deleted hdelete => exact .deleted (ht hdelete)
  | gone hdelete h => exact .gone (ht hdelete) h

theorem convergedBy_of_convergeChild (howner : owner.controller = some true)
    {outcome : ChildOutcome}
    (h : (convergeChild owner wanted).Reaches t (.finish (.ok outcome))) :
    ConvergedBy t wanted owner.uid := by
  have hnext : ∀ live : Manifest,
      ((live.carryForward wanted).owned owner).IsConverged wanted owner.uid := fun live =>
    Manifest.isConverged_owned howner (live.managedFields_carryForward wanted)
      (live.version_carryForward wanted)
  have hcalls := convergeChild_calls h
  rw [result?_finish] at hcalls
  cases hcalls with
  | created stored =>
    refine .created (List.mem_cons_of_mem _ List.mem_cons_self) (wanted.ref_owned owner) ?_
    exact Manifest.isConverged_owned howner rfl rfl
  | @unchanged live hsame =>
    exact .kept List.mem_cons_self ((Manifest.isConverged_of_unchanged hsame).trans (hnext live))
  | updated live stored =>
    exact .updated (List.mem_cons_of_mem _ List.mem_cons_self) (by simp) (hnext live)

theorem removedBy_of_removeChild {outcome : ChildOutcome}
    (h : (removeChild owner child).Reaches t (.finish (.ok outcome))) :
    RemovedBy t child owner.uid := by
  have hcalls := removeChild_calls h
  rw [result?_finish] at hcalls
  cases hcalls with
  | absent => exact .absent List.mem_cons_self
  | foreign hforeign => exact .foreign List.mem_cons_self hforeign
  | deleted => exact .deleted (List.mem_cons_of_mem _ List.mem_cons_self)
  | gone live hgone => exact .gone (List.mem_cons_of_mem _ List.mem_cons_self) hgone

theorem convergedBy_of_convergeWanted (howner : owner.controller = some true) {ms : List Manifest}
    {refs : List ChildRef} (h : (convergeWanted owner ms).Reaches t (.finish (.ok refs))) :
    ∀ m ∈ ms, ConvergedBy t m owner.uid := by
  induction ms generalizing t refs with
  | nil => simp
  | cons m ms ih =>
    obtain ⟨outcome, t₁, t₂, rfl, h₁, h₂⟩ := h.of_bind_finish
    cases outcome with
    | error e => cases h₂.of_finish.2
    | ok outcome =>
      obtain ⟨rest, t₃, t₄, rfl, h₃, h₄⟩ := Reaches.of_bind_finish h₂
      cases rest with
      | error e => cases h₄.of_finish.2
      | ok rest =>
        intro n hn
        rcases List.mem_cons.1 hn with rfl | hn
        · exact (convergedBy_of_convergeChild howner h₁).mono (List.subset_append_left _ _)
        · refine (ih h₃ n hn).mono fun x hx => ?_
          exact List.mem_append_right _ (List.mem_append_left _ hx)

theorem removedBy_of_removeDropped {rs : List ChildRef}
    (h : (removeDropped owner rs).Reaches t (.finish (.ok ()))) :
    ∀ r ∈ rs, RemovedBy t r owner.uid := by
  induction rs generalizing t with
  | nil => simp
  | cons child rs ih =>
    obtain ⟨outcome, t₁, t₂, rfl, h₁, h₂⟩ := h.of_bind_finish
    cases outcome with
    | error e => cases h₂.of_finish.2
    | ok outcome =>
      intro r hr
      rcases List.mem_cons.1 hr with rfl | hr
      · exact (removedBy_of_removeChild h₁).mono (List.subset_append_left _ _)
      · exact (ih h₂ r hr).mono (List.subset_append_right _ _)

end

theorem uid_of_ownerReference {c : Cluster} {owner : OwnerReference}
    (h : ownerReference c = .ok owner) : c.metadata.uid = some owner.uid := by
  unfold ownerReference at h
  split at h
  · next name uid _ huid =>
    cases h
    exact huid
  · cases h

theorem name_of_ownerReference {c : Cluster} {owner : OwnerReference}
    (h : ownerReference c = .ok owner) : c.metadata.name.isSome := by
  unfold ownerReference at h
  split at h
  · next name uid hname _ =>
    rw [hname]
    rfl
  · cases h

theorem childrenConverged_of_convergeChildren {c : Cluster} {t : List ChildExchange}
    {refs : List ChildRef} (h : (convergeChildren c).Reaches t (.finish (.ok refs))) :
    ∃ uid, ChildrenConverged t c uid := by
  unfold convergeChildren at h
  split at h
  · cases h.of_finish.2
  next owner howner =>
  obtain ⟨wanted, t₁, t₂, rfl, h₁, h₂⟩ := h.of_bind_finish
  cases wanted with
  | error e => cases h₂.of_finish.2
  | ok wanted =>
    obtain ⟨dropped, t₃, t₄, rfl, h₃, h₄⟩ := Reaches.of_bind_finish h₂
    cases dropped with
    | error e => cases h₄.of_finish.2
    | ok _ =>
      refine ⟨owner.uid, uid_of_ownerReference howner, fun m hm => ?_, fun r hr => ?_⟩
      · have hconverged := convergedBy_of_convergeWanted (controller_ownerReference howner) h₁ m hm
        exact hconverged.mono (List.subset_append_left _ _)
      · refine (removedBy_of_removeDropped h₃ r hr).mono fun x hx => ?_
        exact List.mem_append_right _ (List.mem_append_left _ hx)

/-! ## The children that are returned -/

theorem Children.wanted_ne_nil (c : Cluster) : Children.wanted c ≠ [] := by
  unfold wanted
  split <;> simp

theorem refs_of_convergeWanted {owner : OwnerReference} {ms : List Manifest}
    {t : List ChildExchange} {refs : List ChildRef}
    (h : (convergeWanted owner ms).Reaches t (.finish (.ok refs))) : refs = ms.map Manifest.ref := by
  induction ms generalizing t refs with
  | nil =>
    cases h.of_finish.2
    rfl
  | cons m ms ih =>
    obtain ⟨outcome, t₁, t₂, rfl, -, h₂⟩ := h.of_bind_finish
    cases outcome with
    | error e => cases h₂.of_finish.2
    | ok outcome =>
      obtain ⟨rest, t₃, t₄, rfl, h₃, h₄⟩ := Reaches.of_bind_finish h₂
      cases rest with
      | error e => cases h₄.of_finish.2
      | ok rest =>
        cases h₄.of_finish.2
        rw [ih h₃, List.map_cons]

theorem refs_of_convergeChildren {c : Cluster} {t : List ChildExchange} {refs : List ChildRef}
    (h : (convergeChildren c).Reaches t (.finish (.ok refs))) :
    refs = (Children.wanted c).map Manifest.ref := by
  unfold convergeChildren at h
  split at h
  · cases h.of_finish.2
  obtain ⟨wanted, t₁, t₂, rfl, h₁, h₂⟩ := h.of_bind_finish
  cases wanted with
  | error e => cases h₂.of_finish.2
  | ok wanted =>
    obtain ⟨dropped, t₃, t₄, rfl, -, h₄⟩ := Reaches.of_bind_finish h₂
    cases dropped with
    | error e => cases h₄.of_finish.2
    | ok _ =>
      cases h₄.of_finish.2
      exact refs_of_convergeWanted h₁

theorem refs_ne_nil_of_convergeChildren {c : Cluster} {t : List ChildExchange}
    {refs : List ChildRef} (h : (convergeChildren c).Reaches t (.finish (.ok refs))) :
    refs ≠ [] := by
  rw [refs_of_convergeChildren h]
  simp [Children.wanted_ne_nil c]

end ClusterOperator
