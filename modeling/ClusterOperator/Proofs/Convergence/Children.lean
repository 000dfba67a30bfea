import ClusterOperator.Pass.Cluster
import ClusterOperator.Proofs.Convergence.Managed
import ClusterOperator.Store.Memory

/-!
# Convergence of the children in a store

The store may hold anything before: what matters of it is read before it is replaced, and a
replacement carries the version that it replaces.

* `ChildStore.get?_put` : what is stored is there, under its identity and nowhere else;
* `convergeChild_run`, `removeChild_run` : one child converged, or removed unless it is foreign;
* `convergeWanted_run`, `removeDropped_run` : several children, one after the other;
* `convergeChildren_run` : all children of a cluster.
-/

namespace ClusterOperator

open Dialogue

/-! ## The store -/

namespace ChildStore

theorem get?_put (s : ChildStore) (m : Manifest) (r : ChildRef) :
    (s.put m).2.objects.get? r = if r = m.ref then some (s.put m).1 else s.objects.get? r :=
  Dict.get?_insert _ _ _ _

theorem put_isConverged {m wanted : Manifest} {uid : String} (s : ChildStore)
    (h : m.IsConverged wanted uid) : (s.put m).1.IsConverged wanted uid where
  fields := by simpa [put, Manifest.withVersion] using h.fields
  version := by simpa [put, Manifest.withVersion, Manifest.version] using h.version
  controlled := by
    simpa [put, Manifest.withVersion, Metadata.isControlledBy] using h.controlled

theorem get?_drop (s : ChildStore) (child r : ChildRef) :
    (s.drop child).objects.get? r = if r = child then none else s.objects.get? r :=
  Dict.get?_erase _ _ _

end ChildStore

/-! ## One child -/

section

variable {owner : OwnerReference}

/-- A child is stored that has what is wanted, whatever was there. Other children are left
alone. -/
theorem convergeChild_run (h : owner.controller = some true) (wanted : Manifest)
    (s : ChildStore) :
    ∃ outcome t, (convergeChild owner wanted).run ChildStore.answer s = (.ok outcome, t) ∧
      (∃ live, t.objects.get? wanted.ref = some live ∧ live.IsConverged wanted owner.uid) ∧
      ∀ r, r ≠ wanted.ref → t.objects.get? r = s.objects.get? r := by
  cases hlive : s.objects.get? wanted.ref with
  | none =>
    refine ⟨.created, (s.put (wanted.owned owner)).2, ?_, ⟨(s.put (wanted.owned owner)).1, ?_, ?_⟩,
      fun r hr => ?_⟩
    · simp [convergeChild, ChildDialogue.get, ChildDialogue.create, request, run,
        ChildStore.answer, hlive]
    · simp [ChildStore.get?_put]
    · exact ChildStore.put_isConverged s (Manifest.isConverged_owned h rfl rfl)
    · simp [ChildStore.get?_put, hr]
  | some live =>
    have hnext := Manifest.isConverged_owned h (live.managedFields_carryForward wanted)
      (live.version_carryForward wanted)
    have hversion := live.resourceVersion_carryForward_owned wanted owner
    generalize hn : (live.carryForward wanted).owned owner = next at hnext hversion
    have href : next.ref = wanted.ref := by simp [← hn]
    cases hu : live.needsUpdate next owner with
    | false =>
      refine ⟨.unchanged, s, ?_, ⟨live, hlive, ?_⟩, fun _ _ => rfl⟩
      · simp [convergeChild, ChildDialogue.get, request, run, ChildStore.answer, hlive, hn, hu]
      · exact (Manifest.isConverged_of_unchanged hu).trans hnext
    | true =>
      refine ⟨.updated, (s.put next).2, ?_, ⟨(s.put next).1, ?_, ?_⟩, fun r hr => ?_⟩
      · simp [convergeChild, ChildDialogue.get, ChildDialogue.update, request, run,
          ChildStore.answer, hlive, hn, hu, href, hversion]
      · simp [ChildStore.get?_put, href]
      · exact ChildStore.put_isConverged s hnext
      · simp [ChildStore.get?_put, href, hr]

theorem removeChild_run (owner : OwnerReference) (child : ChildRef) (s : ChildStore) :
    ∃ outcome t, (removeChild owner child).run ChildStore.answer s = (.ok outcome, t) ∧
      t.objects.get? child =
        (s.objects.get? child).filter (!·.metadata.isControlledBy owner.uid) ∧
      ∀ r, r ≠ child → t.objects.get? r = s.objects.get? r := by
  cases hlive : s.objects.get? child with
  | none =>
    refine ⟨.absent, s, ?_, hlive, fun _ _ => rfl⟩
    simp [removeChild, ChildDialogue.get, request, run, ChildStore.answer, hlive]
  | some live =>
    cases hc : live.metadata.isControlledBy owner.uid with
    | false =>
      refine ⟨.foreign, s, ?_, ?_, fun _ _ => rfl⟩
      · simp [removeChild, ChildDialogue.get, request, run, ChildStore.answer, hlive, hc]
      · simp [hlive, hc, Option.filter_some]
    | true =>
      refine ⟨.deleted, s.drop child, ?_, ?_, fun r hr => ?_⟩
      · simp [removeChild, ChildDialogue.get, ChildDialogue.delete, request, run,
          ChildStore.answer, hlive, hc]
      · simp [ChildStore.get?_drop, hc, Option.filter_some]
      · simp [ChildStore.get?_drop, hr]

/-! ## Several children -/

theorem convergeWanted_run (h : owner.controller = some true) (ms : List Manifest)
    (hms : (ms.map Manifest.ref).Nodup) (s : ChildStore) :
    ∃ t, (convergeWanted owner ms).run ChildStore.answer s = (.ok (ms.map Manifest.ref), t) ∧
      (∀ m ∈ ms, ∃ live, t.objects.get? m.ref = some live ∧ live.IsConverged m owner.uid) ∧
      ∀ r, r ∉ ms.map Manifest.ref → t.objects.get? r = s.objects.get? r := by
  induction ms generalizing s with
  | nil => exact ⟨s, rfl, by simp, fun _ _ => rfl⟩
  | cons m rest ih =>
    rw [List.map_cons, List.nodup_cons] at hms
    obtain ⟨outcome, t, ht, hconv, hothers⟩ := convergeChild_run h m s
    obtain ⟨u, hu, hrest, hframe⟩ := ih hms.2 t
    refine ⟨u, ?_, fun n hn => ?_, fun r hr => ?_⟩
    · simp [convergeWanted, run_bind, ht, hu, run]
    · rcases List.mem_cons.1 hn with rfl | hn
      · -- the children after it have other identities
        rw [hframe n.ref hms.1]
        exact hconv
      · exact hrest n hn
    · rw [List.map_cons, List.mem_cons, not_or] at hr
      rw [hframe r hr.2, hothers r hr.1]

theorem removeDropped_run (owner : OwnerReference) (rs : List ChildRef) (s : ChildStore) :
    ∃ t, (removeDropped owner rs).run ChildStore.answer s = (.ok (), t) ∧
      ∀ r, t.objects.get? r = if r ∈ rs then
        (s.objects.get? r).filter (!·.metadata.isControlledBy owner.uid) else s.objects.get? r := by
  induction rs generalizing s with
  | nil => exact ⟨s, rfl, by simp⟩
  | cons child rest ih =>
    obtain ⟨outcome, t, ht, hchild, hothers⟩ := removeChild_run owner child s
    obtain ⟨u, hu, hrest⟩ := ih t
    refine ⟨u, ?_, fun r => ?_⟩
    · simp [removeDropped, run_bind, ht, hu]
    · rw [hrest r]
      by_cases hr : r = child
      · subst hr
        simp [hchild, Option.filter_filter]
      · simp [hr, hothers r hr]

/-- All children of a cluster: what is wanted has what the spec decides, what is dropped is gone
unless somebody else controls it, and all else is left alone. -/
theorem convergeChildren_run {c : Cluster} (hc : ownerReference c = .ok owner) (s : ChildStore) :
    ∃ t, (convergeChildren c).run ChildStore.answer s =
        (.ok ((Children.wanted c).map Manifest.ref), t) ∧
      (∀ m ∈ Children.wanted c, ∃ live, t.objects.get? m.ref = some live ∧
        live.IsConverged m owner.uid) ∧
      (∀ r ∈ Children.dropped c, t.objects.get? r =
        (s.objects.get? r).filter (!·.metadata.isControlledBy owner.uid)) ∧
      ∀ r, r ∉ (Children.wanted c).map Manifest.ref → r ∉ Children.dropped c →
        t.objects.get? r = s.objects.get? r := by
  have hcontrol := controller_ownerReference hc
  obtain ⟨t, ht, hwanted, hframe⟩ :=
    convergeWanted_run hcontrol (Children.wanted c) (Children.nodup_wanted c) s
  obtain ⟨u, hu, hdropped⟩ := removeDropped_run owner (Children.dropped c) t
  refine ⟨u, ?_, fun m hm => ?_, fun r hr => ?_, fun r hr hd => ?_⟩
  · simp [convergeChildren, hc, run_bind, ht, hu, run]
  · have hm' : m.ref ∉ Children.dropped c := fun hd =>
      Children.dropped_not_wanted hd (List.mem_map_of_mem hm)
    rw [hdropped, if_neg hm']
    exact hwanted m hm
  · rw [hdropped, if_pos hr, hframe r (Children.dropped_not_wanted hr)]
  · rw [hdropped, if_neg hd, hframe r hr]

end

end ClusterOperator
