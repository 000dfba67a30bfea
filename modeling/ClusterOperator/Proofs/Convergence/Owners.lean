import ClusterOperator.Proofs.Convergence.Replacement
import Mathlib.Data.List.Induction
import Mathlib.Data.List.Nodup

/-!
# Owners after any calls

An owner is put among the references of an object by its identity, call after call. A call replaces
the reference with its identity where that stands, or adds one at the end, so the references that
others have made keep their places.

* `Metadata.identities`, `Metadata.lastGiven?` : the identities of some references, in their order;
  the reference that was given last for an identity;
* `Metadata.identities_upsert`, `Metadata.find?_upsert` : what a call does to the identities, and
  to what is found for one of them;
* `Metadata.upsertOwner_eq_self`, `Metadata.upsert_comm` : a call that changes nothing, and calls
  that can change places;
* `Metadata.afterUpserts` : the metadata after calls; `identities_afterUpserts`,
  `find?_afterUpserts`;
* `upserts_keep_owners` : what the references are after any calls.
-/

namespace ClusterOperator

namespace Metadata

variable {r s : OwnerReference} {rs : List OwnerReference} {uid : String}

def identities (rs : List OwnerReference) : List String :=
  rs.map (·.uid)

/-! ## One call -/

theorem identities_upsert (r : OwnerReference) (rs : List OwnerReference) :
    identities (upsert r rs) =
      if r.uid ∈ identities rs then identities rs else identities rs ++ [r.uid] := by
  have h := upserts_upsert r rs
  generalize upsert r rs = rs' at h
  unfold identities
  cases h with
  | replaced _ hold =>
    rw [if_pos (by simp [hold])]
    simp [hold]
  | added hnone =>
    rw [if_neg (by simpa using hnone)]
    simp

theorem find?_upsert (r : OwnerReference) (rs : List OwnerReference) (uid : String) :
    (upsert r rs).find? (·.uid = uid) =
      if r.uid = uid then some r else rs.find? (·.uid = uid) := by
  induction rs with
  | nil =>
    rw [upsert, List.find?_singleton]
    simp
  | cons t rest ih =>
    rw [upsert]
    split
    · next ht =>
      rw [List.find?_cons, List.find?_cons, ht]
      by_cases hr : r.uid = uid <;> simp [hr]
    · next ht =>
      rw [List.find?_cons, List.find?_cons, ih]
      by_cases hr : r.uid = uid
      · rw [if_pos hr, if_pos hr, decide_eq_false (by rwa [← hr])]
      · rw [if_neg hr, if_neg hr]

theorem nodup_identities_upsert (h : (identities rs).Nodup) (r : OwnerReference) :
    (identities (upsert r rs)).Nodup := by
  rw [identities_upsert]
  split
  · exact h
  · next hnew =>
    rw [List.nodup_append_comm, List.singleton_append, List.nodup_cons]
    exact ⟨hnew, h⟩

/-- Of references to different owners, the one to an owner is the one that is found. -/
theorem find?_eq_of_mem (h : (identities rs).Nodup) (hr : r ∈ rs) :
    rs.find? (·.uid = r.uid) = some r := by
  obtain ⟨t, ht⟩ : ∃ t, rs.find? (·.uid = r.uid) = some t := by
    rw [← Option.isSome_iff_exists, List.find?_isSome]
    exact ⟨r, hr, decide_eq_true rfl⟩
  have huid : t.uid = r.uid := by simpa using List.find?_some ht
  rw [ht, List.inj_on_of_nodup_map h (List.mem_of_find?_eq_some ht) hr huid]

theorem upsert_eq_self (h : rs.find? (·.uid = r.uid) = some r) : upsert r rs = rs := by
  induction rs with
  | nil => cases h
  | cons t rest ih =>
    rw [List.find?_cons] at h
    rw [upsert]
    by_cases ht : t.uid = r.uid
    · rw [decide_eq_true ht] at h
      rw [if_pos ht, Option.some.inj h]
    · rw [decide_eq_false ht] at h
      rw [if_neg ht, ih h]

theorem upsertOwner_eq_self {m : Metadata} (h : m.owners.find? (·.uid = r.uid) = some r) :
    m.upsertOwner r = m := by
  have hsome : m.ownerReferences = some m.owners := by
    unfold owners at h ⊢
    cases hrefs : m.ownerReferences with
    | none =>
      rw [hrefs] at h
      cases h
    | some rs => rfl
  have hupsert : upsert r (m.ownerReferences.getD []) = m.owners := upsert_eq_self h
  rw [upsertOwner, hupsert, ← hsome]

theorem upsert_comm (hne : r.uid ≠ s.uid) (hr : r.uid ∈ identities rs) :
    upsert s (upsert r rs) = upsert r (upsert s rs) := by
  induction rs with
  | nil => cases hr
  | cons t rest ih =>
    by_cases htr : t.uid = r.uid
    · have hts : t.uid ≠ s.uid := fun h => hne (htr ▸ h)
      simp only [upsert, if_pos htr, if_neg hts, if_neg hne]
    · by_cases hts : t.uid = s.uid
      · simp only [upsert, if_pos hts, if_neg htr, if_neg (Ne.symm hne)]
      · have hrest : r.uid ∈ identities rest := by
          rcases List.mem_cons.1 hr with h | h
          · exact absurd h.symm htr
          · exact h
        simp only [upsert, if_neg htr, if_neg hts, ih hrest]

/-! ## Any calls -/

def afterUpserts (m : Metadata) (calls : List OwnerReference) : Metadata :=
  calls.foldl upsertOwner m

def lastGiven? (uid : String) (calls : List OwnerReference) : Option OwnerReference :=
  calls.reverse.find? (·.uid = uid)

/-- The identities that calls have added, in the order in which they were first given. -/
def newcomers (rs calls : List OwnerReference) : List String :=
  ((identities calls).filter (· ∉ identities rs)).eraseDups

variable (m : Metadata) (calls : List OwnerReference)

theorem afterUpserts_concat (r : OwnerReference) :
    m.afterUpserts (calls ++ [r]) = (m.afterUpserts calls).upsertOwner r := by
  unfold afterUpserts
  rw [List.foldl_append]
  rfl

theorem owners_upsertOwner (r : OwnerReference) :
    (m.upsertOwner r).owners = upsert r m.owners := rfl

theorem lastGiven?_concat (uid : String) (r : OwnerReference) :
    lastGiven? uid (calls ++ [r]) = if r.uid = uid then some r else lastGiven? uid calls := by
  unfold lastGiven?
  rw [List.reverse_append, List.reverse_singleton, List.singleton_append, List.find?_cons]
  by_cases h : r.uid = uid <;> simp [h]

theorem exists_lastGiven? (h : uid ∈ identities calls) :
    ∃ r, lastGiven? uid calls = some r ∧ r.uid = uid := by
  obtain ⟨r, hr, rfl⟩ := List.mem_map.1 h
  obtain ⟨t, ht⟩ : ∃ t, lastGiven? r.uid calls = some t := by
    rw [← Option.isSome_iff_exists, lastGiven?, List.find?_isSome]
    exact ⟨r, List.mem_reverse.2 hr, decide_eq_true rfl⟩
  exact ⟨t, ht, by simpa using List.find?_some ht⟩

theorem lastGiven?_eq_none (h : uid ∉ identities calls) : lastGiven? uid calls = none := by
  apply List.find?_eq_none.2
  intro r hr heq
  exact h (List.mem_map.2 ⟨r, List.mem_reverse.1 hr, of_decide_eq_true heq⟩)

/-- An identity that calls give once more is no newcomer, nor is one that was there before. -/
theorem newcomers_concat (rs : List OwnerReference) (r : OwnerReference) :
    newcomers rs (calls ++ [r]) =
      if r.uid ∈ identities rs ∨ r.uid ∈ newcomers rs calls then newcomers rs calls
      else newcomers rs calls ++ [r.uid] := by
  have hmap : identities (calls ++ [r]) = identities calls ++ [r.uid] := by
    simp [identities]
  unfold newcomers
  rw [hmap, List.filter_append, List.eraseDups_append]
  by_cases hold : r.uid ∈ identities rs
  · simp [hold, List.removeAll]
  · by_cases hmem : r.uid ∈ identities calls <;>
      simp [hold, hmem, List.removeAll, List.eraseDups_cons]

theorem identities_afterUpserts :
    identities (m.afterUpserts calls).owners =
      identities m.owners ++ newcomers m.owners calls := by
  induction calls using List.reverseRecOn with
  | nil => simp [afterUpserts, newcomers, identities]
  | append_singleton calls r ih =>
    rw [afterUpserts_concat, owners_upsertOwner, identities_upsert, ih, newcomers_concat]
    simp only [List.mem_append]
    split
    · rfl
    · rw [List.append_assoc]

theorem find?_afterUpserts (uid : String) :
    (m.afterUpserts calls).owners.find? (·.uid = uid) =
      (lastGiven? uid calls).or (m.owners.find? (·.uid = uid)) := by
  induction calls using List.reverseRecOn with
  | nil => rfl
  | append_singleton calls r ih =>
    rw [afterUpserts_concat, owners_upsertOwner, find?_upsert, lastGiven?_concat, ih]
    split
    · rw [Option.some_or]
    · rfl

theorem nodup_afterUpserts (h : (identities m.owners).Nodup) :
    (identities (m.afterUpserts calls).owners).Nodup := by
  induction calls using List.reverseRecOn with
  | nil => exact h
  | append_singleton calls r ih =>
    rw [afterUpserts_concat, owners_upsertOwner]
    exact nodup_identities_upsert ih r

theorem withReferences_afterUpserts (refs : Option (List OwnerReference)) :
    { m.afterUpserts calls with ownerReferences := refs } =
      { m with ownerReferences := refs } := by
  induction calls using List.reverseRecOn with
  | nil => rfl
  | append_singleton calls r ih =>
    rw [afterUpserts_concat, ← ih]
    rfl

end Metadata

open Metadata

/-- Owners with different identities own an object, and calls put owners among them. Then the
identities still differ. A reference whose identity no call gives is still there. The identities
that were there come first, in their order, and behind them those that the calls added, in the
order in which they were first given. For each identity that a call gives, the reference is the one
that was given last. A call that gives again what was given last for its identity changes nothing,
in particular one that is made twice in a row. Two calls for different owners can change places if
one of the two is there already. Nothing but the owner references changes. -/
theorem upserts_keep_owners (m : Metadata) (calls : List OwnerReference)
    (hdistinct : (identities m.owners).Nodup) :
    (identities (m.afterUpserts calls).owners).Nodup ∧
    (∀ r ∈ m.owners, r.uid ∉ identities calls → r ∈ (m.afterUpserts calls).owners) ∧
    identities (m.afterUpserts calls).owners =
      identities m.owners ++
        ((identities calls).filter (· ∉ identities m.owners)).eraseDups ∧
    (∀ uid ∈ identities calls, ∃ r, lastGiven? uid calls = some r ∧ r.uid = uid ∧
      r ∈ (m.afterUpserts calls).owners) ∧
    (∀ r, lastGiven? r.uid calls = some r →
      (m.afterUpserts calls).upsertOwner r = m.afterUpserts calls) ∧
    (∀ r, ((m.afterUpserts calls).upsertOwner r).upsertOwner r =
      (m.afterUpserts calls).upsertOwner r) ∧
    (∀ r s : OwnerReference, r.uid ≠ s.uid →
      r.uid ∈ identities (m.afterUpserts calls).owners →
      ((m.afterUpserts calls).upsertOwner r).upsertOwner s =
        ((m.afterUpserts calls).upsertOwner s).upsertOwner r) ∧
    { m.afterUpserts calls with ownerReferences := m.ownerReferences } = m := by
  refine ⟨m.nodup_afterUpserts calls hdistinct, fun r hr hfree => ?_,
    m.identities_afterUpserts calls, fun uid huid => ?_, fun r hr => ?_, fun r => ?_,
    fun r s hne hr => ?_, m.withReferences_afterUpserts calls _⟩
  · apply List.mem_of_find?_eq_some (p := (·.uid = r.uid))
    rw [find?_afterUpserts, lastGiven?_eq_none calls hfree, Option.none_or,
      find?_eq_of_mem hdistinct hr]
  · obtain ⟨r, hlast, rfl⟩ := exists_lastGiven? calls huid
    refine ⟨r, hlast, rfl, List.mem_of_find?_eq_some (p := (·.uid = r.uid)) ?_⟩
    rw [find?_afterUpserts, hlast, Option.some_or]
  · apply upsertOwner_eq_self
    rw [find?_afterUpserts, hr, Option.some_or]
  · apply upsertOwner_eq_self
    rw [owners_upsertOwner, find?_upsert, if_pos rfl]
  · have hcomm := upsert_comm hne hr
    unfold upsertOwner
    exact congrArg (fun refs => { m.afterUpserts calls with ownerReferences := some refs }) hcomm

/-- An object that somebody else owns beside a cluster of an older version. -/
def sharedObject : Metadata where
  name := some "demo"
  ownerReferences := some [{ kind := "Other", uid := "v" }, { apiVersion := "old", uid := "u" }]

/-- Two newcomers, one of whom comes twice, and the cluster between them. -/
def sharingCalls : List OwnerReference :=
  [{ uid := "x" }, { apiVersion, uid := "u" }, { uid := "w" }, { name := "late", uid := "x" }]

/-- The newcomers follow behind the owners that were there, and the other owner stays. -/
theorem upserts_keep_owners_of_shared :
    (identities sharedObject.owners).Nodup ∧
    identities (sharedObject.afterUpserts sharingCalls).owners = ["v", "u", "x", "w"] ∧
    { kind := "Other", uid := "v" } ∈ (sharedObject.afterUpserts sharingCalls).owners ∧
    (sharedObject.afterUpserts sharingCalls).upsertOwner { name := "late", uid := "x" } =
      sharedObject.afterUpserts sharingCalls := by
  have hdistinct : (identities sharedObject.owners).Nodup := by decide
  obtain ⟨-, hfree, horder, -, hagain, -⟩ :=
    upserts_keep_owners sharedObject sharingCalls hdistinct
  exact ⟨hdistinct, horder.trans (by decide), hfree _ List.mem_cons_self (by decide),
    hagain _ (by decide)⟩

end ClusterOperator
