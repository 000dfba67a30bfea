import ClusterOperator.Proofs.Status.Conditions
import ClusterOperator.Time.Instant
import Mathlib.Data.List.DropRight
import Mathlib.Data.List.Sort

/-!
# Conditions after any calls

Conditions are set one call after the other. What they are then depends, for each type, on the calls
for this type alone: the last one, and the first one of those at the end that have its status.

* `Condition.Call`, `Condition.afterCalls` : a call that sets a condition, and the conditions after
  calls;
* `Condition.IsOrdered` : one condition of a type at most, in the order of their ranks;
  `IsOrdered.set`, a call keeps that;
* `Condition.Tells` : a condition is what the calls for its type have made it; `Tells.update`, a
  call more;
* `Condition.find?_afterCalls` : what is found for a type after calls;
* `Condition.set_changed_iff` : a call says that it changed something exactly if it did;
* `conditions_tell_history` : what conditions are after any calls.
-/

namespace ClusterOperator

def ConditionType.inOrder : List ConditionType :=
  [.available, .degraded, .unknown]

namespace ConditionType

theorem rank_injective : Function.Injective rank := by
  intro t u h
  cases t <;> cases u <;> first | rfl | cases h

theorem pairwise_inOrder : inOrder.Pairwise (·.rank < ·.rank) := by
  decide

theorem mem_inOrder (t : ConditionType) : t ∈ inOrder := by
  cases t <;> decide

end ConditionType

namespace Condition

variable {type : ConditionType} {status : ConditionStatus} {reason message stamp : String}
  {cs ds : List Condition} {c : Condition}

/-! ## Order -/

/-- There is one condition of a type at most, and they are in the order of their ranks. -/
def IsOrdered (cs : List Condition) : Prop :=
  (cs.map (·.type)).Pairwise (·.rank < ·.rank)

theorem IsOrdered.nodup (h : IsOrdered cs) : (cs.map (·.type)).Nodup := by
  apply List.Pairwise.imp _ h
  rintro t u hlt rfl
  exact Nat.lt_irrefl _ hlt

theorem sortByRank_eq (cs : List Condition) :
    sortByRank cs = cs.insertionSort fun c d => c.type.rank ≤ d.type.rank := by
  unfold sortByRank List.insertionSort
  congr 1
  funext c ds
  induction ds with
  | nil => rfl
  | cons d rest ih => rw [insertByRank, List.orderedInsert_cons, ih]

theorem isOrdered_sortByRank (h : (cs.map (·.type)).Nodup) : IsOrdered (sortByRank cs) := by
  have hsorted : (sortByRank cs).Pairwise fun c d => c.type.rank ≤ d.type.rank := by
    rw [sortByRank_eq]
    exact List.pairwise_insertionSort _ cs
  have hperm : (sortByRank cs).Perm cs := by
    rw [sortByRank_eq]
    exact List.perm_insertionSort _ cs
  have hnodup : ((sortByRank cs).map (·.type)).Nodup := (hperm.map _).nodup_iff.2 h
  unfold IsOrdered
  rw [List.Nodup, List.pairwise_map] at hnodup
  rw [List.pairwise_map]
  exact hsorted.imp₂ (fun c d hle hne => Nat.lt_of_le_of_ne hle
    fun heq => hne (ConditionType.rank_injective heq)) hnodup

theorem map_type_updateFirst? {f : Condition → Condition} (h : updateFirst? type f cs = some ds)
    (hf : ∀ c, (f c).type = c.type) : ds.map (·.type) = cs.map (·.type) := by
  induction cs generalizing ds with
  | nil => cases h
  | cons c rest ih =>
    rw [updateFirst?] at h
    split at h
    · cases h
      simp [hf]
    · obtain ⟨es, hes, rfl⟩ := Option.map_eq_some_iff.1 h
      rw [List.map_cons, List.map_cons, ih hes]

theorem find?_eq_none_iff : find? type cs = none ↔ type ∉ cs.map (·.type) := by
  simp [find?]

theorem IsOrdered.set (h : IsOrdered cs) :
    IsOrdered (set type status reason message stamp cs).1 := by
  cases hfind : find? type cs with
  | none =>
    rw [set_of_find?_eq_none hfind]
    apply isOrdered_sortByRank
    rw [List.map_append, List.map_singleton, List.nodup_append_comm, List.singleton_append,
      List.nodup_cons]
    exact ⟨find?_eq_none_iff.1 hfind, h.nodup⟩
  | some c =>
    obtain ⟨ds, hds, hset⟩ := exists_updateFirst? status reason message stamp hfind
    have htypes : ds.map (·.type) = cs.map (·.type) := map_type_updateFirst? hds fun _ => rfl
    rw [hset, IsOrdered, htypes]
    exact h

theorem IsOrdered.mem_iff (h : IsOrdered cs) : c ∈ cs ↔ find? c.type cs = some c := by
  constructor
  · intro hc
    obtain ⟨d, hd⟩ : ∃ d, find? c.type cs = some d := by
      rw [← Option.ne_none_iff_exists', Ne, find?_eq_none_iff, not_not]
      exact List.mem_map_of_mem hc
    have hmem := List.mem_of_find?_eq_some hd
    have htype : d.type = c.type := by simpa using List.find?_some hd
    rw [hd, List.inj_on_of_nodup_map h.nodup hmem hc htype]
  · exact List.mem_of_find?_eq_some

/-! ## Changes -/

theorem updateFirst?_eq_self_iff {f : Condition → Condition}
    (h : updateFirst? type f cs = some ds) (hc : find? type cs = some c) : ds = cs ↔ f c = c := by
  induction cs generalizing ds with
  | nil => cases h
  | cons d rest ih =>
    rw [updateFirst?] at h
    rw [find?_cons] at hc
    split at h
    · next hd =>
      rw [if_pos hd] at hc
      cases h
      cases hc
      rw [List.cons.injEq, and_iff_left rfl]
    · next hd =>
      rw [if_neg hd] at hc
      obtain ⟨es, hes, rfl⟩ := Option.map_eq_some_iff.1 h
      rw [List.cons.injEq, and_iff_right rfl, ih hes hc]

/-- A condition stays what it is if it has the status, the reason and the message that are set, and
any time. -/
theorem update_eq_self_iff :
    c.update status reason message stamp = c ↔
      c.status = status ∧ c.reason = some reason ∧ c.message = some message ∧
        c.lastTransitionTime.isSome := by
  obtain ⟨t, s, r, m, time⟩ := c
  simp only [update, Condition.mk.injEq, true_and]
  constructor
  · rintro ⟨rfl, rfl, rfl, htime⟩
    refine ⟨rfl, rfl, rfl, ?_⟩
    rw [if_pos rfl] at htime
    rw [← htime]
    rfl
  · rintro ⟨rfl, rfl, rfl, htime⟩
    obtain ⟨time, rfl⟩ := Option.isSome_iff_exists.1 htime
    exact ⟨rfl, rfl, rfl, if_pos rfl⟩

theorem set_changed_iff :
    (set type status reason message stamp cs).2 = true ↔
      (set type status reason message stamp cs).1 ≠ cs := by
  cases hfind : find? type cs with
  | none =>
    have hself : find? type (set type status reason message stamp cs).1 = _ := find?_set_self
    refine iff_of_true ?_ fun heq => ?_
    · unfold set
      rw [(updateFirst?_eq_none_iff _).2 hfind]
    · rw [heq, hfind] at hself
      cases hself
  | some c =>
    obtain ⟨ds, hds, hset⟩ := exists_updateFirst? status reason message stamp hfind
    rw [hset, Ne, ← Bool.not_eq_false, not_iff_not, updateFirst?_eq_self_iff hds hfind,
      update_eq_self_iff]
    unfold set
    rw [hds, hfind]
    simp [and_assoc, Option.isSome_iff_ne_none]

/-! ## Calls -/

structure Call where
  type : ConditionType
  status : ConditionStatus
  reason : String
  message : String
  time : Instant

/-- The conditions after a call, and whether it says that it changed something. -/
def Call.apply (x : Call) (cs : List Condition) : List Condition × Bool :=
  set x.type x.status x.reason x.message x.time.stamp cs

def afterCalls (xs : List Call) : List Condition :=
  xs.foldl (fun cs x => (x.apply cs).1) []

theorem afterCalls_concat (xs : List Call) (x : Call) :
    afterCalls (xs ++ [x]) = (x.apply (afterCalls xs)).1 := by
  unfold afterCalls
  rw [List.foldl_append]
  rfl

/-- A condition is what the calls for its type have made it. The last of them gave it its status,
its reason and its message, and its time is that of the first call of the longest row of calls at
the end that all have its status. -/
structure Tells (c : Condition) (calls : List Call) : Prop where
  last : ∃ x, calls.getLast? = some x ∧ c.status = x.status ∧ c.reason = some x.reason ∧
    c.message = some x.message
  time : ∃ x, (calls.rtakeWhile (·.status = c.status)).head? = some x ∧
    c.lastTransitionTime = some x.time.stamp

theorem Tells.first (x : Call) :
    Tells ⟨x.type, x.status, some x.reason, some x.message, some x.time.stamp⟩ [x] where
  last := ⟨x, rfl, rfl, rfl, rfl⟩
  time := ⟨x, by simp [List.rtakeWhile], rfl⟩

theorem Tells.update {calls : List Call} (h : c.Tells calls) (x : Call) :
    (c.update x.status x.reason x.message x.time.stamp).Tells (calls ++ [x]) where
  last := ⟨x, List.getLast?_concat, rfl, rfl, rfl⟩
  time := by
    show ∃ y, ((calls ++ [x]).rtakeWhile (·.status = x.status)).head? = some y ∧ _
    rw [List.rtakeWhile_concat_pos _ _ _ (by simp)]
    by_cases hs : c.status = x.status
    · -- the row goes on
      obtain ⟨y, hy, htime⟩ := h.time
      rw [hs] at hy
      refine ⟨y, by rw [List.head?_append, hy]; rfl, ?_⟩
      rw [Condition.update, if_pos hs, htime]
      rfl
    · -- the last call before this one had another status, so a row begins
      obtain ⟨y, hy, hstatus, -⟩ := h.last
      obtain ⟨before, rfl⟩ := List.getLast?_eq_some_iff.1 hy
      rw [List.rtakeWhile_concat_neg _ _ _ (by simpa [← hstatus] using hs)]
      exact ⟨x, rfl, if_neg hs⟩

theorem isOrdered_afterCalls (xs : List Call) : IsOrdered (afterCalls xs) := by
  induction xs using List.reverseRecOn with
  | nil => exact List.Pairwise.nil
  | append_singleton xs x ih =>
    rw [afterCalls_concat]
    exact ih.set

/-- What is found for a type after calls: nothing if none was for the type, and otherwise what they
tell. -/
theorem find?_afterCalls (t : ConditionType) (xs : List Call) :
    (find? t (afterCalls xs) = none ∧ xs.filter (·.type = t) = []) ∨
      ∃ c, find? t (afterCalls xs) = some c ∧ c.Tells (xs.filter (·.type = t)) := by
  induction xs using List.reverseRecOn with
  | nil => exact Or.inl ⟨rfl, rfl⟩
  | append_singleton xs x ih =>
    rw [afterCalls_concat, List.filter_append, Call.apply]
    by_cases ht : x.type = t
    · subst ht
      rw [find?_set_self, List.filter_cons_of_pos (by simp), List.filter_nil]
      refine Or.inr ⟨_, rfl, ?_⟩
      rcases ih with ⟨hnone, hnil⟩ | ⟨c, hc, htells⟩
      · rw [hnone, hnil]
        exact .first x
      · rw [hc]
        exact htells.update x
    · rw [find?_set_of_ne (Ne.symm ht), List.filter_cons_of_neg (by simpa using ht),
        List.filter_nil, List.append_nil]
      exact ih

theorem find?_afterCalls_eq_none_iff {t : ConditionType} {xs : List Call} :
    find? t (afterCalls xs) = none ↔ ∀ x ∈ xs, x.type ≠ t := by
  rcases find?_afterCalls t xs with ⟨hnone, hnil⟩ | ⟨c, hc, htells⟩
  · exact iff_of_true hnone (by simpa using List.filter_eq_nil_iff.1 hnil)
  · obtain ⟨x, hx, -⟩ := htells.last
    obtain ⟨hmem, htype⟩ := List.mem_filter.1 (List.mem_of_getLast? hx)
    refine iff_of_false (by simp [hc]) fun h => h x hmem (by simpa using htype)

theorem map_type_afterCalls (xs : List Call) :
    (afterCalls xs).map (·.type) =
      ConditionType.inOrder.filter fun t => xs.any (·.type = t) := by
  have hordered := isOrdered_afterCalls xs
  have hwanted := ConditionType.pairwise_inOrder.filter fun t => xs.any (·.type = t)
  have hnodup : (ConditionType.inOrder.filter fun t => xs.any (·.type = t)).Nodup :=
    List.Nodup.filter _ (by decide)
  refine List.Perm.eq_of_pairwise (fun t u _ _ htu hut => ?_) hordered hwanted ?_
  · exact absurd htu (Nat.lt_asymm hut)
  · rw [List.perm_ext_iff_of_nodup hordered.nodup hnodup]
    intro t
    rw [← not_iff_not, ← find?_eq_none_iff, find?_afterCalls_eq_none_iff]
    simp [ConditionType.mem_inOrder]

end Condition

/-- After any calls there is one condition for each type that was called for, in the order
available, degraded, unknown. Each is as the last call for its type says, and has the time of the
first call of the longest row of calls for its type, up to the last one, with its status. A call
leaves the conditions of the other types as they are, and says that it changed something exactly if
the conditions are not what they were. -/
theorem conditions_tell_history (xs : List Condition.Call) :
    (Condition.afterCalls xs).map (·.type) =
      [.available, .degraded, .unknown].filter (fun t => xs.any (·.type = t)) ∧
    (∀ c ∈ Condition.afterCalls xs, c.Tells (xs.filter (·.type = c.type))) ∧
    ∀ x : Condition.Call,
      (∀ c : Condition, c.type ≠ x.type →
        (c ∈ (x.apply (Condition.afterCalls xs)).1 ↔ c ∈ Condition.afterCalls xs)) ∧
      ((x.apply (Condition.afterCalls xs)).2 = true ↔
        (x.apply (Condition.afterCalls xs)).1 ≠ Condition.afterCalls xs) := by
  have hordered := Condition.isOrdered_afterCalls xs
  refine ⟨Condition.map_type_afterCalls xs, fun c hc => ?_, fun x => ⟨fun c hne => ?_, ?_⟩⟩
  · rw [hordered.mem_iff] at hc
    rcases Condition.find?_afterCalls c.type xs with ⟨hnone, -⟩ | ⟨d, hd, htells⟩
    · rw [hnone] at hc
      cases hc
    · rw [hc] at hd
      cases hd
      exact htells
  · rw [hordered.mem_iff, Condition.Call.apply, hordered.set.mem_iff, Condition.find?_set_of_ne hne]
  · exact Condition.set_changed_iff

/-- The time is that of the call that changed the status, not of the one that only changed its
message. -/
example (t u v : Instant) : Condition.afterCalls [⟨.degraded, .yes, "a", "b", t⟩,
    ⟨.degraded, .no, "a", "b", u⟩, ⟨.degraded, .no, "a", "c", v⟩] =
      [⟨.degraded, .no, some "a", some "c", some u.stamp⟩] := rfl

end ClusterOperator
