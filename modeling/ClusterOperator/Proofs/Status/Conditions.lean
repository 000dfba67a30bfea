import ClusterOperator.Entity.Condition

/-!
# Conditions that are set

Setting a condition changes what is found for its type and nothing else. Setting it to what it is
changes no more than a missing time.

* `Condition.find?_sortByRank` : conditions of one type keep their order;
* `Condition.find?_set_self`, `Condition.find?_set_of_ne` : what is found for a type;
* `Condition.IsSet` : a type has its status, reason and message; `isSet_set`, `IsSet.set`;
* `Condition.timeless` : a condition without its time; `map_timeless_set`, the time at which a
  condition is set shows in times only; `map_timeless_set_of_isSet`, nor does it show that a
  condition is set again.
-/

namespace ClusterOperator.Condition

variable {type u : ConditionType} {status : ConditionStatus} {reason message stamp : String}
  {cs ds : List Condition}

/-! ## What is found -/

theorem find?_cons (u : ConditionType) (c : Condition) (cs : List Condition) :
    find? u (c :: cs) = if c.type = u then some c else find? u cs := by
  unfold find?
  rw [List.find?_cons]
  by_cases h : c.type = u <;> simp [h]

theorem find?_insertByRank (u : ConditionType) (c : Condition) (cs : List Condition) :
    find? u (insertByRank c cs) = if c.type = u then some c else find? u cs := by
  induction cs with
  | nil => exact find?_cons u c []
  | cons d rest ih =>
    rw [insertByRank]
    split
    · exact find?_cons u c _
    · next hrank =>
      -- what comes before by rank is of another type
      have hne : d.type ≠ c.type := fun h => hrank (h ▸ Nat.le_refl _)
      rw [find?_cons, ih, find?_cons]
      by_cases hc : c.type = u
      · have hd : d.type ≠ u := hc ▸ hne
        simp [hc, hd]
      · simp [hc]

theorem find?_sortByRank (u : ConditionType) (cs : List Condition) :
    find? u (sortByRank cs) = find? u cs := by
  induction cs with
  | nil => rfl
  | cons c rest ih =>
    show find? u (insertByRank c (sortByRank rest)) = _
    rw [find?_insertByRank, ih, find?_cons]

theorem find?_append_singleton (u : ConditionType) (cs : List Condition) (c : Condition) :
    find? u (cs ++ [c]) = (find? u cs).or (if c.type = u then some c else none) := by
  unfold find?
  rw [List.find?_append, List.find?_singleton]
  by_cases h : c.type = u <;> simp [h]

theorem updateFirst?_eq_none_iff (f : Condition → Condition) :
    updateFirst? type f cs = none ↔ find? type cs = none := by
  induction cs with
  | nil => simp [updateFirst?, find?]
  | cons c rest ih =>
    rw [updateFirst?, find?_cons]
    by_cases h : c.type = type
    · simp [h]
    · simp [h, ih]

theorem find?_updateFirst? {f : Condition → Condition} (h : updateFirst? type f cs = some ds)
    (hf : ∀ c, (f c).type = c.type) :
    find? u ds = if u = type then (find? type cs).map f else find? u cs := by
  induction cs generalizing ds with
  | nil => cases h
  | cons c rest ih =>
    rw [updateFirst?] at h
    by_cases hc : c.type = type
    · rw [if_pos hc] at h
      cases h
      rw [find?_cons, find?_cons, find?_cons, hf]
      by_cases hu : u = type
      · simp [hu, hc]
      · have hcu : c.type ≠ u := fun h => hu (h.symm.trans hc)
        simp [hu, hcu]
    · rw [if_neg hc] at h
      obtain ⟨es, hes, rfl⟩ := Option.map_eq_some_iff.1 h
      rw [find?_cons, ih hes, find?_cons, find?_cons, if_neg hc]
      by_cases hu : u = type
      · simp [hu, hc]
      · simp [hu]

/-! ## What is set -/

theorem exists_updateFirst? (status : ConditionStatus) (reason message stamp : String)
    {c : Condition} (h : find? type cs = some c) :
    ∃ ds, updateFirst? type (·.update status reason message stamp) cs = some ds ∧
      (set type status reason message stamp cs).1 = ds := by
  obtain ⟨ds, hds⟩ :
      ∃ ds, updateFirst? type (·.update status reason message stamp) cs = some ds := by
    rw [← Option.ne_none_iff_exists']
    intro hnone
    rw [updateFirst?_eq_none_iff, h] at hnone
    cases hnone
  refine ⟨ds, hds, ?_⟩
  unfold set
  rw [hds, h]

theorem set_of_find?_eq_none (h : find? type cs = none) :
    (set type status reason message stamp cs).1 =
      sortByRank (cs ++ [⟨type, status, some reason, some message, some stamp⟩]) := by
  unfold set
  rw [(updateFirst?_eq_none_iff _).2 h]

theorem find?_set_self :
    find? type (set type status reason message stamp cs).1 =
      some (((find? type cs).map (·.update status reason message stamp)).getD
        ⟨type, status, some reason, some message, some stamp⟩) := by
  cases h : find? type cs with
  | none =>
    rw [set_of_find?_eq_none h, find?_sortByRank, find?_append_singleton, h]
    simp
  | some c =>
    obtain ⟨ds, hds, hset⟩ := exists_updateFirst? status reason message stamp h
    have hfind := find?_updateFirst? (u := type) hds fun _ => rfl
    rw [hset, hfind, h]
    simp

theorem find?_set_of_ne (hu : u ≠ type) :
    find? u (set type status reason message stamp cs).1 = find? u cs := by
  cases h : find? type cs with
  | none =>
    rw [set_of_find?_eq_none h, find?_sortByRank, find?_append_singleton]
    simp [Ne.symm hu]
  | some c =>
    obtain ⟨ds, hds, hset⟩ := exists_updateFirst? status reason message stamp h
    have hfind := find?_updateFirst? (u := u) hds fun _ => rfl
    rw [hset, hfind, if_neg hu]

theorem set_ne_nil : (set type status reason message stamp cs).1 ≠ [] := by
  intro h
  have hfind : find? type (set type status reason message stamp cs).1 = _ := find?_set_self
  rw [h] at hfind
  cases hfind

def IsSet (type : ConditionType) (status : ConditionStatus) (reason message : String)
    (cs : List Condition) : Prop :=
  ∃ c, find? type cs = some c ∧ c.status = status ∧ c.reason = some reason ∧
    c.message = some message

theorem isSet_set :
    IsSet type status reason message (set type status reason message stamp cs).1 := by
  refine ⟨_, find?_set_self, ?_⟩
  cases find? type cs with
  | none => exact ⟨rfl, rfl, rfl⟩
  | some c => exact ⟨rfl, rfl, rfl⟩

theorem IsSet.set {other : ConditionStatus} {why what : String}
    (h : IsSet u other why what cs) (hu : u ≠ type) :
    IsSet u other why what (set type status reason message stamp cs).1 := by
  obtain ⟨c, hc, hrest⟩ := h
  exact ⟨c, (find?_set_of_ne hu).trans hc, hrest⟩

/-! ## Times -/

def timeless (c : Condition) : Condition :=
  { c with lastTransitionTime := none }

@[simp] theorem type_timeless (c : Condition) : c.timeless.type = c.type := rfl

theorem map_timeless_timeless (cs : List Condition) :
    (cs.map timeless).map timeless = cs.map timeless := by
  rw [List.map_map]
  rfl

theorem find?_map_timeless (u : ConditionType) (cs : List Condition) :
    find? u (cs.map timeless) = (find? u cs).map timeless := by
  induction cs with
  | nil => rfl
  | cons c rest ih =>
    rw [List.map_cons, find?_cons, find?_cons, type_timeless, ih]
    by_cases h : c.type = u <;> simp [h]

theorem map_timeless_insertByRank (c : Condition) (cs : List Condition) :
    (insertByRank c cs).map timeless = insertByRank c.timeless (cs.map timeless) := by
  induction cs with
  | nil => rfl
  | cons d rest ih =>
    rw [List.map_cons, insertByRank, insertByRank, type_timeless, type_timeless]
    by_cases h : c.type.rank ≤ d.type.rank
    · rw [if_pos h, if_pos h, List.map_cons, List.map_cons]
    · rw [if_neg h, if_neg h, List.map_cons, ih]

theorem map_timeless_sortByRank (cs : List Condition) :
    (sortByRank cs).map timeless = sortByRank (cs.map timeless) := by
  induction cs with
  | nil => rfl
  | cons c rest ih =>
    show (insertByRank c (sortByRank rest)).map timeless =
      insertByRank c.timeless (sortByRank (rest.map timeless))
    rw [map_timeless_insertByRank, ih]

theorem map_timeless_updateFirst? {f g : Condition → Condition}
    (hfg : ∀ c, (f c).timeless = (g c.timeless).timeless) :
    (updateFirst? type f cs).map (List.map timeless) =
      (updateFirst? type g (cs.map timeless)).map (List.map timeless) := by
  induction cs with
  | nil => rfl
  | cons c rest ih =>
    rw [List.map_cons, updateFirst?, updateFirst?, type_timeless]
    by_cases hc : c.type = type
    · rw [if_pos hc, if_pos hc, Option.map_some, Option.map_some, List.map_cons, List.map_cons,
        hfg, map_timeless_timeless]
    · rw [if_neg hc, if_neg hc, Option.map_map, Option.map_map]
      have hcons : ∀ d : Condition, List.map timeless ∘ (d :: ·) =
          (d.timeless :: ·) ∘ List.map timeless := fun _ => rfl
      rw [hcons, hcons, ← Option.map_map, ← Option.map_map, ih]
      rfl

/-- The time at which a condition is set, and the times of those before it, show in times only. -/
theorem map_timeless_set :
    (set type status reason message stamp cs).1.map timeless =
      (set type status reason message "" (cs.map timeless)).1.map timeless := by
  have hfind := find?_map_timeless type cs
  cases h : find? type cs with
  | none =>
    rw [h] at hfind
    rw [set_of_find?_eq_none h, set_of_find?_eq_none hfind, map_timeless_sortByRank,
      map_timeless_sortByRank, List.map_append, List.map_append, map_timeless_timeless]
    rfl
  | some c =>
    rw [h] at hfind
    obtain ⟨ds, hds, hset⟩ := exists_updateFirst? status reason message stamp h
    obtain ⟨es, hes, hset'⟩ := exists_updateFirst? status reason message "" hfind
    have hmap :
        (updateFirst? type (·.update status reason message stamp) cs).map (List.map timeless) =
          (updateFirst? type (·.update status reason message "") (cs.map timeless)).map
            (List.map timeless) := map_timeless_updateFirst? fun _ => rfl
    rw [hds, hes] at hmap
    rw [hset, hset']
    exact Option.some.inj hmap

theorem map_timeless_set_congr {time time' : String} (h : cs.map timeless = ds.map timeless) :
    (set type status reason message time cs).1.map timeless =
      (set type status reason message time' ds).1.map timeless := by
  rw [map_timeless_set, h, ← map_timeless_set]

theorem map_timeless_of_updateFirst? {f : Condition → Condition} {c : Condition}
    (h : updateFirst? type f cs = some ds) (hc : find? type cs = some c)
    (hf : (f c).timeless = c.timeless) : ds.map timeless = cs.map timeless := by
  induction cs generalizing ds with
  | nil => cases h
  | cons d rest ih =>
    rw [updateFirst?] at h
    rw [find?_cons] at hc
    by_cases hd : d.type = type
    · rw [if_pos hd] at h hc
      cases h
      cases hc
      rw [List.map_cons, List.map_cons, hf]
    · rw [if_neg hd] at h hc
      obtain ⟨es, hes, rfl⟩ := Option.map_eq_some_iff.1 h
      rw [List.map_cons, List.map_cons, ih hes hc]

theorem map_timeless_set_of_isSet (h : IsSet type status reason message cs) :
    (set type status reason message stamp cs).1.map timeless = cs.map timeless := by
  obtain ⟨c, hc, hstatus, hreason, hmessage⟩ := h
  obtain ⟨ds, hds, hset⟩ := exists_updateFirst? status reason message stamp hc
  rw [hset]
  refine map_timeless_of_updateFirst? hds hc ?_
  unfold timeless update
  rw [hstatus, hreason, hmessage]

end ClusterOperator.Condition
