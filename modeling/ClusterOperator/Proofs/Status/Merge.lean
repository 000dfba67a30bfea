import ClusterOperator.Entity.StatusChange
import ClusterOperator.Proofs.Status.Conditions
import ClusterOperator.Proofs.Status.Decoding

/-!
# Statuses as merge patches

A merge patch keeps what it does not name. What passes report has every member that the status
before it had, so a status that is merged into the one before it takes its place.

* `Json.isPlain` : neither null nor an object; a patch stores such a value as it is;
* `Json.mergeMembers_of_isPlain` : what a patch of such values makes of an object;
* `Json.Covers` : a record has every member that another one has; `Json.merge_record`, it takes the
  other one's place;
* `ClusterStatus.covers_started`, `ClusterStatus.covers_failed`, `ClusterStatus.covers_ready`,
  `QueryStatus.covers_started`, `QueryStatus.covers_failed`, `QueryStatus.covers_answered` : what
  passes report has every member that was there before;
* `ClusterStatus.merge_encode`, `QueryStatus.merge_encode` : such a status takes the place of the
  one before it.
-/

namespace ClusterOperator

namespace Json

/-! ## Patches of plain values -/

variable {old new : List (String × Option Json)}

/-- The value is neither null nor an object. -/
def isPlain : Json → Bool
  | .null | .obj _ => false
  | _ => true

theorem merge_of_isPlain {v : Json} (hv : v.isPlain) (target : Json) : target.merge v = v := by
  cases v with
  | null | obj => cases hv
  | _ => simp [merge]

theorem mergeMembers_cons {k : String} {v : Json} (hv : v ≠ .null)
    (old rest : List (String × Json)) :
    mergeMembers old ((k, v) :: rest) =
      mergeMembers (old.filter (·.1 ≠ k) ++ [(k, ((lastMember? k old).getD .null).merge v)])
        rest := by
  rw [mergeMembers]
  exact hv

/-- A patch of plain values, none of them twice, leaves the members that it does not name and puts
its own behind them. -/
theorem mergeMembers_of_isPlain {patch : List (String × Json)}
    (hplain : ∀ m ∈ patch, m.2.isPlain) (hnodup : (patch.map Prod.fst).Nodup)
    (old : List (String × Json)) :
    mergeMembers old patch = old.filter (·.1 ∉ patch.map Prod.fst) ++ patch := by
  induction patch generalizing old with
  | nil => simp [mergeMembers]
  | cons m rest ih =>
    obtain ⟨k, v⟩ := m
    obtain ⟨hfresh, hothers⟩ := List.nodup_cons.1 hnodup
    have hrest := fun m hm => hplain m (List.mem_cons_of_mem _ hm)
    have hv : v.isPlain := hplain _ List.mem_cons_self
    rw [mergeMembers_cons (by rintro rfl; cases hv), merge_of_isPlain hv, ih hrest hothers,
      List.filter_append, List.filter_filter]
    -- the member that was just put is not named again
    have hkept : [(k, v)].filter (·.1 ∉ rest.map Prod.fst) = [(k, v)] := by simpa using hfresh
    rw [hkept, List.append_assoc, List.singleton_append]
    refine congrArg (· ++ (k, v) :: rest) (List.filter_congr fun m _ => ?_)
    rw [← Bool.decide_and, decide_eq_decide, List.map_cons, List.mem_cons, not_or, and_comm]

/-! ## Records -/

/-- A record has every member that another one has. -/
def Covers (old new : List (String × Option Json)) : Prop :=
  ∀ m ∈ old, m.2.isSome → ∃ m' ∈ new, m'.1 = m.1 ∧ m'.2.isSome

/-- A record of plain values that covers another one takes its place when it is merged into it. -/
theorem merge_record (hcovers : Covers old new) (hnodup : (new.map Prod.fst).Nodup)
    (hplain : ∀ m ∈ new, ∀ v ∈ m.2, v.isPlain) : (record old).merge (record new) = record new := by
  have hpresent : ∀ m ∈ present new, m.2.isPlain := fun m hm =>
    hplain _ (mem_present.1 hm) _ rfl
  have hnames : (present old).filter (·.1 ∉ (present new).map Prod.fst) = [] := by
    rw [List.filter_eq_nil_iff]
    intro m hm
    obtain ⟨⟨k, v⟩, hm', hk, hv⟩ := hcovers _ (mem_present.1 hm) rfl
    obtain ⟨v, rfl⟩ := Option.isSome_iff_exists.1 hv
    simpa using ⟨v, hk ▸ mem_present.2 hm'⟩
  rw [record_eq, record_eq, merge, mergeMembers_of_isPlain hpresent (nodup_present hnodup), hnames,
    List.nil_append]

/-- A patch cannot remove a member by leaving it out. -/
example : (record [("a", some (.int 1))]).merge (record [("a", none), ("b", some (.int 2))]) =
    record [("a", some (.int 1)), ("b", some (.int 2))] := rfl

theorem merge_null_record (hnodup : (new.map Prod.fst).Nodup)
    (hplain : ∀ m ∈ new, ∀ v ∈ m.2, v.isPlain) : null.merge (record new) = record new :=
  merge_record (fun _ (hm : _ ∈ []) => by cases hm) hnodup hplain

@[simp] theorem isSome_nonEmpty {α : Type} (encode : α → Json) (l : List α) :
    (nonEmpty encode l).isSome ↔ l ≠ [] := by
  cases l <;> simp [nonEmpty]

end Json

open Json

/-! ## Statuses -/

theorem isSome_laterGeneration {a b : Option Int64} (h : a.isSome) :
    (laterGeneration a b).isSome := by
  obtain ⟨n, rfl⟩ := Option.isSome_iff_exists.1 h
  cases b with
  | none => rfl
  | some m => by_cases hnm : n < m <;> simp [laterGeneration, hnm]

namespace ClusterStatus

variable (s : ClusterStatus) (stamp : String)

theorem isPlain_members : ∀ m ∈ s.members, ∀ v ∈ m.2, v.isPlain := by
  simp [members, nonEmpty, isPlain, ofInt64]

theorem covers_started : Covers s.members (s.started stamp).members := by
  simp [Covers, members, started, withCondition, Condition.set_ne_nil]

theorem covers_failed (reason message : String) :
    Covers s.members (s.failed reason message stamp).members := by
  simp [Covers, members, failed, withCondition, Condition.set_ne_nil]

theorem covers_ready (generation : Option Int64) {present : List ResourceRef}
    (hpresent : present ≠ []) :
    Covers s.members (s.ready generation present stamp).members := by
  have hlater := isSome_laterGeneration (a := s.observedGeneration) (b := generation)
  simpa [Covers, members, ready, withCondition, Condition.set_ne_nil, hpresent] using hlater

/-- A status that has every member of the one before it takes its place when it is merged into
it. -/
theorem merge_encode {old : Option ClusterStatus} {new : ClusterStatus}
    (h : ∀ s ∈ old, Covers s.members new.members) :
    ((old.map encode).getD .null).merge new.encode = new.encode := by
  cases old with
  | none => exact merge_null_record new.nodup_members new.isPlain_members
  | some s => exact merge_record (h s rfl) new.nodup_members new.isPlain_members

end ClusterStatus

namespace QueryStatus

variable (s : QueryStatus) (stamp : String)

theorem isPlain_members : ∀ m ∈ s.members, ∀ v ∈ m.2, v.isPlain := by
  simp [members, nonEmpty, isPlain, ofInt64]

theorem covers_started : Covers s.members (s.started stamp).members := by
  simp [Covers, members, started, withCondition, Condition.set_ne_nil]

theorem covers_failed (reason message : String) :
    Covers s.members (s.failed reason message stamp).members := by
  simp [Covers, members, failed, withCondition, Condition.set_ne_nil]

theorem covers_answered (generation : Option Int64) (result : String) (count : Nat) :
    Covers s.members (s.answered generation result count stamp).members := by
  have hlater := isSome_laterGeneration (a := s.observedGeneration) (b := generation)
  simpa [Covers, members, answered, withCondition, Condition.set_ne_nil] using hlater

/-- A status that has every member of the one before it takes its place when it is merged into
it. -/
theorem merge_encode {old : Option QueryStatus} {new : QueryStatus}
    (h : ∀ s ∈ old, Covers s.members new.members) :
    ((old.map encode).getD .null).merge new.encode = new.encode := by
  cases old with
  | none => exact merge_null_record new.nodup_members new.isPlain_members
  | some s => exact merge_record (h s rfl) new.nodup_members new.isPlain_members

end QueryStatus

end ClusterOperator
