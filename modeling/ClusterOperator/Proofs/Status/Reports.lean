import ClusterOperator.Entity.StatusChange
import ClusterOperator.Proofs.Status.Conditions
import Mathlib.Data.List.Basic

/-!
# Reports of a status

What passes report is written over the status that is there. A status is published when it differs
in more than times, so a report that is made again, at any time, is not published.

* `material_record` : what the comparison of statuses leaves of a record;
* `ClusterStatus.timeless` : a status without its times; `ClusterStatus.material_encode`, which is
  what is compared;
* `ClusterStatus.IsReport` : a change of a status that does not depend on times and is the same when
  it is made again; `isReport_failed`, `isReport_ready`;
* `ClusterStatus.IsReport.not_shouldPublish_again` : such a report is not published again.
-/

namespace ClusterOperator

open Json

/-! ## What is compared -/

/-- A member of a status without the times of its conditions. -/
def timelessMember (name : String) (value : Json) : Json :=
  match name, value with
  | "conditions", .arr cs => .arr (cs.map (Json.erase "lastTransitionTime"))
  | _, j => j

theorem timelessMember_eq_id {name : String} (h : name ≠ "conditions") :
    timelessMember name = id := by
  funext value
  unfold timelessMember
  split
  · exact absurd rfl h
  · rfl

/-- A record lists its members one after the other, and nothing for one that is absent. -/
theorem record_eq_flatMap (ms : List (String × Option Json)) :
    record ms = .obj (ms.flatMap fun m => (m.2.map fun v => (m.1, v)).toList) := by
  unfold record
  rw [List.filterMap_eq_flatMap_toList]

theorem erase_record (name : String) (ms : List (String × Option Json)) :
    (record ms).erase name = record (ms.filter (·.1 ≠ name)) := by
  unfold record erase
  dsimp only
  congr 1
  induction ms with
  | nil => rfl
  | cons m rest ih =>
    obtain ⟨key, value⟩ := m
    cases value with
    | none => by_cases h : key = name <;> simpa [h] using ih
    | some j => by_cases h : key = name <;> simpa [h] using ih

theorem material_record (ms : List (String × Option Json)) :
    material (record ms) =
      record (((ms.filter (·.1 ≠ "lastReconcileTime")).filter (·.1 ≠ "lastQueryTime")).map fun m =>
        (m.1, m.2.map (timelessMember m.1))) := by
  unfold material volatileMembers
  rw [List.foldl_cons, List.foldl_cons, List.foldl_nil, erase_record, erase_record]
  generalize (ms.filter _).filter _ = kept
  unfold record
  dsimp only
  rw [List.map_filterMap, List.filterMap_map]
  congr 2
  funext m
  obtain ⟨key, value⟩ := m
  cases value with
  | none => rfl
  | some j =>
    simp only [Option.map_some, Function.comp_apply]
    split
    · next cs h =>
      cases h
      rfl
    · next h =>
      unfold timelessMember
      split
      · next cs => exact (h cs rfl).elim
      · rfl

namespace Condition

theorem erase_encode (c : Condition) :
    c.encode.erase "lastTransitionTime" = c.timeless.encode := by
  unfold encode
  rw [erase_record]
  simp [timeless, record_eq_flatMap]

theorem map_timelessMember (cs : List Condition) :
    (nonEmpty Condition.encode cs).map (timelessMember "conditions") =
      nonEmpty Condition.encode (cs.map timeless) := by
  cases cs with
  | nil => rfl
  | cons c rest =>
    show some (Json.arr (((c :: rest).map encode).map (Json.erase "lastTransitionTime"))) =
      some (Json.arr (((c :: rest).map timeless).map encode))
    rw [List.map_map, List.map_map]
    congr 2
    exact List.map_congr_left fun d _ => erase_encode d

end Condition

namespace ClusterStatus

def timeless (s : ClusterStatus) : ClusterStatus :=
  { s with lastReconcileTime := none, conditions := s.conditions.map Condition.timeless }

theorem material_encode (s : ClusterStatus) : material s.encode = s.timeless.encode := by
  unfold encode
  rw [material_record]
  simp [timelessMember_eq_id, Condition.map_timelessMember, timeless, record_eq_flatMap]

theorem shouldPublish_eq (published s : ClusterStatus) :
    shouldPublish encode (some published) s =
      decide (published.timeless.encode ≠ s.timeless.encode) := by
  unfold shouldPublish
  dsimp only
  rw [material_encode, material_encode]

end ClusterStatus

/-! ## The two conditions of a report -/

namespace Condition

variable (available degraded : ConditionStatus) (reason message : String)

/-- The conditions after both that a report sets. -/
def announced (stamp : String) (cs : List Condition) : List Condition :=
  (set .degraded degraded reason message stamp
    (set .available available reason message stamp cs).1).1

theorem announced_ne_nil (stamp : String) (cs : List Condition) :
    announced available degraded reason message stamp cs ≠ [] :=
  set_ne_nil

theorem map_timeless_announced (stamp stamp' : String) (cs : List Condition) :
    (announced available degraded reason message stamp cs).map timeless =
      (announced available degraded reason message stamp' cs).map timeless :=
  map_timeless_set_congr (map_timeless_set_congr rfl)

theorem map_timeless_announced_again (stamp stamp' : String) (cs : List Condition) :
    (announced available degraded reason message stamp'
        (announced available degraded reason message stamp cs)).map timeless =
      (announced available degraded reason message stamp cs).map timeless := by
  have havailable : IsSet .available available reason message
      (announced available degraded reason message stamp cs) := isSet_set.set (by decide)
  have hdegraded : IsSet .degraded degraded reason message
      (announced available degraded reason message stamp cs) := isSet_set
  generalize announced available degraded reason message stamp cs = ds at *
  unfold announced
  rw [map_timeless_set_of_isSet (hdegraded.set (by decide)), map_timeless_set_of_isSet havailable]

end Condition

/-! ## Reports -/

theorem laterGeneration_again (a b : Option Int64) :
    laterGeneration (laterGeneration a b) b = laterGeneration a b := by
  cases a with
  | none => cases b <;> simp [laterGeneration]
  | some a =>
    cases b with
    | none => rfl
    | some b => by_cases h : a < b <;> simp [laterGeneration, h]

namespace ClusterStatus

/-- A change of a status that sets conditions, depends on the time in times only, and changes
nothing else when it is made again. -/
structure IsReport (f : String → ClusterStatus → ClusterStatus) : Prop where
  conditions_ne_nil : ∀ stamp s, (f stamp s).conditions ≠ []
  timeless_eq : ∀ stamp stamp' s, (f stamp s).timeless = (f stamp' s).timeless
  timeless_again : ∀ stamp stamp' s, (f stamp' (f stamp s)).timeless = (f stamp s).timeless

theorem isReport_failed (reason message : String) :
    IsReport fun stamp s => s.failed reason message stamp where
  conditions_ne_nil stamp s := Condition.announced_ne_nil _ _ _ _ stamp s.conditions
  timeless_eq stamp stamp' s := by
    have h := Condition.map_timeless_announced .no .yes reason message stamp stamp' s.conditions
    exact congrArg (fun cs => { (s.failed reason message stamp).timeless with conditions := cs }) h
  timeless_again stamp stamp' s := by
    have h :=
      Condition.map_timeless_announced_again .no .yes reason message stamp stamp' s.conditions
    exact congrArg (fun cs => { (s.failed reason message stamp).timeless with conditions := cs }) h

theorem isReport_ready (generation : Option Int64) (present : List ResourceRef) :
    IsReport fun stamp s => s.ready generation present stamp where
  conditions_ne_nil stamp s := Condition.announced_ne_nil _ _ _ _ stamp s.conditions
  timeless_eq stamp stamp' s := by
    have h := Condition.map_timeless_announced .yes .no Reason.reconcileSuccess readyMessage
      stamp stamp' s.conditions
    exact congrArg
      (fun cs => { (s.ready generation present stamp).timeless with conditions := cs }) h
  timeless_again stamp stamp' s := by
    have h := Condition.map_timeless_announced_again .yes .no Reason.reconcileSuccess
      readyMessage stamp stamp' s.conditions
    have hgeneration := laterGeneration_again s.observedGeneration generation
    exact congrArg₂ (fun cs observed => { (s.ready generation present stamp).timeless with
      conditions := cs, observedGeneration := observed }) h hgeneration

theorem IsReport.not_shouldPublish_again {f : String → ClusterStatus → ClusterStatus}
    (hf : IsReport f) (stamp stamp' : String) (s : ClusterStatus) :
    shouldPublish encode (some (f stamp s)) (f stamp' (f stamp s)) = false := by
  rw [shouldPublish_eq, hf.timeless_again]
  simp

/-- Whether a report is published does not depend on its time. -/
theorem IsReport.shouldPublish_eq {f : String → ClusterStatus → ClusterStatus}
    (hf : IsReport f) (stamp stamp' : String) (published : Option ClusterStatus)
    (s : ClusterStatus) :
    shouldPublish encode published (f stamp s) = shouldPublish encode published (f stamp' s) := by
  cases published with
  | none => rfl
  | some old => rw [ClusterStatus.shouldPublish_eq, ClusterStatus.shouldPublish_eq,
      hf.timeless_eq stamp stamp']

end ClusterStatus

end ClusterOperator
