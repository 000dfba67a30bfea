import ClusterOperator.Proofs.Status.Decoding
import ClusterOperator.Proofs.Status.Reports

/-!
# Statuses and their encodings

Two statuses with one encoding are the same, and what is compared of a status is the encoding of the
status without its times. So a status is not published exactly if it differs from the published one
in times only.

* `injective_of_read` : what is read as it was written can be told from its encoding;
  `ClusterStatus.encode_injective`, `QueryStatus.encode_injective`, so can a status;
* `QueryStatus.timeless`, `QueryStatus.material_encode` : what is compared of a query's status;
* `shouldPublish_eq_false_iff` : what is not published, once what is compared is the encoding of
  another value;
* `ClusterStatus.timeless_eq_of_not_shouldPublish` : what is not published differs in times only;
* `Condition.content` : what a condition says, whenever it began to;
* `ClusterStatus.AgreesWith`, `QueryStatus.AgreesWith` : two statuses have the same members but for
  times; `unpublished_iff_agrees`, these are the ones that are not published;
* `Condition.IsSet.of_timeless` : whether a condition is set does not depend on times.
-/

namespace ClusterOperator

open Json

/-! ## What is compared -/

theorem injective_of_read {τ : Type} {encode : τ → Json} {decode? : Json → Option τ}
    (hread : ∀ s, decode? (encode s) = some s) : Function.Injective encode := by
  intro s u h
  have hdecoded := congrArg decode? h
  rw [hread, hread] at hdecoded
  exact Option.some.inj hdecoded

theorem ClusterStatus.encode_injective : Function.Injective encode :=
  injective_of_read decode?_encode

namespace QueryStatus

theorem encode_injective : Function.Injective encode :=
  injective_of_read decode?_encode

def timeless (s : QueryStatus) : QueryStatus :=
  { s with lastQueryTime := none, conditions := s.conditions.map Condition.timeless }

/-- What is compared of a status is all but its times. -/
theorem material_encode (s : QueryStatus) : material s.encode = s.timeless.encode := by
  unfold encode
  rw [material_record]
  simp [timelessMember_eq_id, Condition.map_timelessMember, timeless, record_eq_flatMap]

end QueryStatus

/-- If what is compared of a value is the encoding of another one, and values can be told from their
encodings, the values that are not published are those with the same other one. -/
theorem shouldPublish_eq_false_iff {τ : Type} {encode : τ → Json} {timeless : τ → τ}
    (hmaterial : ∀ s, material (encode s) = encode (timeless s))
    (hinjective : Function.Injective encode) {old s : τ} :
    shouldPublish encode (some old) s = false ↔ timeless old = timeless s := by
  unfold shouldPublish
  dsimp only
  rw [hmaterial, hmaterial, decide_eq_false_iff_not, not_not, hinjective.eq_iff]

/-- What is not published differs from the published status in times only. -/
theorem ClusterStatus.timeless_eq_of_not_shouldPublish {old s : ClusterStatus}
    (h : shouldPublish encode (some old) s = false) : old.timeless = s.timeless :=
  (shouldPublish_eq_false_iff material_encode encode_injective).1 h

/-! ## Members that agree -/

namespace Condition

/-- What a condition says, whenever it began to. -/
def content (c : Condition) : ConditionType × ConditionStatus × Option String × Option String :=
  (c.type, c.status, c.reason, c.message)

theorem timeless_eq_iff {c d : Condition} : c.timeless = d.timeless ↔ c.content = d.content := by
  simp [timeless, content]

theorem map_timeless_eq_iff {cs ds : List Condition} :
    cs.map timeless = ds.map timeless ↔ cs.map content = ds.map content := by
  induction cs generalizing ds with
  | nil => cases ds <;> simp
  | cons c rest ih =>
    cases ds with
    | nil => simp
    | cons d others => simp only [List.map_cons, List.cons.injEq, timeless_eq_iff, ih]

end Condition

structure ClusterStatus.AgreesWith (s u : ClusterStatus) : Prop where
  phase : s.phase = u.phase
  message : s.message = u.message
  observedGeneration : s.observedGeneration = u.observedGeneration
  conditions : s.conditions.map Condition.content = u.conditions.map Condition.content
  resourceRefs : s.resourceRefs = u.resourceRefs

structure QueryStatus.AgreesWith (s u : QueryStatus) : Prop where
  result : s.result = u.result
  clusterCount : s.clusterCount = u.clusterCount
  conditions : s.conditions.map Condition.content = u.conditions.map Condition.content
  observedGeneration : s.observedGeneration = u.observedGeneration

theorem ClusterStatus.timeless_eq_iff {s u : ClusterStatus} :
    s.timeless = u.timeless ↔ s.AgreesWith u := by
  rw [timeless, timeless, ClusterStatus.mk.injEq, Condition.map_timeless_eq_iff]
  constructor
  · rintro ⟨hphase, hmessage, hgeneration, -, hconditions, hrefs⟩
    exact ⟨hphase, hmessage, hgeneration, hconditions, hrefs⟩
  · rintro ⟨hphase, hmessage, hgeneration, hconditions, hrefs⟩
    exact ⟨hphase, hmessage, hgeneration, rfl, hconditions, hrefs⟩

theorem QueryStatus.timeless_eq_iff {s u : QueryStatus} :
    s.timeless = u.timeless ↔ s.AgreesWith u := by
  rw [timeless, timeless, QueryStatus.mk.injEq, Condition.map_timeless_eq_iff]
  constructor
  · rintro ⟨-, hresult, hcount, hconditions, hgeneration⟩
    exact ⟨hresult, hcount, hconditions, hgeneration⟩
  · rintro ⟨hresult, hcount, hconditions, hgeneration⟩
    exact ⟨rfl, hresult, hcount, hconditions, hgeneration⟩

/-- A status is not published exactly if it is the published one once all times are removed, that is
if it has the same members but for times: nothing else is hidden, and no time is written for its own
sake. -/
theorem unpublished_iff_agrees :
    (∀ old s : ClusterStatus,
      (shouldPublish ClusterStatus.encode (some old) s = false ↔ old.timeless = s.timeless) ∧
      (old.timeless = s.timeless ↔ old.AgreesWith s)) ∧
    ∀ old s : QueryStatus,
      (shouldPublish QueryStatus.encode (some old) s = false ↔ old.timeless = s.timeless) ∧
      (old.timeless = s.timeless ↔ old.AgreesWith s) := by
  refine ⟨fun old s => ⟨?_, ClusterStatus.timeless_eq_iff⟩,
    fun old s => ⟨?_, QueryStatus.timeless_eq_iff⟩⟩
  · exact shouldPublish_eq_false_iff ClusterStatus.material_encode ClusterStatus.encode_injective
  · exact shouldPublish_eq_false_iff QueryStatus.material_encode QueryStatus.encode_injective

/-- A message that is missing is not an empty one. -/
example : shouldPublish ClusterStatus.encode (some {}) { message := some "" } = true := by
  decide

/-! ## Conditions that are set -/

theorem Condition.IsSet.of_timeless {type : ConditionType} {status : ConditionStatus}
    {reason message : String} {cs ds : List Condition} (h : IsSet type status reason message cs)
    (hcs : cs.map timeless = ds.map timeless) : IsSet type status reason message ds := by
  obtain ⟨c, hc, hstatus, hreason, hmessage⟩ := h
  have hfind := find?_map_timeless type cs
  rw [hcs, find?_map_timeless, hc, Option.map_some, Option.map_eq_some_iff] at hfind
  obtain ⟨d, hd, hdc⟩ := hfind
  refine ⟨d, hd, ?_, ?_, ?_⟩
  · exact (congrArg Condition.status hdc).trans hstatus
  · exact (congrArg Condition.reason hdc).trans hreason
  · exact (congrArg Condition.message hdc).trans hmessage

end ClusterOperator
