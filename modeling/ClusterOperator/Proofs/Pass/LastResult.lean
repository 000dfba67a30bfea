import ClusterOperator.Proofs.Pass.Effect
import ClusterOperator.Proofs.Pass.Generation
import ClusterOperator.Proofs.Status.Conditions

/-!
# The last result of a query

The result of a query, the number of its records and its time are written together, with the
condition that the query is available. A pass that fails writes none of them.

* `IsAnswer` : a text holds a number of records;
* `QueryStatus.IsConsistent` : result, number and time are there together, and exactly while the
  query is available; `isConsistent_started`, `isConsistent_failed`, `isConsistent_answered`, the
  statuses that passes write;
* `QueryStatus.Keeps` : a status keeps the result of the one before, and its conditions;
  `QueryReport.keeps`, what a pass that fails reports;
* `last_result_kept` : in every run of passes the stored status is consistent, and a pass that fails
  keeps the result.
-/

namespace ClusterOperator

/-! ## Conditions -/

namespace Condition

variable {type u : ConditionType} {status other : ConditionStatus} {reason message stamp : String}
  {cs : List Condition}

theorem holds_set_self :
    holds type other (set type status reason message stamp cs).1 = decide (status = other) := by
  obtain ⟨c, hc, hstatus, -⟩ : IsSet type status reason message
      (set type status reason message stamp cs).1 := isSet_set
  unfold holds
  rw [hc, Option.any_some, hstatus]

theorem holds_set_of_ne (hu : u ≠ type) :
    holds u other (set type status reason message stamp cs).1 = holds u other cs := by
  unfold holds
  rw [find?_set_of_ne hu]

theorem isSome_find?_set (h : (find? u cs).isSome) :
    (find? u (set type status reason message stamp cs).1).isSome := by
  by_cases hu : u = type
  · subst hu
    rw [find?_set_self]
    rfl
  · rwa [find?_set_of_ne hu]

end Condition

/-! ## Consistent statuses -/

/-- A text is the record that a lookup found, or the list of all records, with their number. -/
inductive IsAnswer : String → Nat → Prop where
  | found (record : ClusterRecord) : IsAnswer record.encode.text 1
  | listed (records : List ClusterRecord) :
    IsAnswer (Json.arr (records.map ClusterRecord.encode)).text records.length

namespace QueryStatus

/-- A query has never been answered, or the result, the number of its records and its time are
there, and the query is available. -/
inductive IsConsistent (s : QueryStatus) : Prop where
  | unanswered (hresult : s.result = none) (hcount : s.clusterCount = none)
      (htime : s.lastQueryTime = none)
      (havailable : Condition.holds .available .yes s.conditions = false)
  | answered {text : String} {count : Nat} (hanswer : IsAnswer text count)
      (hresult : s.result = some text) (hcount : s.clusterCount = some (Int64.ofNat count))
      (htime : s.lastQueryTime.isSome)
      (havailable : Condition.holds .available .yes s.conditions = true)

variable {s : QueryStatus}

theorem IsConsistent.empty : ({} : QueryStatus).IsConsistent :=
  .unanswered rfl rfl rfl rfl

theorem isConsistent_started (h : s.IsConsistent) (hempty : s.conditions = []) (stamp : String) :
    (s.started stamp).IsConsistent := by
  cases h with
  | unanswered hresult hcount htime =>
    exact .unanswered hresult hcount htime Condition.holds_set_self
  | answered _ _ _ _ havailable =>
    rw [hempty] at havailable
    cases havailable

theorem isConsistent_failed (h : s.IsConsistent) (reason message stamp : String) :
    (s.failed reason message stamp).IsConsistent := by
  have hkept : Condition.holds .available .yes (s.failed reason message stamp).conditions =
      Condition.holds .available .yes s.conditions := Condition.holds_set_of_ne (by decide)
  cases h with
  | unanswered hresult hcount htime havailable =>
    exact .unanswered hresult hcount htime (hkept.trans havailable)
  | answered hanswer hresult hcount htime havailable =>
    exact .answered hanswer hresult hcount htime (hkept.trans havailable)

theorem isConsistent_answered {text : String} {count : Nat} (h : IsAnswer text count)
    (s : QueryStatus) (generation : Option Int64) (stamp : String) :
    (s.answered generation text count stamp).IsConsistent := by
  refine .answered h rfl rfl rfl ?_
  have hkept : Condition.holds .available .yes
      (s.answered generation text count stamp).conditions = _ :=
    Condition.holds_set_of_ne (by decide)
  exact hkept.trans Condition.holds_set_self

/-! ## Results that are kept -/

/-- A status keeps the result of the one before and what it tells of it, the condition that the query
is available as it was, and all other conditions, which may be set. -/
structure Keeps (before after : QueryStatus) : Prop where
  result : after.result = before.result
  clusterCount : after.clusterCount = before.clusterCount
  lastQueryTime : after.lastQueryTime = before.lastQueryTime
  observedGeneration : after.observedGeneration = before.observedGeneration
  available : ∀ c ∈ Condition.find? .available before.conditions,
    Condition.find? .available after.conditions = some c
  conditions : ∀ type, (Condition.find? type before.conditions).isSome →
    (Condition.find? type after.conditions).isSome

theorem Keeps.refl (s : QueryStatus) : s.Keeps s :=
  ⟨rfl, rfl, rfl, rfl, fun _ hc => hc, fun _ h => h⟩

theorem Keeps.trans {s t u : QueryStatus} (h : s.Keeps t) (h' : t.Keeps u) : s.Keeps u where
  result := h'.result.trans h.result
  clusterCount := h'.clusterCount.trans h.clusterCount
  lastQueryTime := h'.lastQueryTime.trans h.lastQueryTime
  observedGeneration := h'.observedGeneration.trans h.observedGeneration
  available c hc := h'.available c (h.available c hc)
  conditions type hc := h'.conditions type (h.conditions type hc)

theorem keeps_started (hempty : s.conditions = []) (stamp : String) : s.Keeps (s.started stamp) where
  result := rfl
  clusterCount := rfl
  lastQueryTime := rfl
  observedGeneration := rfl
  available c hc := by
    rw [hempty] at hc
    cases hc
  conditions type hc := Condition.isSome_find?_set hc

theorem keeps_failed (s : QueryStatus) (reason message stamp : String) :
    s.Keeps (s.failed reason message stamp) where
  result := rfl
  clusterCount := rfl
  lastQueryTime := rfl
  observedGeneration := rfl
  available c hc := (Condition.find?_set_of_ne (by decide)).trans hc
  conditions type hc := Condition.isSome_find?_set hc

end QueryStatus

/-! ## Passes -/

section

open Dialogue

theorem isAnswer_of_lookUp {plan : Plan} {endpoint : String} {calls : List LookupExchange}
    {answer : Answer} (h : (plan.lookUp endpoint).Reaches calls (.finish (.ok answer))) :
    IsAnswer answer.json answer.count := by
  obtain ⟨connected, t₁, t₂, -, -, h⟩ := h.of_bind_finish
  cases connected with
  | error e => cases h.of_finish.2
  | ok _ =>
    replace h : (plan.execute endpoint).Reaches t₂ (.finish (.ok answer)) := h
    cases plan with
    | single id =>
      obtain ⟨reply, t₃, t₄, -, -, h⟩ := h.of_bind_finish
      obtain e | _ | record := reply
      · cases h.of_finish.2
      · cases h.of_finish.2
      · cases h.of_finish.2
        exact .found record
    | all =>
      obtain ⟨reply, t₃, t₄, -, -, h⟩ := h.of_bind_finish
      cases reply with
      | error e => cases h.of_finish.2
      | ok records =>
        cases h.of_finish.2
        exact .listed records

variable {settings : RefreshSettings} {calls : List LookupExchange} {q : Query} {s : QueryStatus}

theorem Query.conditions_statusOrEmpty (q : Query) : q.statusOrEmpty.conditions = q.conditions := by
  unfold statusOrEmpty Entity.conditions
  cases q.status <;> rfl

theorem Query.isConsistent_statusOrEmpty (h : ∀ s ∈ q.status, s.IsConsistent) :
    q.statusOrEmpty.IsConsistent := by
  unfold statusOrEmpty
  cases hs : q.status with
  | none => exact .empty
  | some s => exact h s hs

theorem QueryReport.isConsistent {result : Except PassError Requeue}
    (h : QueryReport settings calls q s result) (hq : ∀ s ∈ q.status, s.IsConsistent) :
    s.IsConsistent := by
  have hempty := Query.isConsistent_statusOrEmpty hq
  cases h with
  | refused stamp | failed stamp => exact QueryStatus.isConsistent_failed hempty _ _ stamp
  | answered stamp _ hcalls =>
    exact QueryStatus.isConsistent_answered (isAnswer_of_lookUp hcalls) _ _ stamp

theorem QueryReport.keeps {error : PassError} (h : QueryReport settings calls q s (.error error)) :
    q.statusOrEmpty.Keeps s := by
  cases h with
  | refused stamp | failed stamp => exact QueryStatus.keeps_failed _ _ _ stamp

theorem Starts.keeps {key : Key} {calls : List (EntityCall QuerySpec QueryStatus)} {copy : Query}
    {status : Option QueryStatus} (h : Starts key Query.seed calls copy)
    (htold : Told status calls) : (status.getD {}).Keeps copy.statusOrEmpty := by
  obtain ⟨-, hcopy | ⟨found, stamp, hfound, hempty, hcopy⟩⟩ := h.status_cases htold
  · unfold Query.statusOrEmpty
    rw [hcopy]
    exact .refl _
  · unfold Query.statusOrEmpty
    rw [hcopy, ← hfound]
    exact QueryStatus.keeps_started ((Query.conditions_statusOrEmpty found).trans hempty) stamp

/-- The status that is stored when a pass has failed keeps the result of the one before. -/
theorem keeps_of_account {key : Key} {calls : List (EntityCall QuerySpec QueryStatus)}
    {lookups : List LookupExchange} {error : PassError} {status : Option QueryStatus}
    (h : Account key Query.seed (QueryReport settings lookups) (fun _ _ => False) calls
      (some (.error error)))
    (htold : Told status calls) : (status.getD {}).Keeps ((statusAfter status calls).getD {}) := by
  cases h with
  | unfetched | unseeded => exact .refl _
  | @reported calls copy _ _ _ hstarts hreport =>
    rw [statusAfter_concat]
    exact (hstarts.keeps (told_concat.1 htold).1).trans hreport.keeps
  | @unreported calls copy _ _ error hstarts hreport =>
    have htold := (told_concat.1 htold).1
    rw [statusAfter_concat, EntityCall.after_refused, (hstarts.status_cases htold).1]
    exact hstarts.keeps htold
  | kept _ hkeep => exact hkeep.elim

end

open PassWorld in
/-- However the spec of a query is edited, whatever the inventory service replies and whatever fails,
the stored status has a result, the number of its records and its time exactly while it tells that
the query is available. When no failed write has an effect, a pass that fails leaves them as they
were stored before it, with the generation that was observed and the condition that the query is
available, and removes no condition. -/
theorem last_result_kept (settings : RefreshSettings) (key : Key) {first : Query}
    (hfirst : first.status = none) :
    (∀ w, Run QueryExchange.call? (reconcileQuery settings key) ⟨some first, none⟩ w →
      ∀ q ∈ w.stored, ∀ s ∈ q.status, s.IsConsistent) ∧
    ∀ (stored stored' : Option Query) t error,
      During QueryExchange.call? (reconcileQuery settings key)
        ⟨stored, some ([], reconcileQuery settings key)⟩
        ⟨stored', some (t, .finish (.error error))⟩ →
      ∀ q' ∈ stored', ∃ q ∈ stored, q.statusOrEmpty.Keeps q'.statusOrEmpty := by
  refine ⟨fun w h => ?_, fun stored stored' t error h q' hq' => ?_⟩
  · refine (IsSound.idle (some first)).status_invariant
      (P := fun o => ∀ s ∈ o, s.IsConsistent) (reconcileQuery_isAccounted settings key)
      (fun {found} stamp hempty hfound s hs => ?_) (fun hreport hcopy s hs => ?_) h fun q hq => ?_
    · cases hs
      exact QueryStatus.isConsistent_started (Query.isConsistent_statusOrEmpty hfound)
        ((Query.conditions_statusOrEmpty found).trans hempty) stamp
    · cases hs
      exact hreport.isConsistent hcopy
    · cases hq
      simp [hfirst]
  · obtain ⟨q, hq⟩ := h.stored_before hq'
    obtain rfl : stored = some q := hq
    obtain ⟨t, rest, hrunning, hcourse, htold, hstored⟩ := h.status
    cases hrunning
    refine ⟨q, rfl, ?_⟩
    have hkeeps := keeps_of_account (reconcileQuery_account hcourse) htold
    rw [← hstored q' hq'] at hkeeps
    exact hkeeps

def answeredQuery : Query :=
  { listingQuery with status := some {
      lastQueryTime := some "t"
      result := some "[]"
      clusterCount := some 0
      conditions := [⟨.available, .yes, some Reason.querySuccess, none, some "t"⟩] } }

open PassWorld in
/-- A query for all clusters is answered, and one that has been answered gets no client. -/
theorem last_result_kept_without_client :
    (∃ (q : Query) (t : List QueryExchange) (rest : QueryDialogue (Except PassError Requeue)),
      Run QueryExchange.call? (reconcileQuery {} listingQuery.key) ⟨some listingQuery, none⟩
        ⟨some q, some (t, rest)⟩ ∧
      q.statusOrEmpty.result = some "[]" ∧ q.statusOrEmpty.clusterCount = some 0 ∧
      ∀ s ∈ q.status, s.IsConsistent) ∧
    ∃ (q : Query) (t : List QueryExchange) (error : PassError),
      During QueryExchange.call? (reconcileQuery {} listingQuery.key)
        ⟨some answeredQuery, some ([], reconcileQuery {} listingQuery.key)⟩
        ⟨some q, some (t, .finish (.error error))⟩ ∧
      answeredQuery.statusOrEmpty.Keeps q.statusOrEmpty := by
  have hfirst : listingQuery.status = none := rfl
  constructor
  · have h₀ : Run QueryExchange.call? (reconcileQuery {} listingQuery.key)
        ⟨some listingQuery, none⟩ _ := .single (.start _)
    have h₁ := h₀.tail (.exchange (.ok (some listingQuery)) (by exact .found _ _))
    have h₂ := h₁.tail (.exchange "t" (by exact rfl))
    have h₃ := h₂.tail (.exchange (.ok _) (by exact .stored _ listingQuery))
    have h₄ := h₃.tail (.exchange (.ok ()) (by exact rfl))
    have h₅ := h₄.tail (.exchange (.ok []) (by exact rfl))
    have h₆ := h₅.tail (.exchange "t" (by exact rfl))
    have h₇ := h₆.tail (.exchange (.ok _) (by exact .stored _ _))
    obtain ⟨hconsistent, -⟩ := last_result_kept {} listingQuery.key hfirst
    exact ⟨_, _, _, h₇, by decide +kernel, by decide +kernel, hconsistent _ h₇ _ rfl⟩
  · have d₀ : During QueryExchange.call? (reconcileQuery {} listingQuery.key)
        ⟨some answeredQuery, some ([], reconcileQuery {} listingQuery.key)⟩ _ := .refl
    have d₁ := d₀.exchange (.ok (some answeredQuery)) (by exact .found _ _) fun _ _ _ => rfl
    have d₂ := d₁.exchange_of_none (.error (.transport "refused")) rfl
    have d₃ := d₂.exchange_of_none "t" rfl
    have d₄ := d₃.exchange (.ok _) (by exact .stored _ answeredQuery) fun _ _ h => by cases h
    obtain ⟨-, hkeeps⟩ := last_result_kept {} listingQuery.key hfirst
    obtain ⟨q, hq, hkept⟩ := hkeeps _ _ _ _ d₄ _ rfl
    cases hq
    exact ⟨_, _, _, d₄, hkept⟩

end ClusterOperator
