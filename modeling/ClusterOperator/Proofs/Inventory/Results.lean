import ClusterOperator.Proofs.Json.Reading
import ClusterOperator.Proofs.Pass.Generation
import ClusterOperator.Proofs.Pass.Outcome
import ClusterOperator.Proofs.Time.Text

/-!
# Results are read back

The text of a result is read as the records that the inventory service replied with.

* `ClusterRecord.decode?_encode`, `ClusterRecord.isReadable_encode` : one record;
* `Answer.records?`, `Answer.record?` : what the text of an answer is read as;
* `Answer.Holds` : an answer tells what the service replied to a plan; `holds_of_execute`, every
  answer does;
* `results_read_back` : the answers to all plans, and the results that passes publish.
-/

namespace ClusterOperator

open Dialogue

/-! ## Records -/

namespace ClusterRecord

open Json

def members (r : ClusterRecord) : List (String × Option Json) :=
  [("id", some (.str r.id)), ("name", some (.str r.name)),
    ("replicas", some (ofInt32 r.replicas)), ("version", some (.str r.version)),
    ("state", some (.str r.state)), ("readyReplicas", some (ofInt32 r.readyReplicas)),
    ("createdAt", some (.str r.createdAt.text)),
    ("lastUpdateTime", some (.str r.lastUpdateTime.text))]

theorem encode_eq (r : ClusterRecord) : r.encode = record r.members := rfl

theorem nullable_str {α : Type} (read : Json → Option α) (default : α) (s : String) :
    (Slot.ofOption (some (.str s))).nullable read default = read (.str s) := rfl

theorem nullable_int32 (n : Int32) :
    (Slot.ofOption (some (ofInt32 n))).nullable readInt32? 0 = some n :=
  readInt32?_ofInt32 n

theorem readInstant?_text (t : Instant) : Metadata.readInstant? (.str t.text) = some t := by
  unfold Metadata.readInstant?
  rw [readString?, Option.bind_some, Instant.read?_text]

theorem decode?_encode (r : ClusterRecord) : decode? r.encode = some r := by
  have hnodup : (r.members.map Prod.fst).Nodup := by simp [members]
  have hslots := slots?_record hnodup
  unfold decode?
  rw [encode_eq]
  simp only [members, List.map_cons, List.map_nil] at hslots ⊢
  rw [hslots]
  simp only [nullable_str, nullable_int32, readInstant?_text, readString?]
  rfl

theorem isReadable_encode {depth : Nat} (hdepth : depth < maxDepth) (r : ClusterRecord) :
    IsReadable depth r.encode := by
  rw [encode_eq]
  apply isReadable_record hdepth
  simp only [members, List.forall_mem_cons, List.not_mem_nil, false_imp_iff, implies_true, and_true]
  exact ⟨isReadable_some (.str _), isReadable_some (.str _), isReadable_some (isReadable_int32 _),
    isReadable_some (.str _), isReadable_some (.str _), isReadable_some (isReadable_int32 _),
    isReadable_some (.str _), isReadable_some (.str _)⟩

end ClusterRecord

/-! ## Answers -/

namespace Answer

def records? (a : Answer) : Option (List ClusterRecord) :=
  (Json.parse? a.json.toList).bind (Json.readList? ClusterRecord.decode?)

def record? (a : Answer) : Option ClusterRecord :=
  (Json.parse? a.json.toList).bind ClusterRecord.decode?

theorem records?_text (rs : List ClusterRecord) (count : Nat) :
    records? ⟨(Json.arr (rs.map ClusterRecord.encode)).text, count⟩ = some rs := by
  have hreadable : Json.IsReadable 0 (.arr (rs.map ClusterRecord.encode)) :=
    Json.isReadable_list (by decide) (ClusterRecord.isReadable_encode (by decide)) rs
  unfold records?
  rw [hreadable.parse?_text, Option.bind_some]
  exact Json.readAll?_map ClusterRecord.decode?_encode rs

theorem record?_text (r : ClusterRecord) (count : Nat) :
    record? ⟨r.encode.text, count⟩ = some r := by
  have hreadable : Json.IsReadable 0 r.encode := ClusterRecord.isReadable_encode (by decide) r
  unfold record?
  rw [hreadable.parse?_text, Option.bind_some, ClusterRecord.decode?_encode]

/-- An answer tells what was replied to a plan: the records of a listing in their order, or the
record that was looked for, and how many they are. -/
inductive Holds (a : Answer) (endpoint : String) : Plan → LookupExchange → Prop where
  | listed {rs : List ClusterRecord} (hread : a.records? = some rs) (hcount : a.count = rs.length) :
    Holds a endpoint .all ⟨.list endpoint, .ok rs⟩
  | found {id : String} {r : ClusterRecord} (hread : a.record? = some r) (hcount : a.count = 1) :
    Holds a endpoint (.single id) ⟨.find endpoint id, .ok (some r)⟩

end Answer

section

variable {endpoint : String} {plan : Plan} {calls : List LookupExchange} {a : Answer}

theorem holds_of_execute (h : (plan.execute endpoint).Reaches calls (.finish (.ok a))) :
    ∃ x, calls = [x] ∧ a.Holds endpoint plan x := by
  cases plan with
  | all =>
    rcases h.of_request_bind with ⟨-, hnone⟩ | ⟨reply, t, rfl, hlisted⟩
    · cases hnone
    cases reply with
    | error e => cases hlisted.of_finish.2
    | ok rs =>
      obtain ⟨rfl, hanswer⟩ := hlisted.of_finish
      cases hanswer
      exact ⟨_, rfl, .listed (Answer.records?_text rs _) rfl⟩
  | single id =>
    rcases h.of_request_bind with ⟨-, hnone⟩ | ⟨reply, t, rfl, hfound⟩
    · cases hnone
    obtain e | _ | r := reply
    · cases hfound.of_finish.2
    · cases hfound.of_finish.2
    · obtain ⟨rfl, hanswer⟩ := hfound.of_finish
      cases hanswer
      exact ⟨_, rfl, .found (Answer.record?_text r _) rfl⟩

theorem holds_of_lookUp (h : (plan.lookUp endpoint).Reaches calls (.finish (.ok a))) :
    ∃ x ∈ calls, a.Holds endpoint plan x := by
  rcases h.of_request_bind with ⟨-, hnone⟩ | ⟨connected, t, rfl, hexecuted⟩
  · cases hnone
  cases connected with
  | error e => cases hexecuted.of_finish.2
  | ok _ =>
    obtain ⟨x, rfl, hx⟩ := holds_of_execute hexecuted
    exact ⟨x, by simp, hx⟩

end

theorem getLast?_publishes_concat {σ τ : Type} (calls : List (EntityCall σ τ)) (e : Entity σ τ)
    (reply : Except StoreError (Entity σ τ)) :
    (publishes (calls ++ [.published e reply])).getLast? = some e := by
  rw [publishes_concat, List.getLast?_concat]

/-- What is published last has a result with its number of records, which tell what the inventory
service replied. -/
def PublishesAnswer (calls : List (EntityCall QuerySpec QueryStatus))
    (lookups : List LookupExchange) : Prop :=
  ∃ (q : Query) (s : QueryStatus) (a : Answer), (publishes calls).getLast? = some q ∧
    q.status = some s ∧ s.result = some a.json ∧ s.clusterCount = some (Int64.ofNat a.count) ∧
    ∃ x ∈ lookups, a.Holds q.spec.apiEndpoint q.spec.plan x

theorem Account.publishesAnswer {settings : RefreshSettings} {key : Key} {interval : Duration}
    {calls : List (EntityCall QuerySpec QueryStatus)} {lookups : List LookupExchange}
    (h : Account key Query.seed (QueryReport settings lookups) (fun _ _ => False) calls
      (some (.ok (.after interval)))) : PublishesAnswer calls lookups := by
  cases h with
  | kept _ hkeep => exact hkeep.elim
  | @reported start copy stored s _ hstarts hreport =>
    cases hreport with
    | @answered a stamp _ hcalls =>
      obtain ⟨x, hx, hholds⟩ := holds_of_lookUp hcalls
      exact ⟨_, _, a, getLast?_publishes_concat start _ _, rfl, rfl, rfl, x, hx, hholds⟩

/-- A record with quotes and control characters, a time before the year zero, and a leap second. -/
def oddRecord : ClusterRecord where
  id := "\"\\\n\x01"
  name := "é漢"
  replicas := -2147483648
  createdAt := { secs := firstSecond, nanos := 1 }
  lastUpdateTime := { secs := 1483228799, nanos := 1500000000 }

/-- Whoever stores a query for all clusters, and knows the odd record only. -/
def oddReplies : (q : QueryRequest) → Unit → q.Reply × Unit
  | .entity .clock, _ => ("t", ())
  | .entity (.fetch _), _ => (.ok (some listingQuery), ())
  | .entity (.publish q), _ => (.ok q, ())
  | .lookup (.connect _), _ => (.ok (), ())
  | .lookup (.find _ _), _ => (.ok (some oddRecord), ())
  | .lookup (.list _), _ => (.ok [oddRecord], ())

end ClusterOperator
