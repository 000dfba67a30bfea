import ClusterOperator.Entity.StatusChange
import ClusterOperator.Inventory.Lookup
import ClusterOperator.Pass.Error
import ClusterOperator.Settings
import ClusterOperator.Store.Request

/-!
# The pass over a query

* `QueryRequest` : what a pass asks of the store, the clock and the inventory service;
* `QuerySpec.interval` : the interval until the next refresh;
* `reconcileQuery` : one pass.

A pass that got an answer, or failed to, is repeated after the interval.
-/

namespace ClusterOperator

inductive QueryRequest where
  | entity (q : EntityRequest Query)
  | lookup (q : LookupRequest)

abbrev QueryRequest.Reply : QueryRequest → Type
  | .entity q => q.Reply
  | .lookup q => q.Reply

abbrev QueryDialogue := Dialogue QueryRequest QueryRequest.Reply

namespace QueryDialogue

def clock : QueryDialogue String :=
  Dialogue.request (QueryRequest.entity .clock)

def fetch (key : Key) : QueryDialogue (Except StoreError (Option Query)) :=
  Dialogue.request (QueryRequest.entity (.fetch key))

def publish (q : Query) : QueryDialogue (Except StoreError Query) :=
  Dialogue.request (QueryRequest.entity (.publish q))

/-- A dialogue with the inventory service as part of a pass. -/
def ofLookup {α : Type} (d : LookupDialogue α) : QueryDialogue α :=
  d.interpret fun q => Dialogue.request (QueryRequest.lookup q)

end QueryDialogue

open QueryDialogue

/-- The interval until the next refresh: the one of the spec when it is positive, but no shorter
than the shortest, and the default otherwise. -/
def QuerySpec.interval (s : QuerySpec) (settings : RefreshSettings) : Duration :=
  match s.refreshInterval with
  | some secs =>
    if 0 < secs then max (Duration.ofSecs (UInt64.ofNat secs.toInt.toNat)) settings.shortest
    else settings.default
  | none => settings.default

def Query.withStatus (q : Query) (status : QueryStatus) : Query :=
  { q with status := some status }

def Query.statusOrEmpty (q : Query) : QueryStatus :=
  q.status.getD {}

/-- The query with its first condition published, unless it has conditions; the stored query is
worked on from then on. -/
def startQuery (q : Query) : QueryDialogue (Except StoreError Query) :=
  if q.conditions.isEmpty then do
    let stamp ← clock
    publish (q.withStatus (q.statusOrEmpty.started stamp))
  else return .ok q

/-- A status published, and then the outcome of the pass. -/
def reportQuery (q : Query) (status : QueryStatus) (outcome : Except PassError Requeue) :
    QueryDialogue (Except PassError Requeue) := do
  match ← publish (q.withStatus status) with
  | .error e => return .error (.statusWrite e)
  | .ok _ => return outcome

/-- A started query validated and looked up, and the outcome reported. -/
def workOnQuery (settings : RefreshSettings) (q : Query) :
    QueryDialogue (Except PassError Requeue) := do
  match q.spec.validate with
  | .error reason =>
    let stamp ← clock
    reportQuery q (q.statusOrEmpty.failed Reason.invalidConfig reason.message stamp)
      (.error (.validation reason))
  | .ok () =>
    let interval := q.spec.interval settings
    let answer ← ofLookup (q.spec.plan.lookUp q.spec.apiEndpoint)
    let stamp ← clock
    match answer with
    | .ok a =>
      reportQuery q (q.statusOrEmpty.answered q.metadata.generation a.json a.count stamp)
        (.ok (.after interval))
    | .error e =>
      reportQuery q
        (q.statusOrEmpty.failed Reason.queryFailed ("Query failed: " ++ e.message) stamp)
        (.error (.query e interval))

/-- One pass over a query. A query that is gone, or being deleted, is left alone. -/
def reconcileQuery (settings : RefreshSettings) (key : Key) :
    QueryDialogue (Except PassError Requeue) := do
  match ← fetch key with
  | .error e => return .error (.fetch key e)
  | .ok none => return .ok .awaitChange
  | .ok (some q) =>
    if q.metadata.deletionTimestamp.isSome then return .ok .awaitChange
    else
      match ← startQuery q with
      | .error e => return .error (.statusWrite e)
      | .ok q => workOnQuery settings q

end ClusterOperator
