import ClusterOperator.Dialogue
import ClusterOperator.Entity.Query
import ClusterOperator.Inventory.Error
import ClusterOperator.Inventory.Record

/-!
# Lookups at the inventory service

* `Plan` : what a query asks for;
* `LookupRequest` : the calls to the inventory service;
* `Answer` : the text of a result and the number of records in it;
* `Plan.execute` : the answer to a plan.
-/

namespace ClusterOperator

inductive Plan where
  | single (id : String)
  | all
  deriving DecidableEq, Repr

/-- The plan of a query; a missing identity counts as empty. -/
def QuerySpec.plan (s : QuerySpec) : Plan :=
  match s.query with
  | .cluster => .single (s.clusterID.getD "")
  | .clusters => .all

/-- A call to the inventory service at an endpoint. -/
inductive LookupRequest where
  /-- A client is made. -/
  | connect (endpoint : String)
  | find (endpoint id : String)
  | list (endpoint : String)
  deriving DecidableEq, Repr

abbrev LookupRequest.Reply : LookupRequest → Type
  | .connect _ => Except QueryError Unit
  | .find _ _ => Except QueryError (Option ClusterRecord)
  | .list _ => Except QueryError (List ClusterRecord)

abbrev LookupDialogue := Dialogue LookupRequest LookupRequest.Reply

namespace LookupDialogue

def connect (endpoint : String) : LookupDialogue (Except QueryError Unit) :=
  Dialogue.request (LookupRequest.connect endpoint)

def find (endpoint id : String) : LookupDialogue (Except QueryError (Option ClusterRecord)) :=
  Dialogue.request (LookupRequest.find endpoint id)

def list (endpoint : String) : LookupDialogue (Except QueryError (List ClusterRecord)) :=
  Dialogue.request (LookupRequest.list endpoint)

end LookupDialogue

/-- The text of a result and the number of records in it. -/
structure Answer where
  json : String
  count : Nat
  deriving DecidableEq, Repr

/-- The answer to a plan. A lookup of one cluster that finds none fails. -/
def Plan.execute (endpoint : String) : Plan → LookupDialogue (Except QueryError Answer)
  | .single id => do
    match ← LookupDialogue.find endpoint id with
    | .error e => return .error e
    | .ok none => return .error (.notFound id)
    | .ok (some r) => return .ok ⟨r.encode.text, 1⟩
  | .all => do
    match ← LookupDialogue.list endpoint with
    | .error e => return .error e
    | .ok rs => return .ok ⟨(Json.arr (rs.map ClusterRecord.encode)).text, rs.length⟩

/-- The answer to a plan from a new client. -/
def Plan.lookUp (endpoint : String) (p : Plan) : LookupDialogue (Except QueryError Answer) := do
  match ← LookupDialogue.connect endpoint with
  | .error e => return .error e
  | .ok () => p.execute endpoint

end ClusterOperator
