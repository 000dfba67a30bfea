import ClusterOperator.Inventory.Lookup
import ClusterOperator.Json.Reader
import ClusterOperator.Text.Utf8

/-!
# Lookups over HTTP

* `findBody`, `listBody` : the queries that ask for one cluster and for all of them;
* `InventoryReply` : what a server answers, or that it does not;
* `InventoryReply.received` : what arrives of an answer;
* `InventoryReply.data` : the data of a successful answer;
* `InventoryReply.cluster`, `InventoryReply.clusters` : the records in it.

An answer counts as successful only with the status 200. Errors that the service reports win over
the data beside them.
-/

namespace ClusterOperator.Inventory

open Json

/-- The members of a record that queries ask for. -/
def recordFields : String :=
  "id name replicas version state readyReplicas createdAt lastUpdateTime"

def findBody (id : String) : Json :=
  .obj [
    ("query", .str ("query GetCluster($id: String!) \x7b cluster(id: $id) \x7b " ++ recordFields ++
      " \x7d \x7d")),
    ("variables", .obj [("id", .str id)])]

def listBody : Json :=
  .obj [
    ("query", .str ("query ListClusters \x7b clusters \x7b " ++ recordFields ++ " \x7d \x7d"))]

def contentType : String := "application/json"

inductive InventoryReply where
  /-- The connection ends without an answer. -/
  | dropped
  | answered (status : Nat) (body : List UInt8)
  deriving DecidableEq, Repr

/-- The envelope of an answer: the data, and the messages of errors. -/
structure Envelope where
  data : Option Json := none
  errors : List String := []
  deriving DecidableEq, Repr

def decodeErrorEntry? (j : Json) : Option String :=
  match slots? ["message"] j with
  | some [message] => message.required readString?
  | _ => none

def Envelope.decode? (j : Json) : Option Envelope :=
  match slots? ["data", "errors"] j with
  | some [data, errors] => do
    return {
      data := ← data.optionalAtEnd untyped
      errors := ← errors.orDefault (readList? decodeErrorEntry?) [] }
  | _ => none

/-- The text of a body, to be read as JSON. What is not UTF-8 stands as a letter, which is no escape
behind a backslash, and as half of a surrogate pair, which a string may not hold. -/
def bodyText (body : List UInt8) : List Char :=
  Text.Utf8.decodeWith "x\\udc00".toList body

/-- What arrives of an answer. Some statuses never have a body. A status below 200 is otherwise no
final one, and one of more than three digits is none; no answer follows. -/
def InventoryReply.received : InventoryReply → InventoryReply
  | .dropped => .dropped
  | .answered status body =>
    if status ∈ [101, 204, 304] then .answered status []
    else if status < 200 ∨ 999 < status then .dropped
    else .answered status body

/-- The data of an answer; none is an empty object. -/
def InventoryReply.data (r : InventoryReply) : Except QueryError Json :=
  match r.received with
  | .dropped => .error (.transport "the connection was closed")
  | .answered status body =>
    if status ≠ 200 then .error (.status status (Text.Utf8.lossy body))
    else
      match (parse? (bodyText body)).bind Envelope.decode? with
      | none => .error (.decode "the answer has an unexpected form")
      | some e =>
        if e.errors.isEmpty then .ok (e.data.getD (.obj [])) else .error (.remote e.errors)

def decodeFound? (j : Json) : Option (Option ClusterRecord) :=
  match slots? ["cluster"] j with
  | some [cluster] => cluster.optional ClusterRecord.decode?
  | _ => none

def decodeListed? (j : Json) : Option (List ClusterRecord) :=
  match slots? ["clusters"] j with
  | some [clusters] => (clusters.optionalAtEnd (readList? ClusterRecord.decode?)).map (·.getD [])
  | _ => none

def InventoryReply.cluster (r : InventoryReply) : Except QueryError (Option ClusterRecord) := do
  match decodeFound? (← r.data) with
  | some found => return found
  | none => throw (.decode "the data has an unexpected form")

def InventoryReply.clusters (r : InventoryReply) : Except QueryError (List ClusterRecord) := do
  match decodeListed? (← r.data) with
  | some records => return records
  | none => throw (.decode "the data has an unexpected form")

end ClusterOperator.Inventory
