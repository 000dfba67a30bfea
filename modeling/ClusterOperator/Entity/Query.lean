import ClusterOperator.Entity.Basic

/-!
# Queries

* `QueryKind`, `QuerySpec` : what to ask the inventory service, and how often;
* `QueryStatus` : the last result and what the last passes found;
* `Query` : the entity.
-/

namespace ClusterOperator

/-- What a query asks for: one cluster, or all of them. -/
inductive QueryKind where
  | cluster
  | clusters
  deriving DecidableEq, Repr

structure QuerySpec where
  apiEndpoint : String := ""
  query : QueryKind
  clusterID : Option String := none
  refreshInterval : Option Int32 := none
  deriving DecidableEq, Repr

structure QueryStatus where
  lastQueryTime : Option String := none
  result : Option String := none
  clusterCount : Option Int64 := none
  conditions : List Condition := []
  observedGeneration : Option Int64 := none
  deriving DecidableEq, Repr

open Json

namespace QueryKind

def name : QueryKind → String
  | .cluster => "cluster"
  | .clusters => "clusters"

def ofName? (s : String) : Option QueryKind :=
  if s = "cluster" then some .cluster else if s = "clusters" then some .clusters else none

def decode? (j : Json) : Option QueryKind :=
  (readVariant? j).bind ofName?

end QueryKind

namespace QuerySpec

def encode (s : QuerySpec) : Json :=
  record [
    ("apiEndpoint", some (.str s.apiEndpoint)),
    ("query", some (.str s.query.name)),
    ("clusterID", s.clusterID.map .str),
    ("refreshInterval", s.refreshInterval.map ofInt32)]

def decode? (j : Json) : Option QuerySpec :=
  match slots? ["apiEndpoint", "query", "clusterID", "refreshInterval"] j with
  | some [endpoint, query, id, interval] => do
    return {
      apiEndpoint := ← endpoint.orDefault readString? ""
      query := ← query.required QueryKind.decode?
      clusterID := ← id.optionalAtEnd readString?
      refreshInterval := ← interval.optionalAtEnd readInt32? }
  | _ => none

end QuerySpec

namespace QueryStatus

def encode (s : QueryStatus) : Json :=
  record [
    ("lastQueryTime", s.lastQueryTime.map .str),
    ("result", s.result.map .str),
    ("clusterCount", s.clusterCount.map ofInt64),
    ("conditions", nonEmpty Condition.encode s.conditions),
    ("observedGeneration", s.observedGeneration.map ofInt64)]

def decode? (j : Json) : Option QueryStatus :=
  match slots? ["lastQueryTime", "result", "clusterCount", "conditions", "observedGeneration"]
      j with
  | some [time, result, count, conditions, generation] => do
    return {
      lastQueryTime := ← time.optional readString?
      result := ← result.optional readString?
      clusterCount := ← count.optional readInt64?
      conditions := ← conditions.orDefault (readList? Condition.decode?) []
      observedGeneration := ← generation.optional readInt64? }
  | _ => none

end QueryStatus

abbrev Query := Entity QuerySpec QueryStatus

instance : Managed QuerySpec QueryStatus where
  kindName := "BssQuery"
  plural := "bssqueries"
  encodeSpec := QuerySpec.encode
  decodeSpec? := QuerySpec.decode?
  encodeStatus := QueryStatus.encode
  decodeStatus? := QueryStatus.decode?
  conditions := QueryStatus.conditions

end ClusterOperator
