import ClusterOperator.Json.Printer
import ClusterOperator.Json.Record
import ClusterOperator.Object.Metadata

/-!
# Records of the inventory service

* `ClusterRecord` : a cluster as the inventory service reports it;
* `ClusterRecord.encode`, `ClusterRecord.decode?` : every member may be null or missing.
-/

namespace ClusterOperator

/-- A cluster as the inventory service reports it. -/
structure ClusterRecord where
  id : String := ""
  name : String := ""
  replicas : Int32 := 0
  version : String := ""
  state : String := ""
  readyReplicas : Int32 := 0
  createdAt : Instant := Instant.epoch
  lastUpdateTime : Instant := Instant.epoch
  deriving DecidableEq, Repr

namespace ClusterRecord

open Json

def encode (r : ClusterRecord) : Json :=
  .obj [
    ("id", .str r.id),
    ("name", .str r.name),
    ("replicas", ofInt32 r.replicas),
    ("version", .str r.version),
    ("state", .str r.state),
    ("readyReplicas", ofInt32 r.readyReplicas),
    ("createdAt", .str r.createdAt.text),
    ("lastUpdateTime", .str r.lastUpdateTime.text)]

def decode? (j : Json) : Option ClusterRecord :=
  match slots? ["id", "name", "replicas", "version", "state", "readyReplicas", "createdAt",
      "lastUpdateTime"] j with
  | some [id, name, replicas, version, state, readyReplicas, createdAt, lastUpdateTime] => do
    return {
      id := ← id.nullable readString? ""
      name := ← name.nullable readString? ""
      replicas := ← replicas.nullable readInt32? 0
      version := ← version.nullable readString? ""
      state := ← state.nullable readString? ""
      readyReplicas := ← readyReplicas.nullable readInt32? 0
      createdAt := ← createdAt.nullable Metadata.readInstant? Instant.epoch
      lastUpdateTime := ← lastUpdateTime.nullable Metadata.readInstant? Instant.epoch }
  | _ => none

end ClusterRecord

end ClusterOperator
