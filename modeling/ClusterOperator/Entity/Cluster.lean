import ClusterOperator.Entity.Basic

/-!
# Clusters

* `ClusterSpec` : the workload that a cluster wants, with its defaults;
* `ClusterStatus` : what the last passes over a cluster found;
* `Phase` : the three phases that passes report;
* `Cluster` : the entity.
-/

namespace ClusterOperator

structure ClusterSpec where
  image : String := ""
  replicas : Option Int32 := none
  version : Option String := none
  port : Option Int32 := none
  expose : Option Bool := none
  deriving DecidableEq, Repr

/-- A child object that the last successful pass applied. -/
structure ResourceRef where
  kind : String
  name : String
  deriving DecidableEq, Repr

structure ClusterStatus where
  phase : Option String := none
  message : Option String := none
  observedGeneration : Option Int64 := none
  lastReconcileTime : Option String := none
  conditions : List Condition := []
  resourceRefs : List ResourceRef := []
  deriving DecidableEq, Repr

inductive Phase where
  | reconciling
  | ready
  | failed
  deriving DecidableEq, Repr

def Phase.name : Phase → String
  | .reconciling => "Reconciling"
  | .ready => "Ready"
  | .failed => "Failed"

def Phase.all : List Phase :=
  [.reconciling, .ready, .failed]

open Json

namespace ClusterSpec

/-- The replica count, one by default. -/
def replicaCount (s : ClusterSpec) : Int32 :=
  s.replicas.getD 1

/-- The port of the container and of the service, 8080 by default. -/
def portNumber (s : ClusterSpec) : Int32 :=
  s.port.getD 8080

/-- A service stands in front of the workload, as it does by default. -/
def isExposed (s : ClusterSpec) : Bool :=
  s.expose.getD true

def encode (s : ClusterSpec) : Json :=
  record [
    ("image", some (.str s.image)),
    ("replicas", s.replicas.map ofInt32),
    ("version", s.version.map .str),
    ("port", s.port.map ofInt32),
    ("expose", s.expose.map .bool)]

def decode? (j : Json) : Option ClusterSpec :=
  match slots? ["image", "replicas", "version", "port", "expose"] j with
  | some [image, replicas, version, port, expose] => do
    return {
      image := ← image.orDefault readString? ""
      replicas := ← replicas.optionalAtEnd readInt32?
      version := ← version.optionalAtEnd readString?
      port := ← port.optionalAtEnd readInt32?
      expose := ← expose.optionalAtEnd readBool? }
  | _ => none

end ClusterSpec

namespace ResourceRef

def encode (r : ResourceRef) : Json :=
  record [("kind", some (.str r.kind)), ("name", some (.str r.name))]

def decode? (j : Json) : Option ResourceRef :=
  match slots? ["kind", "name"] j with
  | some [kind, name] => do
    return { kind := ← kind.required readString?, name := ← name.required readString? }
  | _ => none

end ResourceRef

namespace ClusterStatus

def encode (s : ClusterStatus) : Json :=
  record [
    ("phase", s.phase.map .str),
    ("message", s.message.map .str),
    ("observedGeneration", s.observedGeneration.map ofInt64),
    ("lastReconcileTime", s.lastReconcileTime.map .str),
    ("conditions", nonEmpty Condition.encode s.conditions),
    ("resourceRefs", nonEmpty ResourceRef.encode s.resourceRefs)]

def decode? (j : Json) : Option ClusterStatus :=
  match slots? ["phase", "message", "observedGeneration", "lastReconcileTime", "conditions",
      "resourceRefs"] j with
  | some [phase, message, generation, time, conditions, refs] => do
    return {
      phase := ← phase.optional readString?
      message := ← message.optional readString?
      observedGeneration := ← generation.optional readInt64?
      lastReconcileTime := ← time.optional readString?
      conditions := ← conditions.orDefault (readList? Condition.decode?) []
      resourceRefs := ← refs.orDefault (readList? ResourceRef.decode?) [] }
  | _ => none

end ClusterStatus

abbrev Cluster := Entity ClusterSpec ClusterStatus

instance : Managed ClusterSpec ClusterStatus where
  kindName := "BssCluster"
  plural := "bssclusters"
  encodeSpec := ClusterSpec.encode
  decodeSpec? := ClusterSpec.decode?
  encodeStatus := ClusterStatus.encode
  decodeStatus? := ClusterStatus.decode?
  conditions := ClusterStatus.conditions

end ClusterOperator
