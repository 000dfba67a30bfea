import ClusterOperator.Entity.Condition
import ClusterOperator.Object.Metadata

/-!
# Managed entities

* `Key` : namespace and name, the unit of scheduling;
* `Entity` : metadata, the wanted state and the observed state;
* `Managed` : what a kind of entity is called and how its two states are written and read;
* `Entity.encode`, `Entity.decode?` : the objects of the platform API.
-/

namespace ClusterOperator

def apiGroup : String := "bss.localhost"

def apiVersionName : String := "v1alpha1"

def apiVersion : String := apiGroup ++ "/" ++ apiVersionName

/-- The unit of scheduling. -/
structure Key where
  namespaceName : String
  name : String
  deriving DecidableEq, Repr, Inhabited

def Key.text (k : Key) : String :=
  k.namespaceName ++ "/" ++ k.name

/-- Keys are listed by namespace, and then by name. -/
def Key.isBefore (a b : Key) : Bool :=
  a.namespaceName < b.namespaceName || (a.namespaceName = b.namespaceName && a.name ≤ b.name)

def Metadata.key (m : Metadata) : Key :=
  ⟨m.anyNamespace, m.anyName⟩

/-- An entity: `σ` is the type of its wanted state and `τ` the type of its observed state. -/
structure Entity (σ τ : Type) where
  metadata : Metadata := {}
  spec : σ
  status : Option τ := none
  deriving DecidableEq, Repr

/-- What a kind of entity is called and how its two states are written and read. -/
class Managed (σ : Type) (τ : outParam Type) where
  kindName : String
  plural : String
  encodeSpec : σ → Json
  decodeSpec? : Json → Option σ
  encodeStatus : τ → Json
  decodeStatus? : Json → Option τ
  conditions : τ → List Condition

namespace Entity

variable {σ τ : Type}

def conditions [Managed σ τ] (e : Entity σ τ) : List Condition :=
  (e.status.map (Managed.conditions σ)).getD []

def key (e : Entity σ τ) : Key :=
  e.metadata.key

open Json

variable [Managed σ τ]

def encode (e : Entity σ τ) : Json :=
  record [
    ("apiVersion", some (.str apiVersion)),
    ("kind", some (.str (Managed.kindName σ))),
    ("metadata", some e.metadata.encode),
    ("spec", some (Managed.encodeSpec e.spec)),
    ("status", e.status.map (Managed.encodeStatus σ))]

/-- An entity, read as a record; the kind and the version that an object names do not matter. -/
def decode? (j : Json) : Option (Entity σ τ) :=
  match slots? ["metadata", "spec", "status"] j with
  | some [metadata, spec, status] => do
    return {
      metadata := ← metadata.required Metadata.decode?
      spec := ← spec.required Managed.decodeSpec?
      status := ← status.optional (Managed.decodeStatus? σ) }
  | _ => none

end Entity

end ClusterOperator
