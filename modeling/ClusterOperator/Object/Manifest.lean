import ClusterOperator.Object.Deployment
import ClusterOperator.Object.Service

/-!
# Child objects

* `ChildKind`, `ChildRef` : the kind of a child object, and its identity in a store;
* `Manifest` : a service or a deployment, as wanted or as found;
* `Manifest.encode`, `Manifest.decodeAs?` : the objects of the platform API.
-/

namespace ClusterOperator

inductive ChildKind where
  | service
  | deployment
  deriving DecidableEq, Repr

namespace ChildKind

def name : ChildKind → String
  | .service => "Service"
  | .deployment => "Deployment"

def ofName? (s : String) : Option ChildKind :=
  if s = "Service" then some .service else if s = "Deployment" then some .deployment else none

/-- The API group and version that serves a kind. -/
def apiVersion : ChildKind → String
  | .service => "v1"
  | .deployment => "apps/v1"

end ChildKind

/-- The identity of a child object. -/
structure ChildRef where
  kind : ChildKind
  namespaceName : String
  name : String
  deriving DecidableEq, Repr

def ChildRef.text (r : ChildRef) : String :=
  r.kind.name ++ " " ++ r.namespaceName ++ "/" ++ r.name

/-- Children are listed by kind, services first, then by namespace, and then by name. -/
def ChildRef.isBefore (a b : ChildRef) : Bool :=
  if a.kind = b.kind then
    a.namespaceName < b.namespaceName || (a.namespaceName = b.namespaceName && a.name ≤ b.name)
  else a.kind = .service

inductive Manifest where
  | service (s : Service)
  | deployment (d : Deployment)
  deriving DecidableEq, Repr

namespace Manifest

open Json

def kind : Manifest → ChildKind
  | .service _ => .service
  | .deployment _ => .deployment

def metadata : Manifest → Metadata
  | .service s => s.metadata
  | .deployment d => d.metadata

def withMetadata (m : Metadata) : Manifest → Manifest
  | .service s => .service { s with metadata := m }
  | .deployment d => .deployment { d with metadata := m }

/-- The name of a child; a prefix to generate one from does not count. -/
def name (m : Manifest) : String :=
  m.metadata.name.getD ""

def namespaceName (m : Manifest) : String :=
  m.metadata.anyNamespace

def ref (m : Manifest) : ChildRef :=
  ⟨m.kind, m.namespaceName, m.name⟩

def encode (m : Manifest) : Json :=
  record [
    ("apiVersion", some (.str m.kind.apiVersion)),
    ("kind", some (.str m.kind.name)),
    ("metadata", some m.metadata.encode),
    ("spec", match m with
      | .service s => s.spec.map ServiceSpec.encode
      | .deployment d => d.spec.map DeploymentSpec.encode)]

/-- A member that, whenever given, has to be this text. -/
def checkText? (name expected : String) (members : List (String × Json)) : Option Unit :=
  if (occurrences name members).all (· = .str expected) then some () else none

/-- An object of a kind; the kind and the version that it names have to agree. -/
def decodeAs? (kind : ChildKind) (j : Json) : Option Manifest := do
  let ms ← readObject? j
  checkText? "apiVersion" kind.apiVersion ms
  checkText? "kind" kind.name ms
  let metadata ← memberOr {} Metadata.decode? "metadata" ms
  match kind with
  | ChildKind.service =>
    (optionalMember ServiceSpec.decode? "spec" ms).map fun spec =>
      Manifest.service { metadata, spec }
  | ChildKind.deployment =>
    (optionalMember DeploymentSpec.decode? "spec" ms).map fun spec =>
      Manifest.deployment { metadata, spec }

@[simp] theorem metadata_withMetadata (m : Manifest) (x : Metadata) :
    (m.withMetadata x).metadata = x := by
  cases m <;> rfl

@[simp] theorem kind_withMetadata (m : Manifest) (x : Metadata) :
    (m.withMetadata x).kind = m.kind := by
  cases m <;> rfl

end Manifest

end ClusterOperator
