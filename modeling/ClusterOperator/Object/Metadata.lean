import ClusterOperator.Json.Member
import ClusterOperator.Time.Instant

/-!
# Metadata of objects

* `Labels` : labels and annotations;
* `OwnerReference` : the link from an object to one of its owners;
* `Metadata` : name, place, identity and version of an object;
* `Metadata.anyName` : the name, else the prefix that a name is generated from, else nothing;
* `Metadata.isControlledBy` : an owner reference with a given identity has control;
* `Metadata.upsertOwner` : the reference with an owner's identity is set to the owner.

Members that the operator neither reads nor writes are left out: the time of creation, finalizers,
managed fields, the grace period of a deletion, and the link to itself.
-/

namespace ClusterOperator

/-- Labels or annotations of an object. -/
abbrev Labels := Dict String String

structure OwnerReference where
  apiVersion : String := ""
  kind : String := ""
  name : String := ""
  uid : String := ""
  controller : Option Bool := none
  blockOwnerDeletion : Option Bool := none
  deriving DecidableEq, Repr, Inhabited

structure Metadata where
  name : Option String := none
  generateName : Option String := none
  namespaceName : Option String := none
  uid : Option String := none
  generation : Option Int64 := none
  resourceVersion : Option String := none
  labels : Option Labels := none
  annotations : Option Labels := none
  deletionTimestamp : Option Instant := none
  ownerReferences : Option (List OwnerReference) := none
  deriving DecidableEq, Repr, Inhabited

namespace OwnerReference

open Json

def encode (r : OwnerReference) : Json :=
  record [
    ("apiVersion", some (.str r.apiVersion)),
    ("kind", some (.str r.kind)),
    ("name", some (.str r.name)),
    ("uid", some (.str r.uid)),
    ("controller", r.controller.map .bool),
    ("blockOwnerDeletion", r.blockOwnerDeletion.map .bool)]

def decode? (j : Json) : Option OwnerReference := do
  let ms ← readObject? j
  return {
    apiVersion := ← memberOr "" readString? "apiVersion" ms
    kind := ← memberOr "" readString? "kind" ms
    name := ← memberOr "" readString? "name" ms
    uid := ← memberOr "" readString? "uid" ms
    controller := ← optionalMember readBool? "controller" ms
    blockOwnerDeletion := ← optionalMember readBool? "blockOwnerDeletion" ms }

end OwnerReference

namespace Metadata

open Json

def readInstant? (j : Json) : Option Instant :=
  (readString? j).bind fun s => Instant.read? s.toList

def encode (m : Metadata) : Json :=
  record [
    ("annotations", m.annotations.map ofDict),
    ("deletionTimestamp", m.deletionTimestamp.map fun t => .str t.text),
    ("generateName", m.generateName.map .str),
    ("generation", m.generation.map ofInt64),
    ("labels", m.labels.map ofDict),
    ("name", m.name.map .str),
    ("namespace", m.namespaceName.map .str),
    ("ownerReferences", m.ownerReferences.map fun rs => .arr (rs.map OwnerReference.encode)),
    ("resourceVersion", m.resourceVersion.map .str),
    ("uid", m.uid.map .str)]

def decode? (j : Json) : Option Metadata := do
  let ms ← readObject? j
  return {
    name := ← optionalMember readString? "name" ms
    generateName := ← optionalMember readString? "generateName" ms
    namespaceName := ← optionalMember readString? "namespace" ms
    uid := ← optionalMember readString? "uid" ms
    generation := ← optionalMember readInt64? "generation" ms
    resourceVersion := ← optionalMember readString? "resourceVersion" ms
    labels := ← optionalMember readDict? "labels" ms
    annotations := ← optionalMember readDict? "annotations" ms
    deletionTimestamp := ← optionalMember readInstant? "deletionTimestamp" ms
    ownerReferences := ← optionalMember (readList? OwnerReference.decode?) "ownerReferences" ms }

/-- The name of an object, else the prefix that its name is generated from, else nothing. -/
def anyName (m : Metadata) : String :=
  (m.name.or m.generateName).getD ""

/-- The namespace of an object, or nothing. -/
def anyNamespace (m : Metadata) : String :=
  m.namespaceName.getD ""

/-- Some owner reference with this identity has control. -/
def isControlledBy (m : Metadata) (uid : String) : Bool :=
  (m.ownerReferences.getD []).any fun r => r.uid = uid && r.controller = some true

/-- The references with the first one of the owner's identity replaced by the owner, or with the
owner at the end. -/
def upsert (owner : OwnerReference) : List OwnerReference → List OwnerReference
  | [] => [owner]
  | r :: rest => if r.uid = owner.uid then owner :: rest else r :: upsert owner rest

/-- The metadata with the owner among its references, keyed by identity. -/
def upsertOwner (m : Metadata) (owner : OwnerReference) : Metadata :=
  { m with ownerReferences := some (upsert owner (m.ownerReferences.getD [])) }

end Metadata

end ClusterOperator
