import ClusterOperator.Convergence.Drift
import ClusterOperator.Convergence.Error
import ClusterOperator.Entity.Cluster
import ClusterOperator.Store.Request

/-!
# Convergence of one child object

* `ownerReference` : the reference by which a cluster controls its children;
* `convergeChild` : a child is created when missing and replaced when it drifted;
* `removeChild` : a child is deleted when the owner controls it.
-/

namespace ClusterOperator

/-- The reference by which a cluster controls its children; the cluster has to have a name and an
identity. -/
def ownerReference (c : Cluster) : Except ChildError OwnerReference :=
  match c.metadata.name, c.metadata.uid with
  | some name, some uid =>
    .ok { apiVersion, kind := Managed.kindName ClusterSpec, name, uid, controller := some true }
  | _, _ => .error (.missingOwnerUid c.metadata.anyName)

/-- The wanted child as it is created: owned. -/
def Manifest.owned (wanted : Manifest) (owner : OwnerReference) : Manifest :=
  wanted.withMetadata (wanted.metadata.upsertOwner owner)

/-- Creates the wanted child when there is none, and replaces the live one when it drifted: one
write at most. -/
def convergeChild (owner : OwnerReference) (wanted : Manifest) :
    ChildDialogue (Except ChildError ChildOutcome) := do
  match ← ChildDialogue.get wanted.ref with
  | .error e => return .error (.get wanted.ref e)
  | .ok none =>
    match ← ChildDialogue.create (wanted.owned owner) with
    | .error e => return .error (.create wanted.ref e)
    | .ok _ => return .ok .created
  | .ok (some live) =>
    let next := (live.carryForward wanted).owned owner
    if live.needsUpdate next owner then
      match ← ChildDialogue.update next with
      | .error e => return .error (.update wanted.ref e)
      | .ok _ => return .ok .updated
    else return .ok .unchanged

/-- Deletes a child that the owner controls. A missing child is fine, also when it goes missing
before the delete, and a child that somebody else controls is left alone. -/
def removeChild (owner : OwnerReference) (child : ChildRef) :
    ChildDialogue (Except ChildError ChildOutcome) := do
  match ← ChildDialogue.get child with
  | .error e => return .error (.get child e)
  | .ok none => return .ok .absent
  | .ok (some live) =>
    if live.metadata.isControlledBy owner.uid then
      match ← ChildDialogue.delete child with
      | .ok () => return .ok .deleted
      | .error e => return if e.isNotFound then .ok .absent else .error (.delete child e)
    else return .ok .foreign

end ClusterOperator
