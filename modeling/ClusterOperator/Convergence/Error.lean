import ClusterOperator.Object.Manifest
import ClusterOperator.Store.Error

/-!
# Failures of convergence

* `ChildError` : how the convergence of child objects fails, with `ChildError.kindName` and
  `ChildError.message`;
* `ChildOutcome` : how it succeeds, and `ChildOutcome.isWrite`, whether something was written.
-/

namespace ClusterOperator

/-- How the convergence of child objects fails. -/
inductive ChildError where
  | get (child : ChildRef) (source : StoreError)
  | create (child : ChildRef) (source : StoreError)
  | update (child : ChildRef) (source : StoreError)
  | delete (child : ChildRef) (source : StoreError)
  /-- The owner has no identity that its children could refer to. -/
  | missingOwnerUid (name : String)
  deriving DecidableEq, Repr

/-- The kind of a failure: the step that failed, and how its call failed. -/
def ChildError.kindName : ChildError → String
  | .get _ source => "Get." ++ source.kindName
  | .create _ source => "Create." ++ source.kindName
  | .update _ source => "Update." ++ source.kindName
  | .delete _ source => "Delete." ++ source.kindName
  | .missingOwnerUid _ => "MissingOwnerUid"

def ChildError.message : ChildError → String
  | .get child source => "failed to get " ++ child.text ++ ": " ++ source.message
  | .create child source => "failed to create " ++ child.text ++ ": " ++ source.message
  | .update child source => "failed to update " ++ child.text ++ ": " ++ source.message
  | .delete child source => "failed to delete " ++ child.text ++ ": " ++ source.message
  | .missingOwnerUid name => "owner " ++ name ++ " has no uid yet"

inductive ChildOutcome where
  | created
  | updated
  | unchanged
  | deleted
  /-- A child to be removed was already gone. -/
  | absent
  /-- A child to be removed is controlled by somebody else. -/
  | foreign
  deriving DecidableEq, Repr

namespace ChildOutcome

def name : ChildOutcome → String
  | .created => "Created"
  | .updated => "Updated"
  | .unchanged => "Unchanged"
  | .deleted => "Deleted"
  | .absent => "Absent"
  | .foreign => "Foreign"

def all : List ChildOutcome :=
  [.created, .updated, .unchanged, .deleted, .absent, .foreign]

def isWrite : ChildOutcome → Bool
  | .created | .updated | .deleted => true
  | _ => false

end ChildOutcome

end ClusterOperator
