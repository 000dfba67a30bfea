import ClusterOperator.Dialogue
import ClusterOperator.Entity.Basic
import ClusterOperator.Object.Manifest
import ClusterOperator.Store.Error

/-!
# Requests to stores

* `ChildRequest` : the calls to the store of child objects;
* `EntityRequest` : the calls to the store of entities, and to the clock.
-/

namespace ClusterOperator

/-- A call to the store of child objects. -/
inductive ChildRequest where
  | get (child : ChildRef)
  | create (wanted : Manifest)
  /-- Replaces a child whole; the version that it carries has to be the stored one. -/
  | update (wanted : Manifest)
  | delete (child : ChildRef)
  deriving DecidableEq, Repr

def ChildRequest.child : ChildRequest → ChildRef
  | .get child | .delete child => child
  | .create m | .update m => m.ref

abbrev ChildRequest.Reply : ChildRequest → Type
  | .get _ => Except StoreError (Option Manifest)
  | .create _ => Except StoreError Manifest
  | .update _ => Except StoreError Manifest
  | .delete _ => Except StoreError Unit

abbrev ChildDialogue := Dialogue ChildRequest ChildRequest.Reply

namespace ChildDialogue

def get (child : ChildRef) : ChildDialogue (Except StoreError (Option Manifest)) :=
  Dialogue.request (ChildRequest.get child)

def create (wanted : Manifest) : ChildDialogue (Except StoreError Manifest) :=
  Dialogue.request (ChildRequest.create wanted)

def update (wanted : Manifest) : ChildDialogue (Except StoreError Manifest) :=
  Dialogue.request (ChildRequest.update wanted)

def delete (child : ChildRef) : ChildDialogue (Except StoreError Unit) :=
  Dialogue.request (ChildRequest.delete child)

end ChildDialogue

/-- A call to the store of entities, or to the clock. -/
inductive EntityRequest (ε : Type) where
  /-- The time, as statuses carry it. -/
  | clock
  | fetch (key : Key)
  /-- Stores the status of an entity; the reply is the stored entity. -/
  | publish (entity : ε)
  deriving DecidableEq, Repr

abbrev EntityRequest.Reply {ε : Type} : EntityRequest ε → Type
  | .clock => String
  | .fetch _ => Except StoreError (Option ε)
  | .publish _ => Except StoreError ε

end ClusterOperator
