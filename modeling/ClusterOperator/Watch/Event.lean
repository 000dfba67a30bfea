import ClusterOperator.Children.Labels
import ClusterOperator.Entity.Cluster

/-!
# Events of watches

* `WatchEvent` : what a watch reports about objects;
* `GenerationFilter` : the generation that each key was last seen with, `observe`, `forget`;
* `GenerationFilter.handle` : the keys that an event of an entity's watch signals;
* `ownerKey` : the cluster that controls a child;
* `ownedSignals` : the keys that an event of a children's watch signals.

Passes write statuses, which does not change the generation of an entity. The filter keeps such
writes from signalling the entity again.
-/

namespace ClusterOperator

/-- What a watch reports. Only the metadata of objects is looked at. -/
inductive WatchEvent where
  /-- A new listing starts. -/
  | listing
  /-- An object of the listing. -/
  | listed (object : Metadata)
  /-- The listing is complete. -/
  | listingDone
  /-- An object was created or changed. -/
  | applied (object : Metadata)
  | deleted (object : Metadata)
  deriving DecidableEq, Repr

/-! ## Entities -/

/-- The generation that each key was last seen with. -/
structure GenerationFilter where
  seen : Dict Key (Option Int64) := {}
  deriving DecidableEq, Repr

namespace GenerationFilter

/-- The key of an object if it carries a generation that it was not last seen with; the generation
is remembered. -/
def observe (f : GenerationFilter) (object : Metadata) : Option Key × GenerationFilter :=
  let key := object.key
  let repeated := f.seen.get? key = some object.generation
  (if repeated then none else some key, ⟨f.seen.insert key object.generation⟩)

/-- The key of an object, whose generation is forgotten. -/
def forget (f : GenerationFilter) (object : Metadata) : Key × GenerationFilter :=
  (object.key, ⟨f.seen.erase object.key⟩)

/-- The keys that an event signals, and the filter after it: those of new generations, and those
of deleted entities. -/
def handle (f : GenerationFilter) : WatchEvent → List Key × GenerationFilter
  | .applied object | .listed object =>
    let (key, f) := f.observe object
    (key.toList, f)
  | .deleted object =>
    let (key, f) := f.forget object
    ([key], f)
  | .listing | .listingDone => ([], f)

end GenerationFilter

/-! ## Children -/

/-- An owner reference names a controlling cluster of this operator's version. -/
def OwnerReference.isControllingCluster (r : OwnerReference) : Bool :=
  r.controller = some true && r.kind = Managed.kindName ClusterSpec &&
    r.apiVersion = ClusterOperator.apiVersion

/-- The key of the cluster that controls a child. A child without a namespace has none. -/
def ownerKey (child : Metadata) : Option Key := do
  let namespaceName ← child.namespaceName
  let references ← child.ownerReferences
  let owner ← references.find? (·.isControllingCluster)
  return ⟨namespaceName, owner.name⟩

/-- The keys that an event of the children's watch signals. -/
def ownedSignals : WatchEvent → List Key
  | .applied child | .listed child | .deleted child => (ownerKey child).toList
  | .listing | .listingDone => []

end ClusterOperator
