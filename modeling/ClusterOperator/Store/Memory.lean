import ClusterOperator.Dict
import ClusterOperator.Entity.Cluster
import ClusterOperator.Entity.Query
import ClusterOperator.Store.Request
import ClusterOperator.Text.Decimal

/-!
# Stores in memory

* `ChildStore` : a map from identities to child objects that gives every object it stores a fresh
  version, refuses to create what is there, and replaces only the version that is stored;
* `EntityStore` : a map from keys to entities of which only the status is written;
* `ChildStore.answer`, `EntityStore.answer` : the replies to requests.
-/

namespace ClusterOperator

/-- Child objects by identity, and the number of versions given so far. -/
structure ChildStore where
  objects : Dict ChildRef Manifest := {}
  versions : Nat := 0
  deriving DecidableEq, Repr

def versionText (n : Nat) : String :=
  String.ofList (Text.Decimal.digits n)

def Manifest.withVersion (m : Manifest) (version : String) : Manifest :=
  m.withMetadata { m.metadata with resourceVersion := some version }

namespace ChildStore

/-- A child stored under its identity with a fresh version. -/
def put (s : ChildStore) (m : Manifest) : Manifest × ChildStore :=
  let stored := m.withVersion (versionText (s.versions + 1))
  (stored, ⟨s.objects.insert m.ref stored, s.versions + 1⟩)

def drop (s : ChildStore) (child : ChildRef) : ChildStore :=
  { s with objects := s.objects.erase child }

/-- The children in the order of their identities. -/
def listing (s : ChildStore) : List Manifest :=
  (s.objects.entries.mergeSort fun a b => a.1.isBefore b.1).map (·.2)

def answer : (q : ChildRequest) → ChildStore → q.Reply × ChildStore
  | .get child, s => (.ok (s.objects.get? child), s)
  | .create m, s =>
    match s.objects.get? m.ref with
    | some _ => (.error (.conflict (m.ref.text ++ " already exists")), s)
    | none => let (stored, s) := s.put m; (.ok stored, s)
  | .update m, s =>
    match s.objects.get? m.ref with
    | none => (.error (.notFound m.kind.name m.name), s)
    | some live =>
      if m.metadata.resourceVersion = live.metadata.resourceVersion then
        let (stored, s) := s.put m
        (.ok stored, s)
      else (.error (.conflict (m.ref.text ++ ": stale resourceVersion")), s)
  | .delete child, s =>
    match s.objects.get? child with
    | none => (.error (.notFound child.kind.name child.name), s)
    | some _ => (.ok (), s.drop child)

end ChildStore

structure EntityStore (σ τ : Type) where
  objects : Dict Key (Entity σ τ) := {}

namespace EntityStore

variable {σ τ : Type}

def put (s : EntityStore σ τ) (e : Entity σ τ) : EntityStore σ τ :=
  ⟨s.objects.insert e.key e⟩

/-- The entities with the keys under which they are stored, in the order of these keys. -/
def listing (s : EntityStore σ τ) : List (Key × Entity σ τ) :=
  s.objects.entries.mergeSort fun a b => a.1.isBefore b.1

/-- The reply to a request at a time, and the store after it. Publishing replaces the stored
status and nothing else; a missing status is stored as `empty`. -/
def answer (stamp : String) (empty : τ) :
    (q : EntityRequest (Entity σ τ)) → EntityStore σ τ → q.Reply × EntityStore σ τ
  | .clock, s => (stamp, s)
  | .fetch key, s => (.ok (s.objects.get? key), s)
  | .publish e, s =>
    match s.objects.get? e.key with
    | none => (.error (.notFound "entity" e.metadata.anyName), s)
    | some stored =>
      let stored := { stored with status := some (e.status.getD empty) }
      (.ok stored, ⟨s.objects.insert e.key stored⟩)

end EntityStore

end ClusterOperator
