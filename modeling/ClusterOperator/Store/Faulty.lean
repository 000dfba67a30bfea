import ClusterOperator.Inventory.Lookup
import ClusterOperator.Store.Memory

/-!
# Stores that fail on demand

Passes are rehearsed over stores in memory whose calls can be made to fail. A call that fails has
no effect, and every call is noted.

* `CallName` : the calls that can be made to fail;
* `Faults` : the failures that wait for each call;
* `Noted` : a call and whether it failed;
* `Bench` : the stores of a rehearsal, with its faults and notes;
* `Bench.childAnswer`, `Bench.entityAnswer` : the replies of the stores;
* `ScriptedInventory` : an inventory service that replies as it was told.
-/

namespace ClusterOperator

/-- The calls that can be made to fail. -/
inductive CallName where
  | getEntity
  | publish
  | get
  | create
  | update
  | delete
  deriving DecidableEq, Repr

def CallName.text : CallName → String
  | .getEntity => "getEntity"
  | .publish => "publish"
  | .get => "get"
  | .create => "create"
  | .update => "update"
  | .delete => "delete"

def CallName.all : List CallName :=
  [.getEntity, .publish, .get, .create, .update, .delete]

/-- What waits for the next calls of each name: a failure, or none. -/
abbrev Faults := Dict CallName (List (Option StoreError))

namespace Faults

def waiting (f : Faults) (c : CallName) : List (Option StoreError) :=
  (f.get? c).getD []

/-- Failures put behind those that wait for a call. -/
def arm (f : Faults) (c : CallName) (errors : List (Option StoreError)) : Faults :=
  f.insert c (f.waiting c ++ errors)

/-- What waits for the next call of a name, and the faults after it. -/
def next (f : Faults) (c : CallName) : Option StoreError × Faults :=
  match f.waiting c with
  | [] => (none, f)
  | e :: rest => (e, f.insert c rest)

end Faults

/-- A call that was made, and whether it was made to fail. -/
inductive Noted (σ τ : Type) where
  | fetched (key : Key) (failed : Bool)
  | published (key : Key) (status : Option τ) (failed : Bool)
  | child (q : ChildRequest) (failed : Bool)

def ChildRequest.callName : ChildRequest → CallName
  | .get _ => .get
  | .create _ => .create
  | .update _ => .update
  | .delete _ => .delete

namespace Noted

variable {σ τ : Type}

def name : Noted σ τ → CallName
  | .fetched _ _ => .getEntity
  | .published _ _ _ => .publish
  | .child q _ => q.callName

def failed : Noted σ τ → Bool
  | .fetched _ f | .published _ _ f | .child _ f => f

end Noted

/-- The stores of a rehearsal. -/
structure Bench (σ τ : Type) where
  entities : EntityStore σ τ := {}
  children : ChildStore := {}
  faults : Faults := {}
  notes : List (Noted σ τ) := []

namespace Bench

variable {σ τ : Type}

def childAnswer (q : ChildRequest) (b : Bench σ τ) : q.Reply × Bench σ τ :=
  let (fault, faults) := b.faults.next q.callName
  let b := { b with faults, notes := b.notes ++ [.child q fault.isSome] }
  match fault with
  | some e => (match q with
      | .get _ => .error e
      | .create _ => .error e
      | .update _ => .error e
      | .delete _ => .error e, b)
  | none =>
    let (reply, children) := b.children.answer q
    (reply, { b with children })

def entityAnswer (stamp : String) (empty : τ) (q : EntityRequest (Entity σ τ)) (b : Bench σ τ) :
    q.Reply × Bench σ τ :=
  let settle (q : EntityRequest (Entity σ τ)) (b : Bench σ τ) : q.Reply × Bench σ τ :=
    let (reply, entities) := b.entities.answer stamp empty q
    (reply, { b with entities })
  match q with
  | .clock => (stamp, b)
  | .fetch key =>
    let (fault, faults) := b.faults.next .getEntity
    let b := { b with faults, notes := b.notes ++ [.fetched key fault.isSome] }
    match fault with
    | some e => (.error e, b)
    | none => settle (.fetch key) b
  | .publish e =>
    let (fault, faults) := b.faults.next .publish
    let b := { b with faults, notes := b.notes ++ [.published e.key e.status fault.isSome] }
    match fault with
    | some e => (.error e, b)
    | none => settle (.publish e) b

def withoutNotes (b : Bench σ τ) : Bench σ τ :=
  { b with notes := [] }

end Bench

/-! ## The inventory service -/

/-- What a scripted inventory service was asked. -/
inductive Asked where
  | endpoint (url : String)
  | find (id : String)
  | list
  deriving DecidableEq, Repr

/-- An inventory service that replies as it was told. The replies are used in turn and the last
one is repeated. -/
structure ScriptedInventory where
  replies : List (Except QueryError (List ClusterRecord)) := []
  /-- What waits for the next clients that are made. -/
  connectErrors : List (Option QueryError) := []
  /-- Set when no request can leave: every lookup then fails with this cause. -/
  offline : Option String := none
  asked : List Asked := []

namespace ScriptedInventory

def note (s : ScriptedInventory) (a : Asked) : ScriptedInventory :=
  { s with asked := s.asked ++ [a] }

/-- The next reply, and the service after it. -/
def next (s : ScriptedInventory) : Except QueryError (List ClusterRecord) × ScriptedInventory :=
  match s.replies with
  | [] => (.ok [], s)
  | [r] => (r, s)
  | r :: rest => (r, { s with replies := rest })

def answer : (q : LookupRequest) → ScriptedInventory → q.Reply × ScriptedInventory
  | .connect endpoint, s =>
    let s := s.note (.endpoint endpoint)
    match s.connectErrors with
    | [] => (.ok (), s)
    | e :: rest =>
      (match e with | some e => .error e | none => .ok (), { s with connectErrors := rest })
  | .find _ id, s =>
    match s.offline with
    | some cause => (.error (.transport cause), s)
    | none =>
      let (reply, s) := (s.note (.find id)).next
      (reply.map fun rs => rs.find? (·.id = id), s)
  | .list _, s =>
    match s.offline with
    | some cause => (.error (.transport cause), s)
    | none => (s.note .list).next

end ScriptedInventory

end ClusterOperator
