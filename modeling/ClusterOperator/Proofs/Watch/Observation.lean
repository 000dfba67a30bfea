import ClusterOperator.Controller.Platform
import ClusterOperator.Proofs.Queue.PoolRun
import ClusterOperator.Proofs.Watch.Filter

/-!
# An entity under observation

An entity is created and edited by its users. The watch hears of it in order, but not of every
copy, and of some more than once; the filter lets through what is new to it, and the workers make
passes that read the entity. All of this happens in any order, and others use the queue as well.

* `Reconciler` : the passes over the entities of a kind, `Reconciler.clusters` and
  `Reconciler.queries`;
* `Copy` : what an entity was at a time; `Reading`, what a pass was given;
* `Observation` : the copies so far, what the watch heard, and the pass over the entity;
* `Observation.occur?`, `Observation.after?` : what follows an event, and several.
-/

namespace ClusterOperator

/-! ## Passes over the entities of a kind -/

def EntityRequest.reads {ε : Type} (key : Key) : EntityRequest ε → Bool
  | .fetch k => k = key
  | _ => false

/-- The replies of a store where a key has the entity `current`. Whatever else is asked is answered
by `others`. -/
def EntityRequest.replyWith {ε : Type} (key : Key) (current : Option ε)
    (others : (q : EntityRequest ε) → q.Reply) : (q : EntityRequest ε) → q.Reply
  | .fetch k => if k = key then .ok current else others (.fetch k)
  | .clock => others .clock
  | .publish e => others (.publish e)

structure Reconciler (σ τ : Type) where
  Request : Type
  Reply : Request → Type
  /-- The request reads the entity of a key. -/
  reads : Key → Request → Bool
  /-- The replies where a key has the entity that is given; whatever else is asked is answered by
  others. -/
  replyWith : Key → Option (Entity σ τ) → ((q : Request) → Reply q) → (q : Request) → Reply q
  pass : Key → Dialogue Request Reply (Except PassError Requeue)
  /-- Before anything else a pass reads its entity. -/
  reads_first : ∀ key, ∃ q next, pass key = .ask q next ∧ reads key q = true

namespace Reconciler

def clusters : Reconciler ClusterSpec ClusterStatus where
  Request := ClusterRequest
  Reply := ClusterRequest.Reply
  reads key
    | .entity q => q.reads key
    | .child _ => false
  replyWith key current others
    | .entity q => q.replyWith key current fun q => others (.entity q)
    | .child q => others (.child q)
  pass := reconcileCluster
  reads_first key := ⟨.entity (.fetch key), _, rfl, decide_eq_true rfl⟩

def queries (settings : RefreshSettings) : Reconciler QuerySpec QueryStatus where
  Request := QueryRequest
  Reply := QueryRequest.Reply
  reads key
    | .entity q => q.reads key
    | .lookup _ => false
  replyWith key current others
    | .entity q => q.replyWith key current fun q => others (.entity q)
    | .lookup q => others (.lookup q)
  pass := reconcileQuery settings
  reads_first key := ⟨.entity (.fetch key), _, rfl, decide_eq_true rfl⟩

end Reconciler

/-! ## The state -/

/-- What an entity was at a time, and how often it had been edited. -/
structure Copy (σ τ : Type) where
  entity : Entity σ τ
  edits : Nat

def Copy.generation {σ τ : Type} (c : Copy σ τ) : Option Int64 :=
  c.entity.metadata.generation

/-- A generation is higher than another one, or than none. -/
def isRaised : Option Int64 → Option Int64 → Bool
  | _, none => false
  | none, some _ => true
  | some m, some n => m < n

/-- What a pass was given, and how often the entity had been edited then. -/
structure Reading (σ τ : Type) where
  edits : Nat
  entity : Option (Entity σ τ)

variable {σ τ : Type}

/-- A pass over the entity: what is left of it, and what it has read last. -/
structure Flight (r : Reconciler σ τ) where
  rest : Dialogue r.Request r.Reply (Except PassError Requeue)
  reading : Option (Reading σ τ) := none

/-- An entity, the watch of its kind, and the pool that makes passes over it. -/
structure Observation (r : Reconciler σ τ) (key : Key) where
  run : PoolRun Key
  filter : GenerationFilter := {}
  /-- The copies of the entity, the current one last. -/
  copies : List (Copy σ τ) := []
  /-- The copies that the watch told of, the last one first, with their places in `copies`. -/
  observed : List (Nat × Copy σ τ) := []
  /-- The keys that came through the filter and are not added yet. -/
  announced : List Key := []
  /-- The pass over the entity, if there is one. -/
  flight : Option (Flight r) := none
  /-- What the last pass over the entity that returned had read. -/
  lastReading : Option (Reading σ τ) := none

inductive ObservationEvent (r : Reconciler σ τ) where
  /-- The entity is created, or edited, which raises its generation. -/
  | edit (e : Entity σ τ)
  /-- The entity is written, but not its spec, which leaves its generation alone. -/
  | touch (e : Entity σ τ)
  /-- The watch tells of a copy, in a listing or by itself. -/
  | deliver (place : Nat) (listed : Bool)
  /-- The watch tells something else. -/
  | hear (event : WatchEvent)
  /-- A key that came through the filter is added. -/
  | signal
  /-- Something happens to the pool, other than the end of a pass over the entity. -/
  | pool (e : PoolEvent Key)
  /-- The pass over the entity gets a reply. The stores answer it with the entity as it is, and
  with anything else. -/
  | reply (others : (q : r.Request) → r.Reply q)
  /-- The pass of a worker over the entity returns. -/
  | endPass (worker : Nat)

def PoolRun.keyOf? {κ : Type} (p : PoolRun κ) (worker : Nat) : Option κ :=
  p.workers[worker]?.bind Worker.key?

namespace Observation

variable {r : Reconciler σ τ} {key : Key}

/-- A new operator, before the entity exists. -/
def start (r : Reconciler σ τ) (key : Key) (policy : BackoffPolicy) (size : Nat) :
    Observation r key where
  run := PoolRun.start policy size

def current? (s : Observation r key) : Option (Copy σ τ) :=
  s.copies.getLast?

/-- How often the entity has been edited; its creation counts. -/
def edits (s : Observation r key) : Nat :=
  (s.current?.map (·.edits)).getD 0

def reading (s : Observation r key) : Reading σ τ :=
  ⟨s.edits, s.current?.map (·.entity)⟩

/-- Keys are handed out to workers only, and the pass over the entity ends by itself. -/
def allows (s : Observation r key) : PoolEvent Key → Bool
  | .outside e => e.task?.isNone
  | .endPass w _ => s.run.keyOf? w ≠ some key
  | _ => true

/-- The pass over the entity after an event of the pool. A worker that is handed the key starts
one. -/
def flightAfter (s : Observation r key) (run : PoolRun Key) : PoolEvent Key → Option (Flight r)
  | .ask w => if run.keyOf? w = some key then some { rest := r.pass key } else s.flight
  | _ => s.flight

def push (s : Observation r key) (c : Copy σ τ) : Observation r key :=
  { s with copies := s.copies ++ [c] }

def observe (s : Observation r key) (event : WatchEvent) : Observation r key :=
  let (announced, filter) := s.filter.handle event
  { s with announced, filter }

/-- The watch tells of the copy at a place. -/
def deliver (s : Observation r key) (place : Nat) (c : Copy σ τ) (event : WatchEvent) :
    Observation r key :=
  { s.observe event with observed := (place, c) :: s.observed }

variable [DecidableEq σ]

def occur? (s : Observation r key) : ObservationEvent r → Option (Observation r key)
  | .edit e =>
    if e.key = key ∧ s.current?.all (isRaised ·.generation e.metadata.generation) then
      some (s.push ⟨e, s.edits + 1⟩)
    else none
  | .touch e =>
    match s.current? with
    | some c =>
      if e.key = key ∧ e.spec = c.entity.spec ∧ e.metadata.generation = c.generation then
        some (s.push ⟨e, c.edits⟩)
      else none
    | none => none
  | .deliver place listed =>
    match s.copies[place]? with
    | some c =>
      if s.announced = [] ∧ s.observed.all (·.1 ≤ place) then
        some (s.deliver place c
          (if listed then .listed c.entity.metadata else .applied c.entity.metadata))
      else none
    | none => none
  | .hear event =>
    if s.announced = [] ∧ event.object?.all (·.key ≠ key) then some (s.observe event) else none
  | .signal =>
    match s.announced with
    | k :: announced =>
      (s.run.occur? (.outside (.add k))).map fun run => { s with run, announced }
    | [] => none
  | .pool e =>
    if s.allows e then
      (s.run.occur? e).map fun run => { s with run, flight := s.flightAfter run e }
    else none
  | .reply others =>
    match s.flight with
    | some ⟨.ask q next, reading⟩ =>
      let rest := next (r.replyWith key s.reading.entity others q)
      some { s with
        flight := some { rest, reading := if r.reads key q then some s.reading else reading } }
    | _ => none
  | .endPass w =>
    match s.flight with
    | some ⟨.finish result, reading⟩ =>
      if s.run.keyOf? w = some key then
        (s.run.occur? (.endPass w (.returned (passOutcome result)))).map fun run =>
          { s with run, flight := none, lastReading := reading }
      else none
    | _ => none

def after? (s : Observation r key) (es : List (ObservationEvent r)) :
    Option (Observation r key) :=
  es.foldlM occur? s

end Observation

end ClusterOperator
