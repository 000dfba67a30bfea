import ClusterOperator.Queue.Backoff
import ClusterOperator.Queue.Outcome
import ClusterOperator.Queue.WaitingRoom

/-!
# The work queue

A queue of keys in which a key stands at most once, and which hands a key out to one worker at a
time. A key that is added while it is being processed is marked dirty, and put back once when its
pass is done, so any number of signals during a pass make one more pass.

* `WorkQueue` : the queued, dirty and processed keys, the delayed adds, the failures, and the
  tasks that wait for a key;
* `add`, `addAfter`, `addRateLimited`, `forget` : signals; `AddedAfter`, the ways in which a delayed
  add may go, and `clockEnd`, past which it has no deadline;
* `expire`, `sound` : an alarm of a delayed add is over, and its key is added;
* `poll`, `abandon` : a task asks for a key, and gives up asking;
* `done` : a pass is over; `shutDown` : no key is handed out any more;
* `conclude` : what the end of a pass asks for is scheduled.

Times are nanoseconds since the start of the clock.
-/

namespace ClusterOperator

/-- The end of the clock: 63 bits of seconds. No deadline can lie after it. -/
def clockEnd : Nat := 9223372036854775808 * nanosPerSec

/-- A task sleeps until `deadline` to make a delayed add of `key`. -/
structure Alarm (κ : Type) where
  key : κ
  deadline : Nat
  deriving DecidableEq, Repr

structure WorkQueue (κ : Type) where
  policy : BackoffPolicy := {}
  /-- The keys to be handed out, the next one first. -/
  queue : List κ := []
  /-- The keys with a signal that no pass has answered yet. -/
  dirty : List κ := []
  /-- The keys that are handed out and not done. -/
  processing : List κ := []
  /-- The earliest deadline of the delayed adds of each key. -/
  scheduled : Dict κ Nat := {}
  failures : Failures κ := {}
  isShutDown : Bool := false
  /-- The alarms that have not gone off, also those that are superseded. -/
  alarms : List (Alarm κ) := []
  room : WaitingRoom := {}
  deriving DecidableEq, Repr

/-- What a task that asks for a key gets. -/
inductive Polled (κ : Type) where
  | key (k : κ)
  /-- Nothing yet: the task waits. -/
  | pending
  /-- Nothing any more. -/
  | shutDown
  deriving DecidableEq, Repr

namespace WorkQueue

variable {κ : Type} [DecidableEq κ]

/-! ## Signals -/

/-- A key is put at the end of the queue, unless it is dirty already. A key that is being
processed is only marked dirty. -/
def add (q : WorkQueue κ) (k : κ) : WorkQueue κ :=
  if q.isShutDown ∨ k ∈ q.dirty then q
  else if k ∈ q.processing then { q with dirty := q.dirty ++ [k] }
  else { q with dirty := q.dirty ++ [k], queue := q.queue ++ [k], room := q.room.ring }

/-- A key is added after a delay, or at once when the delay is empty. Only the earliest deadline
of a key counts. A call whose deadline lies past the end of the clock crashes before it does
anything, so the queue stays as it is. -/
def addAfter (q : WorkQueue κ) (now : Nat) (k : κ) (delay : Duration) : WorkQueue κ :=
  if delay.nanos = 0 then q.add k
  else
    let deadline := now + delay.nanos
    if clockEnd ≤ deadline ∨ q.isShutDown ∨ (q.scheduled.get? k).any (· ≤ deadline) then q
    else
      { q with
        scheduled := q.scheduled.insert k deadline
        alarms := q.alarms ++ [⟨k, deadline⟩] }

/-- What a delayed add makes of a queue: it is an add, or changes nothing, or sets a deadline and its
alarm. -/
inductive AddedAfter (q : WorkQueue κ) (now : Nat) (k : κ) (delay : Duration) :
    WorkQueue κ → Prop where
  | atOnce (h : delay.nanos = 0) : AddedAfter q now k delay (q.add k)
  | kept (hd : delay.nanos ≠ 0)
      (h : clockEnd ≤ now + delay.nanos ∨ q.isShutDown = true ∨
        ∃ d ≤ now + delay.nanos, q.scheduled.get? k = some d) : AddedAfter q now k delay q
  | set (hd : delay.nanos ≠ 0) (hend : now + delay.nanos < clockEnd) (hs : q.isShutDown = false)
      (hearly : ∀ d, q.scheduled.get? k = some d → now + delay.nanos < d) :
      AddedAfter q now k delay { q with
        scheduled := q.scheduled.insert k (now + delay.nanos)
        alarms := q.alarms ++ [⟨k, now + delay.nanos⟩] }

theorem addedAfter_addAfter (q : WorkQueue κ) (now : Nat) (k : κ) (delay : Duration) :
    q.AddedAfter now k delay (q.addAfter now k delay) := by
  unfold addAfter
  split
  · next hd => exact .atOnce hd
  · next hd =>
    dsimp only
    split
    · next h =>
      refine .kept hd (h.imp id (Or.imp id fun hany => ?_))
      obtain ⟨d, hk, hle⟩ := (Option.any_eq_true _ _).1 hany
      exact ⟨d, of_decide_eq_true hle, hk⟩
    · next h =>
      rw [not_or, not_or, Bool.not_eq_true, Nat.not_le] at h
      obtain ⟨hend, hs, hnone⟩ := h
      refine .set hd hend hs fun d hk => Nat.not_le.1 fun hle => hnone ?_
      rw [hk]
      exact decide_eq_true hle

/-- The delay after the failures of a key so far. -/
def retryDelay (q : WorkQueue κ) (k : κ) : Duration :=
  q.policy.delayFor (q.failures.count k)

def recordFailure (q : WorkQueue κ) (k : κ) : WorkQueue κ :=
  { q with failures := q.failures.record k }

/-- A failure of a key is counted, and the key is added after its back-off delay. -/
def addRateLimited (q : WorkQueue κ) (now : Nat) (k : κ) : WorkQueue κ :=
  (q.recordFailure k).addAfter now k ((q.recordFailure k).retryDelay k)

def forget (q : WorkQueue κ) (k : κ) : WorkQueue κ :=
  { q with failures := q.failures.forget k }

/-- An alarm is over, and with it the delayed add of its key if the alarm's deadline still counts;
whether it did. -/
def expire (q : WorkQueue κ) (a : Alarm κ) : Bool × WorkQueue κ :=
  let q := { q with alarms := q.alarms.erase a }
  if q.scheduled.get? a.key = some a.deadline then
    (true, { q with scheduled := q.scheduled.erase a.key })
  else (false, q)

/-- An alarm goes off. The key is added if the alarm's deadline still counts. -/
def sound (q : WorkQueue κ) (a : Alarm κ) : WorkQueue κ :=
  match q.expire a with
  | (true, q) => q.add a.key
  | (false, q) => q

/-! ## Handing out -/

/-- A task asks for a key, and waits when there is none. -/
def poll (q : WorkQueue κ) (task : Nat) : Polled κ × WorkQueue κ :=
  let room := (q.room.resume task).takePermit
  if q.isShutDown then (.shutDown, { q with room })
  else
    match q.queue with
    | [] => (.pending, { q with room := room.enter task })
    | k :: rest =>
      (.key k, { q with
        room
        queue := rest
        dirty := q.dirty.filter (· ≠ k)
        processing := q.processing.insert k })

theorem poll_of_isShutDown {q : WorkQueue κ} (h : q.isShutDown = true) (task : Nat) :
    q.poll task = (.shutDown, { q with room := (q.room.resume task).takePermit }) := by
  simp [poll, h]

theorem poll_of_nil {q : WorkQueue κ} (h : q.isShutDown = false) (hq : q.queue = []) (task : Nat) :
    q.poll task =
      (.pending, { q with room := (q.room.resume task).takePermit.enter task }) := by
  simp [poll, h, hq]

theorem poll_of_cons {q : WorkQueue κ} {k : κ} {rest : List κ} (h : q.isShutDown = false)
    (hq : q.queue = k :: rest) (task : Nat) :
    q.poll task = (.key k, { q with
      room := (q.room.resume task).takePermit
      queue := rest
      dirty := q.dirty.filter (· ≠ k)
      processing := q.processing.insert k }) := by
  simp [poll, h, hq]

def abandon (q : WorkQueue κ) (task : Nat) : WorkQueue κ :=
  { q with room := q.room.leave task }

/-- The pass over a key is over. A key that became dirty meanwhile is queued again. -/
def done (q : WorkQueue κ) (k : κ) : WorkQueue κ :=
  let processing := q.processing.filter (· ≠ k)
  if k ∈ q.dirty ∧ ¬ q.isShutDown then
    { q with processing, queue := q.queue ++ [k], room := q.room.ring }
  else { q with processing }

/-- No key is handed out any more, and delayed adds are dropped. -/
def shutDown (q : WorkQueue κ) : WorkQueue κ :=
  { q with isShutDown := true, queue := [], scheduled := {}, room := q.room.ringAll }

/-! ## Ends of passes -/

/-- The failures of a key after a pass. A success, and a failure that waits for a change, end the
back-off of the key. -/
def account (q : WorkQueue κ) (k : κ) : Except Retry Requeue → WorkQueue κ
  | .ok _ | .error .awaitChange => q.forget k
  | .error (.after _) => q
  | .error .backoff => q.recordFailure k

/-- The delay after which the end of a pass asks for another one, if it does. -/
def askedDelay? (q : WorkQueue κ) (k : κ) : Except Retry Requeue → Option Duration
  | .ok .awaitChange | .error .awaitChange => none
  | .ok .immediate => some Duration.zero
  | .ok (.after delay) | .error (.after delay) => some delay
  | .error .backoff => some (q.retryDelay k)

/-- What the end of a pass asks for is scheduled. -/
def conclude (q : WorkQueue κ) (now : Nat) (k : κ) (outcome : Except Retry Requeue) :
    WorkQueue κ :=
  let q := q.account k outcome
  match q.askedDelay? k outcome with
  | none => q
  | some delay => q.addAfter now k delay

/-- The alarm that goes off next. Of several with one deadline it is the one set first. -/
def nextAlarm? (q : WorkQueue κ) : Option (Alarm κ) :=
  q.alarms.foldl (fun best a =>
    match best with
    | none => some a
    | some b => if a.deadline < b.deadline then some a else some b) none

end WorkQueue

end ClusterOperator
