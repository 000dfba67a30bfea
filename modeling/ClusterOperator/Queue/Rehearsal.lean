import ClusterOperator.Queue.Pool

/-!
# Rehearsals of the queue and of the pool

A queue or a pool is run on a clock that moves only when nothing is left to do at the present
time.

* `QueueBench` : a queue with tasks that wait for keys, and `QueueBench.advance`, its clock;
* `PoolBench` : a pool whose passes follow a script, with the trace of their starts and ends;
* `PoolBench.runUntil` : the pool up to a time, `PoolBench.drain` : the pool shut down then.

Times are nanoseconds since the start of the clock.
-/

namespace ClusterOperator

/-! ## A queue with waiting tasks -/

structure QueueBench (κ : Type) where
  queue : WorkQueue κ
  now : Nat := 0
  /-- The number of tasks so far. -/
  tasks : Nat := 0
  /-- What the tasks since the last collection got, if anything. -/
  waiters : List (Nat × Polled κ) := []

namespace QueueBench

variable {κ : Type} [DecidableEq κ]

def note (b : QueueBench κ) (task : Nat) (polled : Polled κ) : QueueBench κ :=
  { b with waiters := b.waiters.map fun (t, p) => if t = task then (t, polled) else (t, p) }

def ask (b : QueueBench κ) (task : Nat) : QueueBench κ :=
  let (polled, queue) := b.queue.poll task
  note { b with queue } task polled

/-- Every woken task runs. -/
def settle (b : QueueBench κ) : QueueBench κ :=
  b.queue.room.woken.foldl ask b

/-- The queue changes, and the woken tasks run. -/
def change (b : QueueBench κ) (f : WorkQueue κ → WorkQueue κ) : QueueBench κ :=
  settle { b with queue := f b.queue }

/-- A new task asks for a key and waits until it gets one. -/
def wait (b : QueueBench κ) : QueueBench κ :=
  ask { b with tasks := b.tasks + 1, waiters := b.waiters ++ [(b.tasks, .pending)] } b.tasks

/-- A new task asks for a key once, and gives up when there is none. -/
def askOnce (b : QueueBench κ) : Polled κ × QueueBench κ :=
  let (polled, queue) := b.queue.poll b.tasks
  let queue := match polled with
    | .pending => queue.abandon b.tasks
    | _ => queue
  (polled, settle { b with queue, tasks := b.tasks + 1 })

def collect (b : QueueBench κ) : List (Polled κ) × QueueBench κ :=
  (b.waiters.map (·.2), { b with waiters := [] })

/-- The clock moves to `target`; the alarms up to then go off in the order of their deadlines. -/
def moveTo (target : Nat) : Nat → QueueBench κ → QueueBench κ
  | 0, b => { b with now := max b.now target }
  | n + 1, b =>
    match b.queue.nextAlarm? with
    | some a =>
      if a.deadline ≤ target then
        moveTo target n (change { b with now := max b.now a.deadline } (·.sound a))
      else { b with now := max b.now target }
    | none => { b with now := max b.now target }

def advance (b : QueueBench κ) (delay : Duration) : QueueBench κ :=
  b.moveTo (b.now + delay.nanos) b.queue.alarms.length

end QueueBench

/-! ## A pool with scripted passes -/

/-- A pass of a script: the time that it takes, and how it ends. -/
structure ScriptedPass where
  take : Duration := Duration.zero
  ending : PassEnd := .returned (.ok .awaitChange)

/-- What happens to a pool from outside. -/
inductive PoolSignal (κ : Type) where
  | add (k : κ)
  | addAfter (k : κ) (delay : Duration)
  | shutDown

structure SleepingPass where
  wakeAt : Nat
  worker : Nat
  ending : PassEnd

/-- The start or the end of a pass. -/
structure TraceEntry (κ : Type) where
  time : Nat
  key : κ
  isStart : Bool
  deriving DecidableEq, Repr

/-- Entries are listed by time, and then by key. -/
def TraceEntry.isBefore {κ : Type} (le : κ → κ → Bool) (a b : TraceEntry κ) : Bool :=
  a.time < b.time || (a.time = b.time && le a.key b.key)

structure PoolBench (κ : Type) where
  pool : Pool κ
  script : Dict κ (List ScriptedPass) := {}
  /-- What is still to happen, in the order of time. -/
  signals : List (Nat × PoolSignal κ) := []
  now : Nat := 0
  sleeping : List SleepingPass := []
  /-- The starts and ends so far, the last one first. -/
  trace : List (TraceEntry κ) := []

namespace PoolBench

variable {κ : Type} [DecidableEq κ]

def passesLeft (b : PoolBench κ) : Nat :=
  b.script.entries.foldl (fun n (_, passes) => n + passes.length) 0

def note (b : PoolBench κ) (key : κ) (isStart : Bool) : PoolBench κ :=
  { b with trace := ⟨b.now, key, isStart⟩ :: b.trace }

/-- The next pass of a key; an empty one when the script is used up. -/
def nextPass (b : PoolBench κ) (key : κ) : ScriptedPass × PoolBench κ :=
  match b.script.get? key with
  | some (p :: rest) => (p, { b with script := b.script.insert key rest })
  | _ => ({}, b)

def finish (b : PoolBench κ) (worker : Nat) (key : κ) (ending : PassEnd) : PoolBench κ :=
  let b := b.note key false
  { b with pool := b.pool.finish b.now worker ending }

/-- A worker asks for keys and makes their passes until it has to wait. -/
def turn (worker : Nat) : Nat → PoolBench κ → PoolBench κ
  | 0, b => b
  | n + 1, b =>
    let b : PoolBench κ := { b with pool := b.pool.ask worker }
    match b.pool.workers[worker]? with
    | some (.working key) =>
      let (pass, b) := (b.note key true).nextPass key
      if pass.take.nanos = 0 then turn worker n (b.finish worker key pass.ending)
      else { b with sleeping := b.sleeping ++ [⟨b.now + pass.take.nanos, worker, pass.ending⟩] }
    | _ => b

/-- More passes than can be made at one time: those that are queued, and those that the script
puts back. -/
def passBound (b : PoolBench κ) : Nat :=
  b.pool.queue.queue.length + b.passesLeft + 1

def settle : Nat → PoolBench κ → PoolBench κ
  | 0, b => b
  | n + 1, b =>
    match b.pool.queue.room.woken with
    | [] => b
    | worker :: _ => settle n (turn worker b.passBound b)

def rest (b : PoolBench κ) : PoolBench κ :=
  settle (b.pool.queue.room.woken.length + b.passBound) b

def start (b : PoolBench κ) : PoolBench κ :=
  (List.range b.pool.workers.length).foldl (fun b worker => turn worker b.passBound b) b

def signal (b : PoolBench κ) (s : PoolSignal κ) : PoolBench κ :=
  let queue := match s with
    | .add k => b.pool.queue.add k
    | .addAfter k delay => b.pool.queue.addAfter b.now k delay
    | .shutDown => b.pool.queue.shutDown
  rest { b with pool := { b.pool with queue } }

def sound (b : PoolBench κ) (a : Alarm κ) : PoolBench κ :=
  rest { b with pool := { b.pool with queue := b.pool.queue.sound a } }

def wake (b : PoolBench κ) (s : SleepingPass) : PoolBench κ :=
  match b.pool.workers[s.worker]? with
  | some (.working key) =>
    let b := b.finish s.worker key s.ending
    (turn s.worker b.passBound b).rest
  | _ => b

/-- The sleeping pass that ends next, and the others. Of several that end at one time the one
that fell asleep first counts. -/
def takeSleeper : List SleepingPass → Option (SleepingPass × List SleepingPass)
  | [] => none
  | s :: rest =>
    match takeSleeper rest with
    | none => some (s, [])
    | some (first, others) =>
      if s.wakeAt ≤ first.wakeAt then some (s, rest) else some (first, s :: others)

inductive Next (κ : Type) where
  | alarm (a : Alarm κ)
  | wake (s : SleepingPass) (others : List SleepingPass)
  | signal (time : Nat) (s : PoolSignal κ) (others : List (Nat × PoolSignal κ))

def Next.time : Next κ → Nat
  | .alarm a => a.deadline
  | .wake s _ => s.wakeAt
  | .signal t _ _ => t

/-- What happens next: the earliest of the alarms, the ends of passes and the signals. -/
def next? (b : PoolBench κ) : Option (Next κ) :=
  let alarm := b.pool.queue.nextAlarm?.map Next.alarm
  let wake := (takeSleeper b.sleeping).map fun (s, others) => Next.wake s others
  let signal := match b.signals with
    | [] => none
    | (t, s) :: others => some (Next.signal t s others)
  [alarm, wake, signal].foldl (fun best n =>
    match best, n with
    | none, n => n
    | some x, none => some x
    | some x, some y => if x.time ≤ y.time then some x else some y) none

/-- The clock moves to what happens next, and it happens. -/
def happen (b : PoolBench κ) (n : Next κ) : PoolBench κ :=
  let b : PoolBench κ := { b with now := max b.now n.time }
  match n with
  | .alarm a => b.sound a
  | .wake s others => wake { b with sleeping := others } s
  | .signal _ s others => signal { b with signals := others } s

/-- The time up to which a rehearsal goes on: no signal is left out. -/
def closingTime (b : PoolBench κ) (time : Nat) : Nat :=
  b.signals.foldl (fun t (signalTime, _) => max t signalTime) time

/-- What happens up to a time, in `n` steps at most. -/
def runUntil (time : Nat) : Nat → PoolBench κ → PoolBench κ
  | 0, b => b
  | n + 1, b =>
    match b.next? with
    | none => { b with now := max b.now time }
    | some x =>
      if x.time ≤ time then runUntil time n (b.happen x) else { b with now := max b.now time }

/-- More steps than can be made: each signal and each scripted pass makes a pass at most, which
ends once, and sets an alarm at most, which makes a pass. -/
def stepBound (b : PoolBench κ) : Nat :=
  4 * (b.signals.length + b.passesLeft) + 8

/-- The pool from its start up to a time. -/
def rehearse (b : PoolBench κ) (time : Nat) : PoolBench κ :=
  let b := b.start
  b.runUntil (b.closingTime time) b.stepBound

/-- The passes in flight end, in `n` steps at most. -/
def awaitSleepers : Nat → PoolBench κ → PoolBench κ
  | 0, b => b
  | n + 1, b =>
    match takeSleeper b.sleeping with
    | none => b
    | some (s, others) =>
      awaitSleepers n (wake { b with now := max b.now s.wakeAt, sleeping := others } s)

/-- The queue is shut down, and the passes in flight are awaited. -/
def drain (b : PoolBench κ) : PoolBench κ :=
  let b := b.signal .shutDown
  b.awaitSleepers b.sleeping.length

end PoolBench

end ClusterOperator
