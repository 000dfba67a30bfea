import ClusterOperator.Queue.WorkQueue

/-!
# Runs of the work queue

A queue is shared by any number of tasks. What a task does under the lock of the queue happens at
once, and between two such moments everybody else may have a turn, so a run is any order of them.
A rate-limited add counts the failure first and is a delayed add later, and an alarm that is over
leaves an add that is made later.

* `QueueEvent` : what happens to a queue, with `QueueEvent.signal?`, the key that is added;
* `QueueRun` : a queue, the time, the adds that alarms have left, and who holds which key;
* `QueueRun.occur?` : the run after an event, if the event can happen;
* `QueueRun.after?` : the run after several events.

A key is held by the task that it was handed to until that task is done with it, and nobody else
is done with it. Who asks for a delayed add whose deadline the clock does not read crashes, and the
queue does not notice.
-/

namespace ClusterOperator

inductive QueueEvent (κ : Type) where
  | add (k : κ)
  | addAfter (k : κ) (delay : Duration)
  /-- The first half of a rate-limited add. -/
  | countFailure (k : κ)
  | forget (k : κ)
  /-- An alarm whose time has come is over. -/
  | expire (a : Alarm κ)
  /-- The add that an alarm left is made. -/
  | ring (k : κ)
  /-- Time passes. -/
  | tick (nanos : Nat)
  /-- A task asks for a key and gets an answer. -/
  | next (task : Nat) (got : Polled κ)
  | abandon (task : Nat)
  /-- A task is done with a key that it holds. -/
  | done (task : Nat) (k : κ)
  | shutDown

namespace QueueEvent

variable {κ : Type}

/-- The key that an event adds at once. A delayed add without a delay is an add. -/
def signal? : QueueEvent κ → Option κ
  | .add k | .ring k => some k
  | .addAfter k delay => if delay.nanos = 0 then some k else none
  | _ => none

def handed? : QueueEvent κ → Option κ
  | .next _ (.key k) => some k
  | _ => none

/-- The task that asks, gives up asking, or is done. -/
def task? : QueueEvent κ → Option Nat
  | .next task _ | .abandon task | .done task _ => some task
  | _ => none

/-- No key is added, handed out or done. -/
def isQuiet : QueueEvent κ → Bool
  | .add _ | .ring _ | .next _ (.key _) | .done _ _ | .shutDown => false
  | .addAfter _ delay => delay.nanos ≠ 0
  | _ => true

theorem handed?_eq_some {e : QueueEvent κ} {k : κ} :
    e.handed? = some k ↔ ∃ task, e = .next task (.key k) := by
  cases e with
  | next task got => cases got <;> simp [handed?]
  | _ => simp [handed?]

theorem handed?_of_signal? {e : QueueEvent κ} {k : κ} (h : e.signal? = some k) :
    e.handed? = none := by
  cases e <;> first | rfl | cases h

end QueueEvent

/-- What every event preserves is preserved by several. -/
theorem invariant_of_foldlM {α ε : Type} {occur? : α → ε → Option α} {P : α → Prop}
    (hP : ∀ a b e, occur? a e = some b → P a → P b) {a b : α} {es : List ε}
    (h : es.foldlM occur? a = some b) (ha : P a) : P b := by
  induction es generalizing a with
  | nil => cases h; exact ha
  | cons e es ih =>
    rw [List.foldlM_cons] at h
    obtain ⟨c, hc, h⟩ := Option.bind_eq_some_iff.1 h
    exact ih h (hP a c e hc ha)

structure QueueRun (κ : Type) where
  queue : WorkQueue κ
  now : Nat := 0
  /-- The keys of the alarms that are over and have not made their adds. -/
  due : List κ := []
  /-- The tasks that hold keys, with the keys. -/
  held : List (Nat × κ) := []

namespace QueueRun

variable {κ : Type} [DecidableEq κ]

def start (policy : BackoffPolicy) : QueueRun κ where
  queue := { policy }

def occur? (s : QueueRun κ) : QueueEvent κ → Option (QueueRun κ)
  | .add k => some { s with queue := s.queue.add k }
  | .addAfter k delay => some { s with queue := s.queue.addAfter s.now k delay }
  | .countFailure k => some { s with queue := s.queue.recordFailure k }
  | .forget k => some { s with queue := s.queue.forget k }
  | .expire a =>
    if a ∈ s.queue.alarms ∧ a.deadline ≤ s.now then
      let (counts, queue) := s.queue.expire a
      some { s with queue, due := if counts then s.due ++ [a.key] else s.due }
    else none
  | .ring k =>
    if k ∈ s.due then some { s with queue := s.queue.add k, due := s.due.erase k } else none
  | .tick nanos => some { s with now := s.now + nanos }
  | .next task got =>
    let (polled, queue) := s.queue.poll task
    if polled = got then
      match got with
      | .key k => some { s with queue, held := s.held ++ [(task, k)] }
      | _ => some { s with queue }
    else none
  | .abandon task => some { s with queue := s.queue.abandon task }
  | .done task k =>
    if (task, k) ∈ s.held then
      some { s with queue := s.queue.done k, held := s.held.erase (task, k) }
    else none
  | .shutDown => some { s with queue := s.queue.shutDown }

def after? (s : QueueRun κ) (es : List (QueueEvent κ)) : Option (QueueRun κ) :=
  es.foldlM occur? s

@[simp] theorem after?_nil (s : QueueRun κ) : s.after? [] = some s := rfl

theorem after?_singleton (s : QueueRun κ) (e : QueueEvent κ) : s.after? [e] = s.occur? e := by
  simp [after?]

theorem after?_cons {s t : QueueRun κ} {e : QueueEvent κ} {es : List (QueueEvent κ)} :
    s.after? (e :: es) = some t ↔ ∃ u, s.occur? e = some u ∧ u.after? es = some t := by
  simp [after?, List.foldlM_cons, Option.bind_eq_some_iff]

theorem after?_append {s t : QueueRun κ} {es fs : List (QueueEvent κ)} :
    s.after? (es ++ fs) = some t ↔ ∃ u, s.after? es = some u ∧ u.after? fs = some t := by
  simp [after?, List.foldlM_append, Option.bind_eq_some_iff]

end QueueRun

end ClusterOperator
