import ClusterOperator.Queue.WorkQueue

/-!
# The pool of workers

A fixed number of workers drains the queue. Each asks for a key, makes a pass over it, hands the
outcome to the queue and asks again. Once the queue is shut down a worker that asks is told to
stop, so passes in flight are finished and no other is started.

* `Pool` : the queue and what each worker does;
* `Pool.ask` : a worker asks for a key;
* `Pool.endPass`, `Pool.account`, `Pool.schedule`, `Pool.release` : the pass of a worker ends, and
  what it asks for is scheduled; `Pool.finish`, all of them;
* `Pool.isDrained` : no worker is left.

A pass that crashes takes its worker with it, and its key stays in processing.
-/

namespace ClusterOperator

inductive Worker (κ : Type) where
  /-- It asks for a key, or waits for one. -/
  | asking
  /-- It makes a pass over a key. -/
  | working (k : κ)
  /-- Its pass over a key returned. -/
  | returned (k : κ) (outcome : Except Retry Requeue)
  /-- The failures of its key are accounted for, and another pass is due after a delay, if any. -/
  | accounted (k : κ) (delay : Option Duration)
  /-- All that its pass asked for is scheduled. -/
  | scheduled (k : κ)
  /-- It was told that there is nothing any more. -/
  | stopped
  /-- Its pass crashed. -/
  | crashed
  deriving Repr

inductive PassEnd where
  | returned (outcome : Except Retry Requeue)
  | crashed

structure Pool (κ : Type) where
  queue : WorkQueue κ
  workers : List (Worker κ)

namespace Pool

variable {κ : Type} [DecidableEq κ]

/-- A pool of `size` workers, but one at least, over an empty queue. -/
def ofSize (policy : BackoffPolicy) (size : Nat) : Pool κ where
  queue := { policy }
  workers := List.replicate (max size 1) .asking

/-- A worker that asks gets a key and starts a pass, or waits, or stops. -/
def ask (p : Pool κ) (worker : Nat) : Pool κ :=
  match p.workers[worker]? with
  | some .asking =>
    match p.queue.poll worker with
    | (.key k, queue) => ⟨queue, p.workers.set worker (.working k)⟩
    | (.pending, queue) => ⟨queue, p.workers⟩
    | (.shutDown, queue) => ⟨queue, p.workers.set worker .stopped⟩
  | _ => p

def endPass (p : Pool κ) (worker : Nat) (ending : PassEnd) : Pool κ :=
  match p.workers[worker]?, ending with
  | some (.working _), .crashed => { p with workers := p.workers.set worker .crashed }
  | some (.working k), .returned outcome =>
    { p with workers := p.workers.set worker (.returned k outcome) }
  | _, _ => p

def account (p : Pool κ) (worker : Nat) : Pool κ :=
  match p.workers[worker]? with
  | some (.returned k outcome) =>
    let queue := p.queue.account k outcome
    ⟨queue, p.workers.set worker (.accounted k (queue.askedDelay? k outcome))⟩
  | _ => p

/-- A worker schedules the pass that is due, if any. A delay that reaches past the end of the clock
crashes the worker, and then `addAfter` would leave the queue alone. -/
def schedule (p : Pool κ) (now worker : Nat) : Pool κ :=
  match p.workers[worker]? with
  | some (.accounted k none) => { p with workers := p.workers.set worker (.scheduled k) }
  | some (.accounted k (some delay)) =>
    if now + delay.nanos < clockEnd then
      ⟨p.queue.addAfter now k delay, p.workers.set worker (.scheduled k)⟩
    else { p with workers := p.workers.set worker .crashed }
  | _ => p

/-- A worker is done with its key and asks again. -/
def release (p : Pool κ) (worker : Nat) : Pool κ :=
  match p.workers[worker]? with
  | some (.scheduled k) => ⟨p.queue.done k, p.workers.set worker .asking⟩
  | _ => p

/-- The pass of a worker ends, and what it asks for is scheduled. -/
def finish (p : Pool κ) (now worker : Nat) (ending : PassEnd) : Pool κ :=
  (((p.endPass worker ending).account worker).schedule now worker).release worker

theorem finish_returned {p : Pool κ} {now worker : Nat} {k : κ} {outcome : Except Retry Requeue}
    (h : p.workers[worker]? = some (.working k))
    (fits : ((p.queue.account k outcome).askedDelay? k outcome).all (now + ·.nanos < clockEnd)) :
    p.finish now worker (.returned outcome) =
      ⟨(p.queue.conclude now k outcome).done k, p.workers.set worker .asking⟩ := by
  have hlt : worker < p.workers.length := (List.getElem?_eq_some_iff.1 h).1
  simp only [finish, endPass, h, account, hlt, List.getElem?_set_self, List.set_set]
  cases e : (p.queue.account k outcome).askedDelay? k outcome with
  | none => simp [schedule, release, WorkQueue.conclude, e, hlt]
  | some delay =>
    have hd : now + delay.nanos < clockEnd := by simpa [e] using fits
    simp [schedule, release, WorkQueue.conclude, e, hlt, hd]

def inFlight (p : Pool κ) : List κ :=
  p.workers.filterMap fun
    | .working k => some k
    | _ => none

def isDrained (p : Pool κ) : Bool :=
  p.workers.all fun
    | .stopped | .crashed => true
    | _ => false

end Pool

end ClusterOperator
