/-!
# Waiting rooms

Tasks that find nothing to do wait until somebody rings for one of them. A ring that finds nobody
waiting is kept as one permit for the next task that comes, so none is lost.

* `WaitingRoom` : the permit, the waiting tasks, and the woken ones that have not run yet;
* `ring`, `ringAll` : one task is woken, the one that has waited longest, or all of them are;
* `takePermit`, `enter` : a task comes to look, takes the permit, and waits;
* `leave` : a task goes away, and passes on the ring that woke it;
* `resume` : a woken task runs.
-/

namespace ClusterOperator

/-- The tasks that wait for work, each known by a number. -/
structure WaitingRoom where
  /-- A ring that nobody has taken yet. -/
  permit : Bool := false
  /-- The tasks that wait, the one that has waited longest first. -/
  waiting : List Nat := []
  /-- The tasks that a ring has woken and that have not run since, the first woken first. -/
  woken : List Nat := []
  deriving DecidableEq, Repr

namespace WaitingRoom

/-- One task is woken; without one the ring is kept. -/
def ring (r : WaitingRoom) : WaitingRoom :=
  match r.waiting with
  | [] => { r with permit := true }
  | t :: rest => { r with waiting := rest, woken := r.woken ++ [t] }

/-- Every waiting task is woken; no ring is kept. -/
def ringAll (r : WaitingRoom) : WaitingRoom :=
  { r with waiting := [], woken := r.woken ++ r.waiting }

/-- A task comes to look for work and takes the permit. -/
def takePermit (r : WaitingRoom) : WaitingRoom :=
  { r with permit := false }

/-- A task that found no work waits. -/
def enter (r : WaitingRoom) (task : Nat) : WaitingRoom :=
  { r with waiting := r.waiting ++ [task] }

def resume (r : WaitingRoom) (task : Nat) : WaitingRoom :=
  { r with woken := r.woken.erase task }

/-- A task goes away. One that was woken and has not run passes the ring on. -/
def leave (r : WaitingRoom) (task : Nat) : WaitingRoom :=
  if task ∈ r.woken then (r.resume task).ring
  else { r with waiting := r.waiting.erase task }

end WaitingRoom

end ClusterOperator
