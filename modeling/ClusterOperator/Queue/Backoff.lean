import ClusterOperator.Dict
import ClusterOperator.Time.Duration

/-!
# Exponential back-off

* `BackoffPolicy` : the first delay and the longest;
* `BackoffPolicy.delayFor` : the delay after a number of failures in a row;
* `Failures` : the failures of each key since its last success, `next`, `forget`, `count`.
-/

namespace ClusterOperator

/-- The first delay and the longest. -/
structure BackoffPolicy where
  base : Duration := Duration.ofSecs 1
  longest : Duration := Duration.ofSecs 300
  deriving DecidableEq, Repr

namespace BackoffPolicy

def maxDoublings : Nat := 31

/-- The delay after `failures` failures in a row: the first delay, doubled with each failure after
the first, and the longest delay when that is shorter or the product is no duration. -/
def delayFor (p : BackoffPolicy) (failures : Nat) : Duration :=
  match p.base.times? (Nat.pow 2 (min (failures - 1) maxDoublings)) with
  | some d => min d p.longest
  | none => p.longest

end BackoffPolicy

/-- The failures of each key since its last success. -/
abbrev Failures (κ : Type) := Dict κ Nat

namespace Failures

variable {κ : Type} [DecidableEq κ]

def maxCount : Nat := 4294967295

def count (f : Failures κ) (k : κ) : Nat :=
  (f.get? k).getD 0

def record (f : Failures κ) (k : κ) : Failures κ :=
  f.insert k (min (f.count k + 1) maxCount)

def forget (f : Failures κ) (k : κ) : Failures κ :=
  f.erase k

theorem count_record (f : Failures κ) (k l : κ) :
    (f.record k).count l = if l = k then min (f.count k + 1) maxCount else f.count l := by
  simp only [count, record, Dict.get?_insert]
  split <;> rfl

theorem count_forget (f : Failures κ) (k l : κ) :
    (f.forget k).count l = if l = k then 0 else f.count l := by
  simp only [count, forget, Dict.get?_erase]
  split <;> rfl

end Failures

end ClusterOperator
