import ClusterOperator.Proofs.Queue.Retries
import ClusterOperator.Settings

/-!
# How far delays double

A delay is the first one, doubled with each failure after the first, up to the longest. It doubles
no more once `BackoffPolicy.maxDoublings` is reached, which shows if the longest delay lies beyond.

* `BackoffPolicy.doubled` : the delay that keeps doubling, in nanoseconds without bound;
* `BackoffPolicy.nanos_delayFor_of_le`, `BackoffPolicy.nanos_delayFor_of_lt` : the delay up to the
  last doubling, and after it;
* `delayFor_doubled_iff` : when a delay is what doubling makes it;
* `delayFor_stalls` : a delay that is not.
-/

namespace ClusterOperator

namespace BackoffPolicy

variable (p : BackoffPolicy) {n : Nat}

/-- The nanoseconds of the first delay, doubled with each failure after the first, up to those of
the longest. -/
def doubled (n : Nat) : Nat :=
  min (p.base.nanos * Nat.pow 2 (n - 1)) p.longest.nanos

theorem nanos_delayFor_of_le (h : n - 1 ≤ maxDoublings) : (p.delayFor n).nanos = p.doubled n := by
  rw [nanos_delayFor, Nat.min_eq_left h, doubled]

theorem nanos_delayFor_of_lt (h : maxDoublings < n - 1) :
    (p.delayFor n).nanos = min (p.base.nanos * Nat.pow 2 maxDoublings) p.longest.nanos := by
  rw [nanos_delayFor, Nat.min_eq_right (Nat.le_of_lt h)]

/-- Past the last doubling that is made, the product would be twice as great at least. -/
theorem two_mul_le_of_lt (h : maxDoublings < n - 1) :
    2 * (p.base.nanos * Nat.pow 2 maxDoublings) ≤ p.base.nanos * Nat.pow 2 (n - 1) := by
  have hpow : Nat.pow 2 (maxDoublings + 1) ≤ Nat.pow 2 (n - 1) :=
    Nat.pow_le_pow_right (by decide) h
  calc 2 * (p.base.nanos * Nat.pow 2 maxDoublings)
      = p.base.nanos * Nat.pow 2 (maxDoublings + 1) := by
        rw [Nat.mul_left_comm, Nat.mul_comm 2]
        rfl
    _ ≤ p.base.nanos * Nat.pow 2 (n - 1) := Nat.mul_le_mul_left _ hpow

end BackoffPolicy

/-- A delay is never longer than doubling without bound makes it, and exactly that unless there are
more failures than doublings, the first delay is not zero, and the longest delay is longer than the
last doubling makes it. -/
theorem delayFor_doubled_iff (p : BackoffPolicy) (n : Nat) :
    (p.delayFor n).nanos ≤ p.doubled n ∧
    ((p.delayFor n).nanos = p.doubled n ↔
      n - 1 ≤ BackoffPolicy.maxDoublings ∨ p.base.nanos = 0 ∨
        p.longest.nanos ≤ p.base.nanos * Nat.pow 2 BackoffPolicy.maxDoublings) := by
  by_cases h : n - 1 ≤ BackoffPolicy.maxDoublings
  · have heq := p.nanos_delayFor_of_le h
    exact ⟨Nat.le_of_eq heq, iff_of_true heq (Or.inl h)⟩
  · have hlt : BackoffPolicy.maxDoublings < n - 1 := Nat.lt_of_not_le h
    have htwice := p.two_mul_le_of_lt hlt
    have hproduct : p.base.nanos = 0 → p.base.nanos * Nat.pow 2 (n - 1) = 0 := by
      intro hbase
      rw [hbase, Nat.zero_mul]
    have hlast : p.base.nanos ≤ p.base.nanos * Nat.pow 2 BackoffPolicy.maxDoublings :=
      Nat.le_mul_of_pos_right _ (Nat.pow_pos (by decide))
    rw [p.nanos_delayFor_of_lt hlt, BackoffPolicy.doubled]
    generalize p.base.nanos * Nat.pow 2 BackoffPolicy.maxDoublings = last at *
    generalize p.base.nanos * Nat.pow 2 (n - 1) = product at *
    omega

/-- With a first delay of a millisecond and a longest of ten million seconds, which settings may ask
for, the delay after the 33rd failure is the one after the 32nd. -/
theorem delayFor_stalls :
    ¬ ∀ (p : BackoffPolicy) (n : Nat), 1 ≤ n → (p.delayFor n).nanos = p.doubled n := by
  intro h
  have hgrown := h (RequeueSettings.backoff ⟨30, 5, 1, 10000000⟩) 33 (by decide)
  exact absurd hgrown (by decide)

end ClusterOperator
