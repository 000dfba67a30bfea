/-!
# Durations

* `Duration` : a span of nanoseconds whose whole seconds fit 64 bits;
* `Duration.ofSecs`, `Duration.ofMillis` : spans of words of 64 bits;
* `Duration.ofMillis?` : a span of any number of milliseconds that fits;
* `Duration.times?` : a multiple, if it fits;
* `Duration.millis` : the whole milliseconds of a span.
-/

namespace ClusterOperator

def nanosPerSec : Nat := 1000000000

def nanosPerMilli : Nat := 1000000

def maxNanos : Nat := 18446744073709551616 * nanosPerSec - 1

structure Duration where
  nanos : Nat
  le_max : nanos ≤ maxNanos := by decide
  deriving DecidableEq, Repr

namespace Duration

@[ext] theorem ext {a b : Duration} (h : a.nanos = b.nanos) : a = b := by
  cases a
  cases b
  cases h
  rfl

instance : Inhabited Duration := ⟨{ nanos := 0 }⟩

instance : LE Duration := ⟨fun a b => a.nanos ≤ b.nanos⟩

instance : LT Duration := ⟨fun a b => a.nanos < b.nanos⟩

instance (a b : Duration) : Decidable (a ≤ b) := inferInstanceAs (Decidable (a.nanos ≤ b.nanos))

instance (a b : Duration) : Decidable (a < b) := inferInstanceAs (Decidable (a.nanos < b.nanos))

instance : Max Duration := maxOfLe

instance : Min Duration := minOfLe

theorem le_def {a b : Duration} : a ≤ b ↔ a.nanos ≤ b.nanos := Iff.rfl

def zero : Duration := { nanos := 0 }

def longest : Duration := { nanos := maxNanos, le_max := Nat.le_refl _ }

def ofSecs (s : UInt64) : Duration where
  nanos := s.toNat * nanosPerSec
  le_max := by
    have := s.toNat_lt
    simp only [maxNanos, nanosPerSec]
    omega

def ofMillis (ms : UInt64) : Duration where
  nanos := ms.toNat * nanosPerMilli
  le_max := by
    have := ms.toNat_lt
    simp only [maxNanos, nanosPerSec, nanosPerMilli]
    omega

/-- A span of whole milliseconds, if it is a duration. -/
def ofMillis? (ms : Nat) : Option Duration :=
  if h : ms * nanosPerMilli ≤ maxNanos then some ⟨ms * nanosPerMilli, h⟩ else none

/-- A multiple of a span, if it is a duration. -/
def times? (d : Duration) (n : Nat) : Option Duration :=
  if h : d.nanos * n ≤ maxNanos then some ⟨d.nanos * n, h⟩ else none

def millis (d : Duration) : Nat :=
  d.nanos / nanosPerMilli

@[simp] theorem nanos_ofSecs (s : UInt64) : (ofSecs s).nanos = s.toNat * nanosPerSec := rfl

@[simp] theorem nanos_ofMillis (ms : UInt64) : (ofMillis ms).nanos = ms.toNat * nanosPerMilli := rfl

theorem nanos_max (a b : Duration) : (max a b).nanos = max a.nanos b.nanos := by
  simp only [Max.max, le_def]
  split <;> rfl

theorem nanos_min (a b : Duration) : (min a b).nanos = min a.nanos b.nanos := by
  simp only [Min.min, le_def]
  split <;> rfl

end Duration

end ClusterOperator
