import ClusterOperator.Text.Decimal

/-!
# Numbers that are too large

A number that is no word of 64 bits is kept as a double. It is computed from its leading digits, as
many as fit a word, and from a power of ten: both are rounded to doubles, and then their product
is. So a number beside the greatest double may be too large although its exact value is not, and
the other way round.

* `nearestDouble` : the double next to a whole number;
* `Significand` : leading digits and a power of ten, `Significand.read`;
* `isTooLarge` : a number with these digits and this exponent rounds to no finite double.
-/

namespace ClusterOperator.Json

open Text.Decimal (digitValue?)

def wordMax : Nat := 18446744073709551615

/-- The double next to a whole number, of two that are as near the even one. Doubles have 53
bits, and their range is left out of account. -/
def nearestDouble (n : Nat) : Nat :=
  let unit := Nat.pow 2 (n.log2 - 52)
  let low := n / unit
  let rest := n % unit
  if 2 * rest < unit ∨ (2 * rest = unit ∧ low % 2 = 0) then low * unit else (low + 1) * unit

/-- The number `value` times ten to the power of `exponent`. -/
structure Significand where
  value : Nat := 0
  exponent : Int := 0
  deriving DecidableEq, Repr

namespace Significand

/-- A digit more, if the value still fits a word. -/
def push? (s : Significand) (digit : Char) : Option Significand :=
  let value := 10 * s.value + (digitValue? digit).getD 0
  if value ≤ wordMax then some { s with value } else none

/-- The digits of a whole number follow. From the first one on that does not fit, each counts as a
factor of ten. -/
def pushWhole (s : Significand) : List Char → Significand
  | [] => s
  | d :: rest =>
    match s.push? d with
    | some t => t.pushWhole rest
    | none => { s with exponent := s.exponent + (rest.length + 1) }

/-- The digits of a fraction follow. From the first one on that does not fit, none counts. -/
def pushFraction (s : Significand) : List Char → Significand
  | [] => s
  | d :: rest =>
    match s.push? d with
    | some t => pushFraction { t with exponent := t.exponent - 1 } rest
    | none => s

/-- What the digits before and behind a point, and an exponent, come to. -/
def read (whole fraction : List Char) (exponent : Int) : Significand :=
  let s := (pushWhole {} whole).pushFraction fraction
  { s with exponent := s.exponent + exponent }

end Significand

/-- The exponent of the greatest power of ten that is a double. -/
def largestExponent : Nat := 308

/-- The least number that rounds to no finite double. -/
def doubleLimit : Nat := Nat.pow 2 1024 - Nat.pow 2 970

/-- A number with the digits `whole` before the point, `fraction` behind it, and this exponent is
too large for a double. -/
def isTooLarge (whole fraction : List Char) (exponent : Int) : Bool :=
  let s := Significand.read whole fraction exponent
  if s.value = 0 ∨ s.exponent < 0 then false
  else
    s.exponent > largestExponent ||
      doubleLimit ≤ nearestDouble s.value * nearestDouble (Nat.pow 10 s.exponent.toNat)

end ClusterOperator.Json
