/-!
# Hexadecimal digits

* `digitValue?` : the value of one digit;
* `value?` : the number that digits write.
-/

namespace ClusterOperator.Text.Hexadecimal

/-- The value of a hexadecimal digit of either case. -/
def digitValue? (c : Char) : Option Nat :=
  if '0' ≤ c ∧ c ≤ '9' then some (c.toNat - 48)
  else if 'a' ≤ c ∧ c ≤ 'f' then some (c.toNat - 87)
  else if 'A' ≤ c ∧ c ≤ 'F' then some (c.toNat - 55)
  else none

/-- The number that digits write, the most significant first; none when there is another
character. -/
def value? (s : List Char) : Option Nat :=
  s.foldlM (fun n c => (digitValue? c).map (16 * n + ·)) 0

end ClusterOperator.Text.Hexadecimal
