/-!
# Decimal numbers

* `digitChar`, `digitValue?` : one digit;
* `digits` : the decimal digits of a number, without leading zeros;
* `value` : the number that digits write, so `value (digits n) = n`;
* `signed` : a whole number with a minus when negative;
* `readUnsigned?` : digits with an optional plus, refused above a bound;
* `isReal` : the text is a number, maybe with a fraction and an exponent.
-/

namespace ClusterOperator.Text.Decimal

def digitChar (d : Nat) : Char :=
  Char.ofNat (48 + d)

def digitValue? (c : Char) : Option Nat :=
  if '0' ≤ c ∧ c ≤ '9' then some (c.toNat - 48) else none

/-- The decimal digits of `n`, the most significant first. -/
def digits (n : Nat) : List Char :=
  if n < 10 then [digitChar n] else digits (n / 10) ++ [digitChar (n % 10)]
  termination_by n

/-- The digits of `n` behind zeros up to a width of `w`. -/
def padded (w n : Nat) : List Char :=
  List.replicate (w - (digits n).length) '0' ++ digits n

/-- The number written by digits; other characters count as zero. -/
def value (s : List Char) : Nat :=
  s.foldl (fun n c => 10 * n + (digitValue? c).getD 0) 0

/-- A whole number with a minus when negative. -/
def signed (n : Int) : List Char :=
  if n < 0 then '-' :: digits n.natAbs else digits n.natAbs

/-- The characters are digits, and there is at least one. -/
def isDigits (s : List Char) : Bool :=
  !s.isEmpty && s.all fun c => (digitValue? c).isSome

/-- Digits with an optional plus in front, as a number of at most `max`. -/
def readUnsigned? (max : Nat) (s : List Char) : Option Nat :=
  let ds := match s with
    | '+' :: r => r
    | s => s
  if isDigits ds ∧ value ds ≤ max then some (value ds) else none

def withoutSign (s : List Char) : List Char :=
  match s with
  | '+' :: r | '-' :: r => r
  | s => s

/-- A number that may have a sign, a fraction and an exponent, or the name of one that has no
digits. -/
def isReal (s : List Char) : Bool :=
  let isDigit (c : Char) : Bool := (digitValue? c).isSome
  let s := withoutSign s
  let whole := s.takeWhile isDigit
  let (fraction, rest) := match s.drop whole.length with
    | '.' :: r => (r.takeWhile isDigit, r.dropWhile isDigit)
    | r => ([], r)
  ["inf", "infinity", "nan"].contains (String.ofList (s.map Char.toLower)) ||
    (!(whole ++ fraction).isEmpty && match rest with
      | [] => true
      | e :: exponent => e.toLower = 'e' && isDigits (withoutSign exponent))

theorem digitValue?_digitChar {d : Nat} (h : d < 10) : digitValue? (digitChar d) = some d := by
  have : ∀ d < 10, digitValue? (digitChar d) = some d := by decide
  exact this d h

theorem value_append_singleton (s : List Char) (c : Char) :
    value (s ++ [c]) = 10 * value s + (digitValue? c).getD 0 := by
  simp [value]

/-- Digits read back as the number they were written for. -/
@[simp] theorem value_digits (n : Nat) : value (digits n) = n := by
  induction n using Nat.strongRecOn with
  | ind n ih =>
    unfold digits
    split
    · next h => simp [value, digitValue?_digitChar h]
    · next h =>
      rw [value_append_singleton, ih (n / 10) (by omega),
        digitValue?_digitChar (Nat.mod_lt n (by decide))]
      simp only [Option.getD_some]
      omega

theorem digits_ne_nil (n : Nat) : digits n ≠ [] := by
  unfold digits
  split <;> simp

theorem isSome_digitValue?_of_mem_digits {n : Nat} {c : Char} (h : c ∈ digits n) :
    (digitValue? c).isSome := by
  induction n using Nat.strongRecOn with
  | ind n ih =>
    unfold digits at h
    split at h
    · next hn =>
      rw [List.mem_singleton.1 h, digitValue?_digitChar hn]
      rfl
    · next hn =>
      rcases List.mem_append.1 h with h | h
      · exact ih (n / 10) (by omega) h
      · rw [List.mem_singleton.1 h, digitValue?_digitChar (Nat.mod_lt n (by decide))]
        rfl

end ClusterOperator.Text.Decimal
