import ClusterOperator.Text.Decimal
import Mathlib.Data.List.Basic
import Mathlib.Data.List.TakeDrop

/-!
# Digits that are written and scanned

* `length_digits_le`, `length_padded` : how many digits a number has;
* `head?_digits_ne_zero` : more than one digit never starts with a zero;
* `value_padded` : zeros in front do not count;
* `StopsDigits` : a text does not go on with a digit; `takeWhile_append` and `span_append` : a scan
  for digits then stops where they end.
-/

namespace ClusterOperator.Text.Decimal

def StopsDigits (rest : List Char) : Prop :=
  ∀ c ∈ rest.head?, (digitValue? c).isNone

theorem stopsDigits_nil : StopsDigits [] := by
  intro c hc
  cases hc

theorem stopsDigits_cons {c : Char} {rest : List Char} (h : (digitValue? c).isNone) :
    StopsDigits (c :: rest) := by
  intro x hx
  rw [List.head?_cons, Option.mem_some_iff] at hx
  rw [← hx]
  exact h

theorem StopsDigits.take {rest : List Char} (h : StopsDigits rest) (n : Nat) :
    StopsDigits (rest.take n) := by
  intro c hc
  apply h c
  rw [List.head?_take] at hc
  split at hc
  · cases hc
  · exact hc

/-! ## How many digits -/

theorem length_digits_le {w n : Nat} (h : n < Nat.pow 10 w) (hw : 0 < w) :
    (digits n).length ≤ w := by
  induction w generalizing n with
  | zero => omega
  | succ w ih =>
    replace h : n < Nat.pow 10 w * 10 := h
    unfold digits
    split
    · exact hw
    · next hn =>
      have hpos : 0 < w := by
        apply Nat.pos_of_ne_zero
        rintro rfl
        exact hn h
      have hlt : n / 10 < Nat.pow 10 w := by omega
      have := ih hlt hpos
      rw [List.length_append, List.length_singleton]
      omega

theorem length_padded {w n : Nat} (h : n < Nat.pow 10 w) (hw : 0 < w) :
    (padded w n).length = w := by
  have := length_digits_le h hw
  rw [padded, List.length_append, List.length_replicate]
  omega

theorem head?_digits {n : Nat} (h : 0 < n) : (digits n).head? ≠ some '0' := by
  induction n using Nat.strongRecOn with
  | ind n ih =>
    unfold digits
    split
    · next hn =>
      have hall : ∀ d < 10, 0 < d → digitChar d ≠ '0' := by decide
      intro h0
      exact hall n hn h (Option.some.inj h0)
    · rw [List.head?_append_of_ne_nil _ (digits_ne_nil _)]
      exact ih (n / 10) (by omega) (by omega)

theorem head?_digits_ne_zero {n : Nat} (h : 1 < (digits n).length) :
    (digits n).head? ≠ some '0' := by
  apply head?_digits
  apply Nat.pos_of_ne_zero
  intro h0
  rw [h0, show digits 0 = ['0'] by unfold digits; rfl] at h
  exact absurd h (by decide)

/-! ## Padding -/

theorem isSome_digitValue?_of_mem_padded {w n : Nat} {c : Char} (h : c ∈ padded w n) :
    (digitValue? c).isSome := by
  rcases List.mem_append.1 h with h | h
  · rw [List.eq_of_mem_replicate h]
    rfl
  · exact isSome_digitValue?_of_mem_digits h

theorem padded_ne_nil (w n : Nat) : padded w n ≠ [] := by
  intro h
  exact digits_ne_nil n (List.append_eq_nil_iff.1 h).2

theorem value_zeros_append (k : Nat) (s : List Char) :
    value (List.replicate k '0' ++ s) = value s := by
  induction k with
  | zero => rfl
  | succ k ih =>
    rw [List.replicate_succ, List.cons_append, ← ih]
    rfl

@[simp] theorem value_padded (w n : Nat) : value (padded w n) = n := by
  rw [padded, value_zeros_append, value_digits]

/-! ## Scanning -/

theorem exists_cons_of_digits {ds : List Char} (hne : ds ≠ [])
    (h : ∀ c ∈ ds, (digitValue? c).isSome) : ∃ c s, ds = c :: s ∧ (digitValue? c).isSome := by
  obtain ⟨c, s, rfl⟩ := List.exists_cons_of_ne_nil hne
  exact ⟨c, s, rfl, h c List.mem_cons_self⟩

theorem takeWhile_append {ds rest : List Char} (h : ∀ c ∈ ds, (digitValue? c).isSome)
    (hrest : StopsDigits rest) :
    (ds ++ rest).takeWhile (fun c => (digitValue? c).isSome) = ds := by
  rw [List.takeWhile_append_of_pos h]
  suffices hnil : rest.takeWhile (fun c => (digitValue? c).isSome) = [] by
    rw [hnil, List.append_nil]
  match rest, hrest with
  | [], _ => rfl
  | c :: _, hrest =>
    have hc := hrest c rfl
    rw [List.takeWhile_cons_of_neg]
    rw [Option.isNone_iff_eq_none.1 hc]
    decide

theorem span_append {ds rest : List Char} (h : ∀ c ∈ ds, (digitValue? c).isSome)
    (hrest : StopsDigits rest) :
    (ds ++ rest).span (fun c => (digitValue? c).isSome) = (ds, rest) := by
  have hdrop : (ds ++ rest).dropWhile (fun c => (digitValue? c).isSome) = rest := by
    have hsplit := List.takeWhile_append_dropWhile
      (p := fun c => (digitValue? c).isSome) (l := ds ++ rest)
    rw [takeWhile_append h hrest] at hsplit
    exact List.append_cancel_left hsplit
  rw [List.span_eq_takeWhile_dropWhile, takeWhile_append h hrest, hdrop]

end ClusterOperator.Text.Decimal
