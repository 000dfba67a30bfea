/-!
# Blank characters and trimming

* `isBlank` : the characters with the Unicode property White_Space;
* `trimChars` : characters without the blanks at both ends;
* `isBlankText` : nothing is left after trimming.
-/

namespace ClusterOperator.Text

/-- The characters with the Unicode property White_Space, and no others: the zero-width space,
the byte order mark and the control characters below tab are not blank. -/
def isBlank (c : Char) : Bool :=
  let n := c.toNat
  (0x9 ≤ n && n ≤ 0xd) || n = 0x20 || n = 0x85 || n = 0xa0 || n = 0x1680 ||
    (0x2000 ≤ n && n ≤ 0x200a) || n = 0x2028 || n = 0x2029 || n = 0x202f || n = 0x205f ||
    n = 0x3000

def dropBlank (s : List Char) : List Char :=
  s.dropWhile isBlank

def trimChars (s : List Char) : List Char :=
  (dropBlank (dropBlank s).reverse).reverse

/-- Nothing is left after trimming. -/
def isBlankText (s : String) : Bool :=
  s.toList.all isBlank

theorem dropBlank_eq_nil_iff {s : List Char} : dropBlank s = [] ↔ ∀ c ∈ s, isBlank c := by
  induction s with
  | nil => simp [dropBlank]
  | cons c r ih =>
    by_cases h : isBlank c
    · rw [dropBlank, List.dropWhile_cons_of_pos h, ← dropBlank, ih]
      simp [h]
    · simp [dropBlank, h]

/-- A text is blank exactly when trimming leaves nothing. -/
theorem trimChars_eq_nil_iff {s : List Char} : trimChars s = [] ↔ s.all isBlank := by
  have e : trimChars s = [] ↔ dropBlank s = [] := by
    constructor
    · intro h
      have h' : dropBlank (dropBlank s).reverse = [] := by
        simpa [trimChars] using h
      have hb := dropBlank_eq_nil_iff.1 h'
      match hs : dropBlank s with
      | [] => rfl
      | c :: r =>
        have hc : isBlank c := hb c (by rw [hs]; simp)
        have hn : isBlank c = false := by
          have := List.head?_dropWhile_not isBlank s
          rw [show s.dropWhile isBlank = c :: r from hs] at this
          simpa using this
        rw [hc] at hn
        cases hn
    · intro h
      simp [trimChars, h]
      rfl
  rw [e, dropBlank_eq_nil_iff, List.all_eq_true]

end ClusterOperator.Text
