import ClusterOperator.Proofs.Text.Digits
import ClusterOperator.Proofs.Time.Calendar
import ClusterOperator.Time.Instant

/-!
# Times are read as they were written

One lemma for each part of a time, with the text that follows it:

* `readDigits?_digits`, `readPart?_padded`, `readYear?_yearText`, `readMark?_cons` : numbers, years
  and the marks between them;
* `readDate?_text`, `readFraction?_fractionText` : a date, and the fraction of a second;
* `Instant.read?_text` : a whole time, before or after the years of four digits too, and in a leap
  second.
-/

namespace ClusterOperator.Instant

open Text.Decimal (padded digits digitValue? value StopsDigits)

/-! ## Numbers and marks -/

theorem not_isBlank_of_digit {c : Char} (h : (digitValue? c).isSome) : ¬Text.isBlank c := by
  unfold digitValue? at h
  split at h
  · next hc =>
    have hlo : 48 ≤ c.toNat := hc.1
    have hhi : c.toNat ≤ 57 := hc.2
    simp only [Text.isBlank, Bool.or_eq_true, Bool.and_eq_true, decide_eq_true_eq]
    omega
  · cases h

theorem dropBlank_cons {c : Char} (h : ¬Text.isBlank c) (s : List Char) :
    Text.dropBlank (c :: s) = c :: s :=
  List.dropWhile_cons_of_neg h

theorem exists_padded (w n : Nat) : ∃ c s, padded w n = c :: s ∧ (digitValue? c).isSome :=
  Text.Decimal.exists_cons_of_digits (Text.Decimal.padded_ne_nil w n) fun _ =>
    Text.Decimal.isSome_digitValue?_of_mem_padded

theorem dropBlank_padded (w n : Nat) (rest : List Char) :
    Text.dropBlank (padded w n ++ rest) = padded w n ++ rest := by
  obtain ⟨c, s, hcs, hc⟩ := exists_padded w n
  rw [hcs]
  exact dropBlank_cons (not_isBlank_of_digit hc) _

/-- A scan of at most `width` digits reads all of them, where they fill the width or no digit
follows. -/
theorem readDigits?_padded {width w n : Nat} {rest : List Char}
    (hle : (padded w n).length ≤ width)
    (hstop : (padded w n).length = width ∨ StopsDigits rest) :
    readDigits? width (padded w n ++ rest) = some (n, rest) := by
  have hstop' : StopsDigits (rest.take (width - (padded w n).length)) := by
    rcases hstop with hfull | hrest
    · rw [hfull, Nat.sub_self, List.take_zero]
      exact Text.Decimal.stopsDigits_nil
    · exact hrest.take _
  unfold readDigits?
  rw [List.take_append, List.take_of_length_le hle, Text.Decimal.takeWhile_append
    (fun c hc => Text.Decimal.isSome_digitValue?_of_mem_padded hc) hstop']
  simp only [List.isEmpty_iff, Text.Decimal.padded_ne_nil, if_false, Text.Decimal.value_padded,
    List.drop_left]

theorem readPart?_padded {m n : Nat} (h : n ≤ m) (hmax : m < 100) (rest : List Char) :
    readPart? m (padded 2 n ++ rest) = some (n, rest) := by
  have hlt : n < Nat.pow 10 2 := Nat.lt_of_le_of_lt h hmax
  have hlen : (padded 2 n).length = 2 := Text.Decimal.length_padded hlt (by decide)
  unfold readPart?
  rw [dropBlank_padded, readDigits?_padded (by omega) (.inl hlen)]
  simp only [if_pos h]

theorem readMark?_cons {c : Char} (h : ¬Text.isBlank c) (rest : List Char) :
    readMark? c (c :: rest) = some rest := by
  unfold readMark?
  rw [dropBlank_cons h]
  simp only [if_true]

/-! ## Years and dates -/

theorem readYear?_minus (s : List Char) :
    readYear? ('-' :: s) = (readDigits? s.length s).map fun (n, rest) => (-(n : Int), rest) :=
  rfl

theorem readYear?_plus (s : List Char) :
    readYear? ('+' :: s) = (readDigits? s.length s).map fun (n, rest) => ((n : Int), rest) :=
  rfl

theorem readYear?_digit {c : Char} (h : (digitValue? c).isSome) (s : List Char) :
    readYear? (c :: s) = (readDigits? 4 (c :: s)).map fun (n, rest) => ((n : Int), rest) := by
  unfold readYear?
  rw [dropBlank_cons (not_isBlank_of_digit h)]
  split
  · next hminus =>
    rw [(List.cons.inj hminus).1] at h
    cases h
  · next hplus =>
    rw [(List.cons.inj hplus).1] at h
    cases h
  · rfl

/-- Without a sign a year has four digits, and behind a sign any number of them. -/
theorem readYear?_yearText (year : Int) {rest : List Char} (h : StopsDigits rest) :
    readYear? (yearText year ++ rest) = some (year, rest) := by
  have hsigned : readDigits? (padded 4 year.natAbs ++ rest).length
      (padded 4 year.natAbs ++ rest) = some (year.natAbs, rest) :=
    readDigits?_padded (by rw [List.length_append]; omega) (.inr h)
  unfold yearText
  by_cases hyear : 0 ≤ year ∧ year ≤ 9999
  · have hlt : year.natAbs < Nat.pow 10 4 := by
      show _ < 10000
      omega
    have hlen : (padded 4 year.natAbs).length = 4 := Text.Decimal.length_padded hlt (by decide)
    have hread : readDigits? 4 (padded 4 year.natAbs ++ rest) = some (year.natAbs, rest) :=
      readDigits?_padded (by omega) (.inl hlen)
    obtain ⟨c, s, hcs, hc⟩ := exists_padded 4 year.natAbs
    rw [if_pos hyear]
    rw [hcs, List.cons_append] at hread ⊢
    rw [readYear?_digit hc, hread]
    show some ((year.natAbs : Int), rest) = _
    rw [show (year.natAbs : Int) = year by omega]
  · rw [if_neg hyear]
    by_cases hneg : year < 0
    · rw [if_pos hneg, List.cons_append, readYear?_minus, hsigned]
      show some (-(year.natAbs : Int), rest) = _
      rw [show -(year.natAbs : Int) = year by omega]
    · rw [if_neg hneg, List.cons_append, readYear?_plus, hsigned]
      show some ((year.natAbs : Int), rest) = _
      rw [show (year.natAbs : Int) = year by omega]

theorem daysInMonth_le (year : Int) (month : Nat) : Date.daysInMonth year month ≤ 31 := by
  have hfebruary : (if Date.isLeap year then 29 else 28) ≤ 31 := by
    split <;> decide
  unfold Date.daysInMonth
  split <;> first | exact hfebruary | decide

theorem daysInMonth_of_lt (year : Int) {month : Nat} (h : 12 < month) :
    Date.daysInMonth year month = 0 := by
  unfold Date.daysInMonth
  split <;> omega

theorem month_le_of_isValid {d : Date} (h : d.isValid) : d.month ≤ 12 ∧ d.day ≤ 31 := by
  simp only [Date.isValid, Bool.and_eq_true, decide_eq_true_eq] at h
  obtain ⟨hday, hdays⟩ := h
  constructor
  · apply Nat.le_of_not_lt
    intro hlate
    rw [daysInMonth_of_lt _ hlate] at hdays
    omega
  · exact Nat.le_trans hdays (daysInMonth_le _ _)

theorem readDate?_text {d : Date} (h : d.isValid) (rest : List Char) :
    readDate? (yearText d.year ++ '-' :: (padded 2 d.month ++ '-' :: (padded 2 d.day ++ rest))) =
      some (d, rest) := by
  obtain ⟨hmonth, hday⟩ := month_le_of_isValid h
  have hyear : ∀ s, readYear? (yearText d.year ++ '-' :: s) = some (d.year, '-' :: s) :=
    fun _ => readYear?_yearText d.year (Text.Decimal.stopsDigits_cons rfl)
  have hdash := fun s => readMark?_cons (c := '-') (by decide) s
  have hmonth := readPart?_padded hmonth (by decide) ('-' :: (padded 2 d.day ++ rest))
  have hday := readPart?_padded hday (by decide) rest
  unfold readDate?
  simp only [hyear, hdash, hmonth, hday, Option.bind_eq_bind, Option.bind_some]
  rfl

/-! ## Fractions -/

/-- Up to nine digits of a fraction are filled up with zeros. -/
theorem readFraction?_digits {w n nanos : Nat} (hw : 0 < w) (h9 : w ≤ 9) (h : n < Nat.pow 10 w)
    (hnanos : n * Nat.pow 10 (9 - w) = nanos) {rest : List Char} (hrest : StopsDigits rest) :
    readFraction? ('.' :: padded w n ++ rest) = some (nanos, rest) := by
  subst hnanos
  have hlen := Text.Decimal.length_padded h hw
  have htake : (padded w n).take 9 = padded w n := List.take_of_length_le (by omega)
  have hscan := Text.Decimal.takeWhile_append
    (fun c hc => Text.Decimal.isSome_digitValue?_of_mem_padded (w := w) (n := n) hc) hrest
  unfold readFraction?
  rw [List.cons_append]
  simp only [hscan, List.isEmpty_iff, Text.Decimal.padded_ne_nil, if_false, htake,
    Text.Decimal.value_padded, hlen, List.drop_left' hlen]

/-- As few groups of three digits as hold a fraction hold all of it. -/
theorem readFraction?_fractionText (nanos : Nat) :
    readFraction? (fractionText nanos ++ ['Z']) = some (nanos % nanosPerSec, ['Z']) := by
  have hz : StopsDigits ['Z'] := Text.Decimal.stopsDigits_cons rfl
  have hlt : nanos % nanosPerSec < 1000000000 := Nat.mod_lt _ (by decide)
  unfold fractionText
  simp only
  generalize nanos % nanosPerSec = n at hlt
  split
  · next h0 =>
    rw [h0]
    rfl
  · split
    · have hmillis : n / 1000000 < Nat.pow 10 3 := by
        show _ < 1000
        omega
      have hsame : n / 1000000 * 1000000 = n := by omega
      exact readFraction?_digits (by decide) (by decide) hmillis hsame hz
    · split
      · have hmicros : n / 1000 < Nat.pow 10 6 := by
          show _ < 1000000
          omega
        have hsame : n / 1000 * 1000 = n := by omega
        exact readFraction?_digits (by decide) (by decide) hmicros hsame hz
      · exact readFraction?_digits (by decide) (by decide) hlt (Nat.mul_one n) hz

/-! ## Instants -/

/-- The second 60 is the second 59 with a billion nanoseconds more. -/
theorem leap_of_isInstant (t : Instant) (second : Nat)
    (h : (t.secs % 86400).toNat % 60 + (if t.nanos ≥ nanosPerSec then 1 else 0) = second) :
    second ≤ 60 ∧ min second 59 = (t.secs % 86400).toNat % 60 ∧
      (if second = 60 then nanosPerSec else 0) + t.nanos % nanosPerSec = t.nanos := by
  obtain ⟨-, -, hnanos⟩ := t.isInstant
  unfold nanosPerSec at *
  by_cases hleap : t.nanos ≥ 1000000000
  · rw [if_pos hleap] at h
    have h60 : second = 60 := by omega
    rw [if_pos h60]
    exact ⟨by omega, by omega, by omega⟩
  · rw [if_neg hleap] at h
    have h60 : second ≠ 60 := by omega
    rw [if_neg h60]
    exact ⟨by omega, by omega, by omega⟩

theorem ofParts?_secs_nanos (t : Instant) : ofParts? t.secs t.nanos = some t := by
  unfold ofParts?
  rw [dif_pos t.isInstant]

theorem toList_text (t : Instant) {second : Nat}
    (h : (t.secs % 86400).toNat % 60 + (if t.nanos ≥ nanosPerSec then 1 else 0) = second) :
    t.text.toList = yearText (Date.ofDays (t.secs / 86400)).year ++
      '-' :: (padded 2 (Date.ofDays (t.secs / 86400)).month ++
      '-' :: (padded 2 (Date.ofDays (t.secs / 86400)).day ++
      'T' :: (padded 2 ((t.secs % 86400).toNat / 3600) ++
      ':' :: (padded 2 ((t.secs % 86400).toNat / 60 % 60) ++
      ':' :: (padded 2 second ++ (fractionText t.nanos ++ ['Z'])))))) := by
  rw [text, String.toList_ofList, ← h]
  simp only [secondsText, List.append_assoc, List.cons_append]

theorem read?_text (t : Instant) : read? t.text.toList = some t := by
  obtain ⟨hfirst, hlast, -⟩ := t.isInstant
  generalize hsec : (t.secs % 86400).toNat % 60 + (if t.nanos ≥ nanosPerSec then 1 else 0) = second
  obtain ⟨hsecond, hmin, hleap⟩ := leap_of_isInstant t second hsec
  have hvalid := Date.isValid_ofDays (t.secs / 86400)
  have hdays := Date.toDays_ofDays (t.secs / 86400)
  rw [toList_text t hsec]
  generalize Date.ofDays (t.secs / 86400) = d at *
  have hdate := readDate?_text hvalid
  have hhour := readPart?_padded (n := (t.secs % 86400).toNat / 3600) (m := 23)
    (by omega) (by decide)
  have hminute := readPart?_padded (n := (t.secs % 86400).toNat / 60 % 60) (m := 59)
    (by omega) (by decide)
  have hsixty := readPart?_padded (n := second) (m := 60) hsecond (by decide)
  have hcolon := fun s => readMark?_cons (c := ':') (by decide) s
  have hoffset : readOffset? (Text.dropBlank ['Z']) = some (0, []) := rfl
  have hlocal : t.secs / 86400 * 86400 + (((t.secs % 86400).toNat / 3600 * 3600 +
      (t.secs % 86400).toNat / 60 % 60 * 60 + (t.secs % 86400).toNat % 60 : Nat) : Int) =
      t.secs := by
    omega
  unfold read?
  simp only [hdate, hhour, hminute, hsixty, hcolon, readFraction?_fractionText, hoffset, hdays,
    hmin, hleap, hlocal, Option.bind_eq_bind, Option.bind_some, true_or, if_true]
  rw [if_pos ⟨rfl, hvalid, by decide⟩, if_pos ⟨hfirst, hlast⟩, Int.sub_zero, ofParts?_secs_nanos]

end ClusterOperator.Instant
