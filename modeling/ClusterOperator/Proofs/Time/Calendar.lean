import ClusterOperator.Time.Calendar

/-!
# Days and dates

Every number of days is that of one date, and the date exists.

* `Date.Position` : where a day stands in its era: centuries, spans of four years, years and days;
  `Date.exists_position`, every day has such a place;
* `Date.yearOfEra_eq`, `Date.dayOfYear_eq` : the year and the day of the year, by that place;
* `Date.exists_ofYearDay` : the date of a number of days is a day of a year that begins in March;
* `Date.toDays_ofDays`, `Date.isValid_ofDays` : the date of a number of days has that number, and
  exists.
-/

namespace ClusterOperator.Date

/-! ## The place of a day in its era -/

/-- The day `n` of an era of 400 years stands so many centuries, spans of four years, years and days
after the start. Years begin in March, so only the last year of a span has a day 365, and the last
span of a century has it only at the end of the era. -/
structure Position (n century span year day : Int) : Prop where
  sum : n = 36524 * century + 1461 * span + 365 * year + day
  century_mem : 0 ≤ century ∧ century ≤ 3
  span_mem : 0 ≤ span ∧ span ≤ 24
  year_mem : 0 ≤ year ∧ year ≤ 3
  day_mem : 0 ≤ day ∧ day ≤ 365
  leap : day = 365 → year = 3 ∧ (span = 24 → century = 3)

theorem exists_position {n : Int} (h0 : 0 ≤ n) (h : n < daysPerEra) :
    ∃ century span year day, Position n century span year day := by
  unfold daysPerEra at h
  have hcentury : ∃ c m, n = 36524 * c + m ∧ 0 ≤ c ∧ c ≤ 3 ∧ 0 ≤ m ∧ m ≤ 36524 ∧
      (m = 36524 → c = 3) := by
    by_cases hlast : n = 146096
    · exact ⟨3, 36524, by omega, by omega, by omega, by omega, by omega, fun _ => rfl⟩
    · exact ⟨n / 36524, n % 36524, by omega, by omega, by omega, by omega, by omega, by omega⟩
  obtain ⟨c, m, hn, hc0, hc3, hm0, hm, hlast⟩ := hcentury
  have hyear : ∃ y d, m % 1461 = 365 * y + d ∧ 0 ≤ y ∧ y ≤ 3 ∧ 0 ≤ d ∧ d ≤ 365 ∧
      (d = 365 → y = 3) := by
    by_cases hleap : m % 1461 = 1460
    · exact ⟨3, 365, by omega, by omega, by omega, by omega, by omega, fun _ => rfl⟩
    · exact ⟨m % 1461 / 365, m % 1461 % 365, by omega, by omega, by omega, by omega, by omega,
        by omega⟩
  obtain ⟨y, d, hsum, hy0, hy3, hd0, hd, hleap⟩ := hyear
  refine ⟨c, m / 1461, y, d, by omega, ⟨hc0, hc3⟩, by omega, ⟨hy0, hy3⟩, ⟨hd0, hd⟩, fun h365 => ?_⟩
  refine ⟨hleap h365, fun hspan => hlast ?_⟩
  have := hleap h365
  omega

section

variable {n century span year day : Int}

/-- The year of the era. The days of a year are spread a little wider than its length, by the leap
days so far. -/
theorem yearOfEra_eq (h : Position n century span year day) :
    (n - n / 1460 + n / 36524 - n / 146096) / 365 = 100 * century + 4 * span + year := by
  obtain ⟨hn, ⟨hc0, hc3⟩, ⟨hs0, hs24⟩, ⟨hy0, hy3⟩, ⟨hd0, hd⟩, hleap⟩ := h
  have hcenturies : n / 36524 - n / 146096 = century := by
    have hcount : n / 36524 = century ∧ n < 146096 ∨ n = 146096 ∧ century = 3 := by omega
    rcases hcount with ⟨hc, hlt⟩ | ⟨rfl, rfl⟩
    · rw [hc]
      omega
    · rfl
  have hspans : n / 1460 = 25 * century + span ∨
      n / 1460 = 25 * century + span + 1 ∧ 0 < day := by omega
  have hlast : day = 365 → n / 1460 = 25 * century + span + 1 := by omega
  omega

theorem dayOfYear_eq (h : Position n century span year day) :
    n - (365 * (100 * century + 4 * span + year) + (100 * century + 4 * span + year) / 4 -
      (100 * century + 4 * span + year) / 100) = day := by
  obtain ⟨hn, ⟨hc0, hc3⟩, ⟨hs0, hs24⟩, ⟨hy0, hy3⟩, -, -⟩ := h
  have hspans : (100 * century + 4 * span + year) / 4 = 25 * century + span := by omega
  have hcenturies : (100 * century + 4 * span + year) / 100 = century := by omega
  omega

end

/-! ## Dates -/

/-- The day `day` of the year that begins in March of the year `year`, counted from zero. -/
def ofYearDay (year day : Int) : Date :=
  let monthFromMarch := (5 * day + 2) / 153
  let month := if monthFromMarch < 10 then monthFromMarch + 3 else monthFromMarch - 9
  { year := if month ≤ 2 then year + 1 else year
    month := month.toNat
    day := (day - (153 * monthFromMarch + 2) / 5 + 1).toNat }

/-- The days from the 1st of March of the year zero to that of another year. -/
def daysBefore (year : Int) : Int :=
  year / 400 * daysPerEra + (year % 400 * 365 + year % 400 / 4 - year % 400 / 100)

theorem daysBefore_of_position {n century span year day : Int}
    (h : Position n century span year day) (era : Int) :
    daysBefore (100 * century + 4 * span + year + era * 400) + day = era * daysPerEra + n := by
  obtain ⟨hn, ⟨hc0, hc3⟩, ⟨hs0, hs24⟩, ⟨hy0, hy3⟩, -, -⟩ := h
  have hera : (100 * century + 4 * span + year + era * 400) / 400 = era := by omega
  have hyear : (100 * century + 4 * span + year + era * 400) % 400 =
      100 * century + 4 * span + year := by omega
  have hspans : (100 * century + 4 * span + year) / 4 = 25 * century + span := by omega
  have hcenturies : (100 * century + 4 * span + year) / 100 = century := by omega
  rw [daysBefore, hera, hyear, hspans, hcenturies, hn]
  omega

/-- The year that begins in a March ends with the 29th of February of the next. -/
theorem isLeap_of_position {n century span year day : Int}
    (h : Position n century span year day) (hday : day = 365) (era : Int) :
    isLeap (100 * century + 4 * span + year + era * 400 + 1) := by
  obtain ⟨hyear, hspan⟩ := h.leap hday
  obtain ⟨-, ⟨hc0, hc3⟩, ⟨hs0, hs24⟩, -, -, -⟩ := h
  simp only [isLeap, Bool.and_eq_true, Bool.or_eq_true, decide_eq_true_eq]
  refine ⟨by omega, ?_⟩
  by_cases hlast : span = 24
  · have := hspan hlast
    exact .inr (by omega)
  · exact .inl (by omega)

theorem exists_ofYearDay (days : Int) : ∃ year day, ofDays days = ofYearDay year day ∧
    days = daysBefore year + day - daysToEpoch ∧ 0 ≤ day ∧ day ≤ 365 ∧
    (day = 365 → isLeap (year + 1)) := by
  have hn0 : 0 ≤ (days + daysToEpoch) % daysPerEra := Int.emod_nonneg _ (by decide)
  have hn : (days + daysToEpoch) % daysPerEra < daysPerEra := Int.emod_lt_of_pos _ (by decide)
  have hsplit := Int.mul_ediv_add_emod (days + daysToEpoch) daysPerEra
  obtain ⟨century, span, year, day, h⟩ := exists_position hn0 hn
  have hyear := yearOfEra_eq h
  have hday := dayOfYear_eq h
  refine ⟨100 * century + 4 * span + year + (days + daysToEpoch) / daysPerEra * 400, day, ?_, ?_,
    h.day_mem.1, h.day_mem.2, fun hleap => isLeap_of_position h hleap _⟩
  · unfold ofDays ofYearDay
    simp only [hyear, hday]
  · rw [daysBefore_of_position h, Int.mul_comm, hsplit]
    omega

theorem exists_month {day : Int} (h0 : 0 ≤ day) (h : day ≤ 365) : ∃ month rest : Nat,
    month < 12 ∧ (5 * day + 2) / 153 = month ∧ day = (153 * (month : Int) + 2) / 5 + rest := by
  refine ⟨((5 * day + 2) / 153).toNat,
    (day - (153 * ((5 * day + 2) / 153) + 2) / 5).toNat, ?_, ?_, ?_⟩ <;> omega

/-- January and February belong to the year that began in March. -/
theorem ofYearDay_eq {year day : Int} {month rest : Nat} (hmonth : month < 12)
    (hquot : (5 * day + 2) / 153 = month)
    (hday : day = (153 * (month : Int) + 2) / 5 + rest) :
    ofYearDay year day =
      { year := if month < 10 then year else year + 1
        month := if month < 10 then month + 3 else month - 9
        day := rest + 1 } := by
  have hrest : (day - (153 * (month : Int) + 2) / 5 + 1).toNat = rest + 1 := by omega
  unfold ofYearDay
  simp only [hquot, hrest]
  by_cases hlate : month < 10
  · have hmon : ((month : Int) + 3).toNat = month + 3 := by omega
    rw [if_pos (show (month : Int) < 10 by omega), if_neg (show ¬(month : Int) + 3 ≤ 2 by omega),
      if_pos hlate, if_pos hlate, hmon]
  · have hmon : ((month : Int) - 9).toNat = month - 9 := by omega
    rw [if_neg (show ¬(month : Int) < 10 by omega), if_pos (show (month : Int) - 9 ≤ 2 by omega),
      if_neg hlate, if_neg hlate, hmon]

theorem toDays_ofYearDay {year day : Int} (h0 : 0 ≤ day) (h : day ≤ 365) :
    toDays (ofYearDay year day) = daysBefore year + day - daysToEpoch := by
  obtain ⟨month, rest, hmonth, hquot, hday⟩ := exists_month h0 h
  rw [ofYearDay_eq hmonth hquot hday]
  unfold toDays daysBefore
  by_cases hlate : month < 10
  · have hmon : (((month + 3 : Nat) + 9) % 12 : Int) = month := by omega
    simp only [if_pos hlate, if_neg (show ¬month + 3 ≤ 2 by omega), hmon]
    omega
  · have hmon : (((month - 9 : Nat) + 9) % 12 : Int) = month := by omega
    have hyear : year + 1 - 1 = year := by omega
    simp only [if_neg hlate, if_pos (show month - 9 ≤ 2 by omega), hmon, hyear]
    omega

/-- The days of the month are those that the next month's start leaves. -/
theorem daysInMonth_of_month {year day : Int} {month rest : Nat} (h : day ≤ 365)
    (hleap : day = 365 → isLeap (year + 1)) (hmonth : month < 12)
    (hquot : (5 * day + 2) / 153 = month)
    (hday : day = (153 * (month : Int) + 2) / 5 + rest) :
    rest + 1 ≤ daysInMonth (if month < 10 then year else year + 1)
      (if month < 10 then month + 3 else month - 9) := by
  match month, hmonth with
  | 0, _ | 1, _ | 2, _ | 3, _ | 4, _ | 5, _ | 6, _ | 7, _ | 8, _ | 9, _ | 10, _ =>
    show rest + 1 ≤ _
    simp only [daysInMonth, Nat.reduceLT, Nat.reduceAdd, Nat.reduceSub, if_true, if_false]
    omega
  | 11, _ =>
    show rest + 1 ≤ if isLeap (year + 1) then 29 else 28
    split
    · omega
    · next hnot =>
      have : day ≠ 365 := fun h365 => hnot (hleap h365)
      omega

theorem isValid_ofYearDay {year day : Int} (h0 : 0 ≤ day) (h : day ≤ 365)
    (hleap : day = 365 → isLeap (year + 1)) : (ofYearDay year day).isValid := by
  obtain ⟨month, rest, hmonth, hquot, hday⟩ := exists_month h0 h
  rw [ofYearDay_eq hmonth hquot hday]
  simp only [isValid, Bool.and_eq_true, decide_eq_true_eq]
  exact ⟨by omega, daysInMonth_of_month h hleap hmonth hquot hday⟩

/-! ## There and back -/

theorem toDays_ofDays (days : Int) : toDays (ofDays days) = days := by
  obtain ⟨year, day, hdate, hdays, h0, h, -⟩ := exists_ofYearDay days
  rw [hdate, toDays_ofYearDay h0 h, ← hdays]

theorem isValid_ofDays (days : Int) : (ofDays days).isValid := by
  obtain ⟨year, day, hdate, -, h0, h, hleap⟩ := exists_ofYearDay days
  rw [hdate]
  exact isValid_ofYearDay h0 h hleap

end ClusterOperator.Date
