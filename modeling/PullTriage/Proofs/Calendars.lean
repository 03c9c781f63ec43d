import PullTriage.Instant.Calendar

/-!
# Days and Dates

Every day has a date, the date exists, and its number is that of the day. A
day is first placed in its cycle of 400 years, in a century, in four years, in
a year that begins in March, and in that year. The sum of the days before it
in these five gives the day back, and the leap day is the last of the year, so
that it is there in leap years only.

## Main definitions

* `Date.ofMarch`: The date of a day in a year that begins in March.

## Theorems

* `Date.exists_ofNumber`: The place of a day in the calendar.
* `Date.number_ofNumber`: The number of the date of a day.
* `Date.isValid_ofNumber`: The date of a day exists.
* `Date.year_ofNumber`: The years of the calendar.
-/

namespace PullTriage

namespace Date

/-- The date of a day in a year that begins in March. The last two months of
    that year belong to the next one of the calendar. -/
def ofMarch (year : Int) (dayOfYear : Nat) : Date :=
  let month := (5 * dayOfYear + 2) / 153
  let day := dayOfYear - (153 * month + 2) / 5 + 1
  if month < 10 then ⟨year, month + 3, day⟩ else ⟨year + 1, month - 9, day⟩

/-- A day has a place in a cycle of 400 years, in a century, in four years, in
    a year and in the days of that year. A day 365 is in the last of four years,
    which are not the last of a century unless it is the last of a cycle. -/
theorem exists_ofNumber (n : Int) :
    ∃ (cycle : Int) (century four one dayOfYear : Nat),
      n + 719468 = 146097 * cycle + (36524 * century + 1461 * four + 365 * one + dayOfYear : Nat) ∧
      century ≤ 3 ∧ four ≤ 24 ∧ one ≤ 3 ∧ dayOfYear ≤ 365 ∧
      (dayOfYear = 365 → one = 3 ∧ (four < 24 ∨ century = 3)) ∧
      ofNumber n = ofMarch (400 * cycle + (100 * century + 4 * four + one : Nat)) dayOfYear := by
  have hday : ((n + 719468) % 146097).toNat < 146097 := by omega
  have hcycle : n + 719468 = 146097 * ((n + 719468) / 146097) + ((n + 719468) % 146097).toNat := by
    omega
  unfold ofNumber
  simp only
  generalize ((n + 719468) % 146097).toNat = dayOfCycle at hday hcycle ⊢
  -- The quotients are capped where the last part of a period is a day longer.
  have hcentury : min (dayOfCycle / 36524) 3 ≤ 3 := Nat.min_le_right _ _
  have hcap : min (dayOfCycle / 36524) 3 = 3 ∨
      dayOfCycle - 36524 * min (dayOfCycle / 36524) 3 < 36524 := by
    omega
  have hdayOfCentury : dayOfCycle - 36524 * min (dayOfCycle / 36524) 3 ≤ 36524 := by omega
  have hsplit : dayOfCycle = 36524 * min (dayOfCycle / 36524) 3
      + (dayOfCycle - 36524 * min (dayOfCycle / 36524) 3) := by omega
  generalize min (dayOfCycle / 36524) 3 = century at hcentury hcap hdayOfCentury hsplit ⊢
  generalize dayOfCycle - 36524 * century = dayOfCentury at hcap hdayOfCentury hsplit ⊢
  have hone : min (dayOfCentury % 1461 / 365) 3 ≤ 3 := Nat.min_le_right _ _
  have hdayOfYear : dayOfCentury % 1461 - 365 * min (dayOfCentury % 1461 / 365) 3 ≤ 365 := by
    omega
  have hlast : dayOfCentury % 1461 - 365 * min (dayOfCentury % 1461 / 365) 3 = 365 →
      min (dayOfCentury % 1461 / 365) 3 = 3 ∧ dayOfCentury % 1461 = 1460 := by omega
  have hsplit' : dayOfCentury % 1461 = 365 * min (dayOfCentury % 1461 / 365) 3
      + (dayOfCentury % 1461 - 365 * min (dayOfCentury % 1461 / 365) 3) := by omega
  generalize min (dayOfCentury % 1461 / 365) 3 = one at hone hdayOfYear hlast hsplit' ⊢
  generalize dayOfCentury % 1461 - 365 * one = dayOfYear at hdayOfYear hlast hsplit' ⊢
  exact ⟨_, century, dayOfCentury / 1461, one, dayOfYear, by omega, hcentury, by omega, hone,
    hdayOfYear, by omega, rfl⟩

/-- The days before a year are those of the cycles, the centuries, the four
    years and the years before it. -/
theorem days_before (cycle : Int) (century four one : Nat) (hcentury : century ≤ 3)
    (hfour : four ≤ 24) (hone : one ≤ 3) (year : Int)
    (h : year = 400 * cycle + (100 * century + 4 * four + one : Nat)) :
    365 * year + year / 4 - year / 100 + year / 400
      = 146097 * cycle + (36524 * century + 1461 * four + 365 * one : Nat) := by
  have hquarter : year / 4 = 100 * cycle + 25 * century + four := by omega
  have hhundredth : year / 100 = 4 * cycle + century := by omega
  have hcycle : year / 400 = cycle := by omega
  rw [hquarter, hhundredth, hcycle, h]
  omega

/-- The number of a date, from its place in a year that begins in March. -/
theorem number_ofMarch (year : Int) (dayOfYear : Nat) (h : dayOfYear ≤ 365) :
    (ofMarch year dayOfYear).number
      = 365 * year + year / 4 - year / 100 + year / 400 + dayOfYear - 719468 := by
  have hmonth : (5 * dayOfYear + 2) / 153 < 12 := by omega
  have hday : (153 * ((5 * dayOfYear + 2) / 153) + 2) / 5 ≤ dayOfYear := by omega
  unfold ofMarch number
  simp only
  generalize (5 * dayOfYear + 2) / 153 = month at hmonth hday ⊢
  by_cases hlate : month < 10
  · have hmod : (month + 3 + 9) % 12 = month := by omega
    rw [if_pos hlate]
    simp only [hmod]
    rw [if_neg (by omega)]
    omega
  · have hmod : (month - 9 + 9) % 12 = month := by omega
    rw [if_neg hlate]
    simp only [hmod, Int.add_sub_cancel]
    rw [if_pos (by omega)]
    omega

/-- The months of a year that begins in March have their lengths, and its last
    day is there if the next year of the calendar is a leap year. -/
theorem isValid_ofMarch (year : Int) (dayOfYear : Nat) (h : dayOfYear ≤ 365)
    (hleap : dayOfYear = 365 → isLeapYear (year + 1) = true) :
    (ofMarch year dayOfYear).IsValid := by
  unfold ofMarch IsValid daysInMonth
  by_cases hmonth : (5 * dayOfYear + 2) / 153 < 10
  · simp only [if_pos hmonth]
    rw [if_neg (by omega)]
    split <;> omega
  · simp only [if_neg hmonth]
    by_cases hlast : dayOfYear = 365
    · rw [hlast, hleap hlast]
      decide
    · split
      · split <;> omega
      · split <;> omega

/-- A day is the day of its date. -/
theorem number_ofNumber (n : Int) : (ofNumber n).number = n := by
  rcases exists_ofNumber n with
    ⟨cycle, century, four, one, dayOfYear, hn, hcentury, hfour, hone, hday, -, hdate⟩
  rw [hdate, number_ofMarch _ _ hday, days_before _ _ _ _ hcentury hfour hone _ rfl]
  omega

/-- The date of a day exists. -/
theorem isValid_ofNumber (n : Int) : (ofNumber n).IsValid := by
  rcases exists_ofNumber n with
    ⟨cycle, century, four, one, dayOfYear, -, hcentury, hfour, hone, hday, hlast, hdate⟩
  rw [hdate]
  refine isValid_ofMarch _ _ hday fun h => ?_
  have hyear := hlast h
  unfold isLeapYear
  simp only [Bool.and_eq_true, Bool.or_eq_true, decide_eq_true_eq]
  omega

/-- The days of the calendar have dates in its years. -/
theorem year_ofNumber (n : Int) (hfirst : -96465292 ≤ n) (hlast : n ≤ 95026236) :
    -262143 ≤ (ofNumber n).year ∧ (ofNumber n).year ≤ 262142 := by
  rcases exists_ofNumber n with
    ⟨cycle, century, four, one, dayOfYear, hn, hcentury, hfour, hone, hday, -, hdate⟩
  have hdays := days_before cycle century four one hcentury hfour hone _ rfl
  rw [hdate]
  generalize 400 * cycle + ((100 * century + 4 * four + one : Nat) : Int) = year at hdays ⊢
  -- The first and the last year are only partly in the calendar when they
  -- begin in March.
  have hfrom : year = -262144 ∨ -262143 ≤ year := by omega
  have hto : year = 262142 ∨ year ≤ 262141 := by omega
  unfold ofMarch
  by_cases hmonth : (5 * dayOfYear + 2) / 153 < 10
  · simp only [if_pos hmonth]
    omega
  · simp only [if_neg hmonth]
    omega

end Date

end PullTriage
