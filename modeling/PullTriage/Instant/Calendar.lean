/-!
# The Calendar

Dates of the Gregorian calendar, extended to all years, and their numbers as
days since the start of 1970.

Both directions reckon in years that begin in March. The leap day is then the
last day of its year, the months before it have lengths that follow a fixed
pattern of 153 days in five months, and the number of days before a year is
the same formula for all years. Going back, a day is placed in its cycle of
400 years, in the century of that cycle, in the four years of that century,
and in the year. The last century of a cycle and the last year of four are
one day longer, which is why those two quotients are capped.

## Main definitions

* `Date`: A date by year, month and day.
* `isLeapYear`: Whether a year has a leap day.
* `daysInMonth`: The length of a month.
* `Date.IsValid`: The dates that exist.
* `Date.number`: The days from the start of 1970 to a date.
* `Date.ofNumber`: The date of a day.
-/

namespace PullTriage

/-- A date by year, month and day. -/
structure Date where
  /-- The year, which may be zero or negative. -/
  year : Int
  /-- The month, one to twelve. -/
  month : Nat
  /-- The day of the month, from one. -/
  day : Nat
deriving DecidableEq, Repr

/-- Whether the year has a leap day. -/
def isLeapYear (year : Int) : Bool :=
  year % 4 = 0 && (year % 100 ≠ 0 || year % 400 = 0)

/-- The length of a month of the year. -/
def daysInMonth (year : Int) (month : Nat) : Nat :=
  if month = 2 then (if isLeapYear year then 29 else 28)
  else if month = 4 ∨ month = 6 ∨ month = 9 ∨ month = 11 then 30
  else 31

namespace Date

/-- The months run from one to twelve and the days to the length of the
    month. -/
def IsValid (d : Date) : Prop :=
  (1 ≤ d.month ∧ d.month ≤ 12) ∧ 1 ≤ d.day ∧ d.day ≤ daysInMonth d.year d.month

instance (d : Date) : Decidable d.IsValid :=
  inferInstanceAs (Decidable (_ ∧ _))

/-- The days from the start of 1970 to the date. -/
def number (d : Date) : Int :=
  let year := if d.month ≤ 2 then d.year - 1 else d.year
  let month := (d.month + 9) % 12
  let dayOfYear : Int := ((153 * month + 2) / 5 + d.day : Nat) - 1
  365 * year + year / 4 - year / 100 + year / 400 + dayOfYear - 719468

/-- The date of the day with the given number. -/
def ofNumber (n : Int) : Date :=
  let shifted := n + 719468
  let cycle := shifted / 146097
  let dayOfCycle := (shifted % 146097).toNat
  let century := min (dayOfCycle / 36524) 3
  let dayOfCentury := dayOfCycle - 36524 * century
  let four := dayOfCentury / 1461
  let dayOfFour := dayOfCentury % 1461
  let one := min (dayOfFour / 365) 3
  let dayOfYear := dayOfFour - 365 * one
  let month := (5 * dayOfYear + 2) / 153
  let day := dayOfYear - (153 * month + 2) / 5 + 1
  let year := 400 * cycle + (100 * century + 4 * four + one : Nat)
  if month < 10 then ⟨year, month + 3, day⟩ else ⟨year + 1, month - 9, day⟩

end Date

end PullTriage
