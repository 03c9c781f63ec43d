import PullTriage.Instant.Basic
import PullTriage.Instant.Calendar

/-!
# Writing Instants

An instant is written as a date and a time of day in universal time, with as
many digits of the fraction as it needs in groups of three. In a leap second
the number of the second is one higher than that of the second before it,
which is 60 at the end of a minute and elsewhere that of the next second.
Years of four digits are written plainly and all others with a sign.

Two forms differ in what stands between the parts: for readers a space and
the name of the time zone, in data a letter on either side.

## Main definitions

* `padded`: A number with leading zeros.
* `Instant.display`: An instant as it is shown.
* `Instant.stamp`: An instant as it stands in data.
-/

namespace PullTriage

namespace Instant

/-- The number in decimal with leading zeros up to the given width. -/
def padded (width n : Nat) : List Char :=
  let digits := Nat.toDigits 10 n
  List.replicate (width - digits.length) '0' ++ digits

/-- The year, with a sign unless it has at most four digits and none is
    needed. -/
def yearText (year : Int) : List Char :=
  if 0 ≤ year ∧ year ≤ 9999 then padded 4 year.toNat
  else (if year < 0 then '-' else '+') :: padded 4 year.natAbs

/-- The date with hyphens. -/
def dateText (d : Date) : List Char :=
  yearText d.year ++ '-' :: (padded 2 d.month ++ '-' :: padded 2 d.day)

/-- The nanoseconds behind a point, in milliseconds or microseconds if that
    is exact, and nothing if there are none. -/
def fractionText (nanos : Nat) : List Char :=
  if nanos = 0 then []
  else if nanos % 1000000 = 0 then '.' :: padded 3 (nanos / 1000000)
  else if nanos % 1000 = 0 then '.' :: padded 6 (nanos / 1000)
  else '.' :: padded 9 nanos

/-- The time of day, given by its second and the nanoseconds into it. -/
def timeText (secondOfDay nanos : Nat) : List Char :=
  let isLong := 1000000000 ≤ nanos
  let second := secondOfDay % 60 + (if isLong then 1 else 0)
  padded 2 (secondOfDay / 3600) ++ ':' :: (padded 2 (secondOfDay / 60 % 60) ++ ':' ::
    (padded 2 second ++ fractionText (if isLong then nanos - 1000000000 else nanos)))

/-- The date of the instant. -/
def date (t : Instant) : Date :=
  Date.ofNumber (t.seconds / 86400)

/-- The second of the day. -/
def secondOfDay (t : Instant) : Nat :=
  (t.seconds % 86400).toNat

/-- The instant as it is shown. -/
def display (t : Instant) : String :=
  String.ofList (dateText t.date ++ ' ' :: (timeText t.secondOfDay t.nanos ++ [' ', 'U', 'T', 'C']))

/-- The instant as it stands in data. -/
def stamp (t : Instant) : String :=
  String.ofList (dateText t.date ++ 'T' :: (timeText t.secondOfDay t.nanos ++ ['Z']))

end Instant

end PullTriage
