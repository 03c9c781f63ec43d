/-!
# Instants

When a pull request was opened is an instant in universal time, to the
nanosecond. It is a count of whole seconds since the start of 1970 and a
count of nanoseconds into that second.

A leap second has no number of its own in the count of seconds. An instant in
one has the number of the second before it and a billion nanoseconds or more.
Leap seconds that were ever put in lie behind the last second of a minute, but
an instant can be said to lie in one behind any second. Instants are ordered
by their seconds first, so a leap second lies between its neighbours.

The calendar that instants are written in covers the years from -262143 to
262142, and no instant lies outside of it.

## Main definitions

* `Instant`: An instant in universal time.
* `ofParts?`: The instant with given seconds and nanoseconds.
* `earliest`: The first instant of the calendar.
* `value`: The nanoseconds since the start of 1970.
-/

namespace PullTriage

/-- An instant in universal time. -/
structure Instant where
  /-- The whole seconds since the start of 1970. -/
  seconds : Int
  /-- The nanoseconds into the second, a billion or more in a leap second. -/
  nanos : Nat
  /-- The instant is not before the first day of the calendar. -/
  first_le : -8334601228800 ≤ seconds := by decide
  /-- The instant is not after the last day of the calendar. -/
  le_last : seconds ≤ 8210266876799 := by decide
  /-- A second is at most two billion nanoseconds long. -/
  nanos_lt : nanos < 2000000000 := by decide
deriving DecidableEq, Repr

namespace Instant

instance : LE Instant :=
  ⟨fun a b => a.seconds < b.seconds ∨ (a.seconds = b.seconds ∧ a.nanos ≤ b.nanos)⟩

instance (a b : Instant) : Decidable (a ≤ b) :=
  inferInstanceAs (Decidable (_ ∨ _))

/-- The instant with the given seconds and nanoseconds, if there is one. -/
def ofParts? (seconds : Int) (nanos : Nat) : Option Instant :=
  if h : (-8334601228800 ≤ seconds ∧ seconds ≤ 8210266876799) ∧ nanos < 2000000000 then
    some ⟨seconds, nanos, h.1.1, h.1.2, h.2⟩
  else none

/-- The first instant of the calendar. -/
def earliest : Instant where
  seconds := -8334601228800
  nanos := 0

/-- The nanoseconds since the start of 1970. In a leap second they run into
    those of the next second. -/
def value (t : Instant) : Int :=
  t.seconds * 1000000000 + t.nanos

end Instant

end PullTriage
