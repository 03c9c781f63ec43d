import PullTriage.Instant.Basic

/-!
# The Recency Window

A run may be limited to the pull requests of the last so many minutes. The
window is then bounded below by an instant, and pull requests opened at it or
before it are left alone. A window that reaches back past the start of the
calendar is bounded by that start, so a longer window never shows less.

The bound is worked out with numbers of a machine. The minutes have to fit
into 64 bits with a sign, and so do the seconds that they make. A span of time
is limited once more, to as many milliseconds as fit into 64 bits with a sign.
And the calendar has a first day. A window that is too long for any of these
is bounded by the start of the calendar.

## Main definitions

* `signed?`: A number that fits into 64 bits with a sign.
* `spanOfMinutes?`: The seconds of a span of minutes.
* `secondsBefore?`: The instant so many seconds earlier.
* `createdAfter`: The bound of a window.
-/

namespace PullTriage

namespace Instant

/-- The number, if it fits into 64 bits with a sign. -/
def signed? (n : Nat) : Option Nat :=
  if n < Nat.pow 2 63 then some n else none

/-- The most seconds that a span of time can have. Its milliseconds fit into
    64 bits with a sign. -/
def longestSpan : Nat := (Nat.pow 2 63 - 1) / 1000

/-- The seconds of a span of minutes, if there is a span of that length. -/
def spanOfMinutes? (minutes : Nat) : Option Nat := do
  let minutes ← signed? minutes
  let seconds ← signed? (60 * minutes)
  if seconds ≤ longestSpan then some seconds else none

/-- The instant the given seconds before `t`, if the calendar reaches back so
    far. Going back from a leap second starts at the second that it runs into,
    except by nothing, which leaves the leap second as it is. -/
def secondsBefore? (t : Instant) (seconds : Nat) : Option Instant :=
  if seconds = 0 then some t
  else if t.nanos < 1000000000 then ofParts? (t.seconds - seconds) t.nanos
  else ofParts? (t.seconds + 1 - seconds) (t.nanos - 1000000000)

/-- The instant after which pull requests are recent, `minutes` before
    `now`. -/
def createdAfter (now : Instant) (minutes : Nat) : Instant :=
  ((spanOfMinutes? minutes).bind now.secondsBefore?).getD earliest

end Instant

end PullTriage
