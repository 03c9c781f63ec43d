/-!
# Logs

A log is a list of events, each with the time at which it happened. Where
calls overlap, what the second of them does is logged after what the first
does, though it may have happened before. So a log is told in the order of
time, not in its own.

## Main definitions

* `Event`: Something that happened at a time.
* `Event.upTo`: The events that happened by a time.
* `Event.inOrder`: What happened, in the order of time.
-/

namespace PullTriage

namespace Gh

/-- Something that happened at a time. -/
structure Event (α : Type) where
  /-- The milliseconds that had passed. -/
  time : Nat
  /-- What happened. -/
  what : α
deriving DecidableEq, Repr

namespace Event

variable {α : Type}

/-- The events that happened by a time. -/
def upTo (time : Nat) (log : List (Event α)) : List (Event α) :=
  log.filter fun e => e.time ≤ time

/-- What happened, in the order of time. What happened at one time stays in
    the order of the log. -/
def inOrder (log : List (Event α)) : List α :=
  (log.mergeSort fun a b => a.time ≤ b.time).map Event.what

end Event

end Gh

end PullTriage
