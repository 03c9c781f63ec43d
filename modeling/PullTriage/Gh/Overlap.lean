import PullTriage.Gh.Session

/-!
# Overlapping Runs of the Client Program

Nothing keeps one run of the client program from being started while another
has not ended. Two calls that begin at the same time are worked out in turn
from the same clock, the second with the clock put back to the beginning.

If both are answered, they take as long as the slower one. Otherwise the
failure that comes first is the failure of both, the one of the first call if
they come at the same time. The other call is broken off then: commands that
it would have started later are not started, and what it would have learned
later is not learned.

## Main definitions

* `Session.brokenOff`: A session whose calls were broken off.
* `Session.both`: Two calls that begin at the same time.
-/

namespace PullTriage

namespace Gh

namespace Session

variable {α β : Type}

/-- The session with its clock put to a time. -/
def atTime (time : Nat) (s : Session) : Session :=
  { s with clock := time }

/-- The session in which the calls that led from `before` to `after` were
    broken off at a time. -/
def brokenOff (before after : Session) (time : Nat) : Session :=
  { after with
    clock := time
    started := before.started ++ Event.upTo time (after.started.drop before.started.length)
    learned := before.learned ++ Event.upTo time (after.learned.drop before.learned.length) }

/-- Two calls that begin at the same time. -/
def both (c : Call Session α) (d : Call Session β) : Call Session (α × β) := fun s =>
  let (a, s₁) := c s
  let (b, s₂) := d (s₁.atTime s.clock)
  match a, b with
  | .ok a, .ok b => (.ok (a, b), s₂.atTime (max s₁.clock s₂.clock))
  | .ok _, .error g => (.error g, brokenOff s s₂ s₂.clock)
  | .error f, .ok _ => (.error f, brokenOff s s₂ s₁.clock)
  | .error f, .error g =>
    if s₁.clock ≤ s₂.clock then (.error f, brokenOff s s₂ s₁.clock)
    else (.error g, brokenOff s s₂ s₂.clock)

end Session

instance : Timeline Session where
  clock := Session.clock
  atTime := Session.atTime
  both := Session.both

end Gh

end PullTriage
