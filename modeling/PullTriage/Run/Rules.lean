import PullTriage.Classification
import PullTriage.Config.Basic
import PullTriage.TeamRules

/-!
# Rules of a Run

What a run reads off its configuration: how authors are classified, how teams
are labelled, whether labels are written, and how many pull requests are
worked on at once.

## Main definitions

* `Rules`: What a run depends on.
* `Rules.ofConfig`: The rules of a configuration.
-/

namespace PullTriage

/-- What a run depends on. -/
structure Rules where
  /-- How authors are classified. -/
  classifier : Classifier
  /-- How teams are labelled. -/
  teams : TeamRules
  /-- Whether labels are shown and not written. -/
  dryRun : Bool
  /-- How many pull requests are worked on at once. -/
  workers : Nat

/-- The rules of a configuration. -/
def Rules.ofConfig (c : Config) : Rules where
  classifier := ⟨c.policy, c.labelsMembers⟩
  teams := ⟨c.repository, c.teamLabels, c.strategy⟩
  dryRun := c.dryRun
  workers := c.workers

end PullTriage
