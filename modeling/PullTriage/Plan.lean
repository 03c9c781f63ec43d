import PullTriage.Classification
import PullTriage.TeamRules

/-!
# Label Plans

The labels to put on a pull request: the pending type label first, then the
category labels, without those that are present and without repetitions. A
plan is applied in one call, and not at all if it is empty or if the run only
previews.

## Main definitions

* `plan`: The labels to add.
* `Effect`: What became of a plan.
-/

namespace PullTriage

/-- The labels to add: the type label if one is pending, then the categories,
    each once and only if it is not present. -/
def plan (present : OrderedSet String) (pending : Option TypeLabel) (categories : List String) :
    List String :=
  TeamRules.missing present ((pending.map TypeLabel.label).toList ++ categories)

/-- What became of a plan. -/
inductive Effect where
  /-- There was nothing to add. -/
  | unchanged
  /-- The labels were shown but not written. -/
  | previewed
  /-- The labels were written. -/
  | written
deriving DecidableEq, Repr

end PullTriage
