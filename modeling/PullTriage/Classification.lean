import PullTriage.Affiliation
import PullTriage.OrderedSet
import PullTriage.Text.Search
import PullTriage.TypeLabel

/-!
# Classifying a Pull Request

The author alone decides which type label a pull request should carry, the
verdict. The labels that it carries already are looked at separately: there
may be no type label among them, one, or several, which is a conflict for a
maintainer to resolve. The verdict's label is pending if it is wanted and not
among them, whatever other type labels there are.

Members of the organization get their label only where that is configured.

## Main definitions

* `Existing`: The type labels that a pull request carries.
* `Classifier`: What classification depends on.
* `Classifier.verdict`: The type label that an author deserves.
* `Classifier.classify`: The verdict, the labels present and the one missing.
-/

namespace PullTriage

/-- The type labels that a pull request carries. -/
inductive Existing where
  /-- It carries none. -/
  | missing
  /-- It carries exactly one. -/
  | single (t : TypeLabel)
  /-- It carries two or more, listed in order. -/
  | several (ts : List TypeLabel)
deriving DecidableEq, Repr

namespace Existing

/-- The type labels among the labels of a pull request. -/
def ofLabels (labels : OrderedSet String) : Existing :=
  match TypeLabel.all.filter fun t => t.label ∈ labels with
  | [] => missing
  | [t] => single t
  | ts => several ts

/-- The type labels as a list. -/
def types : Existing → List TypeLabel
  | missing => []
  | single t => [t]
  | several ts => ts

/-- The type label in effect, which is the conflict if there are several. -/
def effective? : Existing → Option TypeLabel
  | missing => none
  | single t => some t
  | several _ => some .conflict

/-- Whether several type labels are present. -/
def isConflict : Existing → Bool
  | several _ => true
  | _ => false

/-- The type labels as shown in a report. -/
def text : Existing → String
  | missing => "None"
  | single t => t.label
  | several ts =>
    TypeLabel.conflict.label ++ " (" ++ Text.joined ", " (ts.map TypeLabel.label) ++ ")"

end Existing

/-- What was decided about the type label of a pull request. -/
structure Classification where
  /-- The type label that the author deserves. -/
  verdict : TypeLabel
  /-- The type labels that are present. -/
  existing : Existing
  /-- The type label to add, if one is missing. -/
  pending : Option TypeLabel
deriving DecidableEq, Repr

/-- What the classification of a pull request depends on. -/
structure Classifier where
  /-- The signs of affiliation. -/
  policy : AffiliationPolicy
  /-- Whether members of the organization get their label. -/
  labelsMembers : Bool
deriving DecidableEq, Repr

namespace Classifier

/-- The type label that the author deserves. -/
def verdict (c : Classifier) (i : Identity) : TypeLabel :=
  if i.isMember then .member
  else if c.policy.covers i then .affiliated
  else .external

/-- Whether the label of the verdict is to be put on the pull request. -/
def wants (c : Classifier) (verdict : TypeLabel) : Bool :=
  verdict ≠ .member || c.labelsMembers

/-- Compares the verdict on the author with the labels that are present. -/
def classify (c : Classifier) (i : Identity) (labels : OrderedSet String) : Classification :=
  let verdict := c.verdict i
  { verdict
    existing := Existing.ofLabels labels
    pending := if c.wants verdict && verdict.label ∉ labels then some verdict else none }

end Classifier

end PullTriage
