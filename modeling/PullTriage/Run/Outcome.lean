import PullTriage.Classification
import PullTriage.Failure
import PullTriage.Plan
import PullTriage.Pull.Basic
import PullTriage.Text.Search

/-!
# Outcomes

What became of one pull request in a run: it was too old to be looked at, it
was classified and labelled, or a call about it failed. A failure concerns
its pull request only.

## Main definitions

* `Report`: Everything decided about a pull request.
* `Outcome`: What became of a pull request.
* `Outcome.text`: An outcome as shown in a report.
-/

namespace PullTriage

/-- Everything that was decided about a pull request. -/
structure Report where
  /-- The pull request as it was listed. -/
  pull : Pull
  /-- Its author. -/
  identity : Identity
  /-- The type label. -/
  classification : Classification
  /-- The labels to add. -/
  toAdd : List String
  /-- What became of them. -/
  effect : Effect
deriving DecidableEq

/-- What became of a pull request. -/
inductive Outcome where
  /-- It is too old to be looked at. -/
  | ignored (p : Pull)
  /-- It was classified and its labels were seen to. -/
  | processed (r : Report)
  /-- A call about it failed. -/
  | failed (p : Pull) (f : Failure)
deriving DecidableEq

namespace Outcome

/-- The pull request of the outcome. -/
def pull : Outcome → Pull
  | ignored p => p
  | processed r => r.pull
  | failed p _ => p

end Outcome

/-- What a verdict says about the author. -/
def TypeLabel.description : TypeLabel → String
  | member => "Org user"
  | affiliated => "Non org user with affiliated email or company"
  | external | conflict => "Non org user with NO affiliated email or company"

/-- What is said about the labels to add. -/
def Effect.text (toAdd : List String) : Effect → String
  | unchanged => "No labels to add"
  | previewed => "Labels would be added (dry run): " ++ Text.joined ", " toAdd
  | written => "Set PR labels: " ++ Text.joined ", " toAdd

/-- The report as it is shown. -/
def Report.text (r : Report) : String :=
  r.pull.text ++ " - Created: " ++ r.pull.createdAt.display ++ " - Labels: \x7b" ++
    Text.joined ", " r.pull.labels.toList ++ "\x7d - Type: " ++ r.classification.existing.text ++
    " - " ++ r.classification.verdict.description ++ "\n" ++
    (match r.classification.pending with
      | some t => "NO \"" ++ t.label ++ "\" label: " ++ r.identity.text ++ "\n"
      | none => "") ++
    r.effect.text r.toAdd

/-- The outcome as it is shown. -/
def Outcome.text : Outcome → String
  | ignored p => "IGNORE: " ++ p.text ++ " - Created: " ++ p.createdAt.display
  | failed p f => "FAILED: " ++ p.text ++ " - " ++ f.text
  | processed r => r.text

end PullTriage
