import PullTriage.Instant.Printer
import PullTriage.OrderedSet

/-!
# Pull Requests

A pull request as it is when it is listed: its number and title, its author,
the instant at which it was opened, its labels, and the teams that are asked
to review it.

## Main definitions

* `Pull`: A pull request.
* `PullState`: Whether pull requests are open or closed.
* `Pull.text`: A pull request as shown in a report.
-/

namespace PullTriage

/-- The state by which pull requests are listed. -/
inductive PullState where
  /-- Still open. -/
  | opened
  /-- Merged or given up. -/
  | closed
deriving DecidableEq, Repr

namespace PullState

/-- The word for the state. -/
def text : PullState → String
  | opened => "open"
  | closed => "closed"

/-- The state that a word names. -/
def ofText? (s : String) : Option PullState :=
  [opened, closed].find? fun state => state.text == s

end PullState

/-- A pull request. -/
structure Pull where
  /-- The number in the repository. -/
  number : Nat
  /-- The title. -/
  title : String
  /-- The login of the author. -/
  author : String
  /-- The instant at which it was opened. -/
  createdAt : Instant
  /-- The labels that it carries. -/
  labels : OrderedSet String
  /-- The teams that are asked to review it. -/
  teams : OrderedSet String
deriving DecidableEq

/-- The pull request as shown in a report. -/
def Pull.text (p : Pull) : String :=
  "PR #" ++ toString p.number ++ " \"" ++ p.title ++ "\""

end PullTriage
