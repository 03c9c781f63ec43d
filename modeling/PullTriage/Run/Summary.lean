import PullTriage.Run.Outcome

/-!
# Summaries

The totals of a run and the outsiders among its authors. Outcomes are
recorded one by one, and an author of several pull requests is listed once.

## Main definitions

* `Summary`: Totals and outsiders.
* `Summary.record`: A summary with one more outcome.
* `Summary.ofOutcomes`: The summary of a list of outcomes.
* `Summary.text`: A summary as it is shown.
-/

namespace PullTriage

/-- The totals of a run and the outsiders among its authors. -/
structure Summary where
  /-- The number of outcomes. -/
  total : Nat := 0
  /-- The number of pull requests that were classified. -/
  processed : Nat := 0
  /-- The number of pull requests that were too old. -/
  ignored : Nat := 0
  /-- The number of pull requests whose labels were written. -/
  labeled : Nat := 0
  /-- The number of pull requests whose labels were shown and not written. -/
  wouldLabel : Nat := 0
  /-- The number of pull requests about which a call failed. -/
  failed : Nat := 0
  /-- The numbers of the pull requests with several type labels, in order. -/
  conflicts : List Nat := []
  /-- The outsiders with a sign of affiliation. -/
  affiliated : OrderedSet Identity := ∅
  /-- The outsiders without one. -/
  external : OrderedSet Identity := ∅
deriving DecidableEq

namespace Summary

/-- The summary with one more report. -/
def recordReport (s : Summary) (r : Report) : Summary where
  total := s.total + 1
  processed := s.processed + 1
  ignored := s.ignored
  labeled := s.labeled + if r.effect = .written then 1 else 0
  wouldLabel := s.wouldLabel + if r.effect = .previewed then 1 else 0
  failed := s.failed
  conflicts := s.conflicts ++ if r.classification.existing.isConflict then [r.pull.number] else []
  affiliated :=
    if r.classification.verdict = .affiliated then s.affiliated.insert r.identity
    else s.affiliated
  external :=
    if r.classification.verdict = .external then s.external.insert r.identity else s.external

/-- The summary with one more outcome. -/
def record (s : Summary) : Outcome → Summary
  | .ignored _ => { s with total := s.total + 1, ignored := s.ignored + 1 }
  | .failed _ _ => { s with total := s.total + 1, failed := s.failed + 1 }
  | .processed r => s.recordReport r

/-- The summary of the outcomes in a list. -/
def ofOutcomes (l : List Outcome) : Summary :=
  l.foldl record {}

/-- The authors of a set, each on a line. -/
def authorLines (authors : OrderedSet Identity) : String :=
  String.join (authors.toList.map fun i => "  " ++ i.text ++ "\n")

/-- The summary as it is shown. -/
def text (s : Summary) : String :=
  "Processed " ++ toString s.processed ++ " of " ++ toString s.total ++ " PRs (ignored: " ++
    toString s.ignored ++ ", labeled: " ++ toString s.labeled ++
    (if 0 < s.wouldLabel then ", would label: " ++ toString s.wouldLabel else "") ++
    ", failed: " ++ toString s.failed ++ ")\n" ++
    (if s.conflicts.isEmpty then ""
      else "PRs with duplicated type labels: " ++
        Text.joined ", " (s.conflicts.map fun n => "#" ++ toString n) ++ "\n") ++
    "\nNon org user with affiliated email or company:\n" ++ authorLines s.affiliated ++
    "\nNon org user with NO affiliated email or company:\n" ++ authorLines s.external

end Summary

end PullTriage
