import PullTriage.Run.Summary

/-!
# Summaries Read off the Outcomes

A summary is made by recording outcomes one after the other. What it says can
be read off the list of outcomes at once: the counters are counts, the
conflicts are the numbers of the reports with a conflict, and each set of
authors holds the authors of the reports with its verdict. So two runs can be
compared by their reports, and an outcome that is not a report leaves the
conflicts and the authors as they were.

## Main definitions

* `reports`: The reports among outcomes.
* `Summary.conflictsOf`: The numbers of the reports with a conflict.
* `Summary.authorsOf`: The authors of the reports with a verdict.
* `Summary.extended`: A summary with all outcomes of a list.

## Theorems

* `Summary.extended_record`: One outcome more, at the front of a list.
* `Summary.foldl_record`: Recording a list is extending by it.
* `Summary.ofOutcomes_eq`: The summary of a list, read off it.
-/

namespace PullTriage

namespace Outcome

/-- The report of an outcome, if the pull request was classified. -/
def report? : Outcome → Option Report
  | processed r => some r
  | ignored _ => none
  | failed _ _ => none

/-- Whether the pull request was too old. -/
def isIgnored : Outcome → Bool
  | ignored _ => true
  | processed _ => false
  | failed _ _ => false

/-- Whether a call about the pull request failed. -/
def isFailed : Outcome → Bool
  | failed _ _ => true
  | processed _ => false
  | ignored _ => false

end Outcome

/-- The reports among outcomes. -/
def reports (l : List Outcome) : List Report :=
  l.filterMap Outcome.report?

theorem reports_append (l more : List Outcome) :
    reports (l ++ more) = reports l ++ reports more :=
  List.filterMap_append

namespace Summary

theorem ofOutcomes_append (l more : List Outcome) :
    ofOutcomes (l ++ more) = more.foldl record (ofOutcomes l) :=
  List.foldl_append

/-- The numbers of the reports with a conflict. -/
def conflictsOf (rs : List Report) : List Nat :=
  (rs.filter fun r => r.classification.existing.isConflict).map fun r => r.pull.number

/-- The authors of the reports with a verdict. -/
def authorsOf (verdict : TypeLabel) (rs : List Report) : List Identity :=
  (rs.filter fun r => r.classification.verdict = verdict).map Report.identity

/-- How many reports have an effect. -/
def countEffect (effect : Effect) (rs : List Report) : Nat :=
  rs.countP fun r => r.effect = effect

/-- The summary with all outcomes of a list. -/
def extended (s : Summary) (l : List Outcome) : Summary where
  total := s.total + l.length
  processed := s.processed + (reports l).length
  ignored := s.ignored + l.countP Outcome.isIgnored
  labeled := s.labeled + countEffect .written (reports l)
  wouldLabel := s.wouldLabel + countEffect .previewed (reports l)
  failed := s.failed + l.countP Outcome.isFailed
  conflicts := s.conflicts ++ conflictsOf (reports l)
  affiliated := s.affiliated.insertAll (authorsOf .affiliated (reports l))
  external := s.external.insertAll (authorsOf .external (reports l))

theorem countEffect_cons (effect : Effect) (r : Report) (rs : List Report) :
    countEffect effect (r :: rs)
      = (if r.effect = effect then 1 else 0) + countEffect effect rs := by
  unfold countEffect
  rw [List.countP_cons, Nat.add_comm]
  simp only [decide_eq_true_eq]

theorem conflictsOf_cons (r : Report) (rs : List Report) :
    conflictsOf (r :: rs)
      = (if r.classification.existing.isConflict then [r.pull.number] else [])
        ++ conflictsOf rs := by
  unfold conflictsOf
  rw [List.filter_cons]
  split
  · rfl
  · rfl

theorem insertAll_authorsOf_cons (verdict : TypeLabel) (s : OrderedSet Identity) (r : Report)
    (rs : List Report) :
    s.insertAll (authorsOf verdict (r :: rs))
      = (if r.classification.verdict = verdict then s.insert r.identity else s).insertAll
          (authorsOf verdict rs) := by
  unfold authorsOf
  rw [List.filter_cons]
  by_cases h : r.classification.verdict = verdict
  · rw [if_pos (decide_eq_true h), if_pos h]
    rfl
  · rw [if_neg (fun hd => h (of_decide_eq_true hd)), if_neg h]

/-- One outcome more, at the front of a list. -/
theorem extended_record (s : Summary) (o : Outcome) (l : List Outcome) :
    (s.record o).extended l = s.extended (o :: l) := by
  cases o with
  | ignored p =>
      simp only [record, extended, reports, List.filterMap_cons, Outcome.report?,
        List.length_cons, List.countP_cons, Outcome.isIgnored, Outcome.isFailed, if_true,
        Bool.false_eq_true, if_false, Nat.add_zero, Nat.add_right_comm, Nat.add_assoc]
  | failed p f =>
      simp only [record, extended, reports, List.filterMap_cons, Outcome.report?,
        List.length_cons, List.countP_cons, Outcome.isIgnored, Outcome.isFailed, if_true,
        Bool.false_eq_true, if_false, Nat.add_zero, Nat.add_right_comm, Nat.add_assoc]
  | processed r =>
      have hreports : reports (.processed r :: l) = r :: reports l := rfl
      simp only [record, recordReport, extended, hreports, countEffect_cons, conflictsOf_cons,
        insertAll_authorsOf_cons, List.length_cons, List.countP_cons, Outcome.isIgnored,
        Outcome.isFailed, Bool.false_eq_true, if_false, Nat.add_zero, Nat.add_assoc,
        Nat.add_comm 1, List.append_assoc]

/-- Recording a list of outcomes one by one is extending by all of them. -/
theorem foldl_record (l : List Outcome) (s : Summary) : l.foldl record s = s.extended l := by
  induction l generalizing s with
  | nil =>
      have hconflicts : s.conflicts ++ conflictsOf (reports []) = s.conflicts :=
        List.append_nil _
      simp only [List.foldl_nil, extended, hconflicts]
      rfl
  | cons o rest ih => rw [List.foldl_cons, ih, extended_record]

/-- The summary of a list of outcomes, read off it. -/
theorem ofOutcomes_eq (l : List Outcome) : ofOutcomes l = ({} : Summary).extended l :=
  foldl_record l {}

end Summary

end PullTriage
