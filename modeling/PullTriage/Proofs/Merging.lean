import PullTriage.Proofs.Reports

/-!
# Merging Summaries

A summary of outcomes can be put together from summaries of parts of them:
counters add up, conflicts follow one another, and the sets of authors are
united. So a list may be cut anywhere, and each part recorded by itself. What
makes it work is that a summary says nothing but what `Summary.Tells` lists,
and everything there is told of a part as well.

The order of the outcomes shows in the conflicts only. `Summary.Reordered`
compares two summaries up to that.

## Main definitions

* `Outcome.isProcessed`: Whether a pull request was classified.
* `Summary.merge`: One summary for the outcomes of two.
* `Summary.Tells`: What a summary says about a list of outcomes.
* `Summary.Reordered`: Two summaries up to the order of the conflicts.

## Theorems

* `Summary.ofOutcomes_tells`: What the summary of a list says.
* `Summary.ofOutcomes_perm`: The summary of a list in another order.
* `Summary.merge_ofOutcomes`: Merging with the summary of a list.
* `Summary.foldl_merge`: Merging with the summaries of parts, one by one.
* `summary_exact_and_mergeable`: A summary says exactly what was recorded,
  in whatever order and by whatever parts.
-/

namespace PullTriage

/-- Whether the pull request was classified. -/
def Outcome.isProcessed (o : Outcome) : Bool :=
  o.report?.isSome

/-- The reports among outcomes are as many as the outcomes that are one. -/
theorem length_reports (l : List Outcome) : (reports l).length = l.countP Outcome.isProcessed :=
  List.length_filterMap_eq_countP

/-- A list in another order has the same reports in another order. -/
theorem reports_perm {l l' : List Outcome} (h : l.Perm l') : (reports l).Perm (reports l') :=
  h.filterMap _

namespace OrderedSet

variable {α : Type} [Ord α] [Std.TransOrd α] [Std.LawfulEqOrd α]

/-- Lists with the same members come to the same set. -/
theorem insertAll_perm (s : OrderedSet α) {l l' : List α} (h : l.Perm l') :
    s.insertAll l = s.insertAll l' := by
  refine ext_of_mem _ _ fun x => ?_
  rw [mem_insertAll, mem_insertAll, h.mem_iff]

/-- Adding the members of a set that holds a list is adding the list. -/
theorem insertAll_toList (s : OrderedSet α) (l : List α) :
    s.insertAll (insertAll ∅ l).toList = s.insertAll l := by
  refine ext_of_mem _ _ fun x => ?_
  have hmem : x ∈ (insertAll ∅ l).toList ↔ x ∈ l :=
    mem_insertAll.trans (or_iff_right not_mem_empty)
  rw [mem_insertAll, mem_insertAll, hmem]

end OrderedSet

namespace Summary

/-- One summary for the outcomes of two, those of `s` first. -/
def merge (s t : Summary) : Summary where
  total := s.total + t.total
  processed := s.processed + t.processed
  ignored := s.ignored + t.ignored
  labeled := s.labeled + t.labeled
  wouldLabel := s.wouldLabel + t.wouldLabel
  failed := s.failed + t.failed
  conflicts := s.conflicts ++ t.conflicts
  affiliated := s.affiliated.insertAll t.affiliated.toList
  external := s.external.insertAll t.external.toList

/-- What a summary says about a list of outcomes. -/
structure Tells (s : Summary) (l : List Outcome) : Prop where
  total : s.total = l.length
  kinds : s.total = s.processed + s.ignored + s.failed
  processed : s.processed = l.countP Outcome.isProcessed
  ignored : s.ignored = l.countP Outcome.isIgnored
  failed : s.failed = l.countP Outcome.isFailed
  labeled : s.labeled = (reports l).countP fun r => r.effect = .written
  wouldLabel : s.wouldLabel = (reports l).countP fun r => r.effect = .previewed
  effects : s.labeled + s.wouldLabel ≤ s.processed
  conflicts : s.conflicts = ((reports l).filter fun r =>
    r.classification.existing.isConflict).map fun r => r.pull.number
  affiliated : ∀ i, i ∈ s.affiliated ↔
    ∃ r, .processed r ∈ l ∧ r.classification.verdict = .affiliated ∧ r.identity = i
  external : ∀ i, i ∈ s.external ↔
    ∃ r, .processed r ∈ l ∧ r.classification.verdict = .external ∧ r.identity = i
  once : s.affiliated.toList.Nodup ∧ s.external.toList.Nodup

/-- The summaries differ in the order of the conflicts at most. -/
structure Reordered (s t : Summary) : Prop where
  rest : { s with conflicts := t.conflicts } = t
  conflicts : s.conflicts.Perm t.conflicts

/-- No report has two effects. -/
theorem countEffect_add_le (rs : List Report) :
    countEffect .written rs + countEffect .previewed rs ≤ rs.length := by
  induction rs with
  | nil => exact Nat.le_refl 0
  | cons r rest ih =>
      rw [countEffect_cons, countEffect_cons, List.length_cons]
      cases r.effect with
      | unchanged => simp only [reduceCtorEq, if_false]; omega
      | previewed => simp only [reduceCtorEq, if_false, if_true]; omega
      | written => simp only [reduceCtorEq, if_false, if_true]; omega

theorem ofOutcomes_tells (l : List Outcome) : (ofOutcomes l).Tells l := by
  have haffiliated := mem_affiliated l
  have hexternal := mem_external l
  simp only [mem_reports] at haffiliated hexternal
  have hkinds := length_eq_counts l
  have heffects := countEffect_add_le (reports l)
  rw [ofOutcomes_eq] at haffiliated hexternal ⊢
  exact {
    total := Nat.zero_add _
    kinds := by simpa only [extended, Nat.zero_add] using hkinds
    processed := (Nat.zero_add _).trans (length_reports l)
    ignored := Nat.zero_add _
    failed := Nat.zero_add _
    labeled := Nat.zero_add _
    wouldLabel := Nat.zero_add _
    effects := by simpa only [extended, Nat.zero_add] using heffects
    conflicts := List.nil_append _
    affiliated := haffiliated
    external := hexternal
    once := ⟨OrderedSet.nodup_toList _, OrderedSet.nodup_toList _⟩ }

/-- The sets hold the same authors, and every count is the same. -/
theorem ofOutcomes_perm {l l' : List Outcome} (h : l.Perm l') :
    (ofOutcomes l).Reordered (ofOutcomes l') := by
  have hreports := reports_perm h
  have hauthors (verdict : TypeLabel) :
      (authorsOf verdict (reports l)).Perm (authorsOf verdict (reports l')) :=
    (hreports.filter _).map _
  rw [ofOutcomes_eq, ofOutcomes_eq]
  constructor
  · simp only [extended, countEffect, h.length_eq, h.countP_eq, hreports.length_eq,
      hreports.countP_eq, OrderedSet.insertAll_perm _ (hauthors _)]
  · exact ((hreports.filter _).map _).append_left _

/-- Counts, conflicts and authors of two lists one after the other. -/
theorem extended_append (s : Summary) (l more : List Outcome) :
    s.extended (l ++ more) = (s.extended l).extended more := by
  rw [← foldl_record, ← foldl_record, ← foldl_record, List.foldl_append]

/-- Merging with the summary of a list is extending by the list. -/
theorem merge_ofOutcomes (s : Summary) (l : List Outcome) :
    s.merge (ofOutcomes l) = s.extended l := by
  rw [ofOutcomes_eq]
  simp only [merge, extended, Nat.zero_add, List.nil_append, OrderedSet.insertAll_toList]

/-- Merging with the summaries of parts is extending by all of them. -/
theorem foldl_merge (s : Summary) (parts : List (List Outcome)) :
    (parts.map ofOutcomes).foldl merge s = s.extended parts.flatten := by
  induction parts generalizing s with
  | nil => exact foldl_record [] s
  | cons part rest ih =>
      rw [List.map_cons, List.foldl_cons, merge_ofOutcomes, ih, List.flatten_cons,
        extended_append]

end Summary

/-- The summary of a list says how many outcomes of each kind there are, and
    which conflicts and authors. In another order of the list only the conflicts
    are in another order. The summaries of the parts of a list merge to the
    summary of the list, and if the parts take from it in any order they do so
    up to the order of the conflicts. -/
theorem summary_exact_and_mergeable (l : List Outcome) :
    (Summary.ofOutcomes l).Tells l ∧
    (∀ l', l.Perm l' → (Summary.ofOutcomes l).Reordered (Summary.ofOutcomes l')) ∧
    ∀ parts : List (List Outcome),
      (parts.flatten = l →
        (parts.map Summary.ofOutcomes).foldl Summary.merge {} = Summary.ofOutcomes l) ∧
      (parts.flatten.Perm l →
        ((parts.map Summary.ofOutcomes).foldl Summary.merge {}).Reordered
          (Summary.ofOutcomes l)) := by
  refine ⟨Summary.ofOutcomes_tells l, fun l' h => Summary.ofOutcomes_perm h, fun parts => ?_⟩
  rw [Summary.foldl_merge, ← Summary.ofOutcomes_eq]
  exact ⟨fun hparts => by rw [hparts], fun hparts => Summary.ofOutcomes_perm hparts⟩

/-- Two workers share four outcomes, and one of them takes the first and the
    last. Their summaries merge to that of all four but for the order of the
    conflicts. -/
theorem summary_exact_and_mergeable_interleaved :
    let report (number : Nat) : Outcome := .processed {
      pull := { Sample.pull with number }
      identity := { login := "dev" }
      classification := ⟨.external, .several [.member, .external], none⟩
      toAdd := []
      effect := .unchanged }
    let failure : Outcome := .failed Sample.pull ⟨.badAnswer, []⟩
    let merged := ([[report 1, report 3], [failure, report 2]].map Summary.ofOutcomes).foldl
      Summary.merge {}
    merged.conflicts = [1, 3, 2] ∧ merged.external.toList = [{ login := "dev" }] ∧
      merged.Reordered (Summary.ofOutcomes [report 1, report 2, failure, report 3]) ∧
      (Summary.ofOutcomes [report 1, report 2, failure, report 3]).Reordered
        (Summary.ofOutcomes [report 3, failure, report 1, report 2]) := by
  intro report failure merged
  rcases summary_exact_and_mergeable [report 1, report 2, failure, report 3] with
    ⟨-, hreordered, hmerged⟩
  exact ⟨by decide, by decide, (hmerged [[report 1, report 3], [failure, report 2]]).2 (by decide),
    hreordered _ (by decide)⟩

end PullTriage
