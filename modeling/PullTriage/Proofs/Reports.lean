import PullTriage.Proofs.Watching

/-!
# Reports of a Run Are Exact

What a run reports is compared with what it has asked of GitHub. There is one
outcome for each pull request of the selection, in the same order. The counts
add up, the labelled pull requests are the answered questions that add labels,
and the conflicts are read off the labels that were listed, before anything is
written.

The authors in a summary are in one set or the other by what is known of them:
the verdict on an author depends on nothing but the author, with the membership
as it was answered. So no author can be in both sets, however many pull
requests there are and whatever fails.

## Main definitions

* `HasTypeConflict`: Labels with two type labels among them.
* `Run.IsExact`: A summary that says what was asked and found.

## Theorems

* `Existing.isConflict_ofLabels_iff`: When the labels present are a conflict.
* `length_filterMap_write?`: The written reports among outcomes.
* `Summary.mem_affiliated`, `Summary.mem_external`: The authors in a summary.
* `report_exact`: The report of a run is exact.
-/

namespace PullTriage

/-- There are two different type labels among the labels. -/
def HasTypeConflict (labels : OrderedSet String) : Prop :=
  ∃ t u : TypeLabel, t ≠ u ∧ t.label ∈ labels ∧ u.label ∈ labels

/-- The labels that are present are a conflict if there are two type labels
    among them. -/
theorem Existing.isConflict_ofLabels_iff (labels : OrderedSet String) :
    (ofLabels labels).isConflict = true ↔ HasTypeConflict labels := by
  have hmem : ∀ t : TypeLabel,
      t ∈ TypeLabel.all.filter (fun t => t.label ∈ labels) ↔ t.label ∈ labels := by
    intro t
    rw [List.mem_filter, decide_eq_true_eq, and_iff_right]
    cases t <;> decide
  have hnodup : (TypeLabel.all.filter fun t => t.label ∈ labels).Nodup :=
    List.Pairwise.filter _ (by decide : TypeLabel.all.Nodup)
  unfold ofLabels HasTypeConflict
  generalize TypeLabel.all.filter (fun t => t.label ∈ labels) = present at hmem hnodup ⊢
  simp only [← hmem]
  -- Each of the type labels that are present is in the list once.
  match present with
  | [] => simp only [isConflict, Bool.false_eq_true, List.not_mem_nil, and_false, exists_false]
  | [t] =>
      simp only [isConflict, Bool.false_eq_true, List.mem_singleton, false_iff, not_exists]
      rintro a b ⟨hne, rfl, rfl⟩
      exact hne rfl
  | t :: u :: rest =>
      simp only [isConflict, true_iff]
      refine ⟨t, u, fun heq => ?_, List.mem_cons_self, List.mem_cons_of_mem _ List.mem_cons_self⟩
      exact (List.nodup_cons.mp hnodup).1 (heq ▸ List.mem_cons_self)

instance (labels : OrderedSet String) : Decidable (HasTypeConflict labels) :=
  decidable_of_iff _ (Existing.isConflict_ofLabels_iff labels)

/-- The outcomes that have written are those of reports with that effect. -/
theorem length_filterMap_write? (outcomes : List Outcome) :
    (outcomes.filterMap Outcome.write?).length
      = Summary.countEffect .written (reports outcomes) := by
  induction outcomes with
  | nil => rfl
  | cons o rest ih =>
      cases o with
      | ignored p => exact ih
      | failed p f => exact ih
      | processed r =>
          have hreports : reports (.processed r :: rest) = r :: reports rest := rfl
          -- A report counts on both sides by its effect alone.
          rw [filterMap_cons_toList, List.length_append, ih, hreports, Summary.countEffect_cons,
            Outcome.write?]
          by_cases heffect : r.effect = .written
          · rw [if_pos heffect, if_pos heffect]
            rfl
          · rw [if_neg heffect, if_neg heffect]
            rfl

/-- Every outcome is a report, too old, or failed. -/
theorem length_eq_counts (outcomes : List Outcome) :
    outcomes.length = (reports outcomes).length + outcomes.countP Outcome.isIgnored
      + outcomes.countP Outcome.isFailed := by
  induction outcomes with
  | nil => rfl
  | cons o rest ih =>
      rw [List.length_cons, ih, List.countP_cons, List.countP_cons]
      cases o with
      | ignored p =>
          have hreports : reports (.ignored p :: rest) = reports rest := rfl
          simp only [hreports, Outcome.isIgnored, Outcome.isFailed, if_true, Bool.false_eq_true,
            if_false]
          omega
      | failed p f =>
          have hreports : reports (.failed p f :: rest) = reports rest := rfl
          simp only [hreports, Outcome.isIgnored, Outcome.isFailed, if_true, Bool.false_eq_true,
            if_false]
          omega
      | processed r =>
          have hreports : reports (.processed r :: rest) = r :: reports rest := rfl
          simp only [hreports, Outcome.isIgnored, Outcome.isFailed, Bool.false_eq_true, if_false,
            List.length_cons]
          omega

namespace Summary

variable (outcomes : List Outcome) (i : Identity)

/-- The authors in a summary are those of the reports with the verdict. -/
theorem mem_authorsOf (verdict : TypeLabel) (rs : List Report) :
    i ∈ authorsOf verdict rs ↔
      ∃ r ∈ rs, r.classification.verdict = verdict ∧ r.identity = i := by
  simp only [authorsOf, List.mem_map, List.mem_filter, decide_eq_true_eq, and_assoc]

theorem mem_affiliated :
    i ∈ (ofOutcomes outcomes).affiliated ↔ ∃ r ∈ reports outcomes,
      r.classification.verdict = .affiliated ∧ r.identity = i := by
  rw [ofOutcomes_eq, extended, OrderedSet.mem_insertAll, mem_authorsOf]
  exact or_iff_right OrderedSet.not_mem_empty

theorem mem_external :
    i ∈ (ofOutcomes outcomes).external ↔ ∃ r ∈ reports outcomes,
      r.classification.verdict = .external ∧ r.identity = i := by
  rw [ofOutcomes_eq, extended, OrderedSet.mem_insertAll, mem_authorsOf]
  exact or_iff_right OrderedSet.not_mem_empty

end Summary

theorem mem_reports (outcomes : List Outcome) (r : Report) :
    r ∈ reports outcomes ↔ .processed r ∈ outcomes := by
  rw [reports, List.mem_filterMap]
  constructor
  · rintro ⟨o, ho, hr⟩
    cases o with
    | processed r' => exact Option.some.inj hr ▸ ho
    | ignored p => exact absurd hr (by simp only [Outcome.report?, reduceCtorEq, not_false_eq_true])
    | failed p f =>
        exact absurd hr (by simp only [Outcome.report?, reduceCtorEq, not_false_eq_true])
  · exact fun h => ⟨_, h, rfl⟩

/-- A summary says what was asked and found. The visits of the pull requests
    are given by their outcomes and the questions that they have asked. -/
structure Run.IsExact (config : Config) (m : Memory) (cutoff : Option Instant)
    (pulls : List Pull) (visits : List (Outcome × List Asked)) (s : Summary) : Prop where
  outcomes : (visits.map Prod.fst).map Outcome.pull = pulls
  ignored : ∀ v ∈ visits, v.1.isIgnored = true ↔
    ∃ after, cutoff = some after ∧ v.1.pull.createdAt ≤ after
  quiet : ∀ v ∈ visits, v.1.isIgnored = true → v.2 = []
  about : ∀ v ∈ visits, ∀ q ∈ v.2, q.question.IsAbout v.1.pull
  total : s.total = pulls.length ∧ s.total = s.processed + s.ignored + s.failed
  counts : s.processed = (reports (visits.map Prod.fst)).length ∧
    s.ignored = (visits.map Prod.fst).countP Outcome.isIgnored ∧
    s.failed = (visits.map Prod.fst).countP Outcome.isFailed
  labeled : s.labeled = ((visits.flatMap Prod.snd).filterMap Asked.write?).length
  conflicts : s.conflicts = ((reports (visits.map Prod.fst)).filter fun r =>
    HasTypeConflict r.pull.labels).map fun r => r.pull.number
  disjoint : ∀ i, ¬(i ∈ s.affiliated ∧ i ∈ s.external)
  affiliated : ∀ i ∈ s.affiliated, i.isMember = false ∧ config.policy.covers i = true
  external : ∀ i ∈ s.external, i.isMember = false ∧ config.policy.covers i = false
  authors : ∀ i, i ∈ s.affiliated ∨ i ∈ s.external → ∃ r ∈ reports (visits.map Prod.fst),
    r.pull.author ∉ m.members ∧ m.author r.pull.author = i
  outsiders : ∀ r ∈ reports (visits.map Prod.fst), r.identity = m.author r.pull.author ∧
    (r.pull.author ∉ m.members →
      (r.identity ∈ s.affiliated ∧ r.identity ∉ s.external) ∨
        (r.identity ∉ s.affiliated ∧ r.identity ∈ s.external))

namespace Watched

section

variable {m : Memory} {rules : Rules} {cutoff : Option Instant} {pulls : List Pull}
  {visits : List (Outcome × List Asked)}

/-- Every outcome is that of a visit of its pull request. -/
theorem visited_of_mem
    (h : List.Forall₂ (fun p v => Visited m rules cutoff p v.1 v.2) pulls visits)
    (v : Outcome × List Asked) (hv : v ∈ visits) :
    Visited m rules cutoff v.1.pull v.1 v.2 := by
  induction h with
  | nil => exact absurd hv List.not_mem_nil
  | cons hvisited _ ih =>
      rcases List.mem_cons.mp hv with rfl | hv
      · rw [hvisited.pull]
        exact hvisited
      · exact ih hv

/-- There is one outcome for each pull request, in the same order. -/
theorem map_pull_of_visited
    (h : List.Forall₂ (fun p v => Visited m rules cutoff p v.1 v.2) pulls visits) :
    (visits.map Prod.fst).map Outcome.pull = pulls := by
  induction h with
  | nil => rfl
  | cons hvisited _ ih => rw [List.map_cons, List.map_cons, ih, hvisited.pull]

/-- The labels that were added are those that the outcomes have written. -/
theorem writes_of_visited
    (h : List.Forall₂ (fun p v => Visited m rules cutoff p v.1 v.2) pulls visits) :
    (visits.flatMap Prod.snd).filterMap Asked.write?
      = (visits.map Prod.fst).filterMap Outcome.write? := by
  induction h with
  | nil => rfl
  | cons hvisited _ ih =>
      rw [List.flatMap_cons, List.filterMap_append, ih, hvisited.writes, List.map_cons,
        filterMap_cons_toList]

/-- A report is on the author of its pull request and on the labels that were
    listed. -/
theorem report_of_visited
    (h : List.Forall₂ (fun p v => Visited m rules cutoff p v.1 v.2) pulls visits)
    (r : Report) (hr : r ∈ reports (visits.map Prod.fst)) :
    r.identity = m.author r.pull.author ∧
      r.classification = rules.classifier.classify r.identity r.pull.labels := by
  rw [mem_reports, List.mem_map] at hr
  rcases hr with ⟨v, hv, hreport⟩
  rcases (visited_of_mem h v hv).report r hreport with ⟨effect, hr⟩
  rw [hr]
  exact ⟨rfl, rfl⟩

end

/-- The summary of visits and their questions is exact. -/
theorem isExact_of_visited {config : Config} {m : Memory} {cutoff : Option Instant}
    {pulls : List Pull} {visits : List (Outcome × List Asked)}
    (h : List.Forall₂ (fun p v => Visited m (Rules.ofConfig config) cutoff p v.1 v.2) pulls
      visits) :
    Run.IsExact config m cutoff pulls visits (Summary.ofOutcomes (visits.map Prod.fst)) := by
  have hreport := report_of_visited h
  have hlength : pulls.length = (visits.map Prod.fst).length := by
    rw [← map_pull_of_visited h, List.length_map]
  have hsummary := Summary.ofOutcomes_eq (visits.map Prod.fst)
  -- In which set an author is depends on the author alone.
  have hauthors : ∀ i verdict, (∃ r ∈ reports (visits.map Prod.fst),
      r.classification.verdict = verdict ∧ r.identity = i) ↔
        (∃ r ∈ reports (visits.map Prod.fst), r.identity = i) ∧
          (Rules.ofConfig config).classifier.verdict i = verdict := by
    intro i verdict
    constructor
    · rintro ⟨r, hr, hverdict, rfl⟩
      rw [(hreport r hr).2] at hverdict
      exact ⟨⟨r, hr, rfl⟩, hverdict⟩
    · rintro ⟨⟨r, hr, rfl⟩, hverdict⟩
      refine ⟨r, hr, ?_, rfl⟩
      rw [(hreport r hr).2]
      exact hverdict
  have haffiliated : ∀ i, i ∈ (Summary.ofOutcomes (visits.map Prod.fst)).affiliated ↔
      (∃ r ∈ reports (visits.map Prod.fst), r.identity = i) ∧
        i.isMember = false ∧ config.policy.covers i = true := by
    intro i
    rw [Summary.mem_affiliated, hauthors, Classifier.verdict_eq_affiliated_iff]
    rfl
  have hexternal : ∀ i, i ∈ (Summary.ofOutcomes (visits.map Prod.fst)).external ↔
      (∃ r ∈ reports (visits.map Prod.fst), r.identity = i) ∧
        i.isMember = false ∧ config.policy.covers i = false := by
    intro i
    rw [Summary.mem_external, hauthors, Classifier.verdict_eq_external_iff]
    rfl
  constructor
  case outcomes => exact map_pull_of_visited h
  case ignored =>
    intro v hv
    rw [(visited_of_mem h v hv).isIgnored, Run.isOld, Option.any_eq_true]
    simp only [decide_eq_true_eq]
  case quiet => exact fun v hv => (visited_of_mem h v hv).quiet
  case about => exact fun v hv => (visited_of_mem h v hv).about
  case total =>
    have hcounts := length_eq_counts (visits.map Prod.fst)
    simp only [hsummary, Summary.extended, Nat.zero_add]
    exact ⟨hlength.symm, hcounts⟩
  case counts =>
    simp only [hsummary, Summary.extended, Nat.zero_add, and_self]
  case labeled =>
    rw [writes_of_visited h, length_filterMap_write?, hsummary]
    exact Nat.zero_add _
  case conflicts =>
    have hconflict : ∀ r ∈ reports (visits.map Prod.fst),
        r.classification.existing.isConflict = decide (HasTypeConflict r.pull.labels) := by
      intro r hr
      rw [(hreport r hr).2, Bool.eq_iff_iff, decide_eq_true_eq]
      exact Existing.isConflict_ofLabels_iff r.pull.labels
    rw [hsummary, ← List.filter_congr hconflict]
    rfl
  case disjoint =>
    rintro i ⟨hi, hi'⟩
    have hcovers := ((haffiliated i).mp hi).2.2
    rw [((hexternal i).mp hi').2.2] at hcovers
    exact absurd hcovers Bool.false_ne_true
  case affiliated => exact fun i hi => ((haffiliated i).mp hi).2
  case external => exact fun i hi => ((hexternal i).mp hi).2
  case authors =>
    intro i hi
    have hfound : (∃ r ∈ reports (visits.map Prod.fst), r.identity = i) ∧ i.isMember = false := by
      rcases hi with hi | hi
      · exact ⟨((haffiliated i).mp hi).1, ((haffiliated i).mp hi).2.1⟩
      · exact ⟨((hexternal i).mp hi).1, ((hexternal i).mp hi).2.1⟩
    -- The identity has the membership that was answered.
    rcases hfound with ⟨⟨r, hr, rfl⟩, hmember⟩
    refine ⟨r, hr, ?_, (hreport r hr).1.symm⟩
    rw [(hreport r hr).1] at hmember
    exact of_decide_eq_false hmember
  case outsiders =>
    intro r hr
    refine ⟨(hreport r hr).1, fun hmember => ?_⟩
    have houtsider : r.identity.isMember = false := by
      rw [(hreport r hr).1]
      exact decide_eq_false hmember
    rw [haffiliated, hexternal]
    -- The policy alone decides between the sets.
    cases hcovers : config.policy.covers r.identity with
    | true =>
        exact Or.inl ⟨⟨⟨r, hr, rfl⟩, houtsider, rfl⟩, fun hn => absurd hn.2.2 Bool.noConfusion⟩
    | false =>
        exact Or.inr ⟨fun hn => absurd hn.2.2 Bool.noConfusion, ⟨⟨r, hr, rfl⟩, houtsider, rfl⟩⟩

end Watched

/-- The report of a run is exact, whatever fails during it, as long as the
    selection is fetched. -/
theorem report_exact (config : Config) (w : Watched) (selection : Selection)
    (cutoff : Option Instant) (pulls : List Pull)
    (h : (Run.collect selection w).1 = .ok pulls) :
    ∃ (visits : List (Outcome × List Asked)) (w' : Watched),
      Run.run (Rules.ofConfig config) selection cutoff w
        = (.ok (visits.map Prod.fst, Summary.ofOutcomes (visits.map Prod.fst)), w') ∧
      w'.log = w.log ++ ⟨selection.question, true⟩ :: visits.flatMap Prod.snd ∧
      w.memory.selected selection = .ok pulls ∧
      Run.IsExact config w.memory cutoff pulls visits
        (Summary.ofOutcomes (visits.map Prod.fst)) := by
  rcases Watched.run_visited (Rules.ofConfig config) selection cutoff w pulls h with
    ⟨visits, w', hrun, hgoes, hselected, hvisits⟩
  exact ⟨visits, w', hrun, hgoes.log, hselected, Watched.isExact_of_visited hvisits⟩

namespace Sample

/-- An instant that is not the earliest. -/
def later : Instant :=
  (Instant.ofParts? 0 0).getD .earliest

/-- Four pull requests by one outsider: one is too old, one carries two type
    labels, and of one the author cannot be looked up any more. -/
def watched : Watched where
  memory := { memory with
    opened := [{ pull with number := 3 }, { pull with createdAt := later },
      { pull with number := 2, createdAt := later, labels := .ofList ["BadPR", "ExternalPR"] },
      { pull with number := 4, createdAt := later }] }
  fails
    | 9, .identity _ => some ⟨.badAnswer, []⟩
    | _, _ => none

/-- What the run over the four pull requests reports. -/
theorem run_watched :
    ∃ outcomes s w', Run.run (Rules.ofConfig config) (.all .opened) (some .earliest) watched
        = (.ok (outcomes, s), w') ∧
      [s.processed, s.ignored, s.failed] = [2, 1, 1] ∧ s.labeled = 2 ∧ s.conflicts = [2] ∧
        s.external.toList = [{ login := "dev" }] := by
  have h : (match (Run.run (Rules.ofConfig config) (.all .opened) (some .earliest) watched).1 with
      | .ok (_, s) => some ([s.processed, s.ignored, s.failed], s.labeled, s.conflicts,
          s.external.toList)
      | .error _ => none) = some ([2, 1, 1], 2, [2], [{ login := "dev" }]) := by
    decide +kernel
  rcases hrun : Run.run (Rules.ofConfig config) (.all .opened) (some .earliest) watched with
    ⟨f | ⟨outcomes, s⟩, w'⟩
  · simp only [hrun, reduceCtorEq] at h
  · simp only [hrun, Option.some.injEq, Prod.mk.injEq] at h
    exact ⟨outcomes, s, w', rfl, h⟩

end Sample

/-- The author of three pull requests is reported once, and the question that
    fails is one that was answered before. -/
theorem report_exact_sample :
    (Run.collect (.all .opened) Sample.watched).1
        = .ok (Sample.watched.memory.pulls .opened) ∧
      ∃ (visits : List (Outcome × List Asked)) (s : Summary) (w' : Watched),
        Run.run (Rules.ofConfig Sample.config) (.all .opened) (some .earliest) Sample.watched
          = (.ok (visits.map Prod.fst, s), w') ∧
        Run.IsExact Sample.config Sample.watched.memory (some .earliest)
          (Sample.watched.memory.pulls .opened) visits s ∧
        s.labeled = 2 ∧ s.conflicts = [2] ∧ s.external.toList = [{ login := "dev" }] := by
  have hcollect : (Run.collect (.all .opened) Sample.watched).1
      = .ok (Sample.watched.memory.pulls .opened) := rfl
  rcases report_exact Sample.config Sample.watched (.all .opened) (some .earliest) _ hcollect with
    ⟨visits, w', hrun, -, -, hexact⟩
  rcases Sample.run_watched with
    ⟨outcomes, s, w'', hrun', -, hlabeled, hconflicts, hexternal⟩
  -- There is one run, so its summary is the one that was evaluated.
  rw [hrun, Prod.mk.injEq, Except.ok.injEq, Prod.mk.injEq] at hrun'
  rw [← hrun'.1.2] at hlabeled hconflicts hexternal
  exact ⟨hcollect, visits, _, w', hrun, hexact, hlabeled, hconflicts, hexternal⟩

end PullTriage
