import Mathlib.Data.List.Forall2
import PullTriage.Proofs.Memory
import PullTriage.Proofs.Summaries

/-!
# Previews

A run that only previews decides as a run that writes does. The two differ in
what becomes of a plan that is not empty: the preview shows the labels, the
other run writes them. A run that writes changes the repository while it goes,
but none of its later decisions sees that, because pull requests are listed
once and before the first visit. So the outcomes correspond one by one, and
so does everything that is read off them.

The correspondence is a function on outcomes, `Outcome.performed`, which turns
shown labels into written ones. It needs that no labels are refused: a refusal
is a failure, and a preview has nothing to be refused.

## Main definitions

* `Config.Previews`: Two configurations of which one previews the other.
* `Outcome.performed`: The outcome with its shown labels written.
* `Outcome.shown?`: The number and the labels that an outcome has shown.
* `Outcome.Matches`: An outcome of a preview and one of a run that writes.

## Theorems

* `outcome_performed`: The outcomes of one pull request in the two runs.
* `Summary.ofOutcomes_performed`: The summaries of the two runs.
* `preview_faithful`: A preview shows what the run would do, and does nothing.
-/

namespace PullTriage

/-- Two configurations that agree in everything that a run reads, except that
    the first only previews and the second writes. -/
def Config.Previews (preview real : Config) : Prop :=
  preview.dryRun = true ∧
    real = { preview with properties := real.properties, dryRun := false }

/-- A report whose shown labels are written. -/
def Report.performed (r : Report) : Report :=
  { r with effect := if r.effect = .previewed then .written else r.effect }

namespace Outcome

/-- The outcome with its shown labels written. -/
def performed : Outcome → Outcome
  | processed r => processed r.performed
  | ignored p => ignored p
  | failed p f => failed p f

/-- The number and the labels that an outcome has shown. -/
def shown? : Outcome → Option (Nat × List String)
  | processed r => if r.effect = .previewed then some (r.pull.number, r.toAdd) else none
  | ignored _ => none
  | failed _ _ => none

/-- An outcome of a preview and one of a run that writes: they agree in
    everything, except that labels are shown where they are written. -/
def Matches : Outcome → Outcome → Prop
  | ignored p, ignored q => p = q
  | failed p f, failed q g => p = q ∧ f = g
  | processed r, processed s =>
    r.pull = s.pull ∧ r.identity = s.identity ∧ r.classification = s.classification ∧
      r.toAdd = s.toAdd ∧ (r.effect = .previewed ∧ s.effect = .written ∨
        r.effect = .unchanged ∧ s.effect = .unchanged)
  | _, _ => False

theorem matches_performed (o : Outcome) (h : o.write? = none) :
    o.Matches o.performed := by
  cases o with
  | ignored p => exact rfl
  | failed p f => exact ⟨rfl, rfl⟩
  | processed r =>
      refine ⟨rfl, rfl, rfl, rfl, ?_⟩
      simp only [Report.performed]
      cases he : r.effect with
      | unchanged => exact Or.inr ⟨rfl, rfl⟩
      | previewed => exact Or.inl ⟨rfl, rfl⟩
      | written => simp only [write?, he, if_true, reduceCtorEq] at h

theorem write?_performed (o : Outcome) (h : o.write? = none) :
    o.performed.write? = o.shown? := by
  cases o with
  | ignored p => rfl
  | failed p f => rfl
  | processed r =>
      simp only [performed, Report.performed, write?, shown?]
      cases he : r.effect with
      | unchanged => rfl
      | previewed => rfl
      | written => simp only [write?, he, if_true, reduceCtorEq] at h

end Outcome

theorem reports_performed (l : List Outcome) :
    reports (l.map Outcome.performed) = (reports l).map Report.performed := by
  induction l with
  | nil => rfl
  | cons o rest ih =>
      cases o with
      | ignored p => exact ih
      | failed p f => exact ih
      | processed r => exact congrArg (r.performed :: ·) ih

namespace Summary

/-- The reports of written labels are as many as the writes. -/
theorem countEffect_written (l : List Outcome) :
    countEffect .written (reports l) = (l.filterMap Outcome.write?).length := by
  induction l with
  | nil => rfl
  | cons o rest ih =>
      cases o with
      | ignored p => exact ih
      | failed p f => exact ih
      | processed r =>
          have hreports : reports (.processed r :: rest) = r :: reports rest := rfl
          rw [hreports, countEffect_cons, ih, List.filterMap_cons, Outcome.write?]
          by_cases h : r.effect = .written
          · rw [if_pos h, if_pos h, List.length_cons, Nat.add_comm]
          · rw [if_neg h, if_neg h, Nat.zero_add]

theorem countEffect_performed (rs : List Report) :
    countEffect .written (rs.map Report.performed)
        = countEffect .written rs + countEffect .previewed rs ∧
      countEffect .previewed (rs.map Report.performed) = 0 := by
  induction rs with
  | nil => exact ⟨rfl, rfl⟩
  | cons r rest ih =>
      simp only [List.map_cons, countEffect_cons, ih.1, ih.2, Report.performed]
      cases r.effect with
      | unchanged =>
          simp only [reduceCtorEq, if_false, and_true]
          omega
      | previewed =>
          simp only [reduceCtorEq, if_true, if_false, and_true]
          omega
      | written =>
          simp only [reduceCtorEq, if_true, if_false, and_true]
          omega

/-- The summary of performed outcomes counts labels as written that were
    shown, and says the same in all else. -/
theorem ofOutcomes_performed (l : List Outcome) :
    ofOutcomes (l.map Outcome.performed) = { ofOutcomes l with
      labeled := (ofOutcomes l).labeled + (ofOutcomes l).wouldLabel
      wouldLabel := 0 } := by
  have hignored : (l.map Outcome.performed).countP Outcome.isIgnored
      = l.countP Outcome.isIgnored := by
    rw [List.countP_map]
    refine List.countP_congr (fun o _ => ?_)
    cases o <;> rfl
  have hfailed : (l.map Outcome.performed).countP Outcome.isFailed
      = l.countP Outcome.isFailed := by
    rw [List.countP_map]
    refine List.countP_congr (fun o _ => ?_)
    cases o <;> rfl
  have hconflicts : conflictsOf ((reports l).map Report.performed) = conflictsOf (reports l) := by
    unfold conflictsOf
    rw [List.filter_map, List.map_map]
    rfl
  have hauthors : ∀ verdict, authorsOf verdict ((reports l).map Report.performed)
      = authorsOf verdict (reports l) := by
    intro verdict
    unfold authorsOf
    rw [List.filter_map, List.map_map]
    rfl
  have hcount := countEffect_performed (reports l)
  simp only [ofOutcomes_eq, extended, reports_performed, List.length_map, hignored, hfailed,
    hconflicts, hauthors, hcount.1, hcount.2, Nat.zero_add]

end Summary

/-- A run that writes has the outcome of a preview performed. -/
theorem outcome_performed (rules : Rules) (m : Memory)
    (hadd : ∀ number, m.faults.addLabels number = none) (cutoff : Option Instant) (p : Pull) :
    m.answers.outcome { rules with dryRun := false } cutoff p
      = (m.answers.outcome { rules with dryRun := true } cutoff p).performed := by
  have hcourse := m.course_outcome { rules with dryRun := true } cutoff p
  generalize m.answers.outcome { rules with dryRun := true } cutoff p = o at hcourse
  refine m.outcome_of_course _ cutoff p _ ?_
  cases hcourse with
  | ignored hold => exact .ignored hold
  | lost hold f hlook => exact .lost hold f hlook
  | unchanged hold hlook hplan => exact .unchanged hold hlook hplan
  | previewed hold hlook hplan hdry => exact .written hold hlook hplan rfl (hadd p.number)
  | refused hold hlook hplan hdry f hrefused => exact absurd hdry (Ne.symm Bool.false_ne_true)
  | written hold hlook hplan hdry hwritten => exact absurd hdry (Ne.symm Bool.false_ne_true)

/-- A visit of a run that only previews writes nothing. -/
theorem write?_eq_none (rules : Rules) (hdry : rules.dryRun = true) (m : Memory)
    (cutoff : Option Instant) (p : Pull) : (m.answers.outcome rules cutoff p).write? = none := by
  rw [Option.eq_none_iff_forall_ne_some]
  intro w hw
  rcases (m.write?_outcome rules cutoff p w).mp hw with ⟨-, -, -, hwrites, -, -⟩
  rw [hdry] at hwrites
  exact absurd hwrites (by decide)

/-- A preview shows exactly what the run would do, and does nothing. Whatever
    lookups fail, it fails to fetch the selection if the run does, with the
    same failure. Otherwise the outcomes match one by one, the writes of the
    run are the labels that were shown, in order, and the summaries differ
    only in counting these labels as shown or as written. -/
theorem preview_faithful (preview real : Config) (hpair : preview.Previews real) (m : Memory)
    (hadd : ∀ number, m.faults.addLabels number = none) (selection : Selection)
    (cutoff : Option Instant) :
    (∃ f, Run.run (Rules.ofConfig preview) selection cutoff m = (.error f, m) ∧
      Run.run (Rules.ofConfig real) selection cutoff m = (.error f, m)) ∨
    ∃ (shown done : List Outcome) (m' : Memory),
      Run.run (Rules.ofConfig preview) selection cutoff m
        = (.ok (shown, Summary.ofOutcomes shown), m) ∧
      Run.run (Rules.ofConfig real) selection cutoff m
        = (.ok (done, Summary.ofOutcomes done), m') ∧
      List.Forall₂ Outcome.Matches shown done ∧
      m'.writes = m.writes ++ shown.filterMap Outcome.shown? ∧
      (Summary.ofOutcomes shown).labeled = 0 ∧
      Summary.ofOutcomes done = { Summary.ofOutcomes shown with
        labeled := (Summary.ofOutcomes shown).wouldLabel
        wouldLabel := 0 } := by
  rcases hpair with ⟨hpreview, hreal⟩
  have hrules : Rules.ofConfig real = { Rules.ofConfig preview with dryRun := false } := by
    rw [hreal]
    rfl
  have hrules' : Rules.ofConfig preview = { Rules.ofConfig preview with dryRun := true } := by
    rw [← hpreview]
    rfl
  cases hc : (Run.collect selection m).1 with
  | error f => exact Or.inl ⟨f, m.run_error _ _ _ f hc, m.run_error _ _ _ f hc⟩
  | ok pulls =>
      right
      -- The outcomes of the preview have written nothing, and those of the run
      -- are the same performed.
      have hshown : ∀ o ∈ pulls.map (m.answers.outcome (Rules.ofConfig preview) cutoff),
          o.write? = none := by
        intro o ho
        rcases List.mem_map.mp ho with ⟨p, -, rfl⟩
        exact write?_eq_none _ hpreview m cutoff p
      have hdone : pulls.map (m.answers.outcome (Rules.ofConfig real) cutoff)
          = (pulls.map (m.answers.outcome (Rules.ofConfig preview) cutoff)).map
            Outcome.performed := by
        rw [List.map_map, hrules, hrules']
        exact List.map_congr_left fun p _ => outcome_performed _ m hadd cutoff p
      have hwrites : (pulls.map (m.answers.outcome (Rules.ofConfig real) cutoff)).filterMap
          Outcome.write? = (pulls.map (m.answers.outcome (Rules.ofConfig preview) cutoff)).filterMap
            Outcome.shown? := by
        rw [hdone, List.filterMap_map]
        exact List.filterMap_congr fun o ho => o.write?_performed (hshown o ho)
      -- So the preview leaves the repository as it is.
      have hstill : m.recording (pulls.map (m.answers.outcome (Rules.ofConfig preview) cutoff))
          = m := by
        unfold Memory.recording
        rw [List.filterMap_eq_nil_iff.mpr hshown, List.append_nil]
      have hlabeled : (Summary.ofOutcomes
          (pulls.map (m.answers.outcome (Rules.ofConfig preview) cutoff))).labeled = 0 := by
        rw [Summary.ofOutcomes_eq]
        change 0 + Summary.countEffect .written (reports _) = 0
        rw [Summary.countEffect_written, List.filterMap_eq_nil_iff.mpr hshown]
        rfl
      refine ⟨_, _, _, ?_, m.run_ok _ _ _ pulls hc, ?_, ?_, hlabeled, ?_⟩
      · rw [m.run_ok _ _ _ pulls hc, hstill]
      · rw [hdone, List.forall₂_map_right_iff, List.forall₂_same]
        exact fun o ho => o.matches_performed (hshown o ho)
      · exact congrArg (m.writes ++ ·) hwrites
      · rw [hdone, Summary.ofOutcomes_performed, hlabeled, Nat.zero_add]

/-- The preview of a run in which a pull request is labelled. The lookup of
    the teams of another one fails in both. -/
theorem preview_faithful_sample :
    let preview : Config := { Sample.config with dryRun := true }
    let m : Memory := { Sample.memory with
      opened := [Sample.pull, { Sample.pull with number := 3 }]
      faults := { teams := fun n => if n = 3 then some ⟨.badAnswer, []⟩ else none } }
    preview.Previews Sample.config ∧ (∀ number, m.faults.addLabels number = none) ∧
      ∃ (shown done : List Outcome) (m' : Memory),
        Run.run (Rules.ofConfig preview) (.all .opened) none m
          = (.ok (shown, Summary.ofOutcomes shown), m) ∧
        Run.run (Rules.ofConfig Sample.config) (.all .opened) none m
          = (.ok (done, Summary.ofOutcomes done), m') ∧
        List.Forall₂ Outcome.Matches shown done ∧
        m'.writes = [(1, ["ExternalPR", "category: GPU"])] ∧
        (Summary.ofOutcomes shown).wouldLabel = 1 := by
  intro preview m
  have hpair : preview.Previews Sample.config := ⟨rfl, rfl⟩
  have hadd : ∀ number, m.faults.addLabels number = none := fun _ => rfl
  refine ⟨hpair, hadd, ?_⟩
  rcases preview_faithful preview Sample.config hpair m hadd (.all .opened) none with
    ⟨f, hrun, -⟩ | ⟨shown, done, m', hrun, hrun', hmatches, hwrites, -, -⟩
  · rw [m.run_ok _ _ _ _ rfl] at hrun
    exact absurd (congrArg Prod.fst hrun) (by simp only [reduceCtorEq, not_false_eq_true])
  · have houtcomes := hrun
    rw [m.run_ok _ _ _ _ rfl, Prod.mk.injEq, Except.ok.injEq, Prod.mk.injEq] at houtcomes
    refine ⟨shown, done, m', hrun, hrun', hmatches, ?_, ?_⟩
    · rw [hwrites, ← houtcomes.1.1]
      decide +kernel
    · rw [← houtcomes.1.1]
      decide +kernel

end PullTriage
