import PullTriage.Proofs.Memory
import PullTriage.Proofs.Summaries

/-!
# Failures Stay with Their Pull Request

Failures are keyed in two ways. Lookups of an author fail by login, so one of
them may strike many pull requests, and the other calls fail by number. A
failed lookup ends the visit. A refusal of labels matters only if the labels
are sent at all, which is not so in a preview or when nothing is missing.

`Memory.Fails` says which visits fail. The others come out as they do in the
same repository without failures, `Memory.calm`: outcomes do not depend on
each other, so a failure elsewhere makes no difference.

## Main definitions

* `Memory.Fails`: The visit of a pull request fails.
* `Memory.calm`: The repository without failing calls.
* `Memory.writesTo`: The writes to a number.

## Theorems

* `isFailed_outcome_iff`: A visit has failed exactly if it should.
* `outcome_calm`: A visit that has not failed comes out as without failures.
* `collect_calm`: A selection that is fetched is fetched without failures.
* `Summary.ofOutcomes_failed`: A failed visit is only counted in a summary.
* `writesTo_recording`, `writesTo_recording_of_ne`: What the outcomes of a run
  write to a number.
* `failures_isolated`: Failures of a run concern their pull requests only.
-/

namespace PullTriage

namespace Memory

/-- The visit of a pull request fails: it is made, and a lookup fails or the
    labels that it sends are refused. -/
def Fails (m : Memory) (rules : Rules) (cutoff : Option Instant) (p : Pull) : Prop :=
  Run.isOld cutoff p = false ∧
    (m.faults.identity p.author ≠ none ∨ m.faults.isMember p.author ≠ none ∨
      m.faults.teams p.number ≠ none ∨
      (m.planned rules p ≠ [] ∧ rules.dryRun = false ∧ m.faults.addLabels p.number ≠ none))

/-- The repository without failing calls. -/
def calm (m : Memory) : Memory :=
  { m with faults := {} }

/-- The writes to a number. -/
def writesTo (m : Memory) (number : Nat) : List (Nat × List String) :=
  m.writes.filter fun w => w.1 = number

end Memory

theorem lookUp?_eq_none_iff (f : Faults) (p : Pull) :
    f.lookUp? p = none ↔
      f.identity p.author = none ∧ f.isMember p.author = none ∧ f.teams p.number = none := by
  unfold Faults.lookUp?
  rw [Option.or_eq_none_iff, Option.or_eq_none_iff]

theorem fails_iff (m : Memory) (rules : Rules) (cutoff : Option Instant) (p : Pull) :
    m.Fails rules cutoff p ↔ Run.isOld cutoff p = false ∧
      (m.faults.lookUp? p ≠ none ∨
        (m.planned rules p ≠ [] ∧ rules.dryRun = false ∧ m.faults.addLabels p.number ≠ none)) := by
  have hlookups := lookUp?_eq_none_iff m.faults p
  rw [Memory.Fails, ne_eq (m.faults.lookUp? p), hlookups, Classical.not_and_iff_not_or_not,
    Classical.not_and_iff_not_or_not, or_assoc, or_assoc]

theorem isFailed_outcome_iff (m : Memory) (rules : Rules) (cutoff : Option Instant) (p : Pull) :
    (m.answers.outcome rules cutoff p).isFailed = true ↔ m.Fails rules cutoff p := by
  rw [fails_iff]
  have hcourse := m.course_outcome rules cutoff p
  generalize m.answers.outcome rules cutoff p = o at hcourse
  cases hcourse with
  | ignored hold =>
      simp only [Outcome.isFailed, hold, Bool.false_eq_true, reduceCtorEq, false_and]
  | lost hold f hlook =>
      simp only [Outcome.isFailed, hold, hlook, ne_eq, reduceCtorEq, not_false_eq_true, true_or,
        and_self]
  | unchanged hold hlook hplan =>
      simp only [Outcome.isFailed, Bool.false_eq_true, hold, hlook, hplan, ne_eq,
        not_true_eq_false, false_and, or_self, and_false]
  | previewed hold hlook hplan hdry =>
      simp only [Outcome.isFailed, Bool.false_eq_true, hold, hlook, hdry, ne_eq,
        not_true_eq_false, reduceCtorEq, false_and, and_false, or_self]
  | refused hold hlook hplan hdry f hadd =>
      exact ⟨fun _ => ⟨hold, Or.inr ⟨hplan, hdry, hadd ▸ Option.some_ne_none f⟩⟩, fun _ => rfl⟩
  | written hold hlook hplan hdry hadd =>
      simp only [Outcome.isFailed, Bool.false_eq_true, hold, hlook, hadd, ne_eq,
        not_true_eq_false, and_false, or_self]

/-- A visit that has not failed comes out as it does without failures. -/
theorem outcome_calm (m : Memory) (rules : Rules) (cutoff : Option Instant) (p : Pull)
    (h : (m.answers.outcome rules cutoff p).isFailed = false) :
    m.calm.answers.outcome rules cutoff p = m.answers.outcome rules cutoff p := by
  have hcourse := m.course_outcome rules cutoff p
  generalize m.answers.outcome rules cutoff p = o at h hcourse
  refine m.calm.outcome_of_course rules cutoff p o ?_
  cases hcourse with
  | ignored hold => exact .ignored hold
  | lost hold f hlook => exact absurd h (Ne.symm Bool.false_ne_true)
  | unchanged hold hlook hplan => exact .unchanged hold rfl hplan
  | previewed hold hlook hplan hdry => exact .previewed hold rfl hplan hdry
  | refused hold hlook hplan hdry f hadd => exact absurd h (Ne.symm Bool.false_ne_true)
  | written hold hlook hplan hdry hadd => exact .written hold rfl hplan hdry rfl

/-- A selection that is fetched is fetched without failures too, and alike. -/
theorem collect_calm (m : Memory) (selection : Selection) (pulls : List Pull)
    (h : (Run.collect selection m).1 = .ok pulls) :
    (Run.collect selection m.calm).1 = .ok pulls := by
  have hnone : m.calm.faults.fetch? selection = none := by
    cases selection with
    | all state => rfl
    | single number => rfl
  have hselected : m.calm.selected selection = m.selected selection := rfl
  rw [Memory.collect_eq] at h ⊢
  simp only [hnone, hselected]
  cases hf : m.faults.fetch? selection with
  | some f => simp only [hf, reduceCtorEq] at h
  | none =>
      simp only [hf] at h
      exact h

/-- A failed visit is counted in a summary and shows nowhere else. -/
theorem Summary.ofOutcomes_failed (before after : List Outcome) (p : Pull) (f : Failure) :
    ofOutcomes (before ++ .failed p f :: after) = { ofOutcomes (before ++ after) with
      total := (ofOutcomes (before ++ after)).total + 1
      failed := (ofOutcomes (before ++ after)).failed + 1 } := by
  have hreports : reports (before ++ .failed p f :: after) = reports (before ++ after) := by
    rw [reports_append, reports_append]
    rfl
  have hignored : (before ++ .failed p f :: after).countP Outcome.isIgnored
      = (before ++ after).countP Outcome.isIgnored := by
    rw [List.countP_append, List.countP_append]
    rfl
  have hfailed : (before ++ .failed p f :: after).countP Outcome.isFailed
      = (before ++ after).countP Outcome.isFailed + 1 := by
    rw [List.countP_append, List.countP_append, List.countP_cons_of_pos rfl, Nat.add_assoc]
  have hlength : (before ++ .failed p f :: after).length = (before ++ after).length + 1 := by
    rw [List.length_append, List.length_append, List.length_cons, Nat.add_assoc]
  simp only [ofOutcomes_eq, extended, hreports, hignored, hfailed, hlength, Nat.add_assoc]

/-- Outcomes about other numbers write nothing to a number. -/
theorem filter_writes_of_ne (outcomes : List Outcome) (number : Nat)
    (hother : ∀ o ∈ outcomes, o.pull.number ≠ number) :
    (outcomes.filterMap Outcome.write?).filter (fun w => w.1 = number) = [] := by
  rw [List.filter_eq_nil_iff]
  intro w hw hnumber
  rcases List.mem_filterMap.mp hw with ⟨o, ho, how⟩
  rw [decide_eq_true_eq, o.number_of_write? w how] at hnumber
  exact hother o ho hnumber

/-- Among outcomes about distinct numbers, what is written to the number of
    one of them is what that outcome has written. -/
theorem filter_writes (outcomes : List Outcome)
    (hdistinct : (outcomes.map fun o => o.pull.number).Nodup) (o : Outcome) (ho : o ∈ outcomes) :
    (outcomes.filterMap Outcome.write?).filter (fun w => w.1 = o.pull.number)
      = o.write?.toList := by
  rcases List.append_of_mem ho with ⟨before, after, rfl⟩
  rw [List.map_append, List.map_cons, List.nodup_append, List.nodup_cons] at hdistinct
  rcases hdistinct with ⟨-, ⟨hafter, -⟩, hbefore⟩
  have hbefore' : ∀ q ∈ before, q.pull.number ≠ o.pull.number := by
    intro q hq
    exact hbefore _ (List.mem_map_of_mem hq) _ List.mem_cons_self
  have hafter' : ∀ q ∈ after, q.pull.number ≠ o.pull.number := by
    intro q hq hnumber
    exact hafter (List.mem_map.mpr ⟨q, hq, hnumber⟩)
  have hown : o.write?.toList.filter (fun w => w.1 = o.pull.number) = o.write?.toList := by
    rw [List.filter_eq_self]
    intro w hw
    exact decide_eq_true (o.number_of_write? w (Option.mem_toList.mp hw))
  rw [List.filterMap_append, filterMap_cons_toList, List.filter_append, List.filter_append,
    filter_writes_of_ne before _ hbefore', filter_writes_of_ne after _ hafter', hown,
    List.nil_append, List.append_nil]

/-- Outcomes about other numbers leave the writes to a number as they are. -/
theorem writesTo_recording_of_ne (m : Memory) (outcomes : List Outcome) (number : Nat)
    (hother : ∀ o ∈ outcomes, o.pull.number ≠ number) :
    (m.recording outcomes).writesTo number = m.writesTo number := by
  unfold Memory.writesTo Memory.recording
  rw [List.filter_append, filter_writes_of_ne outcomes number hother, List.append_nil]

/-- The writes to a number after a run: those before it, and that of the
    outcome about the number. -/
theorem writesTo_recording (m : Memory) (outcomes : List Outcome)
    (hdistinct : (outcomes.map fun o => o.pull.number).Nodup) (o : Outcome) (ho : o ∈ outcomes) :
    (m.recording outcomes).writesTo o.pull.number
      = m.writesTo o.pull.number ++ o.write?.toList := by
  unfold Memory.writesTo Memory.recording
  rw [List.filter_append, filter_writes outcomes hdistinct o ho]

theorem current_eq_of_writesTo (m m' : Memory) (p : Pull)
    (h : m'.writesTo p.number = m.writesTo p.number) : m'.current p = m.current p := by
  have hlabels : m'.labelsWritten p.number = m.labelsWritten p.number :=
    congrArg (fun writes => writes.flatMap Prod.snd) h
  unfold Memory.current
  rw [hlabels]

/-- Failures of a run concern their pull requests only. If the selection cannot
    be fetched the run is its failure. Otherwise every visit has an outcome,
    and exactly those have failed that should. A failed visit leaves the labels
    as they are and is only counted in the summary. A visit that has not failed
    has the outcome and the write that it has without any failure. -/
theorem failures_isolated (config : Config) (m : Memory) (selection : Selection)
    (cutoff : Option Instant) :
    (∀ f, (Run.collect selection m).1 = .error f →
      Run.run (Rules.ofConfig config) selection cutoff m = (.error f, m)) ∧
    ∀ pulls, (Run.collect selection m).1 = .ok pulls →
      ∃ (outcomes undisturbed : List Outcome) (m' calm' : Memory),
        Run.run (Rules.ofConfig config) selection cutoff m
          = (.ok (outcomes, Summary.ofOutcomes outcomes), m') ∧
        Run.run (Rules.ofConfig config) selection cutoff m.calm
          = (.ok (undisturbed, Summary.ofOutcomes undisturbed), calm') ∧
        outcomes.map Outcome.pull = pulls ∧
        (∀ o ∈ outcomes,
          o.isFailed = true ↔ m.Fails (Rules.ofConfig config) cutoff o.pull) ∧
        (∀ before p f after, outcomes = before ++ .failed p f :: after →
          Summary.ofOutcomes outcomes = { Summary.ofOutcomes (before ++ after) with
            total := (Summary.ofOutcomes (before ++ after)).total + 1
            failed := (Summary.ofOutcomes (before ++ after)).failed + 1 }) ∧
        (∀ (i : Nat) (o : Outcome), outcomes[i]? = some o → o.isFailed = false →
          undisturbed[i]? = some o) ∧
        ((pulls.map Pull.number).Nodup →
          (∀ o ∈ outcomes, o.isFailed = true → ∀ q : Pull, q.number = o.pull.number →
            m'.current q = m.current q) ∧
          ∀ o ∈ outcomes, o.isFailed = false →
            m'.writesTo o.pull.number = calm'.writesTo o.pull.number) := by
  refine ⟨m.run_error _ selection cutoff, fun pulls hcollect => ?_⟩
  have hpulls : (pulls.map (m.answers.outcome (Rules.ofConfig config) cutoff)).map Outcome.pull
      = pulls := by
    rw [List.map_map]
    refine (List.map_congr_left fun p _ => ?_).trans (List.map_id pulls)
    exact m.answers.pull_outcome _ cutoff p
  have hnumbers : ∀ a : Answers, (pulls.map (a.outcome (Rules.ofConfig config) cutoff)).map
      (fun o => o.pull.number) = pulls.map Pull.number := by
    intro a
    rw [List.map_map]
    exact List.map_congr_left fun p _ => congrArg Pull.number (a.pull_outcome _ cutoff p)
  refine ⟨_, _, _, _, m.run_ok _ _ _ pulls hcollect,
    m.calm.run_ok _ _ _ pulls (collect_calm m selection pulls hcollect), hpulls, ?_, ?_, ?_, ?_⟩
  · intro o ho
    rcases List.mem_map.mp ho with ⟨p, -, rfl⟩
    rw [Answers.pull_outcome]
    exact isFailed_outcome_iff m _ cutoff p
  · intro before p f after hsplit
    rw [hsplit]
    exact Summary.ofOutcomes_failed before after p f
  · intro i o ho hfailed
    rw [List.getElem?_map, Option.map_eq_some_iff] at ho ⊢
    rcases ho with ⟨p, hp, rfl⟩
    exact ⟨p, hp, outcome_calm m _ cutoff p hfailed⟩
  · intro hdistinct
    refine ⟨fun o ho hfailed q hq => ?_, fun o ho hfailed => ?_⟩
    · refine current_eq_of_writesTo _ _ q ?_
      rw [hq, writesTo_recording m _ (hnumbers _ ▸ hdistinct) o ho]
      cases o with
      | failed p f => exact List.append_nil _
      | ignored p => exact absurd hfailed Bool.false_ne_true
      | processed r => exact absurd hfailed Bool.false_ne_true
    · -- The same outcome is among those without failures, with the same write.
      rcases List.mem_map.mp ho with ⟨p, hp, rfl⟩
      have hcalm := outcome_calm m _ cutoff p hfailed
      have hmem : m.answers.outcome (Rules.ofConfig config) cutoff p
          ∈ pulls.map (m.calm.answers.outcome (Rules.ofConfig config) cutoff) :=
        List.mem_map.mpr ⟨p, hp, hcalm⟩
      rw [writesTo_recording m _ (hnumbers _ ▸ hdistinct) _ ho,
        writesTo_recording m.calm _ (hnumbers _ ▸ hdistinct) _ hmem]
      rfl

/-- One of two pull requests fails because its teams cannot be looked up, and
    the other one is labelled as if nothing had happened. -/
theorem failures_isolated_sample :
    let m : Memory := { Sample.memory with
      opened := [Sample.pull, { Sample.pull with number := 3 }]
      faults := { teams := fun n => if n = 3 then some ⟨.badAnswer, []⟩ else none } }
    (Run.collect (.all .opened) m).1 = .ok (m.pulls .opened) ∧
      ((m.pulls .opened).map Pull.number).Nodup ∧
      ∃ (outcomes : List Outcome) (m' : Memory),
        Run.run (Rules.ofConfig Sample.config) (.all .opened) none m
          = (.ok (outcomes, Summary.ofOutcomes outcomes), m') ∧
        outcomes.map Outcome.isFailed = [false, true] ∧
        m'.writes = [(1, ["ExternalPR", "category: GPU"])] ∧
        m'.current { Sample.pull with number := 3 }
          = m.current { Sample.pull with number := 3 } := by
  intro m
  have hcollect : (Run.collect (.all .opened) m).1 = .ok (m.pulls .opened) := rfl
  have hdistinct : ((m.pulls .opened).map Pull.number).Nodup := by decide +kernel
  refine ⟨hcollect, hdistinct, ?_⟩
  rcases (failures_isolated Sample.config m (.all .opened) none).2 _ hcollect with
    ⟨outcomes, undisturbed, m', calm', hrun, -, -, -, -, -, hlabels⟩
  have hresult := hrun
  rw [m.run_ok _ _ _ _ hcollect, Prod.mk.injEq, Except.ok.injEq, Prod.mk.injEq] at hresult
  have hfailed : outcomes.map Outcome.isFailed = [false, true] := by
    rw [← hresult.1.1]
    decide +kernel
  refine ⟨outcomes, m', hrun, hfailed, ?_, ?_⟩
  · rw [← hresult.2]
    decide +kernel
  · refine (hlabels hdistinct).1 (.failed { Sample.pull with number := 3 } ⟨.badAnswer, []⟩)
      ?_ rfl _ rfl
    rw [← hresult.1.1]
    decide +kernel

end PullTriage
