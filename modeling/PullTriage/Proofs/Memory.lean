import PullTriage.GitHub.Memory
import PullTriage.Proofs.Answers
import PullTriage.Proofs.Labels

/-!
# Runs over a Repository in Memory

A repository in memory is steady: labels that are written show up only when
pull requests are listed again, and no call of a visit lists any. So a run is
its outcomes, one for each pull request of the selection, and the writes of
those outcomes added to the ones before.

A visit goes by three things. The lookups may fail (`Faults.lookUp?`), the
plan may be empty (`Memory.planned`), and the labels may be refused. The plan
is what lookups without failures lead to, so it can be named for a visit whose
lookups fail.

## Main definitions

* `Outcome.write?`: What an outcome has written.
* `labelPairs`: The single labels of a list of writes.
* `Faults.lookUp?`: The first failure of the lookups about a pull request.
* `Memory.answers`: The answers that a repository gives.
* `Memory.author`: What is known of an author, with the membership.
* `Memory.desired`: The labels that a pull request should have.
* `Memory.planned`: The labels that a visit finds missing.
* `Memory.Course`: The courses that a visit can take.
* `Memory.recording`: A repository with the writes of outcomes.
* `Memory.selected`: The pull requests of a selection.
* `Sample.config`, `Sample.pull`, `Sample.memory`: A small repository.

## Theorems

* `Memory.course_outcome`: The outcome of a visit is that of its course.
* `Memory.outcome_of_course`: A visit takes one course only.
* `Memory.write?_outcome`: When a visit writes, and what.
* `Memory.call_eq_some_iff`: When a visit makes a call, and which.
* `Memory.filter_call`: The calls that are not refused are the writes.
* `Memory.visitAll_eq`: A list of visits by their outcomes.
* `Memory.run_error`: A run whose selection cannot be fetched.
* `Memory.run_ok`: A run by its outcomes.
* `Memory.selected_sublist`: What a selection covers.
* `Memory.mem_current`: The labels of a pull request at present.
* `Memory.mem_current_recording`: Its labels after outcomes.
-/

namespace PullTriage

/-- The number and the labels that an outcome has written. -/
def Outcome.write? : Outcome → Option (Nat × List String)
  | processed r => if r.effect = .written then some (r.pull.number, r.toAdd) else none
  | ignored _ => none
  | failed _ _ => none

/-- The labels of a list of writes one by one, each with its number. -/
def labelPairs (writes : List (Nat × List String)) : List (Nat × String) :=
  writes.flatMap fun w => w.2.map fun label => (w.1, label)

theorem mem_labelPairs (writes : List (Nat × List String)) (number : Nat) (label : String) :
    (number, label) ∈ labelPairs writes ↔ ∃ w ∈ writes, w.1 = number ∧ label ∈ w.2 := by
  simp only [labelPairs, List.mem_flatMap, List.mem_map, Prod.mk.injEq]
  constructor
  · rintro ⟨w, hw, l, hl, rfl, rfl⟩
    exact ⟨w, hw, rfl, hl⟩
  · rintro ⟨w, hw, rfl, hl⟩
    exact ⟨w, hw, label, hl, rfl, rfl⟩

theorem labelPairs_append (writes more : List (Nat × List String)) :
    labelPairs (writes ++ more) = labelPairs writes ++ labelPairs more :=
  List.flatMap_append

theorem Outcome.number_of_write? (o : Outcome) (w : Nat × List String) (h : o.write? = some w) :
    w.1 = o.pull.number := by
  cases o with
  | ignored p => exact absurd h (by simp only [write?, reduceCtorEq, not_false_eq_true])
  | failed p f => exact absurd h (by simp only [write?, reduceCtorEq, not_false_eq_true])
  | processed r =>
      simp only [write?] at h
      split at h
      · rw [Option.some.injEq] at h
        rw [← h]
        rfl
      · exact absurd h (by simp only [reduceCtorEq, not_false_eq_true])

theorem numbers_write?_sublist (outcomes : List Outcome) :
    ((outcomes.filterMap Outcome.write?).map Prod.fst).Sublist
      (outcomes.map fun o => o.pull.number) :=
  map_filterMap_sublist _ _ _ Outcome.number_of_write? outcomes

/-- The failure of the lookups about a pull request, the first of several. -/
def Faults.lookUp? (f : Faults) (p : Pull) : Option Failure :=
  (f.identity p.author).or ((f.isMember p.author).or (f.teams p.number))

/-- The failure of the call that fetches a selection. -/
def Faults.fetch? (f : Faults) : Selection → Option Failure
  | .all state => f.list state
  | .single number => f.get number

namespace Memory

/-- The answers of the repository to the calls of a visit. -/
def answers (m : Memory) : Answers where
  identity login := guarded (m.faults.identity login) (m.profile login)
  isMember login := guarded (m.faults.isMember login) (login ∈ m.members : Bool)
  teams p := guarded (m.faults.teams p.number) p.teams
  addLabels number _ := guarded (m.faults.addLabels number) ()

instance : Steady Memory where
  answers := answers
  identity_eq _ _ := rfl
  isMember_eq _ _ := rfl
  teams_eq _ _ := rfl
  addLabels_fst m number labels := by
    change (match m.faults.addLabels number with | some f => _ | none => _ :
      Except Failure Unit × Memory).1 = guarded _ ()
    cases m.faults.addLabels number with
    | none => rfl
    | some f => rfl
  answers_addLabels m number labels := by
    change answers (match m.faults.addLabels number with | some f => _ | none => _ :
      Except Failure Unit × Memory).2 = _
    cases m.faults.addLabels number with
    | none => rfl
    | some f => rfl
  both_eq _ _ := rfl
  atTime_eq _ _ := rfl

/-- What is known of an author, with the membership. -/
def author (m : Memory) (login : String) : Identity :=
  { m.profile login with isMember := (login ∈ m.members : Bool) }

/-- The labels that a pull request should have. -/
def desired (m : Memory) (rules : Rules) (p : Pull) : List String :=
  rules.desired (m.author p.author) p.teams

/-- The labels that a visit of a pull request finds missing. -/
def planned (m : Memory) (rules : Rules) (p : Pull) : List String :=
  (Run.decide rules p (m.author p.author) p.teams).2

theorem mem_planned (m : Memory) (rules : Rules) (p : Pull) (x : String) :
    x ∈ m.planned rules p ↔ x ∈ m.desired rules p ∧ x ∉ p.labels :=
  Run.mem_decide rules p _ _ x

/-- The report on a pull request. -/
def report (m : Memory) (rules : Rules) (p : Pull) (effect : Effect) : Report :=
  Answers.report rules p (m.author p.author) p.teams effect

theorem lookUp_answers (m : Memory) (p : Pull) :
    m.answers.lookUp p = guarded (m.faults.lookUp? p) (m.author p.author, p.teams) := by
  simp only [Answers.lookUp, answers, Faults.lookUp?]
  cases m.faults.identity p.author with
  | some f => rfl
  | none =>
      cases m.faults.isMember p.author with
      | some f => rfl
      | none =>
          cases m.faults.teams p.number with
          | some f => rfl
          | none => rfl

/-- The courses that a visit can take, each with the outcome that it has. -/
inductive Course (m : Memory) (rules : Rules) (cutoff : Option Instant) (p : Pull) :
    Outcome → Prop where
  | ignored (hold : Run.isOld cutoff p = true) : Course m rules cutoff p (.ignored p)
  | lost (hold : Run.isOld cutoff p = false) (f : Failure) (hlook : m.faults.lookUp? p = some f) :
      Course m rules cutoff p (.failed p f)
  | unchanged (hold : Run.isOld cutoff p = false) (hlook : m.faults.lookUp? p = none)
      (hplan : m.planned rules p = []) :
      Course m rules cutoff p (.processed (m.report rules p .unchanged))
  | previewed (hold : Run.isOld cutoff p = false) (hlook : m.faults.lookUp? p = none)
      (hplan : m.planned rules p ≠ []) (hdry : rules.dryRun = true) :
      Course m rules cutoff p (.processed (m.report rules p .previewed))
  | refused (hold : Run.isOld cutoff p = false) (hlook : m.faults.lookUp? p = none)
      (hplan : m.planned rules p ≠ []) (hdry : rules.dryRun = false) (f : Failure)
      (hadd : m.faults.addLabels p.number = some f) : Course m rules cutoff p (.failed p f)
  | written (hold : Run.isOld cutoff p = false) (hlook : m.faults.lookUp? p = none)
      (hplan : m.planned rules p ≠ []) (hdry : rules.dryRun = false)
      (hadd : m.faults.addLabels p.number = none) :
      Course m rules cutoff p (.processed (m.report rules p .written))

theorem outcome_lost_lookUp (m : Memory) (rules : Rules) (cutoff : Option Instant) (p : Pull)
    (hold : Run.isOld cutoff p = false) (f : Failure) (hlook : m.faults.lookUp? p = some f) :
    m.answers.outcome rules cutoff p = .failed p f := by
  have hlookUp := m.lookUp_answers p
  rw [hlook] at hlookUp
  exact (m.answers.outcome_of_error rules cutoff p f hold hlookUp).1

theorem outcome_answered (m : Memory) (rules : Rules) (cutoff : Option Instant) (p : Pull)
    (hold : Run.isOld cutoff p = false) (hlook : m.faults.lookUp? p = none) :
    m.answers.outcome rules cutoff p =
      if m.planned rules p = [] then .processed (m.report rules p .unchanged)
      else if rules.dryRun then .processed (m.report rules p .previewed)
      else
        match m.faults.addLabels p.number with
        | some f => .failed p f
        | none => .processed (m.report rules p .written) := by
  have hlookUp := m.lookUp_answers p
  rw [hlook] at hlookUp
  have hplanned : (Run.decide rules p (m.author p.author) p.teams).2 = m.planned rules p := rfl
  rw [(m.answers.outcome_of_ok rules cutoff p _ _ hold hlookUp).1]
  simp only [Answers.conclude, Answers.apply, List.isEmpty_iff, hplanned]
  by_cases hplan : m.planned rules p = []
  · simp only [hplan, if_true]
    rfl
  by_cases hdry : rules.dryRun = true
  · simp only [hplan, hdry, if_true, if_false]
    rfl
  · simp only [hplan, hdry, if_false, Bool.false_eq_true, answers]
    cases m.faults.addLabels p.number with
    | some f => rfl
    | none => rfl

/-- The outcome of a visit is that of its course. -/
theorem course_outcome (m : Memory) (rules : Rules) (cutoff : Option Instant) (p : Pull) :
    m.Course rules cutoff p (m.answers.outcome rules cutoff p) := by
  cases hold : Run.isOld cutoff p with
  | true =>
      rw [m.answers.outcome_of_old rules cutoff p hold]
      exact .ignored hold
  | false =>
      cases hlook : m.faults.lookUp? p with
      | some f =>
          rw [m.outcome_lost_lookUp rules cutoff p hold f hlook]
          exact .lost hold f hlook
      | none =>
          rw [m.outcome_answered rules cutoff p hold hlook]
          by_cases hplan : m.planned rules p = []
          · rw [if_pos hplan]
            exact .unchanged hold hlook hplan
          rw [if_neg hplan]
          by_cases hdry : rules.dryRun = true
          · rw [if_pos hdry]
            exact .previewed hold hlook hplan hdry
          rw [if_neg hdry]
          rw [Bool.not_eq_true] at hdry
          cases hadd : m.faults.addLabels p.number with
          | some f => exact .refused hold hlook hplan hdry f hadd
          | none => exact .written hold hlook hplan hdry hadd

theorem outcome_of_course (m : Memory) (rules : Rules) (cutoff : Option Instant) (p : Pull)
    (o : Outcome) (h : m.Course rules cutoff p o) : m.answers.outcome rules cutoff p = o := by
  cases h with
  | ignored hold => exact m.answers.outcome_of_old rules cutoff p hold
  | lost hold f hlook => exact m.outcome_lost_lookUp rules cutoff p hold f hlook
  | unchanged hold hlook hplan => rw [m.outcome_answered rules cutoff p hold hlook, if_pos hplan]
  | previewed hold hlook hplan hdry =>
      rw [m.outcome_answered rules cutoff p hold hlook, if_neg hplan, if_pos hdry]
  | refused hold hlook hplan hdry f hadd =>
      rw [m.outcome_answered rules cutoff p hold hlook, if_neg hplan, hdry, hadd]
      rfl
  | written hold hlook hplan hdry hadd =>
      rw [m.outcome_answered rules cutoff p hold hlook, if_neg hplan, hdry, hadd]
      rfl

/-- A visit writes what it planned, if it gets so far and the labels are not
    refused. -/
theorem write?_outcome (m : Memory) (rules : Rules) (cutoff : Option Instant) (p : Pull)
    (w : Nat × List String) :
    (m.answers.outcome rules cutoff p).write? = some w ↔
      Run.isOld cutoff p = false ∧ m.faults.lookUp? p = none ∧ m.planned rules p ≠ [] ∧
        rules.dryRun = false ∧ m.faults.addLabels p.number = none ∧
        w = (p.number, m.planned rules p) := by
  have hcourse := m.course_outcome rules cutoff p
  constructor
  · intro h
    -- Only one of the courses has an outcome with a write.
    generalize m.answers.outcome rules cutoff p = o at h hcourse
    cases hcourse with
    | ignored hold => simp only [Outcome.write?, reduceCtorEq] at h
    | lost hold f hlook => simp only [Outcome.write?, reduceCtorEq] at h
    | unchanged hold hlook hplan =>
        simp only [Outcome.write?, report, Answers.report, reduceCtorEq, if_false] at h
    | previewed hold hlook hplan hdry =>
        simp only [Outcome.write?, report, Answers.report, reduceCtorEq, if_false] at h
    | refused hold hlook hplan hdry f hadd => simp only [Outcome.write?, reduceCtorEq] at h
    | written hold hlook hplan hdry hadd =>
        exact ⟨hold, hlook, hplan, hdry, hadd, (Option.some.inj h).symm⟩
  · rintro ⟨hold, hlook, hplan, hdry, hadd, rfl⟩
    rw [m.outcome_of_course rules cutoff p _ (.written hold hlook hplan hdry hadd)]
    rfl

/-- The repository with the writes of outcomes. -/
def recording (m : Memory) (outcomes : List Outcome) : Memory :=
  { m with writes := m.writes ++ outcomes.filterMap Outcome.write? }

theorem adding_calls (m : Memory) (calls : List (Nat × List String)) :
    adding m calls = { m with
      writes := m.writes ++ calls.filter fun c => (m.faults.addLabels c.1).isNone } := by
  induction calls generalizing m with
  | nil =>
      rw [List.filter_nil, List.append_nil]
      rfl
  | cons c rest ih =>
      have hrest : adding m (c :: rest) = adding (GitHub.addLabels c.1 c.2 m).2 rest := rfl
      have hadd : GitHub.addLabels c.1 c.2 m = match m.faults.addLabels c.1 with
        | some f => (.error f, m)
        | none => (.ok (), { m with writes := m.writes ++ [(c.1, c.2)] }) := rfl
      rw [hrest, ih, hadd]
      cases hf : m.faults.addLabels c.1 with
      | some f => simp only [List.filter_cons, hf, Option.isNone_some, Bool.false_eq_true, if_false]
      | none =>
          simp only [List.filter_cons, hf, Option.isNone_none, if_true, List.append_assoc,
            List.singleton_append]

/-- A visit calls for what it planned, if it gets so far. -/
theorem call_eq_some_iff (m : Memory) (rules : Rules) (cutoff : Option Instant) (p : Pull)
    (c : Nat × List String) :
    m.answers.call rules cutoff p = some c ↔
      Run.isOld cutoff p = false ∧ m.faults.lookUp? p = none ∧ m.planned rules p ≠ [] ∧
        rules.dryRun = false ∧ c = (p.number, m.planned rules p) := by
  have hplanned : (Run.decide rules p (m.author p.author) p.teams).2 = m.planned rules p := rfl
  have hlookUp := m.lookUp_answers p
  cases hold : Run.isOld cutoff p with
  | true =>
      have hnone : m.answers.call rules cutoff p = none := if_pos hold
      simp only [hnone, reduceCtorEq, false_and]
  | false =>
      cases hlook : m.faults.lookUp? p with
      | some f =>
          rw [hlook] at hlookUp
          rw [(m.answers.outcome_of_error rules cutoff p f hold hlookUp).2]
          simp only [reduceCtorEq, false_and, and_false]
      | none =>
          rw [hlook] at hlookUp
          rw [(m.answers.outcome_of_ok rules cutoff p _ _ hold hlookUp).2, hplanned,
            Answers.callFor_eq_some_iff]
          simp only [true_and]

/-- The call of a visit, if it is not refused, is the write of its outcome. -/
theorem filter_call (m : Memory) (rules : Rules) (cutoff : Option Instant) (p : Pull) :
    (m.answers.call rules cutoff p).filter (fun c => (m.faults.addLabels c.1).isNone)
      = (m.answers.outcome rules cutoff p).write? := by
  refine Option.ext (fun w => ?_)
  rw [write?_outcome, Option.filter_eq_some_iff, call_eq_some_iff, Option.isNone_iff_eq_none]
  constructor
  · rintro ⟨⟨hold, hlook, hplan, hdry, rfl⟩, hadd⟩
    exact ⟨hold, hlook, hplan, hdry, hadd, rfl⟩
  · rintro ⟨hold, hlook, hplan, hdry, hadd, rfl⟩
    exact ⟨⟨hold, hlook, hplan, hdry, rfl⟩, hadd⟩

/-- A list of visits by their outcomes and the writes of these. -/
theorem visitAll_eq (m : Memory) (rules : Rules) (cutoff : Option Instant) (pulls : List Pull) :
    Run.visitAll rules cutoff pulls m =
      (pulls.map (m.answers.outcome rules cutoff),
        m.recording (pulls.map (m.answers.outcome rules cutoff))) := by
  -- The calls that are not refused are what the outcomes have written.
  have hwrites : (pulls.filterMap (m.answers.call rules cutoff)).filter
      (fun c => (m.faults.addLabels c.1).isNone)
      = (pulls.map (m.answers.outcome rules cutoff)).filterMap Outcome.write? := by
    rw [List.filter_filterMap, List.filterMap_map]
    exact congrArg (fun g => List.filterMap g pulls) (funext (m.filter_call rules cutoff))
  rw [Run.visitAll_eq]
  change (_, adding m (pulls.filterMap (m.answers.call rules cutoff))) = _
  rw [adding_calls, hwrites]
  rfl

/-- The pull requests of a selection, as they are at present. -/
def selected (m : Memory) : Selection → Except Failure (List Pull)
  | .all state => .ok (m.pulls state)
  | .single number => (m.find number).map fun p => [p]

/-- Fetching a selection is one call, and leaves the repository as it is. -/
theorem collect_eq (m : Memory) (selection : Selection) :
    Run.collect selection m
      = (match m.faults.fetch? selection with
          | some f => .error f
          | none => m.selected selection, m) := by
  cases selection with
  | all state =>
      change (guarded (m.faults.list state) (m.pulls state), m) = _
      simp only [Faults.fetch?, selected]
      cases m.faults.list state with
      | some f => rfl
      | none => rfl
  | single number =>
      have hget : GitHub.get number m = match m.faults.get number with
        | some f => (Except.error f, m)
        | none => (m.find number, m) := rfl
      simp only [Run.collect, Call.andThen, hget, Faults.fetch?, selected]
      cases m.faults.get number with
      | some f => rfl
      | none =>
          cases m.find number with
          | ok p => rfl
          | error f => rfl

theorem collect_snd (m : Memory) (selection : Selection) : (Run.collect selection m).2 = m := by
  rw [collect_eq]

/-- A run whose selection cannot be fetched ends there. -/
theorem run_error (m : Memory) (rules : Rules) (selection : Selection) (cutoff : Option Instant)
    (f : Failure) (h : (Run.collect selection m).1 = .error f) :
    Run.run rules selection cutoff m = (.error f, m) := by
  have hcollect : Run.collect selection m = (.error f, m) :=
    Prod.ext h (m.collect_snd selection)
  unfold Run.run
  rw [hcollect]

/-- A run whose selection is fetched by its outcomes. -/
theorem run_ok (m : Memory) (rules : Rules) (selection : Selection) (cutoff : Option Instant)
    (pulls : List Pull) (h : (Run.collect selection m).1 = .ok pulls) :
    Run.run rules selection cutoff m =
      (.ok (pulls.map (m.answers.outcome rules cutoff),
        Summary.ofOutcomes (pulls.map (m.answers.outcome rules cutoff))),
        m.recording (pulls.map (m.answers.outcome rules cutoff))) := by
  have hcollect : Run.collect selection m = (.ok pulls, m) :=
    Prod.ext h (m.collect_snd selection)
  unfold Run.run
  simp only [hcollect, visitAll_eq]

/-- A selection covers some of the pull requests, as they are at present. -/
theorem selected_sublist (m : Memory) (selection : Selection) (pulls : List Pull)
    (h : m.selected selection = .ok pulls) :
    ∃ listed : List Pull, listed.Sublist (m.opened ++ m.closed) ∧
      pulls = listed.map m.current := by
  cases selection with
  | all state =>
      cases state with
      | opened => exact ⟨m.opened, List.sublist_append_left _ _, (Except.ok.inj h).symm⟩
      | closed => exact ⟨m.closed, List.sublist_append_right _ _, (Except.ok.inj h).symm⟩
  | single number =>
      simp only [selected, find] at h
      cases hp : (m.pulls .opened ++ m.pulls .closed).find? fun p => p.number = number with
      | none => simp only [hp, Except.map, reduceCtorEq] at h
      | some q =>
          -- What is found is one of the listed pull requests, as it is now.
          have hmem : q ∈ (m.opened ++ m.closed).map m.current := by
            rw [List.map_append]
            exact List.mem_of_find?_eq_some hp
          rcases List.mem_map.mp hmem with ⟨p, hlisted, rfl⟩
          simp only [hp, Except.map, Except.ok.injEq] at h
          exact ⟨[p], List.singleton_sublist.mpr hlisted, h.symm⟩

/-- What is fetched is the selection. -/
theorem selected_of_collect (m : Memory) (selection : Selection) (pulls : List Pull)
    (h : (Run.collect selection m).1 = .ok pulls) : m.selected selection = .ok pulls := by
  rw [collect_eq] at h
  cases hf : m.faults.fetch? selection with
  | some f => simp only [hf, reduceCtorEq] at h
  | none =>
      simp only [hf] at h
      exact h

/-- The labels of a pull request at present: those that it had at first, and
    those written to its number. -/
theorem mem_current (m : Memory) (p : Pull) (x : String) :
    x ∈ (m.current p).labels ↔ x ∈ p.labels ∨ (p.number, x) ∈ labelPairs m.writes := by
  simp only [current, OrderedSet.mem_insertAll, labelsWritten, List.mem_flatMap, List.mem_filter,
    decide_eq_true_iff, mem_labelPairs, and_assoc]

theorem mem_current_recording (m : Memory) (outcomes : List Outcome) (p : Pull) (x : String) :
    x ∈ ((m.recording outcomes).current p).labels ↔ x ∈ (m.current p).labels ∨
      (p.number, x) ∈ labelPairs (outcomes.filterMap Outcome.write?) := by
  rw [mem_current, mem_current, recording, labelPairs_append, List.mem_append, or_assoc]

end Memory

namespace Sample

/-- A configuration that takes labels from the table and from names. -/
def config : Config where
  properties := ∅
  dryRun := false
  organization := "org"
  repository := "repo"
  proxies := ∅
  teamLabels := Dictionary.ofList [("gpu", "category: GPU")]
  strategy := .both
  policy := AffiliationPolicy.ofEntries ["intel.com"] ["intel"]
  labelsMembers := true
  workers := 2

/-- A pull request by an outsider that one team is asked to review. -/
def pull : Pull where
  number := 1
  title := "Change"
  author := "dev"
  createdAt := .earliest
  labels := .ofList ["bug"]
  teams := .ofList ["gpu"]

/-- A repository with one pull request open and one closed. -/
def memory : Memory where
  opened := [pull]
  closed := [{ pull with number := 2, teams := ∅ }]
  members := []
  identities := ∅

end Sample

end PullTriage
