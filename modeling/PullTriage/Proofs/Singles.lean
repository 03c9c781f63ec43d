import Mathlib.Data.List.Nodup
import PullTriage.Proofs.Isolation

/-!
# Pull Requests One by One

A run over a list works on the labels that were listed at its start. Runs over
the same pull requests one by one fetch each of them when its turn comes, after
the writes of the runs before. That the two come to the same rests on two
facts about the numbers being distinct.

A write to one number does not show when another number is fetched
(`Memory.find_recording`), so a pull request is found as it was listed whenever
its turn comes. And what a visit decides depends on the pull request alone, so
its outcome and its write are those of the list.

The writes come in another order then. The labels do not depend on that, since
they are the set of what was written.

## Main definitions

* `Run.eachAlone`: Runs over single numbers, one after the other.

## Theorems

* `Memory.find_recording`: Writes to other numbers do not show.
* `Memory.find_of_listed`: A listed pull request is found by its number.
* `Memory.run_single`: A run over a single number.
* `Memory.eachAlone_eq`: Single runs by the outcomes of the list.
* `Memory.current_recording_perm`: The order of writes does not matter.
* `batch_eq_singles`: A run over a list is the runs over its numbers.
-/

namespace PullTriage

/-- Runs over single numbers, one after the other. Each of them meets what the
    ones before have left. -/
def Run.eachAlone {σ : Type} [GitHub σ] (rules : Rules) (cutoff : Option Instant) :
    List Nat → σ → List (Except Failure (List Outcome × Summary)) × σ
  | [], s => ([], s)
  | number :: rest, s =>
    let (result, s') := run rules (.single number) cutoff s
    let (results, s'') := eachAlone rules cutoff rest s'
    (result :: results, s'')

namespace Memory

variable (m : Memory)

theorem recording_append (outcomes more : List Outcome) :
    m.recording (outcomes ++ more) = (m.recording outcomes).recording more := by
  unfold recording
  rw [List.filterMap_append, List.append_assoc]

/-- What is found by a number is the first pull request of that number, with
    the labels written to it. -/
theorem find_eq (number : Nat) :
    m.find number = match (m.opened ++ m.closed).find? fun p => p.number = number with
      | some p => .ok (m.current p)
      | none => .error ⟨.noPull number, []⟩ := by
  have hpulls : m.pulls .opened ++ m.pulls .closed = (m.opened ++ m.closed).map m.current :=
    List.map_append.symm
  -- Labels do not change the number by which a pull request is found.
  have hnumber : ((fun p : Pull => decide (p.number = number)) ∘ m.current)
      = fun p => decide (p.number = number) := rfl
  unfold find
  rw [hpulls, List.find?_map, hnumber]
  cases (m.opened ++ m.closed).find? fun p => p.number = number with
  | some p => rfl
  | none => rfl

/-- Writes to other numbers do not show when a number is fetched. -/
theorem find_recording (outcomes : List Outcome) (number : Nat)
    (hother : ∀ o ∈ outcomes, o.pull.number ≠ number) :
    (m.recording outcomes).find number = m.find number := by
  have hlisted : (m.recording outcomes).opened ++ (m.recording outcomes).closed
      = m.opened ++ m.closed := rfl
  rw [find_eq, find_eq, hlisted]
  cases hfind : (m.opened ++ m.closed).find? fun p => p.number = number with
  | none => rfl
  | some p =>
      have hp : p.number = number := by
        simpa only [decide_eq_true_eq] using List.find?_some hfind
      have hcurrent : (m.recording outcomes).current p = m.current p := by
        refine current_eq_of_writesTo m _ p (writesTo_recording_of_ne m outcomes p.number ?_)
        exact fun o ho => hp ▸ hother o ho
      simp only [hcurrent]

/-- Where numbers are distinct, a listed pull request is found by its
    number. -/
theorem find_of_listed (hdistinct : ((m.opened ++ m.closed).map Pull.number).Nodup)
    (state : PullState) (p : Pull) (hp : p ∈ m.pulls state) : m.find p.number = .ok p := by
  have hlisted : ∃ q ∈ m.opened ++ m.closed, m.current q = p := by
    cases state with
    | opened =>
        rcases List.mem_map.mp hp with ⟨q, hq, rfl⟩
        exact ⟨q, List.mem_append_left _ hq, rfl⟩
    | closed =>
        rcases List.mem_map.mp hp with ⟨q, hq, rfl⟩
        exact ⟨q, List.mem_append_right _ hq, rfl⟩
  rcases hlisted with ⟨q, hq, rfl⟩
  rw [find_eq]
  cases hfind : (m.opened ++ m.closed).find? fun r => r.number = (m.current q).number with
  | none => exact absurd (decide_eq_true rfl) (List.find?_eq_none.mp hfind q hq)
  | some r =>
      -- Another pull request that is found would have the same number.
      have hr : r.number = (m.current q).number := by
        simpa only [decide_eq_true_eq] using List.find?_some hfind
      have hrq : r = q :=
        List.inj_on_of_nodup_map hdistinct (List.mem_of_find?_eq_some hfind) hq hr
      simp only [hrq]

/-- A run over a number that is found is the visit of what was found. -/
theorem run_single (rules : Rules) (cutoff : Option Instant) (p : Pull)
    (hget : m.faults.get p.number = none) (hfind : m.find p.number = .ok p) :
    Run.run rules (.single p.number) cutoff m
      = (.ok ([m.answers.outcome rules cutoff p],
          Summary.ofOutcomes [m.answers.outcome rules cutoff p]),
        m.recording [m.answers.outcome rules cutoff p]) := by
  refine m.run_ok rules (.single p.number) cutoff [p] ?_
  rw [collect_eq]
  simp only [Faults.fetch?, hget, selected, hfind, Except.map]

/-- Runs over the numbers of pull requests, each of which is found by its own,
    have the outcomes that the pull requests have at the start. The induction
    is on the list; what the first run writes does not show in the others. -/
theorem eachAlone_eq (rules : Rules) (cutoff : Option Instant) (pulls : List Pull)
    (hdistinct : (pulls.map Pull.number).Nodup)
    (hget : ∀ p ∈ pulls, m.faults.get p.number = none)
    (hfind : ∀ p ∈ pulls, m.find p.number = .ok p) :
    Run.eachAlone rules cutoff (pulls.map Pull.number) m
      = (pulls.map fun p => .ok ([m.answers.outcome rules cutoff p],
          Summary.ofOutcomes [m.answers.outcome rules cutoff p]),
        m.recording (pulls.map (m.answers.outcome rules cutoff))) := by
  induction pulls generalizing m with
  | nil =>
      have hnone : m.recording [] = m := by
        unfold recording
        rw [List.filterMap_nil, List.append_nil]
      rw [List.map_nil, List.map_nil, List.map_nil, hnone]
      rfl
  | cons p rest ih =>
      rw [List.map_cons, List.nodup_cons] at hdistinct
      rw [List.forall_mem_cons] at hget hfind
      have hrest : ∀ q ∈ rest,
          (m.recording [m.answers.outcome rules cutoff p]).find q.number = .ok q := by
        intro q hq
        rw [find_recording, hfind.2 q hq]
        intro o ho
        rw [List.mem_singleton.mp ho, Answers.pull_outcome]
        exact fun hnumber => hdistinct.1 (hnumber ▸ List.mem_map_of_mem hq)
      -- The other runs meet the same answers as the first.
      have hanswers : (m.recording [m.answers.outcome rules cutoff p]).answers = m.answers := rfl
      have hlater := ih (m.recording [m.answers.outcome rules cutoff p]) hdistinct.2 hget.2 hrest
      rw [hanswers, ← recording_append] at hlater
      rw [List.map_cons, Run.eachAlone, run_single m rules cutoff p hget.1 hfind.1]
      simp only [hlater, List.map_cons, List.singleton_append]

/-- The labels after outcomes do not depend on the order of the outcomes. -/
theorem current_recording_perm {outcomes outcomes' : List Outcome}
    (h : outcomes.Perm outcomes') (p : Pull) :
    (m.recording outcomes).current p = (m.recording outcomes').current p := by
  have hlabels : ((m.recording outcomes).current p).labels
      = ((m.recording outcomes').current p).labels := by
    refine OrderedSet.ext_of_mem _ _ fun x => ?_
    have hpairs := ((h.filterMap Outcome.write?).flatMap_right
      fun w => w.2.map fun label => (w.1, label)).mem_iff (a := (p.number, x))
    rw [mem_current_recording, mem_current_recording]
    exact or_congr_right hpairs
  exact congrArg (fun labels => { p with labels }) hlabels

end Memory

/-- A run over the pull requests in a state is the same as the runs over their
    numbers one by one, in any order. Every pull request has the same outcome
    and the same write, the labels are the same in the end, and the summary of
    the list is that of the single outcomes in the order of the list. -/
theorem batch_eq_singles (config : Config) (m : Memory)
    (hdistinct : ((m.opened ++ m.closed).map Pull.number).Nodup) (state : PullState)
    (cutoff : Option Instant) (hlist : m.faults.list state = none)
    (hget : ∀ p ∈ m.pulls state, m.faults.get p.number = none) (order : List Pull)
    (horder : order.Perm (m.pulls state)) :
    ∃ (outcome : Pull → Outcome) (batch apart : Memory),
      (∀ p, (outcome p).pull = p) ∧
      Run.run (Rules.ofConfig config) (.all state) cutoff m
        = (.ok ((m.pulls state).map outcome, Summary.ofOutcomes ((m.pulls state).map outcome)),
          batch) ∧
      Run.eachAlone (Rules.ofConfig config) cutoff (order.map Pull.number) m
        = (order.map fun p => .ok ([outcome p], Summary.ofOutcomes [outcome p]), apart) ∧
      batch.writes = m.writes ++ (m.pulls state).filterMap (fun p => (outcome p).write?) ∧
      (∀ done, done <+: order →
        (Run.eachAlone (Rules.ofConfig config) cutoff (done.map Pull.number) m).2.writes
          = m.writes ++ done.filterMap (fun p => (outcome p).write?)) ∧
      ∀ q, apart.current q = batch.current q := by
  have hnumbers : ((m.pulls state).map Pull.number).Nodup := by
    cases state with
    | opened =>
        refine List.Sublist.nodup ?_ hdistinct
        rw [Memory.pulls, List.map_map]
        exact (List.sublist_append_left _ _).map Pull.number
    | closed =>
        refine List.Sublist.nodup ?_ hdistinct
        rw [Memory.pulls, List.map_map]
        exact (List.sublist_append_right _ _).map Pull.number
  have hcollect : (Run.collect (.all state) m).1 = .ok (m.pulls state) := by
    rw [Memory.collect_eq]
    simp only [Faults.fetch?, hlist, Memory.selected]
  -- Whatever part of the order is done, every pull request in it was found.
  have halone : ∀ done, done <+: order →
      Run.eachAlone (Rules.ofConfig config) cutoff (done.map Pull.number) m
        = (done.map fun p => .ok ([m.answers.outcome (Rules.ofConfig config) cutoff p],
            Summary.ofOutcomes [m.answers.outcome (Rules.ofConfig config) cutoff p]),
          m.recording (done.map (m.answers.outcome (Rules.ofConfig config) cutoff))) := by
    intro done hdone
    have hlisted : ∀ p ∈ done, p ∈ m.pulls state := fun p hp =>
      horder.mem_iff.mp (hdone.subset hp)
    refine m.eachAlone_eq _ cutoff done ?_ (fun p hp => hget p (hlisted p hp))
      fun p hp => m.find_of_listed hdistinct state p (hlisted p hp)
    exact (hdone.sublist.map Pull.number).nodup ((horder.map Pull.number).nodup_iff.mpr hnumbers)
  have hwrites : ∀ pulls : List Pull,
      (m.recording (pulls.map (m.answers.outcome (Rules.ofConfig config) cutoff))).writes
        = m.writes ++ pulls.filterMap fun p =>
            (m.answers.outcome (Rules.ofConfig config) cutoff p).write? := by
    intro pulls
    rw [Memory.recording, List.filterMap_map]
    rfl
  refine ⟨m.answers.outcome (Rules.ofConfig config) cutoff, _, _,
    m.answers.pull_outcome _ cutoff, m.run_ok _ _ cutoff _ hcollect,
    halone order (List.prefix_refl order), hwrites _, fun done hdone => ?_, ?_⟩
  · rw [halone done hdone]
    exact hwrites done
  · exact m.current_recording_perm (horder.map _)

namespace Sample

/-- Three pull requests, the last by an author whose membership cannot be
    looked up. -/
def outage : Memory := { memory with
  opened := [pull, { pull with number := 3, teams := ∅ },
    { pull with number := 5, author := "lost" }]
  faults := { isMember := fun login => if login = "lost" then some ⟨.badAnswer, []⟩ else none } }

end Sample

/-- The list of three pull requests, of which one fails, and the same ones one
    by one in the opposite order. -/
theorem batch_eq_singles_reversed :
    ((Sample.outage.opened ++ Sample.outage.closed).map Pull.number).Nodup ∧
      Sample.outage.faults.list .opened = none ∧
      (∀ p ∈ Sample.outage.pulls .opened, Sample.outage.faults.get p.number = none) ∧
      (Sample.outage.pulls .opened).reverse.Perm (Sample.outage.pulls .opened) ∧
      ∃ (outcome : Pull → Outcome) (batch apart : Memory),
        Run.run (Rules.ofConfig Sample.config) (.all .opened) none Sample.outage
          = (.ok ((Sample.outage.pulls .opened).map outcome,
              Summary.ofOutcomes ((Sample.outage.pulls .opened).map outcome)), batch) ∧
        Run.eachAlone (Rules.ofConfig Sample.config) none [5, 3, 1] Sample.outage
          = ((Sample.outage.pulls .opened).reverse.map fun p =>
              .ok ([outcome p], Summary.ofOutcomes [outcome p]), apart) ∧
        (Sample.outage.pulls .opened).map (fun p => (outcome p).isFailed) = [false, false, true] ∧
        batch.writes = [(1, ["ExternalPR", "category: GPU"]), (3, ["ExternalPR"])] ∧
        apart.writes = [(3, ["ExternalPR"]), (1, ["ExternalPR", "category: GPU"])] ∧
        ∀ q, apart.current q = batch.current q := by
  have hdistinct :
      ((Sample.outage.opened ++ Sample.outage.closed).map Pull.number).Nodup := by decide
  have hget : ∀ p ∈ Sample.outage.pulls .opened, Sample.outage.faults.get p.number = none :=
    fun _ _ => rfl
  have hreverse := (Sample.outage.pulls .opened).reverse_perm
  refine ⟨hdistinct, rfl, hget, hreverse, ?_⟩
  rcases batch_eq_singles Sample.config Sample.outage hdistinct .opened none rfl hget _ hreverse
    with ⟨outcome, batch, apart, -, hbatch, hapart, -, -, hlabels⟩
  have hfailed : (match (Run.run (Rules.ofConfig Sample.config) (.all .opened) none
      Sample.outage).1 with
      | .ok (outcomes, _) => outcomes.map Outcome.isFailed
      | .error _ => []) = [false, false, true] := by
    decide +kernel
  have hwrites : (Run.run (Rules.ofConfig Sample.config) (.all .opened) none
      Sample.outage).2.writes = [(1, ["ExternalPR", "category: GPU"]), (3, ["ExternalPR"])] := by
    decide +kernel
  have hwrites' : (Run.eachAlone (Rules.ofConfig Sample.config) none [5, 3, 1]
      Sample.outage).2.writes = [(3, ["ExternalPR"]), (1, ["ExternalPR", "category: GPU"])] := by
    decide +kernel
  have hapart' : Run.eachAlone (Rules.ofConfig Sample.config) none [5, 3, 1] Sample.outage
      = (_, apart) := hapart
  rw [hbatch] at hfailed hwrites
  rw [hapart'] at hwrites'
  have houtcomes : ((Sample.outage.pulls .opened).map outcome).map Outcome.isFailed
      = [false, false, true] := hfailed
  rw [List.map_map] at houtcomes
  exact ⟨outcome, batch, apart, hbatch, hapart, houtcomes, hwrites, hwrites', hlabels⟩

end PullTriage
