import Mathlib.Data.List.Forall2
import PullTriage.Proofs.Memory
import PullTriage.Proofs.Summaries
import PullTriage.Proofs.Visits

/-!
# The Number of Workers Makes No Difference

A pool whose visits overlap comes to the same as visits one by one, as long as
answers do not change. The steps of different visits could be exchanged one
pair at a time, but there is a shorter way. Each visit is on the way to an
outcome that depends on its pull request alone, and so is each visit of a run
one by one. What is left of an interleaving is the order of the calls that add
labels, and labels do not depend on it.

`Pool.Tracks` is the invariant. The calls made so far are those of the visits
that are reported or over, in some order, since no other visit has got that
far. Outcomes are compared up to the failed lookup that they tell of, which a
summary does not show.

## Main definitions

* `Pool.Tracks`: A pool is on the way to the outcomes of its visits.
* `Pool.visiting`: A pool with one of its visits brought forward.
* `Ledger`: Fixed answers, and the calls that add labels.

## Theorems

* `Pool.Tracks.start`, `Pool.Tracks.advance`, `Pool.Tracks.report`: The steps of a
  pool that is on the way.
* `Pool.tracks_step`: A step of a pool keeps it on the way.
* `Pool.tracks_of_reachable`: A pool that began is on the way.
* `Pool.tracks_done`: What a pool that is done has come to.
* `Pool.visitAll_reachable`: Visits one by one are among the runs of a pool.
* `Summary.ofOutcomes_alike`: Outcomes that are alike have one summary.
* `Ledger.labels_perm`: Labels do not depend on the order of the calls.
* `workers_independent`: Overlapping visits come to the same.
-/

namespace PullTriage

section

variable {σ : Type} [GitHub σ] [Steady σ]

open Steady (answers)

namespace Pool

/-- A pool that has begun with some pull requests in the state `s` is on the
    way to their outcomes. It has reported the first of them and has made the
    calls of the visits that are over, in some order. -/
structure Tracks (rules : Rules) (cutoff : Option Instant) (pulls : List Pull) (s : σ)
    (reported : List Pull) (calls : List (Nat × List String)) (pool : Pool σ) : Prop where
  listing : pulls = reported ++ (pool.flight.map Prod.fst ++ pool.waiting)
  outcomes : List.Forall₂ (Alike (answers s)) pool.outcomes
    (reported.map ((answers s).outcome rules cutoff))
  summary : pool.summary = Summary.ofOutcomes pool.outcomes
  flight : ∀ v ∈ pool.flight, v.2.Sound (answers s) rules cutoff v.1
  github : pool.github = adding s calls
  calls : calls.Perm (reported.filterMap ((answers s).call rules cutoff) ++
    pool.flight.filterMap ((answers s).calledBy rules cutoff))

theorem tracks_begin (rules : Rules) (cutoff : Option Instant) (pulls : List Pull) (s : σ) :
    Tracks rules cutoff pulls s [] [] (begin pulls s) where
  listing := rfl
  outcomes := List.Forall₂.nil
  summary := rfl
  flight := fun _ hv => absurd hv List.not_mem_nil
  github := rfl
  calls := List.Perm.refl _

namespace Tracks

variable {rules : Rules} {cutoff : Option Instant} {pulls reported : List Pull} {s : σ}
  {calls : List (Nat × List String)} {pool : Pool σ}

theorem start (h : Tracks rules cutoff pulls s reported calls pool) (p : Pull) (rest : List Pull)
    (hwaiting : pool.waiting = p :: rest) :
    Tracks rules cutoff pulls s reported calls { pool with
      waiting := rest
      flight := pool.flight ++ [(p, .first cutoff p)] } where
  listing := by
    rw [h.listing, hwaiting, List.map_append, List.append_assoc]
    rfl
  outcomes := h.outcomes
  summary := h.summary
  flight := by
    intro v hv
    rcases List.mem_append.mp hv with hv | hv
    · exact h.flight v hv
    · rw [List.mem_singleton.mp hv]
      exact (sound_first (answers s) rules cutoff p).1
  github := h.github
  calls := by
    have hnone := (sound_first (answers s) rules cutoff p).2
    rw [List.filterMap_append, List.filterMap_cons_none hnone, List.filterMap_nil, List.append_nil]
    exact h.calls

/-- One more step of a visit, with its call at the end of the calls. -/
theorem advance (h : Tracks rules cutoff pulls s reported calls pool)
    (before after : List (Pull × Phase)) (p : Pull) (phase phase' : Phase) (t : σ)
    (hflight : pool.flight = before ++ (p, phase) :: after)
    (hnone : (answers s).calledBy rules cutoff (p, phase) = none)
    (hsound : phase'.Sound (answers s) rules cutoff p)
    (hstate : t = adding pool.github ((answers s).calledBy rules cutoff (p, phase')).toList) :
    Tracks rules cutoff pulls s reported
      (calls ++ ((answers s).calledBy rules cutoff (p, phase')).toList) { pool with
        flight := before ++ (p, phase') :: after
        github := t } where
  listing := by
    rw [h.listing, hflight, List.map_append, List.map_append]
    rfl
  outcomes := h.outcomes
  summary := h.summary
  flight := by
    intro v hv
    have hothers := h.flight v
    rw [hflight] at hothers
    rcases List.mem_append.mp hv with hv | hv
    · exact hothers (List.mem_append_left _ hv)
    · rcases List.mem_cons.mp hv with rfl | hv
      · exact hsound
      · exact hothers (List.mem_append_right _ (List.mem_cons_of_mem _ hv))
  github := by
    rw [hstate, h.github, adding_append]
  calls := by
    -- The new call moves to the place of its visit.
    have hcalls := h.calls
    rw [hflight, List.filterMap_append, List.filterMap_cons_none hnone] at hcalls
    rw [List.filterMap_append, filterMap_cons_toList]
    refine (hcalls.append_right _).trans ?_
    simp only [List.append_assoc]
    exact ((List.perm_append_comm).append_left _).append_left _

theorem report (h : Tracks rules cutoff pulls s reported calls pool) (p : Pull) (o : Outcome)
    (rest : List (Pull × Phase)) (hflight : pool.flight = (p, .ended o) :: rest) :
    Tracks rules cutoff pulls s (reported ++ [p]) calls { pool with
      flight := rest
      outcomes := pool.outcomes ++ [o]
      summary := pool.summary.record o } where
  listing := by
    rw [h.listing, hflight, List.append_assoc]
    rfl
  outcomes := by
    have hsound : Alike (answers s) o ((answers s).outcome rules cutoff p) :=
      h.flight (p, .ended o) (hflight ▸ List.mem_cons_self)
    rw [List.map_append]
    exact List.rel_append h.outcomes (List.Forall₂.cons hsound List.Forall₂.nil)
  summary := by
    rw [h.summary]
    exact (Summary.ofOutcomes_append pool.outcomes [o]).symm
  flight := fun v hv => h.flight v (hflight ▸ List.mem_cons_of_mem _ hv)
  github := h.github
  calls := by
    -- The call of the visit is now one of a visit that is reported.
    have hcalls := h.calls
    rw [hflight, filterMap_cons_toList] at hcalls
    rw [List.filterMap_append, filterMap_cons_toList, List.filterMap_nil, List.append_nil,
      List.append_assoc]
    exact hcalls

end Tracks

theorem tracks_step (rules : Rules) (cutoff : Option Instant) (pulls : List Pull) (s : σ)
    (reported : List Pull) (calls : List (Nat × List String)) (pool pool' : Pool σ)
    (h : Tracks rules cutoff pulls s reported calls pool) (hstep : Step rules cutoff pool pool') :
    ∃ reported' calls', Tracks rules cutoff pulls s reported' calls' pool' := by
  cases hstep with
  | start p rest hwaiting hroom => exact ⟨_, _, h.start p rest hwaiting⟩
  | advance before after p phase phase' t hflight hvisit =>
      -- Calls so far have not changed the answers, so the visit goes by those
      -- of the beginning.
      have hsame : answers pool.github = answers s := by
        rw [h.github, answers_adding]
      have hvisited : phase.Sound (answers pool.github) rules cutoff p := by
        rw [hsame]
        refine h.flight (p, phase) ?_
        rw [hflight]
        exact List.mem_append_right _ List.mem_cons_self
      rcases sound_visitStep rules cutoff p phase phase' _ t hvisit hvisited with ⟨hnext, hstate⟩
      have hnone := calledBy_of_visitStep (answers s) rules cutoff p phase phase' _ t hvisit
      rw [hsame] at hnext hstate
      exact ⟨_, _, h.advance before after p phase phase' t hflight hnone hnext hstate⟩
  | report p o rest hflight => exact ⟨_, _, h.report p o rest hflight⟩

theorem tracks_of_reachable (rules : Rules) (cutoff : Option Instant) (pulls : List Pull) (s : σ)
    (pool : Pool σ) (h : Relation.ReflTransGen (Step rules cutoff) (begin pulls s) pool) :
    ∃ reported calls, Tracks rules cutoff pulls s reported calls pool := by
  induction h with
  | refl => exact ⟨[], [], tracks_begin rules cutoff pulls s⟩
  | tail _ hstep ih =>
      rcases ih with ⟨reported, calls, htracks⟩
      exact tracks_step rules cutoff pulls s reported calls _ _ htracks hstep

/-- A pool that is done has reported all visits and has made their calls. -/
theorem tracks_done (rules : Rules) (cutoff : Option Instant) (pulls : List Pull) (s : σ)
    (pool : Pool σ) (h : Relation.ReflTransGen (Step rules cutoff) (begin pulls s) pool)
    (hdone : pool.Done) :
    List.Forall₂ (Alike (answers s)) pool.outcomes (pulls.map ((answers s).outcome rules cutoff)) ∧
      pool.summary = Summary.ofOutcomes pool.outcomes ∧
      ∃ calls, pool.github = adding s calls ∧
        calls.Perm (pulls.filterMap ((answers s).call rules cutoff)) := by
  rcases tracks_of_reachable rules cutoff pulls s pool h with ⟨reported, calls, htracks⟩
  have hlisting := htracks.listing
  have hcalls := htracks.calls
  rw [hdone.1, hdone.2, List.map_nil, List.append_nil, List.append_nil] at hlisting
  rw [hdone.2, List.filterMap_nil, List.append_nil] at hcalls
  rw [hlisting]
  exact ⟨htracks.outcomes, htracks.summary, calls, htracks.github, hcalls⟩

/-- The pool with one of its visits brought to a phase, and the state to one
    after that. -/
def visiting (pool : Pool σ) (before after : List (Pull × Phase)) (p : Pull) (v : Phase × σ) :
    Pool σ :=
  { pool with
    flight := before ++ (p, v.1) :: after
    github := v.2 }

omit [Steady σ] in
theorem visiting_reachable (rules : Rules) (cutoff : Option Instant) (pool : Pool σ)
    (before after : List (Pull × Phase)) (p : Pull) (v v' : Phase × σ)
    (h : Relation.ReflTransGen (fun v v' : Phase × σ => VisitStep rules p v.1 v.2 v'.1 v'.2) v v') :
    Relation.ReflTransGen (Step rules cutoff) (pool.visiting before after p v)
      (pool.visiting before after p v') :=
  h.lift (pool.visiting before after p) fun w w' hstep =>
    .advance (pool.visiting before after p w) before after p w.1 w'.1 w'.2 rfl hstep

/-- A pool without visits under way can take up the next one and bring it to
    its end. -/
theorem next_reachable (rules : Rules) (hworkers : 1 ≤ rules.workers) (cutoff : Option Instant)
    (pool : Pool σ) (hflight : pool.flight = []) (p : Pull) (rest : List Pull)
    (hwaiting : pool.waiting = p :: rest) :
    ∃ pool', Relation.ReflTransGen (Step rules cutoff) pool pool' ∧ pool'.flight = [] ∧
      pool'.waiting = rest ∧
      pool'.outcomes = pool.outcomes ++ [(answers pool.github).outcome rules cutoff p] ∧
      pool'.github = adding pool.github ((answers pool.github).call rules cutoff p).toList := by
  have hroom : pool.flight.length < rules.workers := by
    rw [hflight]
    exact hworkers
  have hstart : Step rules cutoff pool _ := .start pool p rest hwaiting hroom
  rw [hflight] at hstart
  have hvisit := visiting_reachable rules cutoff { pool with waiting := rest } [] [] p _ _
    (visit_reachable rules cutoff p pool.github)
  exact ⟨_, (hvisit.head hstart).tail (.report _ p _ [] rfl), rfl, rfl, rfl, rfl⟩

/-- Visits one by one are among the runs of a pool, however many workers there
    are. -/
theorem visitAll_reachable (rules : Rules) (hworkers : 1 ≤ rules.workers)
    (cutoff : Option Instant) (pulls : List Pull) (s : σ) :
    ∃ pool, Relation.ReflTransGen (Step rules cutoff) (begin pulls s) pool ∧ pool.Done ∧
      (pool.outcomes, pool.github) = Run.visitAll rules cutoff pulls s := by
  have hvisits : ∀ pool : Pool σ, pool.flight = [] → pool.waiting = pulls → ∃ pool',
      Relation.ReflTransGen (Step rules cutoff) pool pool' ∧ pool'.Done ∧
        pool'.outcomes = pool.outcomes ++ pulls.map ((answers pool.github).outcome rules cutoff) ∧
        pool'.github
          = adding pool.github (pulls.filterMap ((answers pool.github).call rules cutoff)) := by
    induction pulls with
    | nil =>
        intro pool hflight hwaiting
        exact ⟨pool, .refl, ⟨hwaiting, hflight⟩, (List.append_nil _).symm, rfl⟩
    | cons p rest ih =>
        intro pool hflight hwaiting
        rcases next_reachable rules hworkers cutoff pool hflight p rest hwaiting with
          ⟨next, hnext, hflight', hwaiting', houtcomes, hgithub⟩
        rcases ih next hflight' hwaiting' with ⟨pool', hreach, hdone, houtcomes', hgithub'⟩
        refine ⟨pool', hnext.trans hreach, hdone, ?_, ?_⟩
        · rw [houtcomes', houtcomes, hgithub, answers_adding, List.append_assoc]
          rfl
        · rw [hgithub', hgithub, answers_adding, filterMap_cons_toList, adding_append]
  rcases hvisits (begin pulls s) rfl rfl with ⟨pool, hreach, hdone, houtcomes, hgithub⟩
  refine ⟨pool, hreach, hdone, ?_⟩
  rw [Run.visitAll_eq, houtcomes, hgithub]
  rfl

end Pool

end

namespace Summary

theorem record_alike (s : Summary) (a : Answers) (o o' : Outcome) (h : Alike a o o') :
    s.record o = s.record o' := by
  cases h with
  | same o => rfl
  | race p f f' hseveral hf hf' => rfl

/-- A summary does not show which failure was told. -/
theorem ofOutcomes_alike (a : Answers) (l l' : List Outcome) (h : List.Forall₂ (Alike a) l l') :
    ofOutcomes l = ofOutcomes l' := by
  have hfold : ∀ s : Summary, l.foldl record s = l'.foldl record s := by
    induction h with
    | nil => exact fun s => rfl
    | cons halike _ ih =>
        intro s
        rw [List.foldl_cons, List.foldl_cons, record_alike s a _ _ halike, ih]
  exact hfold {}

end Summary

/-- GitHub as fixed answers, together with the calls that add labels. All such
    calls are noted in their order, also those that fail. -/
structure Ledger where
  answers : Answers
  list : PullState → Except Failure (List Pull)
  get : Nat → Except Failure Pull
  calls : List (Nat × List String) := []

instance : Timeline Ledger where
  clock _ := 0
  atTime _ l := l
  both c d := c.andThen fun a => d.andThen fun b => Call.answer (a, b)

instance : GitHub Ledger where
  list state l := (l.list state, l)
  get number l := (l.get number, l)
  teams p l := (l.answers.teams p, l)
  isMember login l := (l.answers.isMember login, l)
  identity login l := (l.answers.identity login, l)
  addLabels number labels l :=
    (l.answers.addLabels number labels, { l with calls := l.calls ++ [(number, labels)] })

instance : Steady Ledger where
  answers := Ledger.answers
  identity_eq _ _ := rfl
  isMember_eq _ _ := rfl
  teams_eq _ _ := rfl
  addLabels_fst _ _ _ := rfl
  answers_addLabels _ _ _ := rfl
  both_eq _ _ := rfl
  atTime_eq _ _ := rfl

namespace Ledger

/-- The labels of a pull request: those that it had, and those of the calls
    that were not refused. -/
def labels (l : Ledger) (p : Pull) : OrderedSet String :=
  p.labels.insertAll ((l.calls.filter fun c =>
    c.1 = p.number ∧ (l.answers.addLabels c.1 c.2).isOk).flatMap Prod.snd)

theorem adding_eq (l : Ledger) (calls : List (Nat × List String)) :
    adding l calls = { l with calls := l.calls ++ calls } := by
  induction calls generalizing l with
  | nil =>
      rw [List.append_nil]
      rfl
  | cons c rest ih =>
      have hrest : adding l (c :: rest) = adding { l with calls := l.calls ++ [c] } rest := rfl
      rw [hrest, ih, List.append_assoc]
      rfl

/-- Labels do not depend on the order of the calls. -/
theorem labels_perm (l l' : Ledger) (p : Pull) (hanswers : l.answers = l'.answers)
    (hcalls : l.calls.Perm l'.calls) : l.labels p = l'.labels p := by
  refine OrderedSet.ext_of_mem _ _ (fun x => ?_)
  unfold labels
  rw [hanswers]
  simp only [OrderedSet.mem_insertAll, List.mem_flatMap, List.mem_filter, hcalls.mem_iff]

end Ledger

/-- The number of workers makes no difference. Whatever steps a pool takes, it
    comes to an end, and not before all visits are reported. The outcomes are
    those of one worker, but for which of several failed lookups about a pull
    request is told. The summary is the same, the calls that add labels are
    the same in some order, and so all labels are the same. -/
theorem workers_independent (config : Config) (hworkers : 1 ≤ config.workers)
    (cutoff : Option Instant) (pulls : List Pull) (s : Ledger) :
    (WellFounded fun pool' pool : Pool Ledger =>
      Pool.Step (Rules.ofConfig config) cutoff pool pool') ∧
    ∀ pool, Relation.ReflTransGen (Pool.Step (Rules.ofConfig config) cutoff)
        (Pool.begin pulls s) pool →
      (∀ pool', ¬ Pool.Step (Rules.ofConfig config) cutoff pool pool') →
      let alone := Run.visitAll (Rules.ofConfig { config with workers := 1 }) cutoff pulls s
      pool.Done ∧ List.Forall₂ (Alike s.answers) pool.outcomes alone.1 ∧
        pool.summary = Summary.ofOutcomes alone.1 ∧
        pool.github.calls.Perm alone.2.calls ∧
        ∀ p : Pull, pool.github.labels p = alone.2.labels p := by
  refine ⟨Pool.step_wellFounded _ cutoff, fun pool hreach hstuck => ?_⟩
  -- A pool that is not done could go on.
  have hdone : pool.Done := by
    by_cases hdone : pool.Done
    · exact hdone
    · rcases Pool.exists_step (Rules.ofConfig config) hworkers cutoff pool hdone with ⟨pool', hstep⟩
      exact absurd hstep (hstuck pool')
  rcases Pool.tracks_done _ cutoff pulls s pool hreach hdone with
    ⟨houtcomes, hsummary, calls, hgithub, hcalls⟩
  have halone : Run.visitAll (Rules.ofConfig { config with workers := 1 }) cutoff pulls s
      = (pulls.map (s.answers.outcome (Rules.ofConfig config) cutoff),
        adding s (pulls.filterMap (s.answers.call (Rules.ofConfig config) cutoff))) :=
    Run.visitAll_eq _ cutoff pulls s
  rw [Ledger.adding_eq] at hgithub halone
  -- Both have made the calls of all visits.
  have hperm : pool.github.calls.Perm
      (s.calls ++ pulls.filterMap (s.answers.call (Rules.ofConfig config) cutoff)) := by
    rw [hgithub]
    exact hcalls.append_left s.calls
  intro alone
  refine ⟨hdone, ?_, ?_, ?_, fun p => ?_⟩
  · rw [show alone = _ from halone]
    exact houtcomes
  · rw [show alone = _ from halone, hsummary]
    exact Summary.ofOutcomes_alike s.answers _ _ houtcomes
  · rw [show alone = _ from halone]
    exact hperm
  · rw [show alone = _ from halone]
    refine Ledger.labels_perm _ _ p ?_ hperm
    rw [hgithub]

/-- A visit overtakes another one. Two of its lookups fail, and it tells of the
    membership, where one worker would tell of the author. -/
theorem workers_independent_overtaking :
    let late : Pull := { Sample.pull with number := 3, author := "gone" }
    let s : Ledger := {
      answers := {
        identity := fun login =>
          if login = "gone" then .error ⟨.fetchUser login, []⟩ else .ok { login }
        isMember := fun login =>
          if login = "gone" then .error ⟨.checkMember login, []⟩ else .ok false
        teams := fun p => .ok p.teams
        addLabels := fun _ _ => .ok () }
      list := fun _ => .ok []
      get := fun number => .error ⟨.noPull number, []⟩ }
    let alone := Run.visitAll (Rules.ofConfig { Sample.config with workers := 1 }) none
      [Sample.pull, late] s
    1 ≤ Sample.config.workers ∧ ∃ pool : Pool Ledger,
      Relation.ReflTransGen (Pool.Step (Rules.ofConfig Sample.config) none)
        (Pool.begin [Sample.pull, late] s) pool ∧
      (∀ pool', ¬ Pool.Step (Rules.ofConfig Sample.config) none pool pool') ∧
      pool.outcomes ≠ alone.1 ∧ List.Forall₂ (Alike s.answers) pool.outcomes alone.1 ∧
      pool.summary = Summary.ofOutcomes alone.1 ∧ pool.github.calls.Perm alone.2.calls := by
  intro late s alone
  have hworkers : 1 ≤ Sample.config.workers := by decide
  let begun : Pool Ledger := {
    waiting := []
    flight := [(Sample.pull, .looking {}), (late, .looking {})]
    github := s }
  have hbegun : Relation.ReflTransGen (Pool.Step (Rules.ofConfig Sample.config) none)
      (Pool.begin [Sample.pull, late] s) begun :=
    .head (.start _ Sample.pull [late] rfl (by decide))
      (.single (.start _ late [] rfl (by decide)))
  have hlost : Pool.Step (Rules.ofConfig Sample.config) none begun (begun.visiting []
      [(late, .ended (.failed late ⟨.checkMember "gone", []⟩))] Sample.pull (.looking {}, s)) :=
    .advance begun [(Sample.pull, .looking {})] [] late _ _ s rfl (.lost {} .isMember _ s s rfl rfl)
  -- The other one goes on and is over later, but is reported first.
  have hvisit := Pool.visiting_reachable (Rules.ofConfig Sample.config) none begun []
    [(late, .ended (.failed late ⟨.checkMember "gone", []⟩))] Sample.pull _ _
    (visit_reachable (Rules.ofConfig Sample.config) none Sample.pull s)
  have hreported := ((hbegun.tail hlost).trans hvisit).tail (.report _ Sample.pull _ _ rfl)
  have hrun : ∃ pool, Relation.ReflTransGen (Pool.Step (Rules.ofConfig Sample.config) none)
      (Pool.begin [Sample.pull, late] s) pool ∧ pool.Done ∧
        pool.outcomes = [s.answers.outcome (Rules.ofConfig Sample.config) none Sample.pull,
          .failed late ⟨.checkMember "gone", []⟩] :=
    ⟨_, hreported.tail (.report _ late _ _ rfl), ⟨rfl, rfl⟩, rfl⟩
  rcases hrun with ⟨pool, hreach, hdone, htold⟩
  have hstuck := fun pool' => pool.not_step_of_done (Rules.ofConfig Sample.config) none pool' hdone
  rcases (workers_independent Sample.config hworkers none _ s).2 pool hreach hstuck with
    ⟨-, houtcomes, hsummary, hcalls, -⟩
  refine ⟨hworkers, pool, hreach, hstuck, ?_, houtcomes, hsummary, hcalls⟩
  rw [htold]
  decide +kernel

end PullTriage
