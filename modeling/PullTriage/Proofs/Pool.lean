import Mathlib.Algebra.GroupWithZero.Nat
import Mathlib.Logic.Relation
import PullTriage.Proofs.Answers

/-!
# Visits under Way at Once

Workers let visits overlap. `Run.visitAll` goes through visits one by one, and
only its clock knows about workers. Here the overlap itself is modelled, as a
relation between the states of a pool: any step that some worker may take next
is a step of the pool.

A visit comes in small steps, one for each call. Its lookups are made in any
order, and the first one to fail ends it. A decision follows, and then perhaps
the call that adds labels. Between two steps of one visit any steps of others
may be taken.

The pool takes visits up in the order of the selection while there is room for
one more, and reports their outcomes in that order. A visit that is over keeps
its room until it is reported.

Every pool comes to an end, and with at least one worker it does not come to
an end early.

## Main definitions

* `Found`, `Found.look`: What lookups have found, and making one of them.
* `Phase`: How far a visit has come.
* `VisitStep`: One step of one visit.
* `Pool`: Visits that wait, visits under way, and what was reported.
* `Pool.Step`: One step of a pool.
* `Pool.remaining`: A bound on the steps of a pool.

## Theorems

* `remaining_visitStep`: A step brings a visit closer to its end.
* `Pool.remaining_step`: A step brings a pool closer to its end.
* `Pool.step_wellFounded`: Every pool comes to an end.
* `Pool.not_step_of_done`: A pool that is done has no next step.
* `Pool.exists_step`: A pool that is not done has a next step.
-/

namespace PullTriage

theorem Call.andThen_eq_ok {σ α β : Type} (c : Call σ α) (next : α → Call σ β) (s t : σ) (b : β)
    (h : c.andThen next s = (.ok b, t)) :
    ∃ a s', c s = (.ok a, s') ∧ next a s' = (.ok b, t) := by
  unfold Call.andThen at h
  rcases hc : c s with ⟨f | a, s'⟩
  · simp only [hc, Prod.mk.injEq, reduceCtorEq, false_and] at h
  · simp only [hc] at h
    exact ⟨a, s', rfl, h⟩

theorem Call.andThen_answer_eq_error {σ α β : Type} (c : Call σ α) (g : α → β) (s t : σ)
    (f : Failure) (h : c.andThen (fun a => Call.answer (g a)) s = (.error f, t)) :
    c s = (.error f, t) := by
  unfold Call.andThen at h
  rcases hc : c s with ⟨f' | a, s'⟩
  · simp only [hc, Prod.mk.injEq, Except.error.injEq] at h
    rw [h.1, h.2]
  · simp only [hc, Call.answer, Prod.mk.injEq, reduceCtorEq, false_and] at h

/-- The lookups of a visit. -/
inductive Lookup where
  | identity
  | isMember
  | teams
deriving DecidableEq, Repr

/-- What the lookups of a visit have found so far. -/
structure Found where
  identity : Option Identity := none
  isMember : Option Bool := none
  teams : Option (OrderedSet String) := none

namespace Found

/-- Whether a lookup has been answered. -/
def has (found : Found) : Lookup → Bool
  | .identity => found.identity.isSome
  | .isMember => found.isMember.isSome
  | .teams => found.teams.isSome

/-- How many lookups have not been answered. -/
def missing (found : Found) : Nat :=
  found.identity.isNone.toNat + found.isMember.isNone.toNat + found.teams.isNone.toNat

variable {σ : Type} [GitHub σ]

/-- Makes a lookup about a pull request. -/
def look (found : Found) (p : Pull) : Lookup → Call σ Found
  | .identity => (GitHub.identity p.author).andThen fun i =>
      Call.answer { found with identity := some i }
  | .isMember => (GitHub.isMember p.author).andThen fun isMember =>
      Call.answer { found with isMember := some isMember }
  | .teams => (GitHub.teams p).andThen fun teams =>
      Call.answer { found with teams := some teams }

end Found

/-- How far a visit has come. -/
inductive Phase where
  -- Some lookups have been answered.
  | looking (found : Found)
  -- The labels of a report are to be added. The report is right if they are.
  | sending (r : Report)
  -- The outcome waits to be reported.
  | ended (o : Outcome)

namespace Phase

/-- A visit that begins. One that is too old is over at once. -/
def first (cutoff : Option Instant) (p : Pull) : Phase :=
  if Run.isOld cutoff p then ended (.ignored p) else looking {}

/-- A visit that has found everything. -/
def decided (rules : Rules) (p : Pull) (author : Identity) (teams : OrderedSet String) : Phase :=
  if (Run.decide rules p author teams).2.isEmpty then
    ended (.processed (Answers.report rules p author teams .unchanged))
  else if rules.dryRun then ended (.processed (Answers.report rules p author teams .previewed))
  else sending (Answers.report rules p author teams .written)

/-- A bound on the steps that a visit still takes, its report included. -/
def remaining : Phase → Nat
  | looking found => found.missing + 3
  | sending _ => 2
  | ended _ => 1

end Phase

section

variable {σ : Type} [GitHub σ]

/-- One step of the visit of a pull request. -/
inductive VisitStep (rules : Rules) (p : Pull) : Phase → σ → Phase → σ → Prop where
  | found (found found' : Found) (lookup : Lookup) (s s' : σ) (hnew : found.has lookup = false)
      (hcall : found.look p lookup s = (.ok found', s')) :
      VisitStep rules p (.looking found) s (.looking found') s'
  -- The other lookups are not waited for.
  | lost (found : Found) (lookup : Lookup) (f : Failure) (s s' : σ)
      (hnew : found.has lookup = false) (hcall : found.look p lookup s = (.error f, s')) :
      VisitStep rules p (.looking found) s (.ended (.failed p f)) s'
  | decided (i : Identity) (isMember : Bool) (teams : OrderedSet String) (s : σ) :
      VisitStep rules p (.looking ⟨some i, some isMember, some teams⟩) s
        (.decided rules p { i with isMember } teams) s
  | added (r : Report) (s s' : σ) (hcall : GitHub.addLabels p.number r.toAdd s = (.ok (), s')) :
      VisitStep rules p (.sending r) s (.ended (.processed r)) s'
  | refused (r : Report) (f : Failure) (s s' : σ)
      (hcall : GitHub.addLabels p.number r.toAdd s = (.error f, s')) :
      VisitStep rules p (.sending r) s (.ended (.failed p f)) s'

/-- The visits of a run: those that wait, those under way in the order in
    which they were taken up, and what was reported. -/
structure Pool (σ : Type) where
  waiting : List Pull
  flight : List (Pull × Phase) := []
  outcomes : List Outcome := []
  summary : Summary := {}
  github : σ

namespace Pool

/-- A pool that begins. -/
def begin (pulls : List Pull) (s : σ) : Pool σ where
  waiting := pulls
  github := s

/-- All visits are reported. -/
def Done (pool : Pool σ) : Prop :=
  pool.waiting = [] ∧ pool.flight = []

/-- One step of a pool. -/
inductive Step (rules : Rules) (cutoff : Option Instant) : Pool σ → Pool σ → Prop where
  | start (pool : Pool σ) (p : Pull) (rest : List Pull) (hwaiting : pool.waiting = p :: rest)
      (hroom : pool.flight.length < rules.workers) :
      Step rules cutoff pool { pool with
        waiting := rest
        flight := pool.flight ++ [(p, .first cutoff p)] }
  | advance (pool : Pool σ) (before after : List (Pull × Phase)) (p : Pull) (phase phase' : Phase)
      (s : σ) (hflight : pool.flight = before ++ (p, phase) :: after)
      (hvisit : VisitStep rules p phase pool.github phase' s) :
      Step rules cutoff pool { pool with
        flight := before ++ (p, phase') :: after
        github := s }
  | report (pool : Pool σ) (p : Pull) (o : Outcome) (rest : List (Pull × Phase))
      (hflight : pool.flight = (p, .ended o) :: rest) :
      Step rules cutoff pool { pool with
        flight := rest
        outcomes := pool.outcomes ++ [o]
        summary := pool.summary.record o }

/-- A bound on the steps that a pool still takes. -/
def remaining (pool : Pool σ) : Nat :=
  7 * pool.waiting.length + (pool.flight.map fun v => v.2.remaining).sum

end Pool

theorem missing_look (found found' : Found) (p : Pull) (lookup : Lookup) (s s' : σ)
    (hnew : found.has lookup = false) (hcall : found.look p lookup s = (.ok found', s')) :
    found.missing = found'.missing + 1 := by
  have hone : ∀ {α : Type} (o : Option α), o.isSome = false → o.isNone.toNat = 1 := by
    intro α o ho
    rw [Option.isSome_eq_false_iff.mp ho]
    rfl
  cases lookup with
  | identity =>
      rcases Call.andThen_eq_ok _ _ _ _ _ hcall with ⟨i, t, -, hanswer⟩
      cases hanswer
      simp only [Found.missing, hone found.identity hnew, Option.isNone_some, Bool.toNat_false]
      omega
  | isMember =>
      rcases Call.andThen_eq_ok _ _ _ _ _ hcall with ⟨isMember, t, -, hanswer⟩
      cases hanswer
      simp only [Found.missing, hone found.isMember hnew, Option.isNone_some, Bool.toNat_false]
      omega
  | teams =>
      rcases Call.andThen_eq_ok _ _ _ _ _ hcall with ⟨teams, t, -, hanswer⟩
      cases hanswer
      simp only [Found.missing, hone found.teams hnew, Option.isNone_some, Bool.toNat_false,
        Nat.add_zero]

theorem remaining_decided (rules : Rules) (p : Pull) (author : Identity)
    (teams : OrderedSet String) : (Phase.decided rules p author teams).remaining ≤ 2 := by
  unfold Phase.decided
  split
  · exact Nat.le_succ 1
  · split
    · exact Nat.le_succ 1
    · exact Nat.le_refl 2

theorem remaining_visitStep (rules : Rules) (p : Pull) (phase phase' : Phase) (s s' : σ)
    (h : VisitStep rules p phase s phase' s') : phase'.remaining < phase.remaining := by
  cases h with
  | found found found' lookup t t' hnew hcall =>
      have hmissing := missing_look found found' p lookup s s' hnew hcall
      simp only [Phase.remaining]
      omega
  | lost found lookup f t t' hnew hcall =>
      simp only [Phase.remaining]
      omega
  | decided i isMember teams t =>
      have hdecided := remaining_decided rules p { i with isMember } teams
      have hthree : Phase.remaining (.looking ⟨some i, some isMember, some teams⟩) = 3 := rfl
      omega
  | added r t t' hcall => exact Nat.lt_succ_self 1
  | refused r f t t' hcall => exact Nat.lt_succ_self 1

namespace Pool

theorem remaining_first (cutoff : Option Instant) (p : Pull) :
    (Phase.first cutoff p).remaining ≤ 6 := by
  unfold Phase.first
  split
  · exact Nat.le_add_left 1 5
  · exact Nat.le_refl 6

theorem remaining_step (rules : Rules) (cutoff : Option Instant) (pool pool' : Pool σ)
    (h : Step rules cutoff pool pool') : pool'.remaining < pool.remaining := by
  cases h with
  | start p rest hwaiting hroom =>
      -- A visit that begins has six steps to go at most, and waiting counts
      -- as seven.
      have hfirst := remaining_first cutoff p
      simp only [remaining, hwaiting, List.length_cons, List.map_append, List.map_cons,
        List.map_nil, List.sum_append, List.sum_cons, List.sum_nil]
      omega
  | advance before after p phase phase' s hflight hvisit =>
      have hphase := remaining_visitStep rules p phase phase' _ s hvisit
      simp only [remaining, hflight, List.map_append, List.map_cons, List.sum_append,
        List.sum_cons]
      omega
  | report p o rest hflight =>
      simp only [remaining, hflight, List.map_cons, List.sum_cons, Phase.remaining]
      omega

/-- Every pool comes to an end, whatever steps are taken. -/
theorem step_wellFounded (rules : Rules) (cutoff : Option Instant) :
    WellFounded fun pool' pool : Pool σ => Step rules cutoff pool pool' :=
  Subrelation.wf (fun {_ _} h => remaining_step rules cutoff _ _ h)
    (InvImage.wf (remaining (σ := σ)) Nat.lt_wfRel.wf)

end Pool

/-- A pool that is done stays as it is. -/
theorem Pool.not_step_of_done (rules : Rules) (cutoff : Option Instant) (pool pool' : Pool σ)
    (hdone : pool.Done) : ¬ Step rules cutoff pool pool' := by
  intro h
  cases h with
  | start p rest hwaiting hroom => exact List.cons_ne_nil p rest (hwaiting ▸ hdone.1)
  | advance before after p phase phase' s hflight hvisit =>
      exact List.append_ne_nil_of_right_ne_nil before (List.cons_ne_nil _ after)
        (hflight ▸ hdone.2)
  | report p o rest hflight => exact List.cons_ne_nil _ rest (hflight ▸ hdone.2)

/-- A visit that is not over has a next step, whatever the next call
    answers. -/
theorem exists_visitStep (rules : Rules) (p : Pull) (phase : Phase) (s : σ)
    (hphase : ∀ o, phase ≠ .ended o) : ∃ phase' s', VisitStep rules p phase s phase' s' := by
  cases phase with
  | ended o => exact absurd rfl (hphase o)
  | sending r =>
      rcases hc : GitHub.addLabels p.number r.toAdd s with ⟨f | _, s'⟩
      · exact ⟨_, _, .refused r f s s' hc⟩
      · exact ⟨_, _, .added r s s' hc⟩
  | looking found =>
      by_cases hall : ∀ lookup, found.has lookup = true
      · -- Everything is found, so the decision is next.
        rcases found with ⟨identity, isMember, teams⟩
        rcases Option.isSome_iff_exists.mp (hall .identity) with ⟨i, rfl⟩
        rcases Option.isSome_iff_exists.mp (hall .isMember) with ⟨b, rfl⟩
        rcases Option.isSome_iff_exists.mp (hall .teams) with ⟨t, rfl⟩
        exact ⟨_, _, .decided i b t s⟩
      · rcases Classical.not_forall.mp hall with ⟨lookup, hnew⟩
        rw [Bool.not_eq_true] at hnew
        rcases hc : found.look p lookup s with ⟨f | found', s'⟩
        · exact ⟨_, _, .lost found lookup f s s' hnew hc⟩
        · exact ⟨_, _, .found found found' lookup s s' hnew hc⟩

/-- A pool that is not done has a next step if there is a worker: its oldest
    visit goes on or is reported, or there is room for another one. -/
theorem Pool.exists_step (rules : Rules) (hworkers : 1 ≤ rules.workers) (cutoff : Option Instant)
    (pool : Pool σ) (hdone : ¬ pool.Done) : ∃ pool', Step rules cutoff pool pool' := by
  cases hflight : pool.flight with
  | nil =>
      cases hwaiting : pool.waiting with
      | nil => exact absurd ⟨hwaiting, hflight⟩ hdone
      | cons p rest =>
          refine ⟨_, .start pool p rest hwaiting ?_⟩
          rw [hflight]
          exact hworkers
  | cons v rest =>
      rcases v with ⟨p, phase⟩
      by_cases hended : ∃ o, phase = .ended o
      · rcases hended with ⟨o, rfl⟩
        exact ⟨_, .report pool p o rest hflight⟩
      · rcases exists_visitStep rules p phase pool.github (not_exists.mp hended) with
          ⟨phase', s, hvisit⟩
        exact ⟨_, .advance pool [] rest p phase phase' s hflight hvisit⟩

end

end PullTriage
