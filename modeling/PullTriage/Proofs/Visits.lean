import PullTriage.Proofs.Pool

/-!
# Where a Visit Leads

A visit in steps, against answers that do not change, leads to the outcome of
`Answers.outcome`, whatever happens between its steps. Its lookups may come in
any order, so if several of them fail it may tell of another one. Outcomes are
compared up to that, by `Alike`.

`Phase.Sound` says that a visit is on the way there. It holds when the visit
begins and is kept by every step of it. A step changes the state only if it is
the one call of the visit that adds labels.

The order of the lookups that `Run.visit` fixes is one of those possible, so
what a visit leads to is no more than what it can come to.

## Main definitions

* `Answers.lookUpFailures`: The lookups about a pull request that fail.
* `Alike`: Outcomes that differ in the failed lookup at most.
* `Phase.Sound`: A visit is on the way to its outcome.
* `Answers.calledBy`: The call that a visit has made so far.

## Theorems

* `outcome_lost`: A lookup that fails leads to the outcome.
* `decided_cases`: What a decision leads to.
* `outcome_sent`: What sending labels leads to.
* `sound_visitStep`: A step of a visit, by the call that it makes.
* `visit_reachable`: A visit can come to its outcome.
-/

namespace PullTriage

/-- The failure of an answer. -/
def failure? {α : Type} : Except Failure α → Option Failure
  | .ok _ => none
  | .error f => some f

/-- The lookups about a pull request that fail. -/
def Answers.lookUpFailures (a : Answers) (p : Pull) : List Failure :=
  [failure? (a.identity p.author), failure? (a.isMember p.author), failure? (a.teams p)].filterMap
    id

/-- Outcomes that are the same, but for which of several failed lookups about
    the pull request they tell. -/
inductive Alike (a : Answers) : Outcome → Outcome → Prop where
  | same (o : Outcome) : Alike a o o
  | race (p : Pull) (f f' : Failure) (hseveral : 1 < (a.lookUpFailures p).length)
      (hf : f ∈ a.lookUpFailures p) (hf' : f' ∈ a.lookUpFailures p) :
      Alike a (.failed p f) (.failed p f')

theorem mem_lookUpFailures (a : Answers) (p : Pull) (f : Failure) :
    f ∈ a.lookUpFailures p ↔ a.identity p.author = .error f ∨ a.isMember p.author = .error f ∨
      a.teams p = .error f := by
  have hfailure : ∀ {α : Type} (e : Except Failure α), failure? e = some f ↔ e = .error f := by
    intro α e
    cases e with
    | ok x => simp only [failure?, reduceCtorEq]
    | error g => simp only [failure?, Option.some.injEq, Except.error.injEq]
  simp only [Answers.lookUpFailures, List.mem_filterMap, List.mem_cons, List.not_mem_nil, or_false,
    id_eq, exists_eq_right, eq_comm (a := some f), hfailure]

/-- If several lookups fail, any of them may be told. -/
theorem alike_of_mem (a : Answers) (p : Pull) (f f' : Failure) (hf : f ∈ a.lookUpFailures p)
    (hf' : f' ∈ a.lookUpFailures p) : Alike a (.failed p f) (.failed p f') := by
  cases hl : a.lookUpFailures p with
  | nil =>
      rw [hl] at hf
      exact absurd hf List.not_mem_nil
  | cons g rest =>
      cases rest with
      | nil =>
          -- Only one fails, so both tell of it.
          rw [hl, List.mem_singleton] at hf hf'
          rw [hf, hf']
          exact .same _
      | cons g' rest' =>
          refine .race p f f' ?_ hf hf'
          rw [hl, List.length_cons, List.length_cons]
          omega

theorem lookUp_eq_error (a : Answers) (p : Pull) (f : Failure) (hf : f ∈ a.lookUpFailures p) :
    ∃ f' ∈ a.lookUpFailures p, a.lookUp p = .error f' := by
  simp only [mem_lookUpFailures] at hf ⊢
  unfold Answers.lookUp
  cases hi : a.identity p.author with
  | error g => exact ⟨g, Or.inl rfl, rfl⟩
  | ok i =>
      cases hm : a.isMember p.author with
      | error g => exact ⟨g, Or.inr (Or.inl rfl), rfl⟩
      | ok isMember =>
          cases ht : a.teams p with
          | error g => exact ⟨g, Or.inr (Or.inr rfl), rfl⟩
          | ok teams =>
              rw [hi, hm, ht] at hf
              simp only [reduceCtorEq, or_self] at hf

theorem outcome_lost (a : Answers) (rules : Rules) (cutoff : Option Instant) (p : Pull)
    (f : Failure) (hold : Run.isOld cutoff p = false) (hf : f ∈ a.lookUpFailures p) :
    Alike a (.failed p f) (a.outcome rules cutoff p) ∧ a.call rules cutoff p = none := by
  rcases lookUp_eq_error a p f hf with ⟨f', hf', hlook⟩
  rcases a.outcome_of_error rules cutoff p f' hold hlook with ⟨houtcome, hnone⟩
  rw [houtcome]
  exact ⟨alike_of_mem a p f f' hf hf', hnone⟩

/-- What was found is what the answers say. -/
structure Found.Sound (a : Answers) (p : Pull) (found : Found) : Prop where
  identity : ∀ i, found.identity = some i → a.identity p.author = .ok i
  isMember : ∀ isMember, found.isMember = some isMember → a.isMember p.author = .ok isMember
  teams : ∀ teams, found.teams = some teams → a.teams p = .ok teams

/-- A visit is on the way to the outcome that the answers lead to. -/
def Phase.Sound (a : Answers) (rules : Rules) (cutoff : Option Instant) (p : Pull) :
    Phase → Prop
  | .looking found => Run.isOld cutoff p = false ∧ found.Sound a p
  | .sending r => Run.isOld cutoff p = false ∧ rules.dryRun = false ∧ ∃ author teams,
      a.lookUp p = .ok (author, teams) ∧ (Run.decide rules p author teams).2 ≠ [] ∧
        r = Answers.report rules p author teams .written
  | .ended o => Alike a o (a.outcome rules cutoff p)

/-- The call that a visit has made so far. It is the last step of the visit,
    so there is none until the visit is over. -/
def Answers.calledBy (a : Answers) (rules : Rules) (cutoff : Option Instant) :
    Pull × Phase → Option (Nat × List String)
  | (_, .looking _) => none
  | (_, .sending _) => none
  | (p, .ended _) => a.call rules cutoff p

theorem sound_first (a : Answers) (rules : Rules) (cutoff : Option Instant) (p : Pull) :
    (Phase.first cutoff p).Sound a rules cutoff p ∧
      a.calledBy rules cutoff (p, .first cutoff p) = none := by
  unfold Phase.first
  by_cases hold : Run.isOld cutoff p = true
  · rw [if_pos hold]
    have houtcome : a.outcome rules cutoff p = .ignored p := if_pos hold
    refine ⟨?_, if_pos hold⟩
    change Alike a _ (a.outcome rules cutoff p)
    rw [houtcome]
    exact .same _
  · rw [if_neg hold]
    rw [Bool.not_eq_true] at hold
    refine ⟨⟨hold, ?_⟩, rfl⟩
    -- Nothing is found yet.
    constructor
    · exact fun i hi => absurd hi (by simp only [reduceCtorEq, not_false_eq_true])
    · exact fun b hb => absurd hb (by simp only [reduceCtorEq, not_false_eq_true])
    · exact fun t ht => absurd ht (by simp only [reduceCtorEq, not_false_eq_true])

/-- A decision is the end of a visit without a call, or leads on to one. -/
theorem decided_cases (a : Answers) (rules : Rules) (p : Pull) (author : Identity)
    (teams : OrderedSet String) :
    (Phase.decided rules p author teams = .ended (a.conclude rules p author teams) ∧
      Answers.callFor rules.dryRun p.number (Run.decide rules p author teams).2 = none) ∨
    (Phase.decided rules p author teams = .sending (Answers.report rules p author teams .written) ∧
      rules.dryRun = false ∧ (Run.decide rules p author teams).2 ≠ []) := by
  unfold Phase.decided Answers.conclude Answers.apply Answers.callFor
  by_cases hplan : (Run.decide rules p author teams).2.isEmpty = true
  · left
    simp only [hplan, Bool.true_or, if_true, and_self]
  by_cases hdry : rules.dryRun = true
  · left
    simp only [hplan, hdry, Bool.or_true, if_true, Bool.false_eq_true, if_false, and_self]
  · right
    rw [if_neg hplan, if_neg hdry]
    rw [Bool.not_eq_true] at hdry
    exact ⟨rfl, hdry, fun h => hplan (List.isEmpty_iff.mpr h)⟩

/-- A decision leads on to the outcome, and no call is made by it. -/
theorem sound_decided (a : Answers) (rules : Rules) (cutoff : Option Instant) (p : Pull)
    (author : Identity) (teams : OrderedSet String) (hold : Run.isOld cutoff p = false)
    (hlook : a.lookUp p = .ok (author, teams)) :
    (Phase.decided rules p author teams).Sound a rules cutoff p ∧
      a.calledBy rules cutoff (p, .decided rules p author teams) = none := by
  rcases a.outcome_of_ok rules cutoff p author teams hold hlook with ⟨houtcome, hcall⟩
  rcases decided_cases a rules p author teams with ⟨hended, hnone⟩ | ⟨hsending, hdry, hplan⟩
  · rw [hended, ← houtcome]
    exact ⟨.same _, hcall.trans hnone⟩
  · rw [hsending]
    exact ⟨⟨hold, hdry, author, teams, hlook, hplan, rfl⟩, rfl⟩

/-- A visit that sends labels makes its call, and the answer decides. -/
theorem outcome_sent (a : Answers) (rules : Rules) (cutoff : Option Instant) (p : Pull)
    (r : Report) (h : (Phase.sending r).Sound a rules cutoff p) :
    a.call rules cutoff p = some (p.number, r.toAdd) ∧
      a.outcome rules cutoff p = match a.addLabels p.number r.toAdd with
        | .ok _ => .processed r
        | .error f => .failed p f := by
  rcases h with ⟨hold, hdry, author, teams, hlook, hplan, rfl⟩
  rcases a.outcome_of_ok rules cutoff p author teams hold hlook with ⟨houtcome, hcall⟩
  have htoAdd : (Answers.report rules p author teams .written).toAdd
      = (Run.decide rules p author teams).2 := rfl
  rw [houtcome, hcall, Answers.callFor_eq_some_iff, htoAdd]
  refine ⟨⟨hplan, hdry, rfl⟩, ?_⟩
  unfold Answers.conclude Answers.apply
  rw [List.isEmpty_eq_false_iff.mpr hplan, hdry]
  cases a.addLabels p.number (Run.decide rules p author teams).2 with
  | ok u => rfl
  | error f => rfl

section

variable {σ : Type} [GitHub σ] [Steady σ]

open Steady (answers)

theorem sound_look (found found' : Found) (p : Pull) (lookup : Lookup) (s s' : σ)
    (hcall : found.look p lookup s = (.ok found', s')) (hsound : found.Sound (answers s) p) :
    found'.Sound (answers s) p ∧ s' = s := by
  cases lookup with
  | identity =>
      rcases Call.andThen_eq_ok _ _ _ _ _ hcall with ⟨i, t, hanswer, hdone⟩
      rw [Steady.identity_eq, Prod.mk.injEq] at hanswer
      cases hdone
      refine ⟨⟨fun j hj => ?_, hsound.isMember, hsound.teams⟩, hanswer.2.symm⟩
      rw [hanswer.1, ← Option.some.inj hj]
  | isMember =>
      rcases Call.andThen_eq_ok _ _ _ _ _ hcall with ⟨b, t, hanswer, hdone⟩
      rw [Steady.isMember_eq, Prod.mk.injEq] at hanswer
      cases hdone
      refine ⟨⟨hsound.identity, fun c hc => ?_, hsound.teams⟩, hanswer.2.symm⟩
      rw [hanswer.1, ← Option.some.inj hc]
  | teams =>
      rcases Call.andThen_eq_ok _ _ _ _ _ hcall with ⟨ts, t, hanswer, hdone⟩
      rw [Steady.teams_eq, Prod.mk.injEq] at hanswer
      cases hdone
      refine ⟨⟨hsound.identity, hsound.isMember, fun us hu => ?_⟩, hanswer.2.symm⟩
      rw [hanswer.1, ← Option.some.inj hu]

theorem lost_look (found : Found) (p : Pull) (lookup : Lookup) (f : Failure) (s s' : σ)
    (hcall : found.look p lookup s = (.error f, s')) :
    f ∈ (answers s).lookUpFailures p ∧ s' = s := by
  rw [mem_lookUpFailures]
  cases lookup with
  | identity =>
      have hanswer := Call.andThen_answer_eq_error _ _ _ _ _ hcall
      rw [Steady.identity_eq, Prod.mk.injEq] at hanswer
      exact ⟨Or.inl hanswer.1, hanswer.2.symm⟩
  | isMember =>
      have hanswer := Call.andThen_answer_eq_error _ _ _ _ _ hcall
      rw [Steady.isMember_eq, Prod.mk.injEq] at hanswer
      exact ⟨Or.inr (Or.inl hanswer.1), hanswer.2.symm⟩
  | teams =>
      have hanswer := Call.andThen_answer_eq_error _ _ _ _ _ hcall
      rw [Steady.teams_eq, Prod.mk.injEq] at hanswer
      exact ⟨Or.inr (Or.inr hanswer.1), hanswer.2.symm⟩

/-- A step keeps a visit on the way to its outcome, and does nothing but make
    the call of the visit, if it is the step that does so. -/
theorem sound_visitStep (rules : Rules) (cutoff : Option Instant) (p : Pull)
    (phase phase' : Phase) (s s' : σ) (h : VisitStep rules p phase s phase' s')
    (hsound : phase.Sound (answers s) rules cutoff p) :
    phase'.Sound (answers s) rules cutoff p ∧
      s' = adding s ((answers s).calledBy rules cutoff (p, phase')).toList := by
  cases h with
  | found found found' lookup t t' hnew hcall =>
      rcases hsound with ⟨hold, hfound⟩
      rcases sound_look found found' p lookup s s' hcall hfound with ⟨hfound', hstate⟩
      exact ⟨⟨hold, hfound'⟩, hstate⟩
  | lost found lookup f t t' hnew hcall =>
      -- The visit ends here, and its outcome may tell of another failure.
      rcases hsound with ⟨hold, -⟩
      rcases lost_look found p lookup f s s' hcall with ⟨hf, hstate⟩
      rcases outcome_lost (answers s) rules cutoff p f hold hf with ⟨halike, hnone⟩
      refine ⟨halike, ?_⟩
      simp only [Answers.calledBy, hnone]
      exact hstate
  | decided i isMember teams t =>
      -- What was found in any order is what the lookups find in theirs.
      rcases hsound with ⟨hold, hfound⟩
      have hlook : (answers s).lookUp p = .ok ({ i with isMember }, teams) := by
        unfold Answers.lookUp
        rw [hfound.identity i rfl, hfound.isMember isMember rfl, hfound.teams teams rfl]
      rcases sound_decided (answers s) rules cutoff p _ teams hold hlook with ⟨hnext, hnone⟩
      refine ⟨hnext, ?_⟩
      rw [hnone]
      rfl
  | added r t t' hcall =>
      -- The one call of the visit, whose answer is the one foreseen.
      rcases outcome_sent (answers s) rules cutoff p r hsound with ⟨hmade, houtcome⟩
      have hanswer := Steady.addLabels_fst s p.number r.toAdd
      rw [hcall] at hanswer
      rw [← hanswer] at houtcome
      simp only [Phase.Sound, Answers.calledBy, houtcome, hmade]
      refine ⟨.same _, ?_⟩
      change s' = (GitHub.addLabels p.number r.toAdd s).2
      rw [hcall]
  | refused r f t t' hcall =>
      rcases outcome_sent (answers s) rules cutoff p r hsound with ⟨hmade, houtcome⟩
      have hanswer := Steady.addLabels_fst s p.number r.toAdd
      rw [hcall] at hanswer
      rw [← hanswer] at houtcome
      simp only [Phase.Sound, Answers.calledBy, houtcome, hmade]
      refine ⟨.same _, ?_⟩
      change s' = (GitHub.addLabels p.number r.toAdd s).2
      rw [hcall]

omit [Steady σ] in
theorem calledBy_of_visitStep (a : Answers) (rules : Rules) (cutoff : Option Instant) (p : Pull)
    (phase phase' : Phase) (s s' : σ) (h : VisitStep rules p phase s phase' s') :
    a.calledBy rules cutoff (p, phase) = none := by
  cases h with
  | found found found' lookup t t' hnew hcall => rfl
  | lost found lookup f t t' hnew hcall => rfl
  | decided i isMember teams t => rfl
  | added r t t' hcall => rfl
  | refused r f t t' hcall => rfl

/-- What follows the lookups of a visit that are made in the order in which
    visits one by one make them. -/
def Answers.lookedUp (a : Answers) (rules : Rules) (p : Pull) : Phase :=
  match a.lookUp p with
  | .ok (author, teams) => .decided rules p author teams
  | .error f => .ended (.failed p f)

theorem lookedUp_reachable (rules : Rules) (p : Pull) (s : σ) :
    Relation.ReflTransGen (fun v v' : Phase × σ => VisitStep rules p v.1 v.2 v'.1 v'.2)
      (.looking {}, s) ((answers s).lookedUp rules p, s) := by
  unfold Answers.lookedUp Answers.lookUp
  -- The lookups are made one after the other, up to the first that fails.
  cases hi : (answers s).identity p.author with
  | error f =>
      refine .single (.lost {} .identity f s s rfl ?_)
      simp only [Found.look, Call.andThen, Steady.identity_eq, hi]
  | ok i =>
      have hfound : VisitStep rules p (.looking {}) s (.looking ⟨some i, none, none⟩) s := by
        refine .found {} _ .identity s s rfl ?_
        simp only [Found.look, Call.andThen, Steady.identity_eq, hi, Call.answer]
      refine .head (b := (.looking ⟨some i, none, none⟩, s)) hfound ?_
      cases hm : (answers s).isMember p.author with
      | error f =>
          refine .single (.lost ⟨some i, none, none⟩ .isMember f s s rfl ?_)
          simp only [Found.look, Call.andThen, Steady.isMember_eq, hm]
      | ok isMember =>
          have hfound' : VisitStep rules p (.looking ⟨some i, none, none⟩) s
              (.looking ⟨some i, some isMember, none⟩) s := by
            refine .found _ _ .isMember s s rfl ?_
            simp only [Found.look, Call.andThen, Steady.isMember_eq, hm, Call.answer]
          refine .head (b := (.looking ⟨some i, some isMember, none⟩, s)) hfound' ?_
          cases ht : (answers s).teams p with
          | error f =>
              refine .single (.lost ⟨some i, some isMember, none⟩ .teams f s s rfl ?_)
              simp only [Found.look, Call.andThen, Steady.teams_eq, ht]
          | ok teams =>
              have hfound'' : VisitStep rules p (.looking ⟨some i, some isMember, none⟩) s
                  (.looking ⟨some i, some isMember, some teams⟩) s := by
                refine .found _ _ .teams s s rfl ?_
                simp only [Found.look, Call.andThen, Steady.teams_eq, ht, Call.answer]
              refine .head (b := (.looking ⟨some i, some isMember, some teams⟩, s)) hfound'' ?_
              exact .single (.decided i isMember teams s)

/-- A visit can come to the outcome and the state that it comes to when visits
    are made one by one. -/
theorem visit_reachable (rules : Rules) (cutoff : Option Instant) (p : Pull) (s : σ) :
    Relation.ReflTransGen (fun v v' : Phase × σ => VisitStep rules p v.1 v.2 v'.1 v'.2)
      (.first cutoff p, s)
      (.ended ((answers s).outcome rules cutoff p),
        adding s ((answers s).call rules cutoff p).toList) := by
  by_cases hold : Run.isOld cutoff p = true
  · -- A visit that is too old is over without a step.
    have hfirst : Phase.first cutoff p = .ended (.ignored p) := if_pos hold
    have houtcome : (answers s).outcome rules cutoff p = .ignored p := if_pos hold
    have hnone : (answers s).call rules cutoff p = none := if_pos hold
    rw [hfirst, houtcome, hnone]
    exact .refl
  have hfirst : Phase.first cutoff p = .looking {} := if_neg hold
  rw [Bool.not_eq_true] at hold
  rw [hfirst]
  -- Behind the lookups there is at most one more step, the one that writes.
  refine (lookedUp_reachable rules p s).trans ?_
  unfold Answers.lookedUp
  cases hlook : (answers s).lookUp p with
  | error f =>
      rcases (answers s).outcome_of_error rules cutoff p f hold hlook with ⟨houtcome, hnone⟩
      rw [houtcome, hnone]
      exact .refl
  | ok found =>
      rcases found with ⟨author, teams⟩
      rcases (answers s).outcome_of_ok rules cutoff p author teams hold hlook with
        ⟨houtcome, hcall⟩
      rcases decided_cases (answers s) rules p author teams with
        ⟨hended, hnone⟩ | ⟨hsending, hdry, hplan⟩
      · rw [houtcome, hcall, hnone]
        simp only [hended]
        exact .refl
      · rcases outcome_sent (answers s) rules cutoff p _
          ⟨hold, hdry, author, teams, hlook, hplan, rfl⟩ with ⟨hmade, hanswered⟩
        have hstate : ∀ labels, adding s (some (p.number, labels)).toList
            = (GitHub.addLabels p.number labels s).2 := fun _ => rfl
        simp only [hsending, hmade, hanswered, hstate]
        rw [← Steady.addLabels_fst]
        rcases hc : GitHub.addLabels p.number (Answers.report rules p author teams .written).toAdd s
          with ⟨f | _, s'⟩
        · exact .single (.refused _ f s s' hc)
        · exact .single (.added _ s s' hc)

end

end PullTriage
