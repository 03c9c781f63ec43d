import PullTriage.Run.Basic

/-!
# Runs against Steady Answers

During a run GitHub may answer a call or fail it, but as long as the same call
always gets the same answer, the outcome of a visit is a function of the pull
request alone: `Answers.outcome`. It does not depend on the visits before it,
and in particular not on the labels that they have written. Every result
about whole runs rests on this.

What a visit does to the state is one call at most, `Answers.call`. So the
state after a list of visits is that after their calls, `adding`.

The state is left open. A state is `Steady` if its answers can be read off it,
its lookups leave it as it is, and adding labels does not change any answer.

## Main definitions

* `Answers`: The answers to the calls of a visit.
* `Answers.lookUp`: What the lookups about a pull request find.
* `Answers.apply`: What becomes of labels to add.
* `Answers.outcome`: The outcome of a pull request.
* `Answers.call`: The call by which a visit adds labels, if it makes one.
* `Steady`: States whose answers do not change.
* `adding`: The state after calls that add labels.

## Theorems

* `Answers.pull_outcome`: An outcome is about its pull request.
* `Run.apply_eq`: Writing a plan by its answer.
* `Run.visit_eq`: A visit by its outcome and its call.
* `Run.visitAll_eq`: A list of visits by their outcomes and their calls.
-/

namespace PullTriage

theorem filterMap_cons_toList {α β : Type} (f : α → Option β) (x : α) (l : List α) :
    (x :: l).filterMap f = (f x).toList ++ l.filterMap f := by
  cases hx : f x with
  | none =>
      rw [List.filterMap_cons_none hx]
      rfl
  | some y =>
      rw [List.filterMap_cons_some hx]
      rfl

/-- What is made of some members of a list has the keys of these members, in
    order. -/
theorem map_filterMap_sublist {α β γ : Type} (f : α → Option β) (key : α → γ) (key' : β → γ)
    (hkey : ∀ x y, f x = some y → key' y = key x) (l : List α) :
    ((l.filterMap f).map key').Sublist (l.map key) := by
  induction l with
  | nil => exact List.Sublist.slnil
  | cons x rest ih =>
      cases hx : f x with
      | none =>
          rw [List.filterMap_cons_none hx, List.map_cons]
          exact ih.cons _
      | some y =>
          rw [List.filterMap_cons_some hx, List.map_cons, List.map_cons, hkey x y hx]
          exact ih.cons_cons _

/-- The answers to the calls of a visit. -/
structure Answers where
  identity : String → Except Failure Identity
  isMember : String → Except Failure Bool
  teams : Pull → Except Failure (OrderedSet String)
  addLabels : Nat → List String → Except Failure Unit

namespace Answers

/-- What the lookups about a pull request find: the author and the teams, or
    the first failure. -/
def lookUp (a : Answers) (p : Pull) : Except Failure (Identity × OrderedSet String) :=
  match a.identity p.author with
  | .error f => .error f
  | .ok i =>
    match a.isMember p.author with
    | .error f => .error f
    | .ok isMember =>
      match a.teams p with
      | .error f => .error f
      | .ok teams => .ok ({ i with isMember }, teams)

/-- What becomes of the labels to add to a pull request. -/
def apply (a : Answers) (dryRun : Bool) (number : Nat) (labels : List String) :
    Except Failure Effect :=
  if labels.isEmpty then .ok .unchanged
  else if dryRun then .ok .previewed
  else (a.addLabels number labels).map fun _ => .written

/-- The report on a pull request whose author and teams are known. -/
def report (rules : Rules) (p : Pull) (author : Identity) (teams : OrderedSet String)
    (effect : Effect) : Report where
  pull := p
  identity := author
  classification := (Run.decide rules p author teams).1
  toAdd := (Run.decide rules p author teams).2
  effect := effect

/-- The outcome of a pull request whose author and teams are known. -/
def conclude (a : Answers) (rules : Rules) (p : Pull) (author : Identity)
    (teams : OrderedSet String) : Outcome :=
  match a.apply rules.dryRun p.number (Run.decide rules p author teams).2 with
  | .ok effect => .processed (report rules p author teams effect)
  | .error f => .failed p f

/-- The outcome of a pull request. -/
def outcome (a : Answers) (rules : Rules) (cutoff : Option Instant) (p : Pull) : Outcome :=
  if Run.isOld cutoff p then .ignored p
  else
    match a.lookUp p with
    | .ok (author, teams) => a.conclude rules p author teams
    | .error f => .failed p f

/-- The call by which labels are added to a pull request, if they are. -/
def callFor (dryRun : Bool) (number : Nat) (labels : List String) :
    Option (Nat × List String) :=
  if labels.isEmpty || dryRun then none else some (number, labels)

theorem callFor_eq_some_iff (dryRun : Bool) (number : Nat) (labels : List String)
    (c : Nat × List String) :
    callFor dryRun number labels = some c ↔
      labels ≠ [] ∧ dryRun = false ∧ c = (number, labels) := by
  unfold callFor
  cases labels with
  | nil =>
      simp only [List.isEmpty_nil, Bool.true_or, if_true, reduceCtorEq, ne_eq,
        not_true_eq_false, false_and]
  | cons x rest =>
      cases dryRun with
      | true => simp only [Bool.or_true, if_true, reduceCtorEq, false_and, and_false]
      | false =>
          simp only [List.isEmpty_cons, Bool.or_self, Bool.false_eq_true, if_false,
            Option.some.injEq, ne_eq, reduceCtorEq, not_false_eq_true, true_and]
          exact eq_comm

/-- The call by which the visit of a pull request adds labels, if it makes
    one, whether it succeeds or fails. -/
def call (a : Answers) (rules : Rules) (cutoff : Option Instant) (p : Pull) :
    Option (Nat × List String) :=
  if Run.isOld cutoff p then none
  else
    match a.lookUp p with
    | .ok (author, teams) => callFor rules.dryRun p.number (Run.decide rules p author teams).2
    | .error _ => none

theorem outcome_of_old (a : Answers) (rules : Rules) (cutoff : Option Instant) (p : Pull)
    (hold : Run.isOld cutoff p = true) : a.outcome rules cutoff p = .ignored p :=
  if_pos hold

theorem outcome_of_error (a : Answers) (rules : Rules) (cutoff : Option Instant) (p : Pull)
    (f : Failure) (hold : Run.isOld cutoff p = false) (hlook : a.lookUp p = .error f) :
    a.outcome rules cutoff p = .failed p f ∧ a.call rules cutoff p = none := by
  unfold outcome call
  rw [hold, hlook]
  exact ⟨rfl, rfl⟩

theorem outcome_of_ok (a : Answers) (rules : Rules) (cutoff : Option Instant) (p : Pull)
    (author : Identity) (teams : OrderedSet String) (hold : Run.isOld cutoff p = false)
    (hlook : a.lookUp p = .ok (author, teams)) :
    a.outcome rules cutoff p = a.conclude rules p author teams ∧
      a.call rules cutoff p
        = callFor rules.dryRun p.number (Run.decide rules p author teams).2 := by
  unfold outcome call
  rw [hold, hlook]
  exact ⟨rfl, rfl⟩

theorem pull_conclude (a : Answers) (rules : Rules) (p : Pull) (author : Identity)
    (teams : OrderedSet String) : (a.conclude rules p author teams).pull = p := by
  unfold conclude
  split
  · rfl
  · rfl

theorem pull_outcome (a : Answers) (rules : Rules) (cutoff : Option Instant) (p : Pull) :
    (a.outcome rules cutoff p).pull = p := by
  unfold outcome
  split
  · rfl
  · split
    · exact pull_conclude a rules p _ _
    · rfl

end Answers

/-- States whose answers do not change: lookups leave the state as it is, and
    added labels are not seen by any call of a visit. Nothing takes time. -/
class Steady (σ : Type) [GitHub σ] where
  answers : σ → Answers
  identity_eq (s : σ) (login : String) :
    GitHub.identity login s = ((answers s).identity login, s)
  isMember_eq (s : σ) (login : String) :
    GitHub.isMember login s = ((answers s).isMember login, s)
  teams_eq (s : σ) (p : Pull) : GitHub.teams p s = ((answers s).teams p, s)
  addLabels_fst (s : σ) (number : Nat) (labels : List String) :
    (GitHub.addLabels number labels s).1 = (answers s).addLabels number labels
  -- No later call of a visit sees the labels.
  answers_addLabels (s : σ) (number : Nat) (labels : List String) :
    answers (GitHub.addLabels number labels s).2 = answers s
  -- Of two calls at the same time the first is over when the second begins.
  both_eq {α β : Type} (c : Call σ α) (d : Call σ β) :
    Timeline.both c d = c.andThen fun a => d.andThen fun b => Call.answer (a, b)
  atTime_eq (time : Nat) (s : σ) : Timeline.atTime time s = s

section

variable {σ : Type} [GitHub σ]

/-- The state after the calls of a list, each of which adds labels. -/
def adding (s : σ) (calls : List (Nat × List String)) : σ :=
  calls.foldl (fun s c => (GitHub.addLabels c.1 c.2 s).2) s

theorem adding_append (s : σ) (calls more : List (Nat × List String)) :
    adding s (calls ++ more) = adding (adding s calls) more :=
  List.foldl_append

variable [Steady σ]

open Steady (answers)

theorem answers_adding (s : σ) (calls : List (Nat × List String)) :
    answers (adding s calls) = answers s := by
  induction calls generalizing s with
  | nil => rfl
  | cons c rest ih =>
      have hrest : adding s (c :: rest) = adding (GitHub.addLabels c.1 c.2 s).2 rest := rfl
      rw [hrest, ih, Steady.answers_addLabels]

namespace Run

theorem lookUp_eq (p : Pull) (s : σ) :
    ((lookUp p).andThen fun (i, isMember, teams) =>
      Call.answer ({ i with isMember }, teams)) s = ((answers s).lookUp p, s) := by
  simp only [lookUp, Steady.both_eq, Call.andThen, Steady.identity_eq, Steady.isMember_eq,
    Steady.teams_eq, Call.answer, Answers.lookUp]
  cases (answers s).identity p.author with
  | error f => rfl
  | ok i =>
      simp only []
      cases (answers s).isMember p.author with
      | error f => rfl
      | ok isMember =>
          simp only []
          cases (answers s).teams p with
          | error f => rfl
          | ok teams => rfl

/-- Writing a plan is one call at most, and its answer decides. -/
theorem apply_eq (dryRun : Bool) (number : Nat) (labels : List String) (s : σ) :
    apply dryRun number labels s = ((answers s).apply dryRun number labels,
      adding s (Answers.callFor dryRun number labels).toList) := by
  unfold apply Answers.apply Answers.callFor
  by_cases hl : labels.isEmpty = true
  · simp only [hl, if_true, Bool.true_or]
    rfl
  · by_cases hd : dryRun = true
    · simp only [hl, hd, if_true, Bool.or_true]
      rfl
    · simp only [hl, hd, Bool.or_self, Bool.false_eq_true, if_false, ← Steady.addLabels_fst]
      change (GitHub.addLabels number labels).andThen _ s
        = (_, (GitHub.addLabels number labels s).2)
      unfold Call.andThen
      rcases GitHub.addLabels number labels s with ⟨f | _, s'⟩
      · rfl
      · rfl

/-- A visit by its outcome and the call that it makes. -/
theorem visit_eq (rules : Rules) (cutoff : Option Instant) (p : Pull) (s : σ) :
    visit rules cutoff p s = ((answers s).outcome rules cutoff p,
      adding s ((answers s).call rules cutoff p).toList) := by
  unfold visit Answers.outcome Answers.call
  by_cases hold : isOld cutoff p = true
  · simp only [hold, if_true]
    rfl
  · -- The lookups leave the state alone, so the plan is written in it.
    have hlook := lookUp_eq p s
    simp only [hold, process, Call.andThen] at hlook ⊢
    rcases hlu : lookUp p s with ⟨f | ⟨i, isMember, teams⟩, s'⟩
    · simp only [hlu, Prod.mk.injEq] at hlook
      rw [← hlook.1, hlook.2]
      rfl
    · simp only [hlu, Call.answer, Prod.mk.injEq] at hlook
      rw [← hlook.1, hlook.2]
      simp only [apply_eq, Answers.conclude, Call.answer]
      rcases (answers s).apply rules.dryRun p.number
        (decide rules p { i with isMember } teams).2 with f | effect
      · rfl
      · rfl

theorem visitFrom_eq (rules : Rules) (cutoff : Option Instant) (free : List Nat)
    (pulls : List Pull) (s : σ) :
    visitFrom rules cutoff free pulls s = (pulls.map ((answers s).outcome rules cutoff),
      adding s (pulls.filterMap ((answers s).call rules cutoff))) := by
  induction pulls generalizing free s with
  | nil =>
      rw [visitFrom, Steady.atTime_eq]
      rfl
  | cons p rest ih =>
      -- The rest meets a state with the same answers, whatever was added.
      simp only [visitFrom, Steady.atTime_eq, visit_eq, ih, answers_adding]
      rw [filterMap_cons_toList, adding_append, List.map_cons]

/-- A list of visits by their outcomes and the calls that they make. How many
    workers there are makes no difference. -/
theorem visitAll_eq (rules : Rules) (cutoff : Option Instant) (pulls : List Pull) (s : σ) :
    visitAll rules cutoff pulls s = (pulls.map ((answers s).outcome rules cutoff),
      adding s (pulls.filterMap ((answers s).call rules cutoff))) :=
  visitFrom_eq rules cutoff _ pulls s

end Run

end

end PullTriage
