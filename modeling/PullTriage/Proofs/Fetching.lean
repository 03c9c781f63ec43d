import PullTriage.Proofs.Attempts
import PullTriage.Run.Basic

/-!
# Fetching a Selection

When the pull requests of a selection are fetched, said of the replies to one
command. The starts of the command stop at some reply (`StopsAfter`). If that
reply ends in time and with the code of success, and what it printed can be
read, then what was read is the answer. In all other cases the call fails.

The question for one pull request and the one for all of a state differ in the
command and in how the output is read, so both are cases of one statement
about a command whose output is read.

## Main definitions

* `Session.Succeeds`: A command ends well, with an output.
* `Session.Fetches`: A selection is fetched.

## Theorems

* `Session.run_eq_ok_iff`: When a command is answered with an output.
* `Session.succeeds_iff`: When a command ends well.
* `Session.read_eq_ok_iff`: When a command is answered and its output is read.
* `Session.ask_eq_ok_iff`, `Session.list_eq_ok_iff`: The two questions.
* `Session.collect_eq_ok_iff`: A selection is fetched or the call fails.
-/

namespace PullTriage

namespace Call

variable {σ α β : Type}

/-- A failure that is seen from what was attempted stays a failure. -/
theorem within_eq_ok_iff (c : Call σ α) (cause : Cause) (s : σ) (a : α) :
    (c.within cause s).1 = .ok a ↔ (c s).1 = .ok a := by
  unfold within
  rcases c s with ⟨f | b, s'⟩
  · simp only [reduceCtorEq]
  · rfl

/-- The first call has to succeed for the second to be made. -/
theorem andThen_eq_ok_iff (c : Call σ α) (next : α → Call σ β) (s : σ) (b : β) :
    (c.andThen next s).1 = .ok b ↔ ∃ a, (c s).1 = .ok a ∧ (next a (c s).2).1 = .ok b := by
  unfold andThen
  rcases c s with ⟨f | a, s'⟩
  · simp only [reduceCtorEq, false_and, exists_false]
  · simp only [Except.ok.injEq, exists_eq_left']

end Call

namespace Gh

theorem succeeded_eq_ok_iff (endpoint : String) (o o' : Output) :
    succeeded endpoint o = .ok o' ↔ o.code = 0 ∧ o = o' := by
  unfold succeeded Output.isSuccess
  by_cases hcode : o.code = 0
  · rw [if_pos (decide_eq_true hcode), Except.ok.injEq]
    exact ⟨fun h => ⟨hcode, h⟩, fun h => h.2⟩
  · rw [if_neg (fun h => hcode (of_decide_eq_true h))]
    simp only [reduceCtorEq, hcode, false_and]

theorem understood_eq_ok_iff {α : Type} (cause : Cause) (found : Option α) (a : α) :
    understood cause found = .ok a ↔ found = some a := by
  cases found with
  | none => simp only [understood, reduceCtorEq]
  | some b => simp only [understood, Except.ok.injEq, Option.some.injEq]

namespace Session

/-- The command ends well: the reply at which its starts stop, three at most,
    comes in time and with the code of success. -/
def Succeeds (s : Session) (arguments : List String) (o : Output) : Prop :=
  ∃ k, StopsAfter 3 (s.script.upcoming arguments) k ∧
    (s.script.upcoming arguments (k - 1)).EndsInTime o ∧ o.code = 0

/-- The pull requests of a selection are fetched: the command for it ends
    well, and they are what its output says. -/
inductive Fetches (s : Session) : Selection → List Pull → Prop where
  | single (number : Nat) (o : Output) (p : Pull) (ho : s.Succeeds [s.pullEndpoint number] o)
      (hp : one? pullOfTree? o.stdout = some p) : Fetches s (.single number) [p]
  | all (state : PullState) (o : Output) (pulls : List Pull)
      (ho : s.Succeeds [s.pullsEndpoint state, "--paginate"] o)
      (hpulls : pages? pullOfTree? o.stdout = some pulls) : Fetches s (.all state) pulls

/-- A command is answered with the output of the reply at which its starts
    stop. -/
theorem run_eq_ok_iff (s : Session) (arguments : List String) (o : Output) :
    (run arguments s).1 = .ok o ↔
      ∃ k, StopsAfter 3 (s.script.upcoming arguments) k ∧
        (s.script.upcoming arguments (k - 1)).EndsInTime o := by
  rcases s.runWith_eq arguments pauses with ⟨k, hk, hrun⟩
  unfold run
  rw [hrun, Reply.answer_eq_ok_iff]
  constructor
  · intro h
    exact ⟨k, hk, h⟩
  · intro h
    rcases h with ⟨l, hl, h⟩
    -- The starts stop at one reply only.
    rwa [hl.unique hk] at h

theorem succeeds_iff (s : Session) (arguments : List String) (o : Output) :
    s.Succeeds arguments o ↔ (run arguments s).1 = .ok o ∧ o.code = 0 := by
  rw [run_eq_ok_iff]
  constructor
  · intro h
    rcases h with ⟨k, hk, hends, hcode⟩
    exact ⟨⟨k, hk, hends⟩, hcode⟩
  · intro h
    rcases h with ⟨⟨k, hk, hends⟩, hcode⟩
    exact ⟨k, hk, hends, hcode⟩

variable {α : Type}

/-- A command whose output is read. -/
theorem read_eq_ok_iff (arguments : List String) (endpoint : String) (cause : Cause)
    (parse : List UInt8 → Option α) (s : Session) (a : α) :
    (((run arguments).andThen fun o =>
        (settled (succeeded endpoint o)).andThen fun o =>
          settled (understood cause (parse o.stdout))) s).1 = .ok a ↔
      ∃ o, s.Succeeds arguments o ∧ parse o.stdout = some a := by
  simp only [Call.andThen_eq_ok_iff, settled, succeeded_eq_ok_iff, understood_eq_ok_iff,
    succeeds_iff]
  constructor
  · intro h
    rcases h with ⟨o, hrun, _, ⟨hcode, rfl⟩, ha⟩
    exact ⟨o, ⟨hrun, hcode⟩, ha⟩
  · intro h
    rcases h with ⟨o, ⟨hrun, hcode⟩, ha⟩
    exact ⟨o, hrun, o, ⟨hcode, rfl⟩, ha⟩

/-- A question is answered by what is read from the output of its command. -/
theorem ask_eq_ok_iff (read : Json.Tree → Option α) (endpoint : String) (s : Session) (a : α) :
    (ask read endpoint s).1 = .ok a ↔
      ∃ o, s.Succeeds [endpoint] o ∧ one? read o.stdout = some a :=
  read_eq_ok_iff [endpoint] endpoint .badAnswer (one? read) s a

/-- A state is listed by what is read from all pages of the output. -/
theorem list_eq_ok_iff (state : PullState) (s : Session) (pulls : List Pull) :
    (list state s).1 = .ok pulls ↔
      ∃ o, s.Succeeds [s.pullsEndpoint state, "--paginate"] o ∧
        pages? pullOfTree? o.stdout = some pulls :=
  read_eq_ok_iff _ _ .badPages (pages? pullOfTree?) s pulls

/-- Fetching a selection succeeds with what is fetched, and not otherwise. -/
theorem collect_eq_ok_iff (selection : Selection) (s : Session) (pulls : List Pull) :
    (Run.collect selection s).1 = .ok pulls ↔ s.Fetches selection pulls := by
  cases selection with
  | single number =>
      have hget : ∀ p, (get number s).1 = .ok p ↔
          ∃ o, s.Succeeds [s.pullEndpoint number] o ∧ one? pullOfTree? o.stdout = some p :=
        fun p => (Call.within_eq_ok_iff _ _ s p).trans (ask_eq_ok_iff _ _ s p)
      have hcollect : (Run.collect (.single number) s).1 = .ok pulls ↔
          ∃ p, (get number s).1 = .ok p ∧ [p] = pulls :=
        (Call.andThen_eq_ok_iff _ _ s pulls).trans
          (exists_congr fun p => and_congr_right fun _ => by rw [Call.answer, Except.ok.injEq])
      rw [hcollect]
      constructor
      · intro h
        rcases h with ⟨p, hp, rfl⟩
        rcases (hget p).mp hp with ⟨o, ho, hread⟩
        exact .single number o p ho hread
      · intro h
        cases h with
        | single _ o p ho hread => exact ⟨p, (hget p).mpr ⟨o, ho, hread⟩, rfl⟩
  | all state =>
      refine (list_eq_ok_iff state s pulls).trans ⟨fun h => ?_, fun h => ?_⟩
      · rcases h with ⟨o, ho, hread⟩
        exact .all state o pulls ho hread
      · cases h with
        | all _ o _ ho hread => exact ⟨o, ho, hread⟩

end Session

end Gh

end PullTriage
