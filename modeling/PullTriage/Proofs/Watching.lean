import Mathlib.Data.List.Forall2
import PullTriage.Proofs.Memory
import PullTriage.Proofs.Summaries

/-!
# Runs under Watch

What a run asks of GitHub does not show in a repository in memory, except for
the labels that it writes. A repository under watch notes down every question
and whether it was answered. Besides the failures of the repository itself,
which go by whom or what is asked about, any question can fail by its place
among those asked so far. So a question can fail once and be answered when it
is asked again, and the failures of a run can have any pattern.

A visit is told by its outcome and by the questions that it asks, and
`Watched.Visited` says how these two agree. It holds of every visit, whatever
fails during it, so a run is the visits of its pull requests behind the one
question that fetches them.

## Main definitions

* `Question`, `Asked`: What is asked of GitHub, and with what success.
* `Watched`: A repository in memory that notes down the questions.
* `Watched.Follows`: A call that is the same without watching.
* `Watched.Goes`: What questions do to a repository under watch.
* `Watched.Finds`: A call that finds out something about a pull request.
* `Watched.Visited`: The outcome of a visit and its questions agree.

## Theorems

* `Watched.run_follows`: Watching makes no difference to a run.
* `Watched.Finds.andThen`: One call after another.
* `Watched.finds_lookUp`: The lookups of a visit.
* `Watched.apply_cases`: Writing the labels of a plan.
* `Watched.process_cases`: What is decided, and with how many questions.
* `Watched.visit_visited`: A visit and its questions.
* `Watched.collect_reads`: Fetching a selection and its question.
* `Watched.run_error`: A run whose selection cannot be fetched.
* `Watched.visitFrom_of_visit`, `Watched.run_of_visit`: What holds of every
  visit holds of a list of visits and of a run.
* `Watched.run_visited`: A run and its questions.
-/

namespace PullTriage

/-- What a run asks of GitHub. -/
inductive Question where
  | list (state : PullState)
  | get (number : Nat)
  | teams (number : Nat)
  | isMember (login : String)
  | identity (login : String)
  | addLabels (number : Nat) (labels : List String)
deriving DecidableEq

/-- The question is about a pull request or its author. -/
def Question.IsAbout (p : Pull) : Question → Prop
  | list _ => False
  | get number | teams number | addLabels number _ => number = p.number
  | isMember login | identity login => login = p.author

/-- The question that fetches a selection. -/
def Selection.question : Selection → Question
  | .all state => .list state
  | .single number => .get number

/-- A question that was asked, and whether it was answered. -/
structure Asked where
  question : Question
  answered : Bool
deriving DecidableEq

/-- The number and the labels that were added, if the question was that and
    was answered. -/
def Asked.write? (a : Asked) : Option (Nat × List String) :=
  match a.question, a.answered with
  | .addLabels number labels, true => some (number, labels)
  | _, _ => none

/-- A repository in memory that notes down the questions. -/
structure Watched where
  /-- The repository. -/
  memory : Memory
  /-- The failures by the number of questions before. -/
  fails : Nat → Question → Option Failure := fun _ _ => none
  /-- The questions that were asked, in order. -/
  log : List Asked := []

namespace Watched

/-- Asks a question of the repository and notes it down. -/
def ask {α : Type} (q : Question) (c : Call Memory α) : Call Watched α := fun w =>
  match w.fails w.log.length q with
  | some f => (.error f, { w with log := w.log ++ [⟨q, false⟩] })
  | none =>
    let (a, memory) := c w.memory
    (a, { w with memory, log := w.log ++ [⟨q, a.isOk⟩] })

end Watched

instance : Timeline Watched where
  clock _ := 0
  atTime _ w := w
  both c d := c.andThen fun a => d.andThen fun b => Call.answer (a, b)

instance : GitHub Watched where
  list state := Watched.ask (.list state) (GitHub.list state)
  get number := Watched.ask (.get number) (GitHub.get number)
  teams p := Watched.ask (.teams p.number) (GitHub.teams p)
  isMember login := Watched.ask (.isMember login) (GitHub.isMember login)
  identity login := Watched.ask (.identity login) (GitHub.identity login)
  addLabels number labels := Watched.ask (.addLabels number labels) (GitHub.addLabels number labels)

namespace Watched

/-- A call of a repository under watch is the same call of the repository, as
    long as no question fails for its place. -/
def Follows {α : Type} (c : Call Watched α) (d : Call Memory α) : Prop :=
  ∀ w : Watched, (∀ n q, w.fails n q = none) →
    (c w).1 = (d w.memory).1 ∧ (c w).2.memory = (d w.memory).2 ∧
      ∀ n q, (c w).2.fails n q = none

section

variable {α β : Type}

theorem follows_ask (q : Question) (c : Call Memory α) : Follows (ask q c) c := by
  intro w hfails
  unfold ask
  rw [hfails]
  exact ⟨rfl, rfl, hfails⟩

theorem follows_answer (a : α) : Follows (Call.answer a) (Call.answer a) :=
  fun _ hfails => ⟨rfl, rfl, hfails⟩

theorem Follows.andThen {c : Call Watched α} {d : Call Memory α} {next : α → Call Watched β}
    {next' : α → Call Memory β} (hc : Follows c d) (hnext : ∀ a, Follows (next a) (next' a)) :
    Follows (c.andThen next) (d.andThen next') := by
  intro w hfails
  rcases hc w hfails with ⟨hanswer, hmemory, hfails'⟩
  unfold Call.andThen
  -- Both calls have the same answer, so both go on or neither does.
  rcases hcall : c w with ⟨f | a, w'⟩
  · rw [hcall] at hanswer hmemory hfails'
    rcases hcall' : d w.memory with ⟨r, m'⟩
    rw [hcall'] at hanswer hmemory
    cases hanswer
    exact ⟨rfl, hmemory, hfails'⟩
  · rw [hcall] at hanswer hmemory hfails'
    rcases hcall' : d w.memory with ⟨r, m'⟩
    rw [hcall'] at hanswer hmemory
    cases hanswer
    cases hmemory
    exact hnext a w' hfails'

theorem Follows.both {c : Call Watched α} {d : Call Memory α} {c' : Call Watched β}
    {d' : Call Memory β} (hc : Follows c d) (hc' : Follows c' d') :
    Follows (Timeline.both c c') (Timeline.both d d') :=
  hc.andThen fun _ => hc'.andThen fun _ => follows_answer _

end

theorem follows_process (rules : Rules) (p : Pull) :
    Follows (Run.process rules p) (Run.process rules p) := by
  have hlookUp : Follows (Run.lookUp p) (Run.lookUp p) :=
    (follows_ask _ _).both ((follows_ask _ _).both (follows_ask _ _))
  have happly : ∀ labels, Follows (Run.apply rules.dryRun p.number labels)
      (Run.apply rules.dryRun p.number labels) := by
    intro labels
    unfold Run.apply
    split
    · exact follows_answer _
    · split
      · exact follows_answer _
      · exact (follows_ask _ _).andThen fun _ => follows_answer _
  exact hlookUp.andThen fun _ => (happly _).andThen fun _ => follows_answer _

theorem follows_collect (selection : Selection) :
    Follows (Run.collect selection) (Run.collect selection) := by
  cases selection with
  | all state => exact follows_ask (.list state) (GitHub.list state)
  | single number => exact (follows_ask _ _).andThen fun _ => follows_answer _

/-- A visit of a pull request under watch. It cannot fail, so it is compared
    apart from the calls. -/
theorem visit_follows (rules : Rules) (cutoff : Option Instant) (p : Pull) (w : Watched)
    (hfails : ∀ n q, w.fails n q = none) :
    (Run.visit rules cutoff p w).1 = (Run.visit rules cutoff p w.memory).1 ∧
      (Run.visit rules cutoff p w).2.memory = (Run.visit rules cutoff p w.memory).2 ∧
      ∀ n q, (Run.visit rules cutoff p w).2.fails n q = none := by
  rcases follows_process rules p w hfails with ⟨hanswer, hmemory, hfails'⟩
  unfold Run.visit
  split
  · exact ⟨rfl, rfl, hfails⟩
  · rcases hprocess : Run.process rules p w with ⟨r, w'⟩
    rcases hprocess' : Run.process rules p w.memory with ⟨r', m'⟩
    rw [hprocess] at hanswer hmemory hfails'
    rw [hprocess'] at hanswer hmemory
    cases hanswer
    cases r with
    | ok report => exact ⟨rfl, hmemory, hfails'⟩
    | error f => exact ⟨rfl, hmemory, hfails'⟩

theorem visitFrom_follows (rules : Rules) (cutoff : Option Instant) (free : List Nat)
    (pulls : List Pull) (w : Watched) (hfails : ∀ n q, w.fails n q = none) :
    (Run.visitFrom rules cutoff free pulls w).1
        = (Run.visitFrom rules cutoff free pulls w.memory).1 ∧
      (Run.visitFrom rules cutoff free pulls w).2.memory
        = (Run.visitFrom rules cutoff free pulls w.memory).2 ∧
      ∀ n q, (Run.visitFrom rules cutoff free pulls w).2.fails n q = none := by
  induction pulls generalizing free w with
  | nil => exact ⟨rfl, rfl, hfails⟩
  | cons p rest ih =>
      rcases visit_follows rules cutoff p w hfails with ⟨houtcome, hmemory, hfails'⟩
      -- The clock of a repository under watch stands still, like that of one in memory.
      rcases ih (free.drop 1 ++ [max (free.getLastD 0) 0]) (Run.visit rules cutoff p w).2 hfails'
        with ⟨houtcomes, hmemory', hfails''⟩
      rw [hmemory] at houtcomes hmemory'
      exact ⟨congrArg₂ List.cons houtcome houtcomes, hmemory', hfails''⟩

/-- Watching a repository makes no difference to a run. -/
theorem run_follows (rules : Rules) (selection : Selection) (cutoff : Option Instant) :
    Follows (Run.run rules selection cutoff) (Run.run rules selection cutoff) := by
  intro w hfails
  rcases follows_collect selection w hfails with ⟨hanswer, hmemory, hfails'⟩
  unfold Run.run Run.visitAll
  rcases hcollect : Run.collect selection w with ⟨r, w'⟩
  rcases hcollect' : Run.collect selection w.memory with ⟨r', m'⟩
  rw [hcollect] at hanswer hmemory hfails'
  rw [hcollect'] at hanswer hmemory
  cases hanswer
  cases hmemory
  cases r with
  | error f => exact ⟨rfl, rfl, hfails'⟩
  | ok pulls =>
      rcases visitFrom_follows rules cutoff
        (List.replicate (min rules.workers pulls.length) (Timeline.clock w')) pulls w' hfails' with
        ⟨houtcomes, hmemory', hfails''⟩
      refine ⟨?_, hmemory', hfails''⟩
      exact congrArg (fun l => Except.ok (l, Summary.ofOutcomes l)) houtcomes

/-- What questions do to a repository under watch: they are noted down, and
    nothing else changes but the writes. -/
structure Goes (w w' : Watched) (asked : List Asked) : Prop where
  log : w'.log = w.log ++ asked
  memory : w'.memory =
    { w.memory with writes := w.memory.writes ++ asked.filterMap Asked.write? }

theorem Goes.refl (w : Watched) : w.Goes w [] where
  log := (List.append_nil _).symm
  memory := by rw [List.filterMap_nil, List.append_nil]

theorem Goes.trans {w w' w'' : Watched} {asked more : List Asked} (h : w.Goes w' asked)
    (h' : w'.Goes w'' more) : w.Goes w'' (asked ++ more) where
  log := by rw [h'.log, h.log, List.append_assoc]
  memory := by rw [h'.memory, h.memory, List.filterMap_append, List.append_assoc]

/-- A question that writes nothing only shows in the log. -/
theorem ask_reads {α : Type} (q : Question) (c : Call Memory α) (w : Watched)
    (hc : (c w.memory).2 = w.memory) :
    (ask q c w).2 = { w with log := w.log ++ [⟨q, (ask q c w).1.isOk⟩] } ∧
      ∀ a, (ask q c w).1 = .ok a → (c w.memory).1 = .ok a := by
  unfold ask
  cases w.fails w.log.length q with
  | some f => exact ⟨rfl, fun a h => absurd h (by simp only [reduceCtorEq, not_false_eq_true])⟩
  | none => exact ⟨by simp only [hc], fun a h => h⟩

/-- The call asks about a pull request and writes nothing, and if it succeeds,
    it has the given answer. -/
def Finds {α : Type} (p : Pull) (m : Memory) (c : Call Watched α) (a : α) : Prop :=
  ∀ w : Watched, w.memory = m → ∃ asked : List Asked,
    (c w).2 = { w with log := w.log ++ asked } ∧
    (∀ q ∈ asked, q.question.IsAbout p ∧ q.write? = none) ∧
    ∀ found, (c w).1 = .ok found → found = a

section

variable {α β : Type} {p : Pull} {m : Memory}

theorem Finds.answer (a : α) : Finds p m (Call.answer a) a := by
  intro w _
  refine ⟨[], by rw [List.append_nil]; rfl, fun q hq => absurd hq List.not_mem_nil, ?_⟩
  intro found h
  exact (Except.ok.inj h).symm

/-- One call after another, the second with the answer to the first. -/
theorem Finds.andThen {c : Call Watched α} {next : α → Call Watched β} {a : α} {b : β}
    (hc : Finds p m c a) (hnext : Finds p m (next a) b) : Finds p m (c.andThen next) b := by
  intro w hw
  rcases hc w hw with ⟨asked, hstate, hasked, hanswer⟩
  unfold Call.andThen
  rcases hcall : c w with ⟨f | found, w'⟩
  · rw [hcall] at hstate
    refine ⟨asked, hstate, hasked, fun found h => ?_⟩
    cases h
  · rw [hcall] at hstate hanswer
    rw [hanswer found rfl]
    simp only at hstate
    -- The first call has left the repository as it was.
    rcases hnext w' (by rw [hstate]; exact hw) with ⟨more, hstate', hmore, hanswer'⟩
    refine ⟨asked ++ more, ?_, ?_, hanswer'⟩
    · exact hstate'.trans (by simp only [hstate, List.append_assoc])
    · intro q hq
      rcases List.mem_append.mp hq with hq | hq
      · exact hasked q hq
      · exact hmore q hq

/-- Two calls at the same time. -/
theorem Finds.both {c : Call Watched α} {d : Call Watched β} {a : α} {b : β}
    (hc : Finds p m c a) (hd : Finds p m d b) : Finds p m (Timeline.both c d) (a, b) :=
  hc.andThen (hd.andThen (.answer (a, b)))

/-- A question about a pull request that writes nothing has its answer, unless
    it fails. -/
theorem finds_ask (q : Question) (c : Call Memory α) (a : α) (habout : q.IsAbout p)
    (hread : ∀ answered, (⟨q, answered⟩ : Asked).write? = none) (fault : Option Failure)
    (hc : c m = (Memory.guarded fault a, m)) : Finds p m (ask q c) a := by
  rintro w rfl
  rcases ask_reads q c w (by rw [hc]) with ⟨hstate, hanswer⟩
  refine ⟨[⟨q, (ask q c w).1.isOk⟩], hstate, ?_, fun found h => ?_⟩
  · intro b hb
    rw [List.mem_singleton.mp hb]
    exact ⟨habout, hread _⟩
  · have hfound := hanswer found h
    rw [hc] at hfound
    cases fault with
    | some f => exact absurd hfound (by simp only [Memory.guarded, reduceCtorEq, not_false_eq_true])
    | none => exact (Except.ok.inj hfound).symm

end

/-- The lookups about a pull request find its author, the membership and the
    teams. -/
theorem finds_lookUp (p : Pull) (m : Memory) :
    Finds p m (Run.lookUp p) (m.profile p.author, (p.author ∈ m.members : Bool), p.teams) := by
  have hidentity : Finds p m (GitHub.identity p.author) (m.profile p.author) :=
    finds_ask _ _ _ rfl (fun _ => rfl) (m.faults.identity p.author) rfl
  have hmember : Finds p m (GitHub.isMember p.author) (p.author ∈ m.members : Bool) :=
    finds_ask _ _ _ rfl (fun _ => rfl) (m.faults.isMember p.author) rfl
  have hteams : Finds p m (GitHub.teams p) p.teams :=
    finds_ask _ _ _ rfl (fun _ => rfl) (m.faults.teams p.number) rfl
  exact hidentity.both (hmember.both hteams)

/-- Labels are added and noted down, or nothing is but the failed question. -/
theorem addLabels_cases (number : Nat) (labels : List String) (w : Watched) :
    (∃ f, GitHub.addLabels number labels w
      = (.error f, { w with log := w.log ++ [⟨.addLabels number labels, false⟩] })) ∨
    GitHub.addLabels number labels w
      = (.ok (), { w with
          memory := { w.memory with writes := w.memory.writes ++ [(number, labels)] }
          log := w.log ++ [⟨.addLabels number labels, true⟩] }) := by
  change (∃ f, ask (.addLabels number labels) (GitHub.addLabels number labels) w = _) ∨
    ask (.addLabels number labels) (GitHub.addLabels number labels) w = _
  have hadd : GitHub.addLabels number labels w.memory
      = match w.memory.faults.addLabels number with
        | some f => (.error f, w.memory)
        | none => (.ok (), { w.memory with writes := w.memory.writes ++ [(number, labels)] }) := rfl
  unfold ask
  rw [hadd]
  -- The question fails for its place or for its number, or it is answered.
  cases w.fails w.log.length (.addLabels number labels) with
  | some f => exact Or.inl ⟨f, rfl⟩
  | none =>
      cases w.memory.faults.addLabels number with
      | some f => exact Or.inl ⟨f, rfl⟩
      | none => exact Or.inr rfl

/-- Writing the labels of a plan asks one question at most, and has an effect
    unless that fails. -/
theorem apply_cases (dryRun : Bool) (p : Pull) (labels : List String) (w : Watched) :
    ∃ asked : List Asked, w.Goes (Run.apply dryRun p.number labels w).2 asked ∧
      (∀ q ∈ asked, q.question.IsAbout p) ∧
      ((∃ f, (Run.apply dryRun p.number labels w).1 = .error f ∧
          asked.filterMap Asked.write? = []) ∨
        ∃ effect, (Run.apply dryRun p.number labels w).1 = .ok effect ∧
          asked.filterMap Asked.write?
            = if effect = .written then [(p.number, labels)] else []) := by
  unfold Run.apply
  by_cases hempty : labels.isEmpty = true
  · rw [if_pos hempty]
    exact ⟨[], .refl w, fun q hq => absurd hq List.not_mem_nil, Or.inr ⟨.unchanged, rfl, rfl⟩⟩
  rw [if_neg hempty]
  by_cases hdry : dryRun = true
  · rw [if_pos hdry]
    exact ⟨[], .refl w, fun q hq => absurd hq List.not_mem_nil, Or.inr ⟨.previewed, rfl, rfl⟩⟩
  rw [if_neg hdry]
  unfold Call.andThen
  rcases addLabels_cases p.number labels w with ⟨f, hadd⟩ | hadd
  · refine ⟨[⟨.addLabels p.number labels, false⟩], ?_, fun q hq => ?_, Or.inl ⟨f, ?_, rfl⟩⟩
    · rw [hadd]
      exact ⟨rfl, by rw [List.filterMap_cons_none rfl, List.filterMap_nil, List.append_nil]⟩
    · rw [List.mem_singleton.mp hq]
      exact rfl
    · rw [hadd]
  · refine ⟨[⟨.addLabels p.number labels, true⟩], ?_, fun q hq => ?_, Or.inr ⟨.written, ?_, rfl⟩⟩
    · rw [hadd]
      exact ⟨rfl, rfl⟩
    · rw [List.mem_singleton.mp hq]
      exact rfl
    · rw [hadd]
      rfl

/-- The outcome of a visit and the questions that it asks agree. -/
structure Visited (m : Memory) (rules : Rules) (cutoff : Option Instant) (p : Pull)
    (o : Outcome) (asked : List Asked) : Prop where
  pull : o.pull = p
  isIgnored : o.isIgnored = Run.isOld cutoff p
  quiet : o.isIgnored = true → asked = []
  report (r : Report) (h : o = .processed r) : ∃ effect, r = m.report rules p effect
  writes : asked.filterMap Asked.write? = o.write?.toList
  about : ∀ q ∈ asked, q.question.IsAbout p

/-- Once the lookups are answered, what is left is to write the plan that the
    answers lead to. -/
theorem process_of_found (rules : Rules) (p : Pull) (w w' : Watched)
    (found : Identity × Bool × OrderedSet String) (hlook : Run.lookUp p w = (.ok found, w'))
    (hfound : found = (w.memory.profile p.author, (p.author ∈ w.memory.members : Bool), p.teams)) :
    Run.process rules p w
      = ((Run.apply rules.dryRun p.number (w.memory.planned rules p)).andThen fun effect =>
          Call.answer (w.memory.report rules p effect)) w' := by
  unfold Run.process Call.andThen
  rw [hlook, hfound]
  rfl

/-- What is decided about a pull request has an outcome and asks one question at
    most. -/
theorem process_cases (rules : Rules) (p : Pull) (w : Watched) :
    ∃ asked, w.Goes (Run.process rules p w).2 asked ∧ (∀ q ∈ asked, q.question.IsAbout p) ∧
      ((∃ f, (Run.process rules p w).1 = .error f ∧ asked.filterMap Asked.write? = []) ∨
        ∃ effect, (Run.process rules p w).1 = .ok (w.memory.report rules p effect) ∧
          asked.filterMap Asked.write?
            = (Outcome.processed (w.memory.report rules p effect)).write?.toList) := by
  rcases finds_lookUp p w.memory w rfl with ⟨asked, hstate, hasked, hfound⟩
  have hsilent : asked.filterMap Asked.write? = [] :=
    List.filterMap_eq_nil_iff.mpr fun q hq => (hasked q hq).2
  have hgoes : w.Goes (Run.lookUp p w).2 asked := by
    rw [hstate]
    exact ⟨rfl, by rw [hsilent, List.append_nil]⟩
  rcases hlook : Run.lookUp p w with ⟨f | found, w'⟩
  · -- A lookup failed, so nothing is written.
    have hprocess : Run.process rules p w = (.error f, w') := by
      unfold Run.process Call.andThen
      rw [hlook]
    rw [hlook] at hgoes
    rw [hprocess]
    exact ⟨asked, hgoes, fun q hq => (hasked q hq).1, Or.inl ⟨f, rfl, hsilent⟩⟩
  · rw [hlook] at hgoes hfound
    rcases apply_cases rules.dryRun p (w.memory.planned rules p) w' with
      ⟨more, hgoes', habout, hresult⟩
    rw [process_of_found rules p w w' found hlook (hfound found rfl)]
    unfold Call.andThen
    rcases happly : Run.apply rules.dryRun p.number (w.memory.planned rules p) w' with ⟨r, w''⟩
    rw [happly] at hgoes' hresult
    have habout' : ∀ q ∈ asked ++ more, q.question.IsAbout p := fun q hq =>
      (List.mem_append.mp hq).elim (fun hq => (hasked q hq).1) (habout q)
    rcases hresult with ⟨f, hresult, hwrites⟩ | ⟨effect, hresult, hwrites⟩
    · cases hresult
      refine ⟨asked ++ more, hgoes.trans hgoes', habout', Or.inl ⟨f, rfl, ?_⟩⟩
      rw [List.filterMap_append, hsilent, hwrites, List.append_nil]
    · cases hresult
      refine ⟨asked ++ more, hgoes.trans hgoes', habout', Or.inr ⟨effect, rfl, ?_⟩⟩
      rw [List.filterMap_append, hsilent, hwrites, List.nil_append]
      cases effect with
      | unchanged => rfl
      | previewed => rfl
      | written => rfl

/-- A visit and its questions. -/
theorem visit_visited (rules : Rules) (cutoff : Option Instant) (p : Pull) (w : Watched) :
    ∃ asked, w.Goes (Run.visit rules cutoff p w).2 asked ∧
      Visited w.memory rules cutoff p (Run.visit rules cutoff p w).1 asked := by
  unfold Run.visit
  by_cases hold : Run.isOld cutoff p = true
  · -- Nothing is asked about a pull request that is too old.
    rw [if_pos hold]
    refine ⟨[], .refl w, ⟨rfl, hold.symm, fun _ => rfl, fun r h => ?_, rfl, ?_⟩⟩
    · cases h
    · exact fun q hq => absurd hq List.not_mem_nil
  · rw [if_neg hold]
    rw [Bool.not_eq_true] at hold
    rcases process_cases rules p w with ⟨asked, hgoes, habout, ⟨f, hresult, hwrites⟩ |
      ⟨effect, hresult, hwrites⟩⟩
    · rcases hprocess : Run.process rules p w with ⟨r, w'⟩
      rw [hprocess] at hgoes hresult
      cases hresult
      refine ⟨asked, hgoes, ⟨rfl, hold.symm, fun h => ?_, fun r h => ?_, hwrites, habout⟩⟩
      · exact absurd h Bool.false_ne_true
      · cases h
    · rcases hprocess : Run.process rules p w with ⟨r, w'⟩
      rw [hprocess] at hgoes hresult
      cases hresult
      refine ⟨asked, hgoes, ⟨rfl, hold.symm, fun h => ?_, fun r h => ?_, hwrites, habout⟩⟩
      · exact absurd h Bool.false_ne_true
      · exact ⟨effect, (Outcome.processed.inj h).symm⟩

/-- What holds of every visit and its questions holds of the visits of a list
    one by one. The induction is on the list, and the answers stay the same
    because the visits change nothing but the writes. -/
theorem visitFrom_of_visit (rules : Rules) (cutoff : Option Instant) (m : Memory)
    (P : Pull → Outcome → List Asked → Prop)
    (hvisit : ∀ (p : Pull) (w : Watched), w.memory = { m with writes := w.memory.writes } →
      ∃ asked, w.Goes (Run.visit rules cutoff p w).2 asked ∧
        P p (Run.visit rules cutoff p w).1 asked)
    (free : List Nat) (pulls : List Pull) (w : Watched)
    (hm : w.memory = { m with writes := w.memory.writes }) :
    ∃ visits : List (Outcome × List Asked),
      (Run.visitFrom rules cutoff free pulls w).1 = visits.map Prod.fst ∧
      w.Goes (Run.visitFrom rules cutoff free pulls w).2 (visits.flatMap Prod.snd) ∧
      List.Forall₂ (fun p v => P p v.1 v.2) pulls visits := by
  induction pulls generalizing free w with
  | nil => exact ⟨[], rfl, .refl w, .nil⟩
  | cons p rest ih =>
      rcases hvisit p w hm with ⟨asked, hgoes, hholds⟩
      rcases ih (free.drop 1 ++ [max (free.getLastD 0) 0]) (Run.visit rules cutoff p w).2
        (by rw [hgoes.memory, hm]) with ⟨visits, houtcomes, hgoes', hvisits⟩
      refine ⟨((Run.visit rules cutoff p w).1, asked) :: visits, ?_, hgoes.trans hgoes',
        .cons hholds hvisits⟩
      rw [List.map_cons, ← houtcomes]
      rfl

/-- Fetching a selection is one question, and finds what it finds without
    watching. -/
theorem collect_reads (selection : Selection) (w : Watched) :
    (Run.collect selection w).2 = { w with
        log := w.log ++ [⟨selection.question, (Run.collect selection w).1.isOk⟩] } ∧
      ∀ pulls, (Run.collect selection w).1 = .ok pulls →
        (Run.collect selection w.memory).1 = .ok pulls := by
  cases selection with
  | all state => exact ask_reads (.list state) (GitHub.list state) w rfl
  | single number =>
      have hread : (GitHub.get number w.memory).2 = w.memory := by
        change (match w.memory.faults.get number with | some f => _ | none => _ :
          Except Failure Pull × Memory).2 = _
        cases w.memory.faults.get number with
        | some f => rfl
        | none => rfl
      rcases ask_reads (.get number) (GitHub.get number) w hread with ⟨hstate, hanswer⟩
      have hcollect : Run.collect (.single number) w
          = ((ask (.get number) (GitHub.get number)).andThen fun p => Call.answer [p]) w := rfl
      rw [hcollect]
      unfold Call.andThen
      -- The pull request that is found is put in a list, and no more is asked.
      rcases hask : ask (.get number) (GitHub.get number) w with ⟨f | p, w'⟩
      · rw [hask] at hstate
        exact ⟨hstate, fun pulls h => absurd h (by simp only [reduceCtorEq, not_false_eq_true])⟩
      · rw [hask] at hstate hanswer
        refine ⟨hstate, fun pulls h => ?_⟩
        change (((GitHub.get number).andThen fun p => Call.answer [p]) w.memory).1 = _
        unfold Call.andThen
        have hfound := hanswer p rfl
        rcases hget : GitHub.get number w.memory with ⟨r, m'⟩
        rw [hget] at hfound
        cases hfound
        exact h

theorem collect_goes (selection : Selection) (w : Watched) :
    w.Goes (Run.collect selection w).2
      [⟨selection.question, (Run.collect selection w).1.isOk⟩] := by
  have hreads : (⟨selection.question, (Run.collect selection w).1.isOk⟩ : Asked).write? = none := by
    cases selection with
    | all state => rfl
    | single number => rfl
  rw [(collect_reads selection w).1]
  exact ⟨rfl, by rw [List.filterMap_cons_none hreads, List.filterMap_nil, List.append_nil]⟩

theorem selected_of_collect (selection : Selection) (w : Watched) (pulls : List Pull)
    (h : (Run.collect selection w).1 = .ok pulls) : w.memory.selected selection = .ok pulls :=
  w.memory.selected_of_collect selection pulls ((collect_reads selection w).2 pulls h)

/-- A run whose selection cannot be fetched ends there. -/
theorem run_error (rules : Rules) (selection : Selection) (cutoff : Option Instant)
    (w : Watched) (f : Failure) (h : (Run.collect selection w).1 = .error f) :
    Run.run rules selection cutoff w = (.error f, (Run.collect selection w).2) := by
  unfold Run.run
  rcases hcollect : Run.collect selection w with ⟨r, w'⟩
  rw [hcollect] at h
  cases h
  rfl

/-- What holds of every visit and its questions holds of a run whose selection
    is fetched: its questions are the one that fetches the selection, and those
    of the visits. -/
theorem run_of_visit (rules : Rules) (selection : Selection) (cutoff : Option Instant)
    (w : Watched) (P : Pull → Outcome → List Asked → Prop)
    (hvisit : ∀ (p : Pull) (w' : Watched),
      w'.memory = { w.memory with writes := w'.memory.writes } →
      ∃ asked, w'.Goes (Run.visit rules cutoff p w').2 asked ∧
        P p (Run.visit rules cutoff p w').1 asked)
    (pulls : List Pull) (h : (Run.collect selection w).1 = .ok pulls) :
    ∃ (visits : List (Outcome × List Asked)) (w' : Watched),
      Run.run rules selection cutoff w
        = (.ok (visits.map Prod.fst, Summary.ofOutcomes (visits.map Prod.fst)), w') ∧
      w.Goes w' (⟨selection.question, true⟩ :: visits.flatMap Prod.snd) ∧
      w.memory.selected selection = .ok pulls ∧
      List.Forall₂ (fun p v => P p v.1 v.2) pulls visits := by
  have hselected := selected_of_collect selection w pulls h
  -- Fetching writes nothing, so the visits start from the repository of the run.
  have hfetch := collect_goes selection w
  rcases hcollect : Run.collect selection w with ⟨r, w'⟩
  rw [hcollect] at h hfetch
  cases h
  rcases visitFrom_of_visit rules cutoff w.memory P hvisit
    (List.replicate (min rules.workers pulls.length) (Timeline.clock w')) pulls w'
    (by rw [hfetch.memory]) with ⟨visits, houtcomes, hgoes, hvisits⟩
  refine ⟨visits, _, ?_, hfetch.trans hgoes, hselected, hvisits⟩
  unfold Run.run Run.visitAll
  rw [hcollect, ← houtcomes]

/-- A run whose selection is fetched, its outcomes and its questions. -/
theorem run_visited (rules : Rules) (selection : Selection) (cutoff : Option Instant)
    (w : Watched) (pulls : List Pull) (h : (Run.collect selection w).1 = .ok pulls) :
    ∃ (visits : List (Outcome × List Asked)) (w' : Watched),
      Run.run rules selection cutoff w
        = (.ok (visits.map Prod.fst, Summary.ofOutcomes (visits.map Prod.fst)), w') ∧
      w.Goes w' (⟨selection.question, true⟩ :: visits.flatMap Prod.snd) ∧
      w.memory.selected selection = .ok pulls ∧
      List.Forall₂ (fun p v => Visited w.memory rules cutoff p v.1 v.2) pulls visits := by
  refine run_of_visit rules selection cutoff w (Visited w.memory rules cutoff) (fun p w' hm => ?_)
    pulls h
  rcases visit_visited rules cutoff p w' with ⟨asked, hgoes, hvisited⟩
  -- No part of the agreement looks at the writes.
  rw [hm] at hvisited
  exact ⟨asked, hgoes, hvisited.pull, hvisited.isIgnored, hvisited.quiet, hvisited.report,
    hvisited.writes, hvisited.about⟩

end Watched

end PullTriage
