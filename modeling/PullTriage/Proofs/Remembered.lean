import Mathlib.Data.List.Find
import PullTriage.Proofs.Fetching

/-!
# What Is Remembered of Users

A session remembers whom it has been told about. An answer to the question
for a user is kept under the login that was asked for, and it is the answer to
every later question for that login, which starts no program then. Failures
are not kept, and the other calls have nothing to do with what is kept.

What a session remembers is therefore known from its calls: it is what they
have answered (`Session.known?_afterAll`). The induction is on the calls, with
the session left open, and its invariant is `Session.IsSound`. What is
remembered carries the time at which it was learned, and it counts as known as
long as that time has not been put off, so no call may put the clock back.

## Main definitions

* `Identity.IsStranger`: What is told of a user who is asked for.
* `Session.Unaware`: A call that neither uses what is remembered nor adds to
  it.
* `Session.Request`, `Session.afterAll`: The calls of a session.
* `Session.Answered`: A login was answered by one of the calls.
* `Session.Asks`: The question for a user is put to the program.
* `Session.IsSound`: What a session remembers is past and well-formed.

## Theorems

* `isStranger_of_userOfTree?`: What is read from an answer.
* `Session.Unaware.andThen`, `Session.Unaware.within`: Combining calls.
* `Session.unaware_run`: A command.
* `Session.identity_of_known`, `Session.identity_of_unknown`: The question for
  a user.
* `Session.perform_known?`: What one call makes known.
* `Session.known?_afterAll`: What all calls have made known.
* `identity_remembered`: Which questions for a user are put to the program, and
  what they are answered.
-/

namespace PullTriage

/-- Nobody is taken for a member before that is asked, and what a user leaves
    empty is absent. -/
structure Identity.IsStranger (i : Identity) : Prop where
  isMember : i.isMember = false
  email : i.email ≠ some ""
  company : i.company ≠ some ""

namespace Call

variable {σ α β : Type}

theorem within_snd (c : Call σ α) (cause : Cause) (s : σ) : (c.within cause s).2 = (c s).2 := by
  unfold within
  rcases c s with ⟨f | a, s'⟩
  · rfl
  · rfl

/-- What comes behind a call without a step leaves the state of the call. -/
theorem andThen_snd {c : Call σ α} {next : α → Call σ β} (h : ∀ a s, (next a s).2 = s) (s : σ) :
    (c.andThen next s).2 = (c s).2 := by
  unfold andThen
  rcases c s with ⟨f | a, s'⟩
  · rfl
  · exact h a s'

end Call

namespace Gh

theorem nonempty?_ne (s : Option String) : nonempty? s ≠ some "" := by
  intro h
  have htext := (Option.filter_eq_some_iff.mp h).2
  exact absurd rfl (of_decide_eq_true htext)

theorem isStranger_of_userOfTree? (t : Json.Tree) (i : Identity) (h : userOfTree? t = some i) :
    i.IsStranger := by
  simp only [userOfTree?, Option.bind_eq_bind, Option.bind_eq_some_iff] at h
  rcases h with ⟨slots, -, h⟩
  split at h
  · simp only [Option.bind_eq_some_iff, Option.pure_def, Option.some.injEq] at h
    rcases h with ⟨login, -, email, -, company, -, rfl⟩
    exact ⟨rfl, nonempty?_ne email, nonempty?_ne company⟩
  · exact absurd h (by simp only [reduceCtorEq, not_false_eq_true])

namespace Session

variable {α β : Type}

/-- The call neither uses what the session remembers nor adds to it, and does
    not put its clock back. -/
structure Unaware (c : Call Session α) : Prop where
  learned : ∀ (s : Session) (learned : List (Event (String × Identity))),
    c { s with learned } = ((c s).1, { (c s).2 with learned })
  clock : ∀ s, s.clock ≤ (c s).2.clock

theorem unaware_settled (e : Except Failure α) : Unaware (settled e) :=
  ⟨fun _ _ => rfl, fun s => Nat.le_refl s.clock⟩

theorem Unaware.within {c : Call Session α} (hc : Unaware c) (cause : Cause) :
    Unaware (c.within cause) := by
  constructor
  · intro s learned
    unfold Call.within
    rw [hc.learned]
    rcases c s with ⟨f | a, s'⟩
    · rfl
    · rfl
  · intro s
    have hs := hc.clock s
    unfold Call.within
    rcases hcall : c s with ⟨f | a, s'⟩
    · rw [hcall] at hs
      exact hs
    · rw [hcall] at hs
      exact hs

theorem Unaware.andThen {c : Call Session α} {next : α → Call Session β} (hc : Unaware c)
    (hnext : ∀ a, Unaware (next a)) : Unaware (c.andThen next) := by
  constructor
  · intro s learned
    unfold Call.andThen
    rw [hc.learned]
    rcases c s with ⟨f | a, s'⟩
    · rfl
    · exact (hnext a).learned s' learned
  · intro s
    have hs := hc.clock s
    unfold Call.andThen
    rcases hcall : c s with ⟨f | a, s'⟩
    · rw [hcall] at hs
      exact hs
    · rw [hcall] at hs
      exact Nat.le_trans hs ((hnext a).clock s')

/-- A command does not depend on what is remembered, and takes its time. -/
theorem unaware_run (arguments : List String) : Unaware (run arguments) := by
  constructor
  · intro s learned
    -- The replies to come are the same ones, so both runs stop behind the same.
    rcases s.runWith_eq arguments pauses with ⟨k, hk, hrun⟩
    rcases Session.runWith_eq { s with learned } arguments pauses with ⟨l, hl, hrun'⟩
    unfold run
    rw [hrun, hrun', hl.unique hk]
    rfl
  · intro s
    rcases s.runWith_eq arguments pauses with ⟨k, -, hrun⟩
    unfold run
    rw [hrun]
    exact Nat.le_add_right _ _

theorem unaware_ask (read : Json.Tree → Option α) (endpoint : String) :
    Unaware (ask read endpoint) :=
  (unaware_run [endpoint]).andThen fun _ =>
    (unaware_settled _).andThen fun _ => unaware_settled _

/-- The endpoint of a call is put together from the repository of the session,
    which has nothing to do with what is remembered. -/
theorem unaware_of_session {c : Call Session α} {f : Session → Call Session α}
    (hf : ∀ s, Unaware (f s)) (hsame : ∀ s learned, f { s with learned } = f s)
    (hc : ∀ s, c s = f s s) : Unaware c := by
  constructor
  · intro s learned
    rw [hc, hc, hsame, (hf s).learned]
  · intro s
    rw [hc]
    exact (hf s).clock s

theorem unaware_list (state : PullState) : Unaware (list state) := by
  have h (s : Session) := (unaware_run [s.pullsEndpoint state, "--paginate"]).andThen fun o =>
    (unaware_settled (succeeded (s.pullsEndpoint state) o)).andThen fun o =>
      unaware_settled (understood .badPages (pages? pullOfTree? o.stdout))
  exact unaware_of_session h (fun _ _ => rfl) fun _ => rfl

theorem unaware_get (number : Nat) : Unaware (get number) := by
  have h (s : Session) :=
    (unaware_ask pullOfTree? (s.pullEndpoint number)).within (.fetchPull number)
  exact unaware_of_session h (fun _ _ => rfl) fun _ => rfl

theorem unaware_teams (p : Pull) : Unaware (teams p) := by
  have h (s : Session) :=
    (unaware_ask reviewsOfTree? (s.reviewsEndpoint p.number)).within (.fetchReviews p.number)
  exact unaware_of_session h (fun _ _ => rfl) fun _ => rfl

theorem unaware_isMember (login : String) : Unaware (isMember login) := by
  have h (s : Session) := (unaware_run [s.memberEndpoint login, "--silent"]).andThen fun o =>
    (unaware_settled (membership o)).within (.checkMember login)
  exact unaware_of_session h (fun _ _ => rfl) fun _ => rfl

theorem unaware_addLabels (number : Nat) (labels : List String) :
    Unaware (addLabels number labels) := by
  have h (s : Session) := (unaware_run (s.addCommand number labels)).andThen fun o =>
    ((unaware_settled (succeeded (s.labelsEndpoint number) o)).within (.addLabels number)).andThen
      fun _ => unaware_settled (.ok ())
  exact unaware_of_session h (fun _ _ => rfl) fun _ => rfl

/-- A call of a session. -/
inductive Request where
  | list (state : PullState)
  | get (number : Nat)
  | teams (p : Pull)
  | isMember (login : String)
  | identity (login : String)
  | addLabels (number : Nat) (labels : List String)

/-- The session after a call, whatever it was answered. -/
def Request.perform : Request → Session → Session
  | list state, s => (s.list state).2
  | get number, s => (s.get number).2
  | teams p, s => (s.teams p).2
  | isMember login, s => (s.isMember login).2
  | identity login, s => (s.identity login).2
  | addLabels number labels, s => (s.addLabels number labels).2

/-- The session after a sequence of calls. -/
def afterAll (s : Session) (requests : List Request) : Session :=
  requests.foldl (fun s r => r.perform s) s

/-- One of the calls asked for a login and was answered. -/
def Answered (s : Session) (requests : List Request) (login : String) (i : Identity) : Prop :=
  ∃ earlier later, requests = earlier ++ .identity login :: later ∧
    (identity login (s.afterAll earlier)).1 = .ok i

/-- The question for a user is put to the program, up to three times, and
    nothing but the last reply decides about the answer. -/
def Asks (s : Session) (login : String) : Prop :=
  ∃ k, StopsAfter 3 (s.script.upcoming [userEndpoint login]) k ∧
    (identity login s).2.script = s.script.skip k ∧
    (identity login s).2.started.map Event.what
      = s.started.map Event.what ++ List.replicate k ["gh", "api", userEndpoint login] ∧
    ∀ i, (identity login s).1 = .ok i ↔
      ∃ o, (s.script.upcoming [userEndpoint login] (k - 1)).EndsInTime o ∧ o.code = 0 ∧
        one? userOfTree? o.stdout = some i

/-- What the session remembers was learned in the past, from an answer. -/
structure IsSound (s : Session) : Prop where
  past : ∀ e ∈ s.learned, e.time ≤ s.clock
  stranger : ∀ e ∈ s.learned, e.what.2.IsStranger

/-- Nothing is remembered at the beginning. -/
theorem isSound_fresh (owner repository : String) (script : Script) :
    ({ owner, repository, script } : Session).IsSound :=
  ⟨fun _ he => absurd he List.not_mem_nil, fun _ he => absurd he List.not_mem_nil⟩

/-- What was learned in the past is known. -/
theorem IsSound.known?_eq {s : Session} (hs : s.IsSound) (login : String) :
    s.known? login
      = (s.learned.find? fun e => decide (e.what.1 = login)).map fun e => e.what.2 := by
  unfold known?
  rw [List.find?_congr fun e he => ?_]
  rw [decide_eq_true (hs.past e he), Bool.and_true]

theorem IsSound.stranger_of_known {s : Session} (hs : s.IsSound) {login : String} {i : Identity}
    (h : s.known? login = some i) : i.IsStranger := by
  rcases Option.map_eq_some_iff.mp h with ⟨e, he, rfl⟩
  exact hs.stranger e (List.mem_of_find?_eq_some he)

/-- What is remembered is left as it is. -/
theorem Unaware.learned_eq {c : Call Session α} (hc : Unaware c) (s : Session) :
    (c s).2.learned = s.learned :=
  congrArg (fun r => r.2.learned) (hc.learned s s.learned)

/-- So the same is known as before. -/
theorem Unaware.known? {c : Call Session α} (hc : Unaware c) {s : Session} (hs : s.IsSound) :
    (c s).2.IsSound ∧ ∀ login, (c s).2.known? login = s.known? login := by
  have hlearned := hc.learned_eq s
  have hsound : (c s).2.IsSound :=
    ⟨fun e he => Nat.le_trans (hs.past e (hlearned ▸ he)) (hc.clock s),
      fun e he => hs.stranger e (hlearned ▸ he)⟩
  refine ⟨hsound, fun login => ?_⟩
  rw [hsound.known?_eq, hs.known?_eq, hlearned]

theorem IsSound.learn {s : Session} (hs : s.IsSound) {login : String} {i : Identity}
    (hi : i.IsStranger) : (s.learn login i).IsSound := by
  constructor
  · intro e he
    rcases List.mem_append.mp he with he | he
    · exact hs.past e he
    · rw [List.mem_singleton.mp he]
      exact Nat.le_refl s.clock
  · intro e he
    rcases List.mem_append.mp he with he | he
    · exact hs.stranger e he
    · rw [List.mem_singleton.mp he]
      exact hi

/-- Learning of a user makes that user known, and nobody else. -/
theorem IsSound.known?_learn {s : Session} (hs : s.IsSound) {login : String} {i : Identity}
    (hi : i.IsStranger) (h : s.known? login = none) (other : String) (j : Identity) :
    (s.learn login i).known? other = some j ↔
      s.known? other = some j ∨ other = login ∧ i = j := by
  rw [(hs.learn hi).known?_eq, Session.learn, List.find?_append, Option.map_or, ← hs.known?_eq,
    List.find?_singleton]
  by_cases hlogin : login = other
  · rw [← hlogin, h]
    simp only [decide_true, if_true, Option.map_some, Option.none_or, Option.some.injEq,
      reduceCtorEq, true_and, false_or]
  · have hother : other ≠ login := fun heq => hlogin heq.symm
    simp only [hlogin, hother, decide_false, Bool.false_eq_true, if_false, Option.map_none,
      Option.or_none, false_and, or_false]

/-- The command of the question for a user, without what is remembered. -/
def question (login : String) : Call Session Identity :=
  (ask userOfTree? (userEndpoint login)).within (.fetchUser login)

theorem unaware_question (login : String) : Unaware (question login) :=
  (unaware_ask _ _).within _

/-- The command is answered by what is read from the output that ends it. -/
theorem question_eq_ok_iff (login : String) (s : Session) (i : Identity) :
    (question login s).1 = .ok i ↔
      ∃ o, s.Succeeds [userEndpoint login] o ∧ one? userOfTree? o.stdout = some i :=
  (Call.within_eq_ok_iff _ _ s i).trans (ask_eq_ok_iff _ _ s i)

/-- Reading the output of the command is not a step. -/
theorem question_snd (login : String) (s : Session) :
    (question login s).2 = (run [userEndpoint login] s).2 :=
  (Call.within_snd _ _ s).trans
    (Call.andThen_snd (fun _ => Call.andThen_snd fun _ _ => rfl) s)

theorem identity_of_known {s : Session} {login : String} {i : Identity}
    (h : s.known? login = some i) : identity login s = (.ok i, s) := by
  unfold identity
  rw [h]

/-- A user who is not known is asked for, and known if that is answered. -/
theorem identity_of_unknown {s : Session} {login : String} (h : s.known? login = none) :
    identity login s
      = match question login s with
        | (.ok i, s') => (.ok i, s'.learn login i)
        | (.error f, s') => (.error f, s') := by
  unfold identity
  rw [h]
  rfl

/-- What is learned does not show in the answer. -/
theorem identity_fst {s : Session} {login : String} (h : s.known? login = none) :
    (identity login s).1 = (question login s).1 := by
  rw [identity_of_unknown h]
  rcases question login s with ⟨f | i, s'⟩
  · rfl
  · rfl

/-- It is all that the command has not done. -/
theorem identity_snd {s : Session} {login : String} (h : s.known? login = none) :
    (identity login s).2
      = { (question login s).2 with learned := (identity login s).2.learned } := by
  rw [identity_of_unknown h]
  rcases question login s with ⟨f | i, s'⟩
  · rfl
  · rfl

/-- What a question for a user makes known is its own answer. -/
theorem identity_known? {s : Session} (hs : s.IsSound) (login : String) :
    (identity login s).2.IsSound ∧ ∀ other i, (identity login s).2.known? other = some i ↔
      s.known? other = some i ∨ other = login ∧ (identity login s).1 = .ok i := by
  cases hknown : s.known? login with
  | some j =>
      rw [identity_of_known hknown]
      refine ⟨hs, fun other i => ⟨Or.inl, ?_⟩⟩
      rintro (h | ⟨rfl, h⟩)
      · exact h
      · rw [Except.ok.injEq] at h
        rw [hknown, h]
  | none =>
      rcases (unaware_question login).known? hs with ⟨hsound, hsame⟩
      rw [identity_of_unknown hknown]
      rcases hquestion : question login s with ⟨f | j, s'⟩
      · -- After a failure the session remembers what it did before.
        rw [hquestion] at hsound hsame
        refine ⟨hsound, fun other i => ?_⟩
        simp only [hsame, reduceCtorEq, and_false, or_false]
      · -- The login is still unknown behind the command, so the answer is found.
        have hj : j.IsStranger := by
          have hanswer : (question login s).1 = .ok j := congrArg Prod.fst hquestion
          rcases (question_eq_ok_iff login s j).mp hanswer with ⟨o, -, hread⟩
          rcases Option.bind_eq_some_iff.mp hread with ⟨t, -, hread⟩
          exact isStranger_of_userOfTree? t j hread
        rw [hquestion] at hsound hsame
        refine ⟨hsound.learn hj, fun other i => ?_⟩
        rw [hsound.known?_learn hj ((hsame login).trans hknown), hsame, Except.ok.injEq]

/-- What a call makes known. -/
theorem perform_known? {s : Session} (hs : s.IsSound) (r : Request) :
    (r.perform s).IsSound ∧ ∀ login i, (r.perform s).known? login = some i ↔
      s.known? login = some i ∨ r = .identity login ∧ (identity login s).1 = .ok i := by
  have hsame {α : Type} {c : Call Session α} (hc : Unaware c) : (c s).2.IsSound ∧
      ∀ login i, (c s).2.known? login = some i ↔ s.known? login = some i := by
    rcases hc.known? hs with ⟨hsound, hknown⟩
    exact ⟨hsound, fun login i => by rw [hknown]⟩
  cases r with
  | identity login =>
      rcases identity_known? hs login with ⟨hsound, hknown⟩
      refine ⟨hsound, fun other i => ?_⟩
      rw [Request.perform, hknown, Request.identity.injEq, eq_comm (a := login)]
      refine or_congr_right (and_congr_right fun h => ?_)
      rw [h]
  | list state =>
      simpa only [Request.perform, reduceCtorEq, false_and, or_false]
        using hsame (unaware_list state)
  | get number =>
      simpa only [Request.perform, reduceCtorEq, false_and, or_false]
        using hsame (unaware_get number)
  | teams p =>
      simpa only [Request.perform, reduceCtorEq, false_and, or_false]
        using hsame (unaware_teams p)
  | isMember login =>
      simpa only [Request.perform, reduceCtorEq, false_and, or_false]
        using hsame (unaware_isMember login)
  | addLabels number labels =>
      simpa only [Request.perform, reduceCtorEq, false_and, or_false]
        using hsame (unaware_addLabels number labels)

/-- The first call of a sequence was answered, or one of the others. -/
theorem answered_cons (s : Session) (r : Request) (rest : List Request) (login : String)
    (i : Identity) :
    s.Answered (r :: rest) login i ↔
      (r = .identity login ∧ (identity login s).1 = .ok i) ∨
        (r.perform s).Answered rest login i := by
  constructor
  · rintro ⟨earlier, later, hsplit, hanswer⟩
    cases earlier with
    | nil =>
        rw [List.nil_append, List.cons.injEq] at hsplit
        exact Or.inl ⟨hsplit.1, hanswer⟩
    | cons r' earlier =>
        rw [List.cons_append, List.cons.injEq] at hsplit
        rcases hsplit with ⟨rfl, hsplit⟩
        exact Or.inr ⟨earlier, later, hsplit, hanswer⟩
  · rintro (⟨rfl, hanswer⟩ | ⟨earlier, later, rfl, hanswer⟩)
    · exact ⟨[], rest, rfl, hanswer⟩
    · exact ⟨r :: earlier, later, rfl, hanswer⟩

/-- What is known after a sequence of calls is what was known before and what
    they have answered. -/
theorem known?_afterAll (requests : List Request) {s : Session} (hs : s.IsSound) :
    (s.afterAll requests).IsSound ∧ ∀ login i, (s.afterAll requests).known? login = some i ↔
      s.known? login = some i ∨ s.Answered requests login i := by
  induction requests generalizing s with
  | nil =>
      refine ⟨hs, fun login i => (or_iff_left ?_).symm⟩
      rintro ⟨earlier, later, hsplit, -⟩
      exact absurd hsplit.symm (List.append_ne_nil_of_right_ne_nil _ (List.cons_ne_nil _ _))
  | cons r rest ih =>
      rcases perform_known? hs r with ⟨hsound, hknown⟩
      rcases ih hsound with ⟨hafter, hrest⟩
      refine ⟨hafter, fun login i => ?_⟩
      rw [answered_cons, ← or_assoc, ← hknown]
      exact hrest login i

/-- A user who is not known is asked for. -/
theorem asks_of_unknown {s : Session} {login : String} (h : s.known? login = none) :
    s.Asks login := by
  rcases s.runWith_eq [userEndpoint login] pauses with ⟨k, hk, hrun⟩
  have hstate : (question login s).2 = s.afterStarts [userEndpoint login] pauses k := by
    rw [question_snd, run, hrun]
  refine ⟨k, hk, ?_, ?_, fun i => ?_⟩
  · rw [identity_snd h, hstate]
    rfl
  · rw [identity_snd h, hstate, afterStarts, List.map_append, List.map_map]
    have hlines : (List.range k).map (fun _ => ["gh", "api", userEndpoint login])
        = List.replicate k ["gh", "api", userEndpoint login] := by
      rw [List.map_const', List.length_range]
    exact congrArg _ hlines
  · rw [identity_fst h, question_eq_ok_iff]
    constructor
    · rintro ⟨o, ⟨l, hl, hends, hcode⟩, hread⟩
      rw [hl.unique hk] at hends
      exact ⟨o, hends, hcode, hread⟩
    · rintro ⟨o, hends, hcode, hread⟩
      exact ⟨o, ⟨k, hk, hends, hcode⟩, hread⟩

/-- What is remembered of others makes no difference. -/
theorem identity_filter (s : Session) (login : String) :
    (identity login s).1 = (identity login
      { s with learned := s.learned.filter fun e => decide (e.what.1 = login) }).1 := by
  have hknown : ({ s with learned := s.learned.filter fun e => decide (e.what.1 = login) } :
      Session).known? login = s.known? login := by
    unfold known?
    rw [List.find?_filter]
    refine congrArg _ (List.find?_congr fun e _ => ?_)
    rw [Bool.decide_and, Bool.decide_coe, Bool.decide_coe, ← Bool.and_assoc, Bool.and_self]
  cases h : s.known? login with
  | some i => rw [identity_of_known h, identity_of_known (hknown.trans h)]
  | none =>
      rw [identity_fst h, identity_fst (hknown.trans h)]
      rw [(unaware_question login).learned s (s.learned.filter fun e => e.what.1 = login)]

/-- A failure is not remembered. -/
theorem learned_of_error {s : Session} {login : String} {f : Failure}
    (h : (identity login s).1 = .error f) : (identity login s).2.learned = s.learned := by
  cases hknown : s.known? login with
  | some i => rw [identity_of_known hknown]
  | none =>
      have hlearned := (unaware_question login).learned_eq s
      rw [identity_of_unknown hknown] at h ⊢
      rcases hquestion : question login s with ⟨g | i, s'⟩
      · rw [hquestion] at hlearned
        exact hlearned
      · rw [hquestion] at h
        exact absurd h (by simp only [reduceCtorEq, not_false_eq_true])

end Session

open Session

/-- A session has just begun, and any calls have been made. If one of them was
    answered for a login, the question for that login has the same answer and
    is no step. If none was, the question is put to the program and its replies
    alone decide. A failure leaves what is remembered as it was, and so do all
    other calls, which do not use it either. Nothing that is remembered of
    others counts, and nobody is taken for a member or given an empty address
    or company. -/
theorem identity_remembered (owner repository : String) (script : Script)
    (requests : List Request) (login : String) :
    let fresh : Session := { owner, repository, script }
    let s := fresh.afterAll requests
    (∀ i, fresh.Answered requests login i → identity login s = (.ok i, s)) ∧
    ((∀ i, ¬ fresh.Answered requests login i) → s.Asks login) ∧
    (∀ f, (identity login s).1 = .error f → (identity login s).2.learned = s.learned) ∧
    (identity login s).1 = (identity login
      { s with learned := s.learned.filter fun e => decide (e.what.1 = login) }).1 ∧
    ((∀ state, Unaware (Session.list state)) ∧ (∀ number, Unaware (Session.get number)) ∧
      (∀ p, Unaware (Session.teams p)) ∧ (∀ user, Unaware (Session.isMember user)) ∧
      ∀ number labels, Unaware (Session.addLabels number labels)) ∧
    ∀ i, (identity login s).1 = .ok i → i.IsStranger := by
  intro fresh s
  rcases known?_afterAll requests (isSound_fresh owner repository script) with ⟨hsound, hknown⟩
  have hiff : ∀ i, s.known? login = some i ↔ fresh.Answered requests login i := by
    intro i
    have hunknown : fresh.known? login ≠ some i := by
      rw [show fresh.known? login = none from rfl]
      simp only [ne_eq, reduceCtorEq, not_false_eq_true]
    exact (hknown login i).trans (or_iff_right hunknown)
  -- Whether a login is known decides between the first two.
  refine ⟨fun i hi => identity_of_known ((hiff i).mpr hi), fun hnone => asks_of_unknown ?_,
    fun f hf => learned_of_error hf, identity_filter s login,
    ⟨unaware_list, unaware_get, unaware_teams, unaware_isMember, unaware_addLabels⟩,
    fun i hi => ?_⟩
  · refine Option.eq_none_iff_forall_ne_some.mpr fun i hi => ?_
    exact hnone i ((hiff i).mp hi)
  · rcases identity_known? hsound login with ⟨hafter, hanswered⟩
    exact hafter.stranger_of_known ((hanswered login i).mpr (Or.inr ⟨rfl, hi⟩))

/-- One user is asked for with success and another one without. After a lookup
    that fails the first is remembered, and the second is asked for again. -/
theorem identity_remembered_after_failure :
    let fresh : Session :=
      { owner := "org", repository := "repo"
        script := .queue [
          .ends ⟨0, Utf8.encode "\x7b\"login\":\"Dev\",\"email\":\"\"\x7d".toList, []⟩ 5,
          .absent, .ends ⟨1, [], Utf8.encode "HTTP 404".toList⟩ 5] }
    let requests : List Request := [.identity "dev", .identity "eve", .isMember "dev"]
    let s := fresh.afterAll requests
    fresh.Answered requests "dev" { login := "Dev" } ∧
      (∀ i, ¬ fresh.Answered requests "eve" i) ∧
      identity "dev" s = (.ok { login := "Dev" }, s) ∧ s.Asks "eve" := by
  intro fresh requests s
  have hanswered : fresh.Answered requests "dev" { login := "Dev" } :=
    ⟨[], [.identity "eve", .isMember "dev"], rfl, by decide +kernel⟩
  have hunknown : s.known? "eve" = none := by decide +kernel
  have hnone : ∀ i, ¬ fresh.Answered requests "eve" i := by
    intro i hi
    have hknown := (known?_afterAll requests (isSound_fresh "org" "repo" fresh.script)).2 "eve" i
    rw [hknown.mpr (Or.inr hi)] at hunknown
    exact absurd hunknown (by simp only [reduceCtorEq, not_false_eq_true])
  have hdev := identity_remembered "org" "repo" fresh.script requests "dev"
  have heve := identity_remembered "org" "repo" fresh.script requests "eve"
  exact ⟨hanswered, hnone, hdev.1 _ hanswered, heve.2.1 hnone⟩

end Gh

end PullTriage
