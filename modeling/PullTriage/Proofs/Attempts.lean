import PullTriage.Gh.Client
import PullTriage.Proofs.Phrases

/-!
# Attempts at a Command

What a command of the client program amounts to, for all replies in whatever
order. The program is started until a reply is conclusive, but three times at
most, always with the same command line. The reply to the last start alone
decides, and the replies behind it are left for the next command.

The replies to the starts of one command are a sequence without an end: a
queue that is used up goes on with a program that does not start. Where the
starts stop is said of this sequence, by `StopsAfter`, and everything else
follows from that place. The lemma for any number of pauses is an induction on
them, since each of them stands for one more start.

## Main definitions

* `Script.upcoming`, `Script.skip`: The replies to the starts of a command.
* `Reply.IsInconclusive`: A reply from which nothing is learned.
* `Reply.duration`, `Reply.answer`: What a start takes, and what it gives.
* `StopsAfter`: How many starts there are.
* `durations`, `waits`: The time that starts and pauses take.

## Theorems

* `Output.isTransient_iff`: Which errors look like passing ones.
* `StopsAfter.unique`: There is one number of starts.
* `Session.attempt_eq`: One start.
* `Session.runWith_eq`: A command with any number of pauses.
* `durations_le`: The time that the starts take is bounded.
* `run_until_conclusive`: A command with the usual pauses, and what the
  question of a membership makes of it.
-/

namespace PullTriage

namespace Gh

/-- The reply to a start of the program with the given arguments, after as
    many starts of it. -/
def Script.upcoming (script : Script) (arguments : List String) (i : Nat) : Reply :=
  match script with
  | queue replies => replies.getD i .absent
  | table reply => reply arguments

/-- The script after a number of starts. -/
def Script.skip (script : Script) (k : Nat) : Script :=
  match script with
  | queue replies => queue (replies.drop k)
  | table reply => table reply

theorem Script.next_eq (script : Script) (arguments : List String) :
    script.next arguments = (script.upcoming arguments 0, script.skip 1) := by
  cases script with
  | queue replies => cases replies <;> rfl
  | table reply => rfl

theorem Script.upcoming_skip_one (script : Script) (arguments : List String) (i : Nat) :
    (script.skip 1).upcoming arguments i = script.upcoming arguments (i + 1) := by
  cases script with
  | queue replies => cases replies <;> rfl
  | table reply => rfl

theorem Script.skip_one_skip (script : Script) (k : Nat) :
    (script.skip 1).skip k = script.skip (k + 1) := by
  cases script with
  | queue replies => exact congrArg queue (by rw [List.drop_drop, Nat.add_comm])
  | table reply => rfl

/-- The marks of passing errors are ASCII, and no character outside ASCII
    becomes a part of one. -/
theorem Output.isPlainPhrase_of_mem (marker : String) (h : marker ∈ transientMarkers) :
    Text.IsPlainPhrase marker.toList := by
  have hall : ∀ marker ∈ transientMarkers, Text.IsPlainPhrase marker.toList := by
    decide +kernel
  exact hall marker h

/-- An error looks like a passing one if the error output mentions one of the
    marks. -/
theorem Output.isTransient_iff (o : Output) :
    o.isTransient = true ↔
      ∃ marker ∈ transientMarkers, Text.Mentions marker.toList o.errorText := by
  simp only [isTransient, List.any_eq_true]
  refine exists_congr fun marker => and_congr_right fun h => ?_
  exact Text.holds_lower_iff _ _ (isPlainPhrase_of_mem marker h)

namespace Reply

/-- Nothing is learned from the reply, and asking again may help: it takes
    longer than the deadline, or it ends in an error with the mark of a
    passing one. -/
inductive IsInconclusive : Reply → Prop where
  | hangs : IsInconclusive .hangs
  | late (o : Output) (delay : Nat) (h : deadline < delay) : IsInconclusive (.ends o delay)
  | passing (o : Output) (delay : Nat) (hcode : o.code ≠ 0) (marker : String)
      (hmarker : marker ∈ Output.transientMarkers)
      (h : Text.Mentions marker.toList o.errorText) : IsInconclusive (.ends o delay)

/-- The reply ends in time, with the given output. -/
def EndsInTime (r : Reply) (o : Output) : Prop :=
  ∃ delay, r = .ends o delay ∧ delay ≤ deadline

/-- The time from the start of the program until the reply or the deadline. -/
def duration : Reply → Nat
  | .ends _ delay => min delay deadline
  | .hangs => deadline
  | .absent => 0

/-- What the reply is as the answer to a command at an endpoint. -/
def answer (endpoint : String) : Reply → Except Failure Output
  | .ends o delay => if delay ≤ deadline then .ok o else .error ⟨.timedOut endpoint, []⟩
  | .hangs => .error ⟨.timedOut endpoint, []⟩
  | .absent => .error ⟨.start, [.noProgram]⟩

/-- What a session learns from the reply. -/
def seen : Reply → Session.Attempt
  | .ends o delay => if delay ≤ deadline then .ended o else .late
  | .hangs => .late
  | .absent => .noStart

/-- A reply in time is inconclusive only by its output. -/
theorem isInconclusive_ends_iff (o : Output) (delay : Nat) (h : delay ≤ deadline) :
    (Reply.ends o delay).IsInconclusive ↔ (o.isSuccess || !o.isTransient) = false := by
  rw [Bool.or_eq_false_iff, Output.isSuccess, decide_eq_false_iff_not, Bool.not_eq_false',
    Output.isTransient_iff]
  constructor
  · intro hr
    cases hr with
    | late _ _ hlate => exact absurd hlate (Nat.not_lt.mpr h)
    | passing _ _ hcode marker hmarker htext => exact ⟨hcode, marker, hmarker, htext⟩
  · rintro ⟨hcode, marker, hmarker, htext⟩
    exact .passing o delay hcode marker hmarker htext

theorem duration_le (r : Reply) : r.duration ≤ deadline := by
  cases r with
  | ends o delay => exact Nat.min_le_right delay deadline
  | hangs => exact Nat.le_refl deadline
  | absent => exact Nat.zero_le deadline

/-- The reply is answered with an output if it ends in time. -/
theorem answer_eq_ok_iff (endpoint : String) (r : Reply) (o : Output) :
    r.answer endpoint = .ok o ↔ r.EndsInTime o := by
  constructor
  · intro h
    cases r with
    | ends o' delay =>
        by_cases hdelay : delay ≤ deadline
        · rw [answer, if_pos hdelay, Except.ok.injEq] at h
          exact ⟨delay, by rw [h], hdelay⟩
        · rw [answer, if_neg hdelay] at h
          cases h
    | hangs => exact absurd h (by simp only [answer, reduceCtorEq, not_false_eq_true])
    | absent => exact absurd h (by simp only [answer, reduceCtorEq, not_false_eq_true])
  · rintro ⟨delay, rfl, hdelay⟩
    rw [answer, if_pos hdelay]

/-- What is said if the reply is not answered with an output. -/
theorem message_of_answer_eq_error (endpoint : String) (r : Reply) (fault : Failure)
    (h : r.answer endpoint = .error fault) :
    r = .absent ∧ fault.outermost.message = "Failed to execute gh api" ∨
      r.IsInconclusive ∧ fault.text = "gh api " ++ endpoint ++ " timed out after 60s" := by
  cases r with
  | ends o delay =>
      by_cases hdelay : delay ≤ deadline
      · rw [answer, if_pos hdelay] at h
        cases h
      · rw [answer, if_neg hdelay, Except.error.injEq] at h
        exact Or.inr ⟨.late o delay (Nat.lt_of_not_le hdelay), h ▸ rfl⟩
  | hangs =>
      rw [answer, Except.error.injEq] at h
      exact Or.inr ⟨.hangs, h ▸ rfl⟩
  | absent =>
      rw [answer, Except.error.injEq] at h
      exact Or.inl ⟨rfl, h ▸ rfl⟩

end Reply

/-- There are `k` starts if there may be `limit` of them: up to the first
    conclusive reply, or all. -/
structure StopsAfter (limit : Nat) (replies : Nat → Reply) (k : Nat) : Prop where
  pos : 0 < k
  le : k ≤ limit
  before : ∀ i, i + 1 < k → (replies i).IsInconclusive
  last : k < limit → ¬(replies (k - 1)).IsInconclusive

/-- There is one number of starts. -/
theorem StopsAfter.unique {limit : Nat} {replies : Nat → Reply} {k l : Nat}
    (hk : StopsAfter limit replies k) (hl : StopsAfter limit replies l) : k = l := by
  have hle : ∀ {k l : Nat}, StopsAfter limit replies k → StopsAfter limit replies l → l ≤ k := by
    intro k l hk hl
    -- The larger number goes on behind a reply at which the other one stops.
    refine Nat.le_of_not_lt fun hlt => ?_
    have hpos := hk.pos
    exact hk.last (Nat.lt_of_lt_of_le hlt hl.le) (hl.before (k - 1) (by omega))
  exact Nat.le_antisymm (hle hl hk) (hle hk hl)

/-- The first reply counts as one start of as many as there are. -/
theorem StopsAfter.succ {limit : Nat} {replies : Nat → Reply} {k : Nat}
    (h : StopsAfter limit (fun i => replies (i + 1)) k) (hfirst : (replies 0).IsInconclusive) :
    StopsAfter (limit + 1) replies (k + 1) where
  pos := Nat.succ_pos k
  le := Nat.succ_le_succ h.le
  before
    | 0, _ => hfirst
    | i + 1, hi => h.before i (Nat.lt_of_succ_lt_succ hi)
  last hlt := by
    have hk := h.last (Nat.lt_of_succ_lt_succ hlt)
    rwa [Nat.sub_add_cancel h.pos] at hk

/-- The time that the first `k` starts take. -/
def durations (replies : Nat → Reply) : Nat → Nat
  | 0 => 0
  | k + 1 => (replies 0).duration + durations (fun i => replies (i + 1)) k

/-- The time that pauses take. -/
def waits (pauses : List Nat) : Nat :=
  pauses.foldr (fun pause rest => pause + rest) 0

/-- Each start takes no longer than the deadline. -/
theorem durations_le (replies : Nat → Reply) (k : Nat) : durations replies k ≤ k * deadline := by
  induction k generalizing replies with
  | zero => exact Nat.zero_le _
  | succ k ih =>
      rw [durations, Nat.succ_mul, Nat.add_comm]
      exact Nat.add_le_add (ih _) (replies 0).duration_le

namespace Session

/-- The usual pauses take six seconds at most. -/
theorem waits_take_pauses_le (i : Nat) : waits (pauses.take i) ≤ 6000 := by
  match i with
  | 0 => exact Nat.zero_le 6000
  | 1 => decide
  | n + 2 =>
      rw [List.take_of_length_le (show pauses.length ≤ n + 2 from Nat.le_add_left 2 n)]
      decide

/-- The session after `k` starts with pauses between them. -/
def afterStarts (s : Session) (arguments : List String) (pauses : List Nat) (k : Nat) : Session :=
  let replies := s.script.upcoming arguments
  { s with
    script := s.script.skip k
    clock := s.clock + (durations replies k + waits (pauses.take (k - 1)))
    started := s.started ++ (List.range k).map fun i =>
      ⟨s.clock + (durations replies i + waits (pauses.take i)), ["gh", "api"] ++ arguments⟩ }

/-- A start takes a reply, and the time of it. -/
theorem attempt_eq (s : Session) (arguments : List String) (pauses : List Nat) :
    s.attempt arguments
      = ((s.script.upcoming arguments 0).seen, s.afterStarts arguments pauses 1) := by
  have hstart : s.start arguments = (s.script.upcoming arguments 0,
      { s with
        script := s.script.skip 1
        started := s.started ++ [⟨s.clock, ["gh", "api"] ++ arguments⟩] }) := by
    unfold start
    rw [Script.next_eq]
  have hclock : durations (s.script.upcoming arguments) 1 + waits (pauses.take (1 - 1))
      = (s.script.upcoming arguments 0).duration := rfl
  unfold attempt
  rw [hstart]
  unfold afterStarts
  simp only [hclock]
  -- What is left is that the clock goes on by the capped delay.
  cases hreply : s.script.upcoming arguments 0 with
  | absent => rfl
  | hangs => rfl
  | ends o delay =>
      by_cases hdelay : delay ≤ deadline
      · simp only [Reply.seen, Reply.duration, if_pos hdelay, Nat.min_eq_left hdelay]
        rfl
      · simp only [Reply.seen, Reply.duration, if_neg hdelay,
          Nat.min_eq_right (Nat.le_of_not_le hdelay)]
        rfl

/-- A conclusive reply is the answer, whatever the pauses. -/
theorem runWith_of_conclusive (s : Session) (arguments : List String) (pauses : List Nat)
    (h : ¬(s.script.upcoming arguments 0).IsInconclusive) :
    runWith arguments pauses s
      = ((s.script.upcoming arguments 0).answer (endpoint arguments),
          s.afterStarts arguments pauses 1) := by
  unfold runWith
  rw [attempt_eq s arguments pauses]
  cases hreply : s.script.upcoming arguments 0 with
  | absent => rfl
  | hangs => exact absurd .hangs (hreply ▸ h)
  | ends o delay =>
      rw [hreply] at h
      have hdelay : delay ≤ deadline := Nat.le_of_not_lt fun hlate => h (.late o delay hlate)
      -- In time, so the output is what makes it conclusive.
      have ho : (o.isSuccess || !o.isTransient) = true :=
        eq_true_of_ne_false fun ho => h ((Reply.isInconclusive_ends_iff o delay hdelay).mpr ho)
      simp only [Reply.seen, Reply.answer, if_pos hdelay, ho, if_true]

/-- Without a pause there is no other start, and the reply is the answer. -/
theorem runWith_nil (s : Session) (arguments : List String) :
    runWith arguments [] s
      = ((s.script.upcoming arguments 0).answer (endpoint arguments),
          s.afterStarts arguments [] 1) := by
  unfold runWith
  rw [attempt_eq s arguments []]
  cases hreply : s.script.upcoming arguments 0 with
  | absent => rfl
  | hangs => rfl
  | ends o delay =>
      by_cases hdelay : delay ≤ deadline
      · simp only [Reply.seen, Reply.answer, if_pos hdelay, ite_self]
      · simp only [Reply.seen, Reply.answer, if_neg hdelay]

/-- After an inconclusive reply the command is run again behind a pause. -/
theorem runWith_of_inconclusive (s : Session) (arguments : List String) (pause : Nat)
    (rest : List Nat) (h : (s.script.upcoming arguments 0).IsInconclusive) :
    runWith arguments (pause :: rest) s
      = runWith arguments rest ((s.afterStarts arguments (pause :: rest) 1).wait pause) := by
  rw [runWith, attempt_eq s arguments (pause :: rest)]
  cases hreply : s.script.upcoming arguments 0 with
  | absent => exact nomatch hreply ▸ h
  | hangs => rfl
  | ends o delay =>
      -- The output of a late reply is not looked at.
      by_cases hdelay : delay ≤ deadline
      · have ho := (Reply.isInconclusive_ends_iff o delay hdelay).mp (hreply ▸ h)
        simp only [Reply.seen, if_pos hdelay, ho, Bool.false_eq_true, if_false]
      · simp only [Reply.seen, if_neg hdelay]

/-- When the start `i` behind the first pause happens. -/
theorem pausedTime_succ (replies : Nat → Reply) (clock pause : Nat) (rest : List Nat) (i j : Nat) :
    clock + (replies 0).duration + pause +
        (durations (fun i => replies (i + 1)) i + waits (rest.take j))
      = clock + (durations replies (i + 1) + waits ((pause :: rest).take (j + 1))) := by
  rw [durations, List.take_succ_cons, waits, waits, List.foldr_cons]
  omega

/-- The starts behind the first pause are the starts of a session that has
    waited. -/
theorem afterStarts_succ (s : Session) (arguments : List String) (pause : Nat)
    (rest : List Nat) (k : Nat) (hk : 0 < k) :
    ((s.afterStarts arguments (pause :: rest) 1).wait pause).afterStarts arguments rest k
      = s.afterStarts arguments (pause :: rest) (k + 1) := by
  have hnext : (s.afterStarts arguments (pause :: rest) 1).wait pause
      = { s with
          script := s.script.skip 1
          clock := s.clock + (s.script.upcoming arguments 0).duration + pause
          started := s.started ++ [⟨s.clock, ["gh", "api"] ++ arguments⟩] } := rfl
  have hreplies : (s.script.skip 1).upcoming arguments
      = fun i => s.script.upcoming arguments (i + 1) :=
    funext (s.script.upcoming_skip_one arguments)
  have hindex : k - 1 + 1 = k := Nat.sub_add_cancel hk
  rw [hnext]
  -- Only the times differ in form, since they are counted from another start.
  simp only [afterStarts, hreplies, pausedTime_succ, hindex, Script.skip_one_skip,
    Nat.add_sub_cancel, List.append_assoc]
  rw [List.range_succ_eq_map, List.map_cons, List.map_map]
  rfl

/-- A command with any number of pauses. The induction is on the pauses, each
    of which stands for one more start. -/
theorem runWith_eq (s : Session) (arguments : List String) (pauses : List Nat) :
    ∃ k, StopsAfter (pauses.length + 1) (s.script.upcoming arguments) k ∧
      runWith arguments pauses s
        = ((s.script.upcoming arguments (k - 1)).answer (endpoint arguments),
            s.afterStarts arguments pauses k) := by
  induction pauses generalizing s with
  | nil =>
      refine ⟨1, ⟨Nat.one_pos, Nat.le_refl 1, ?_, ?_⟩, runWith_nil s arguments⟩
      · intro i hi
        omega
      · intro hlt
        exact absurd hlt (Nat.lt_irrefl 1)
  | cons pause rest ih =>
      by_cases hfirst : (s.script.upcoming arguments 0).IsInconclusive
      · -- The rest of the command is one with a pause less, from after the wait.
        rcases ih ((s.afterStarts arguments (pause :: rest) 1).wait pause) with ⟨k, hk, hrun⟩
        have hreplies : ((s.afterStarts arguments (pause :: rest) 1).wait pause).script.upcoming
            arguments = fun i => s.script.upcoming arguments (i + 1) :=
          funext (s.script.upcoming_skip_one arguments)
        rw [hreplies] at hk hrun
        refine ⟨k + 1, hk.succ hfirst, ?_⟩
        have hindex : k - 1 + 1 = k := Nat.sub_add_cancel hk.pos
        rw [runWith_of_inconclusive s arguments pause rest hfirst, hrun,
          afterStarts_succ s arguments pause rest k hk.pos]
        simp only [hindex, Nat.add_sub_cancel]
      · refine ⟨1, ⟨Nat.one_pos, Nat.succ_le_succ (Nat.zero_le _), ?_, fun _ => hfirst⟩,
          runWith_of_conclusive s arguments _ hfirst⟩
        intro i hi
        omega

/-- The question of a membership is answered by the output that ends its
    command, if there is one. -/
theorem isMember_eq (s : Session) (login : String) (r : Reply) (s' : Session)
    (hrun : run [s.memberEndpoint login, "--silent"] s
      = (r.answer (endpoint [s.memberEndpoint login, "--silent"]), s')) :
    (∀ b, (isMember login s).1 = .ok b ↔ ∃ o, r.EndsInTime o ∧ membership o = .ok b) ∧
      (isMember login s).2 = s' := by
  have hends := r.answer_eq_ok_iff (endpoint [s.memberEndpoint login, "--silent"])
  unfold isMember Call.andThen
  rw [hrun]
  cases hanswer : r.answer (endpoint [s.memberEndpoint login, "--silent"]) with
  | error fault =>
      refine ⟨fun b => ⟨fun h => ?_, ?_⟩, rfl⟩
      · cases h
      · rintro ⟨o, ho, -⟩
        rw [(hends o).mpr ho] at hanswer
        cases hanswer
  | ok o =>
      -- No other output ends the command in time.
      have hthe : ∀ b, (∃ o', r.EndsInTime o' ∧ membership o' = .ok b) ↔ membership o = .ok b := by
        intro b
        refine ⟨?_, fun h => ⟨o, (hends o).mp hanswer, h⟩⟩
        rintro ⟨o', ho', h⟩
        rw [← hends, hanswer, Except.ok.injEq] at ho'
        rw [ho', h]
      simp only [hthe, Call.within, settled]
      cases membership o with
      | ok b => exact ⟨fun b' => Iff.rfl, rfl⟩
      | error fault => exact ⟨fun b => by simp only [reduceCtorEq], rfl⟩

end Session

/-- The end of a membership command says yes by its code. -/
theorem membership_eq_true_iff (o : Output) : membership o = .ok true ↔ o.code = 0 := by
  by_cases hcode : o.code = 0
  · simp only [membership, Output.isSuccess, hcode, decide_true, if_true]
  · simp only [membership, Output.isSuccess, hcode, decide_false, Bool.false_eq_true, if_false,
      iff_false]
    split <;> simp only [Except.ok.injEq, Bool.false_eq_true, reduceCtorEq, not_false_eq_true]

/-- The end of a membership command says no by its code and by what it printed
    as an error. -/
theorem membership_eq_false_iff (o : Output) :
    membership o = .ok false ↔ o.code ≠ 0 ∧ "HTTP 404".toList <:+: o.errorText := by
  rw [← Text.holds_iff]
  by_cases hcode : o.code = 0
  · simp only [membership, Output.isSuccess, hcode, decide_true, if_true, Except.ok.injEq,
      Bool.true_eq_false, ne_eq, not_true, false_and]
  · simp only [membership, Output.isSuccess, hcode, decide_false, Bool.false_eq_true, if_false,
      ne_eq, not_false_eq_true, true_and]
    split
    · simp only [*]
    · simp only [*, reduceCtorEq, Bool.false_eq_true]

open Session in
/-- What a command amounts to. The program is started `k` times, until a reply
    is conclusive but three times at most. The last of the replies decides, the
    replies behind it are left, and nothing else changes but the time and the
    command lines. The question of a membership is answered by the last reply
    to its command: yes if it is a success, no if it is the error, in time,
    that there is no such page, and by a failure otherwise. -/
theorem run_until_conclusive (s : Session) (arguments : List String) (login : String) :
    (∃ k, StopsAfter 3 (s.script.upcoming arguments) k ∧
      let replies := s.script.upcoming arguments
      run arguments s
        = ((replies (k - 1)).answer (endpoint arguments),
          { s with
            script := s.script.skip k
            clock := s.clock + (durations replies k + waits ([2000, 4000].take (k - 1)))
            started := s.started ++ (List.range k).map fun i =>
              ⟨s.clock + (durations replies i + waits ([2000, 4000].take i)),
                ["gh", "api"] ++ arguments⟩ }) ∧
      durations replies k + waits ([2000, 4000].take (k - 1)) ≤ 186000 ∧
      ∀ fault, (run arguments s).1 = .error fault →
        replies (k - 1) = .absent ∧ fault.outermost.message = "Failed to execute gh api" ∨
          (replies (k - 1)).IsInconclusive ∧
            fault.text = "gh api " ++ endpoint arguments ++ " timed out after 60s") ∧
    ∃ k, StopsAfter 3 (s.script.upcoming [s.memberEndpoint login, "--silent"]) k ∧
      let r := s.script.upcoming [s.memberEndpoint login, "--silent"] (k - 1)
      ((isMember login s).1 = .ok true ↔ ∃ o, r.EndsInTime o ∧ o.code = 0) ∧
      ((isMember login s).1 = .ok false ↔
        ∃ o, r.EndsInTime o ∧ o.code ≠ 0 ∧ "HTTP 404".toList <:+: o.errorText) ∧
      (isMember login s).2 = (run [s.memberEndpoint login, "--silent"] s).2 := by
  constructor
  · rcases s.runWith_eq arguments pauses with ⟨k, hk, hrun⟩
    have hdurations := durations_le (s.script.upcoming arguments) k
    -- 186 s are three deadlines and the two pauses.
    have hle : k * deadline ≤ 3 * 60000 := Nat.mul_le_mul_right 60000 hk.le
    refine ⟨k, hk, hrun, Nat.add_le_add (Nat.le_trans hdurations hle) (waits_take_pauses_le _), ?_⟩
    intro fault hfault
    rw [run, hrun] at hfault
    exact Reply.message_of_answer_eq_error _ _ fault hfault
  · rcases s.runWith_eq [s.memberEndpoint login, "--silent"] pauses with ⟨k, hk, hrun⟩
    rcases s.isMember_eq login _ _ hrun with ⟨hanswer, hstate⟩
    refine ⟨k, hk, ?_, ?_, hstate.trans (congrArg Prod.snd hrun).symm⟩
    · simp only [hanswer, membership_eq_true_iff]
    · simp only [hanswer, membership_eq_false_iff]

/-- An error of the server, no reply, and a success: the pauses of two and of
    four seconds come between them, and the fourth reply is left. -/
example :
    let s : Session :=
      { owner := "org", repository := "repo"
        script := .queue [.ends ⟨1, [], Utf8.encode "gh: HTTP 503".toList⟩ 100, .hangs,
          .ends ⟨0, [], []⟩ 5, .absent] }
    let s' := (Session.run ["user"] s).2
    s'.started.map Event.time = [0, 2100, 66100] ∧ s'.clock = 66105 ∧
      s'.script.upcoming ["user"] 0 = .absent := by
  decide +kernel

end Gh

end PullTriage
