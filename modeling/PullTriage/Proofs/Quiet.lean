import PullTriage.Proofs.Attempts
import PullTriage.Proofs.Commands

/-!
# Calls that Write Nothing

Which calls of a session start no command that writes, whatever the client
program replies. A command may be started several times and a call may be
broken off, so what counts is not that a call succeeds but what it adds to the
log: `Silent` says that everything added is a reading command, and it holds
between the two ends of a sequence of calls if it holds of each of them.

All lookups of a visit are quiet. Its only other call adds labels, and a dry
run does not make it, so a dry run is quiet as a whole. That its lookups
overlap makes no difference: of two calls that are broken off, the log keeps a
part of what they would have added.

## Main definitions

* `Session.Silent`: Between two states of a session nothing was written.
* `Session.Quiet`: A call that writes nothing.

## Theorems

* `Session.quiet_run`: A reading command is quiet, however often it is run.
* `Session.Quiet.andThen`, `Session.Quiet.both`: Quiet calls one after the
  other, and at the same time.
* `Session.quiet_lookUp`: The lookups of a visit.
* `Session.quiet_collect`: Fetching a selection.
* `Session.visit_silent`: A visit of a dry run.
* `Session.visitFrom_silent`: A list of such visits.
-/

namespace PullTriage

namespace Gh

namespace Session

/-- Between two states of a session commands were started that write
    nothing. -/
def Silent (s s' : Session) : Prop :=
  ∃ events, s'.started = s.started ++ events ∧ ∀ e ∈ events, ¬ IsPost e.what

/-- The call starts no command that writes. -/
def Quiet {α : Type} (c : Call Session α) : Prop :=
  ∀ s, Silent s (c s).2

theorem Silent.refl (s : Session) : Silent s s :=
  ⟨[], (List.append_nil _).symm, fun _ he => absurd he List.not_mem_nil⟩

theorem Silent.trans {s s' s'' : Session} (h : Silent s s') (h' : Silent s' s'') :
    Silent s s'' := by
  rcases h with ⟨events, hstarted, hevents⟩
  rcases h' with ⟨more, hstarted', hmore⟩
  refine ⟨events ++ more, by rw [hstarted', hstarted, List.append_assoc], ?_⟩
  intro e he
  rcases List.mem_append.mp he with he | he
  · exact hevents e he
  · exact hmore e he

/-- A session that has written nothing does not after a silent stretch
    either. -/
theorem Silent.history {s s' : Session} (h : Silent s s') (hs : s.started = []) :
    ∀ line ∈ s'.history, ¬ IsPost line := by
  rcases h with ⟨events, hstarted, hevents⟩
  rw [hs, List.nil_append] at hstarted
  intro line hline
  rcases List.mem_map.mp hline with ⟨e, he, rfl⟩
  rw [hstarted] at he
  exact hevents e ((List.mergeSort_perm events _).mem_iff.mp he)

section

variable {α β : Type}

theorem quiet_settled (e : Except Failure α) : Quiet (settled e) :=
  fun s => .refl s

theorem quiet_answer (a : α) : Quiet (Call.answer a) :=
  fun s => .refl s

theorem Quiet.within {c : Call Session α} (hc : Quiet c) (cause : Cause) :
    Quiet (c.within cause) := by
  intro s
  have hs := hc s
  unfold Call.within
  rcases hcall : c s with ⟨f | a, s'⟩
  · rw [hcall] at hs
    exact hs
  · rw [hcall] at hs
    exact hs

theorem Quiet.andThen {c : Call Session α} {next : α → Call Session β} (hc : Quiet c)
    (hnext : ∀ a, Quiet (next a)) : Quiet (c.andThen next) := by
  intro s
  have hs := hc s
  unfold Call.andThen
  rcases hcall : c s with ⟨f | a, s'⟩
  · rw [hcall] at hs
    exact hs
  · rw [hcall] at hs
    exact hs.trans (hnext a s')

/-- Of calls that are broken off the log keeps a part of what they add. -/
theorem brokenOff_silent {s s' : Session} (h : Silent s s') (time : Nat) :
    Silent s (brokenOff s s' time) := by
  rcases h with ⟨events, hstarted, hevents⟩
  refine ⟨Event.upTo time events, ?_, ?_⟩
  · unfold brokenOff
    rw [hstarted, List.drop_left]
  · intro e he
    exact hevents e (List.mem_of_mem_filter he)

/-- Two quiet calls at the same time are quiet, also if one of them is broken
    off. -/
theorem Quiet.both {c : Call Session α} {d : Call Session β} (hc : Quiet c) (hd : Quiet d) :
    Quiet (Session.both c d) := by
  intro s
  -- The second call starts at the same time, but its events come behind those of the first.
  have hfirst : Silent s ((c s).2.atTime s.clock) := hc s
  have hboth : Silent s (d ((c s).2.atTime s.clock)).2 := hfirst.trans (hd _)
  unfold Session.both
  rcases hcall : c s with ⟨a, s₁⟩
  rw [hcall] at hboth
  simp only at hboth ⊢
  rcases hcall' : d (s₁.atTime s.clock) with ⟨b, s₂⟩
  rw [hcall'] at hboth
  simp only at hboth ⊢
  split
  · exact hboth
  · exact brokenOff_silent hboth _
  · exact brokenOff_silent hboth _
  · split
    · exact brokenOff_silent hboth _
    · exact brokenOff_silent hboth _

/-- A command that does not write does not when it is run again. -/
theorem quiet_run (arguments : List String) (h : ¬ IsPost (["gh", "api"] ++ arguments)) :
    Quiet (run arguments) := by
  intro s
  rcases s.runWith_eq arguments pauses with ⟨k, -, hrun⟩
  unfold run
  rw [hrun]
  refine ⟨_, rfl, ?_⟩
  intro e he
  rcases List.mem_map.mp he with ⟨i, -, rfl⟩
  exact h

theorem quiet_ask (read : Json.Tree → Option α) (endpoint : String) (h : endpoint ≠ "POST") :
    Quiet (ask read endpoint) :=
  (quiet_run [endpoint] (not_isPost_endpoint endpoint h)).andThen fun _ =>
    (quiet_settled _).andThen fun _ => quiet_settled _

end

theorem quiet_identity (login : String) : Quiet (identity login) := by
  intro s
  have hendpoint : userEndpoint login ≠ "POST" :=
    append_ne_post "users/" login 'u' rfl (by decide)
  have hask := (quiet_ask userOfTree? _ hendpoint).within (.fetchUser login) s
  unfold identity
  split
  · exact .refl s
  · -- What is learned does not show in the log of commands.
    split
    · next hcall =>
      rw [hcall] at hask
      exact hask
    · next hcall =>
      rw [hcall] at hask
      exact hask

theorem quiet_isMember (login : String) : Quiet (isMember login) := by
  intro s
  have hendpoint : s.memberEndpoint login ≠ "POST" := by
    unfold memberEndpoint
    simp only [String.append_assoc]
    exact append_ne_post "orgs/" _ 'o' rfl (by decide)
  have hrun := quiet_run _ (not_isPost_option _ "--silent" hendpoint (by decide))
  exact hrun.andThen (fun _ => (quiet_settled _).within _) s

/-- The paths of the repository are not the method that writes. -/
theorem repositoryPath_append_ne_post (s : Session) (rest : String) :
    s.repositoryPath ++ rest ≠ "POST" := by
  unfold repositoryPath
  simp only [String.append_assoc]
  exact append_ne_post "repos/" _ 'r' rfl (by decide)

theorem quiet_get (number : Nat) : Quiet (get number) := by
  intro s
  have hendpoint : s.pullEndpoint number ≠ "POST" := by
    unfold pullEndpoint
    rw [String.append_assoc]
    exact s.repositoryPath_append_ne_post _
  exact (quiet_ask pullOfTree? _ hendpoint).within (.fetchPull number) s

theorem quiet_teams (p : Pull) : Quiet (teams p) := by
  intro s
  have hendpoint : s.reviewsEndpoint p.number ≠ "POST" := by
    unfold reviewsEndpoint pullEndpoint
    simp only [String.append_assoc]
    exact s.repositoryPath_append_ne_post _
  exact (quiet_ask reviewsOfTree? _ hendpoint).within (.fetchReviews p.number) s

theorem quiet_list (state : PullState) : Quiet (list state) := by
  intro s
  have hendpoint : s.pullsEndpoint state ≠ "POST" := by
    unfold pullsEndpoint
    simp only [String.append_assoc]
    exact s.repositoryPath_append_ne_post _
  have hrun := quiet_run _ (not_isPost_option _ "--paginate" hendpoint (by decide))
  exact hrun.andThen (fun _ => (quiet_settled _).andThen fun _ => quiet_settled _) s

theorem quiet_lookUp (p : Pull) : Quiet (Run.lookUp p) :=
  (quiet_identity p.author).both ((quiet_isMember p.author).both (quiet_teams p))

/-- Fetching a selection writes nothing, also if it fails. -/
theorem quiet_collect (selection : Selection) : Quiet (Run.collect selection) := by
  cases selection with
  | single number => exact (quiet_get number).andThen fun p => quiet_answer [p]
  | all state => exact quiet_list state

section

variable (rules : Rules) (hdry : rules.dryRun = true)
include hdry

/-- A dry run stops where a plan would be written. -/
theorem quiet_process (p : Pull) : Quiet (Run.process rules p) := by
  have happly : ∀ labels, Quiet (Run.apply rules.dryRun p.number labels) := by
    intro labels
    unfold Run.apply
    rw [hdry]
    by_cases hempty : labels.isEmpty = true
    · rw [if_pos hempty]
      exact quiet_answer _
    · rw [if_neg hempty, if_pos rfl]
      exact quiet_answer _
  exact (quiet_lookUp p).andThen fun _ => (happly _).andThen fun _ => quiet_answer _

theorem visit_silent (cutoff : Option Instant) (p : Pull) (s : Session) :
    Silent s (Run.visit rules cutoff p s).2 := by
  have hprocess := quiet_process rules hdry p s
  unfold Run.visit
  by_cases hold : Run.isOld cutoff p = true
  · rw [if_pos hold]
    exact .refl s
  · rw [if_neg hold]
    rcases hcall : Run.process rules p s with ⟨f | r, s'⟩
    · rw [hcall] at hprocess
      exact hprocess
    · rw [hcall] at hprocess
      exact hprocess

/-- A list of visits writes nothing, whenever the workers take them up. -/
theorem visitFrom_silent (cutoff : Option Instant) (free : List Nat) (pulls : List Pull)
    (s : Session) : Silent s (Run.visitFrom rules cutoff free pulls s).2 := by
  induction pulls generalizing free s with
  | nil => exact .refl s
  | cons p rest ih =>
      -- The clock is put to the time at which a worker is free, which leaves the log.
      have hvisit : Silent s
          (Run.visit rules cutoff p (s.atTime (free.headD s.clock))).2 :=
        visit_silent rules hdry cutoff p (s.atTime (free.headD s.clock))
      exact hvisit.trans (ih _ _)

end

end Session

end Gh

end PullTriage
