import Mathlib.Data.List.Nodup
import PullTriage.Proofs.Watching

/-!
# Calls That Add Labels

Which calls a run makes to add labels, answered or not. A visit owes one call
at most, `Memory.due`, with the labels that the pull request lacked when it was
listed. It makes that call unless a question fails before, and makes no other.
So the calls of a run are some of those that are due, in the order of the list,
and all of them if nothing fails (`Watched.Fulfils`).

What is due belongs to a place in the list, not to a number. A visit does not
know what the ones before it have written, so a pull request that is listed
twice is owed its labels twice, and gets them twice. For each place there is one
call at most, and no label comes twice in it.

## Main definitions

* `Asked.call?`: What a question adds, answered or not.
* `callsTo`: The calls among questions that add labels to a number.
* `Memory.due`: The call that a visit owes.
* `Watched.Fulfils`: Questions make calls that are due.
* `Watched.LooksUp`: A call adds no labels.
* `Sample.shifted`: A repository that lists a pull request twice.

## Theorems

* `Watched.LooksUp.andThen`: One lookup after another.
* `Watched.apply_calls`: The call that writes a plan.
* `Watched.visit_fulfils`: A visit makes the call that is due, or none.
* `Watched.run_fulfils`: A run makes the calls that are due.
* `Watched.run_due`: A run makes no call that is not due.
* `length_callsTo_le`: A number gets one call at most for each time listed.
* `written_once_if_listed_once`: The calls of a run by number.
* `written_twice_if_listed_twice`: A repetition in the list is not noticed.
-/

namespace PullTriage

/-- The number and the labels that a question adds, whether it is answered or
    not. -/
def Asked.call? (a : Asked) : Option (Nat × List String) :=
  match a.question with
  | .addLabels number labels => some (number, labels)
  | _ => none

/-- The calls among questions that add labels to a number. -/
def callsTo (number : Nat) (asked : List Asked) : List (Nat × List String) :=
  (asked.filterMap Asked.call?).filter fun c => c.1 = number

/-- Where all questions are answered, what they add is written. -/
theorem filterMap_write?_of_answered (asked : List Asked)
    (h : ∀ a ∈ asked, a.answered = true) :
    asked.filterMap Asked.write? = asked.filterMap Asked.call? := by
  refine List.filterMap_congr fun a ha => ?_
  unfold Asked.write? Asked.call?
  rw [h a ha]
  cases a.question <;> rfl

/-- The call by which the visit of a pull request adds the labels that are
    missing, if the visit is made and there are any. -/
def Memory.due (m : Memory) (rules : Rules) (cutoff : Option Instant) (p : Pull) :
    Option (Nat × List String) :=
  if Run.isOld cutoff p then none
  else Answers.callFor rules.dryRun p.number (m.planned rules p)

theorem Memory.due_eq_some_iff (m : Memory) (rules : Rules) (cutoff : Option Instant) (p : Pull)
    (c : Nat × List String) :
    m.due rules cutoff p = some c ↔ Run.isOld cutoff p = false ∧ m.planned rules p ≠ [] ∧
      rules.dryRun = false ∧ c = (p.number, m.planned rules p) := by
  unfold Memory.due
  cases Run.isOld cutoff p with
  | true => simp only [if_true, reduceCtorEq, Bool.true_eq_false, false_and]
  | false =>
      simp only [Bool.false_eq_true, if_false, Answers.callFor_eq_some_iff, true_and]

namespace Watched

/-- The questions make some of the calls that are due, in their order, and all
    of them if none fails. -/
structure Fulfils (asked : List Asked) (due : List (Nat × List String)) : Prop where
  sublist : (asked.filterMap Asked.call?).Sublist due
  all : (∀ a ∈ asked, a.answered = true) → asked.filterMap Asked.call? = due

theorem Fulfils.append {asked more : List Asked} {due due' : List (Nat × List String)}
    (h : Fulfils asked due) (h' : Fulfils more due') : Fulfils (asked ++ more) (due ++ due') where
  sublist := by
    rw [List.filterMap_append]
    exact h.sublist.append h'.sublist
  all := by
    intro hall
    rw [List.forall_mem_append] at hall
    rw [List.filterMap_append, h.all hall.1, h'.all hall.2]

/-- The call asks nothing that adds labels, and is answered if all of its
    questions are. -/
def LooksUp {α : Type} (c : Call Watched α) : Prop :=
  ∀ w : Watched, ∃ asked : List Asked, (c w).2.log = w.log ++ asked ∧
    asked.filterMap Asked.call? = [] ∧
    ((∀ a ∈ asked, a.answered = true) → (c w).1.isOk = true)

section

variable {α β : Type}

theorem looksUp_ask (q : Question) (c : Call Memory α)
    (hq : ∀ answered, (⟨q, answered⟩ : Asked).call? = none) : LooksUp (ask q c) := by
  intro w
  refine ⟨[⟨q, (ask q c w).1.isOk⟩], ?_, List.filterMap_cons_none (hq _), fun h => ?_⟩
  · unfold ask
    cases w.fails w.log.length q with
    | some f => rfl
    | none => rfl
  · exact h _ (List.mem_singleton_self _)

theorem LooksUp.answer (a : α) : LooksUp (Call.answer a) :=
  fun _ => ⟨[], (List.append_nil _).symm, rfl, fun _ => rfl⟩

/-- One lookup after another. -/
theorem LooksUp.andThen {c : Call Watched α} {next : α → Call Watched β} (hc : LooksUp c)
    (hnext : ∀ a, LooksUp (next a)) : LooksUp (c.andThen next) := by
  intro w
  rcases hc w with ⟨asked, hlog, hcalls, hanswered⟩
  unfold Call.andThen
  rcases hcall : c w with ⟨f | a, w'⟩
  · rw [hcall] at hlog hanswered
    exact ⟨asked, hlog, hcalls, hanswered⟩
  · rw [hcall] at hlog
    rcases hnext a w' with ⟨more, hlog', hcalls', hanswered'⟩
    refine ⟨asked ++ more, ?_, ?_, fun hall => ?_⟩
    · rw [hlog', hlog, List.append_assoc]
    · rw [List.filterMap_append, hcalls, hcalls', List.append_nil]
    · exact hanswered' fun a ha => hall a (List.mem_append_right _ ha)

/-- Two lookups at the same time. -/
theorem LooksUp.both {c : Call Watched α} {d : Call Watched β} (hc : LooksUp c)
    (hd : LooksUp d) : LooksUp (Timeline.both c d) :=
  hc.andThen fun _ => hd.andThen fun _ => .answer _

end

theorem looksUp_lookUp (p : Pull) : LooksUp (Run.lookUp p) :=
  (looksUp_ask _ _ fun _ => rfl).both
    ((looksUp_ask _ _ fun _ => rfl).both (looksUp_ask _ _ fun _ => rfl))

/-- Writing the labels of a plan makes one call, unless there are none or they
    are only shown. -/
theorem apply_calls (dryRun : Bool) (number : Nat) (labels : List String) (w : Watched) :
    ∃ asked, w.Goes (Run.apply dryRun number labels w).2 asked ∧
      asked.filterMap Asked.call? = (Answers.callFor dryRun number labels).toList := by
  unfold Run.apply Answers.callFor
  by_cases hempty : labels.isEmpty = true
  · rw [if_pos hempty, hempty]
    exact ⟨[], .refl w, rfl⟩
  by_cases hdry : dryRun = true
  · rw [if_neg hempty, if_pos hdry, hdry, Bool.or_true]
    exact ⟨[], .refl w, rfl⟩
  rw [if_neg hempty, if_neg hdry, if_neg (by rw [Bool.or_eq_true]; exact not_or.mpr ⟨hempty, hdry⟩)]
  unfold Call.andThen
  rcases addLabels_cases number labels w with ⟨f, hadd⟩ | hadd
  · rw [hadd]
    exact ⟨[⟨.addLabels number labels, false⟩],
      ⟨rfl, by rw [List.filterMap_cons_none rfl, List.filterMap_nil, List.append_nil]⟩, rfl⟩
  · rw [hadd]
    exact ⟨[⟨.addLabels number labels, true⟩], ⟨rfl, rfl⟩, rfl⟩

/-- A visit makes the call that is due, unless a lookup fails. -/
theorem visit_fulfils (rules : Rules) (cutoff : Option Instant) (p : Pull) (w : Watched) :
    ∃ asked, w.Goes (Run.visit rules cutoff p w).2 asked ∧
      Fulfils asked (w.memory.due rules cutoff p).toList := by
  unfold Run.visit Memory.due
  by_cases hold : Run.isOld cutoff p = true
  · rw [if_pos hold, if_pos hold]
    exact ⟨[], .refl w, List.Sublist.slnil, fun _ => rfl⟩
  rw [if_neg hold, if_neg hold]
  rcases finds_lookUp p w.memory w rfl with ⟨asked, hstate, hasked, hfound⟩
  rcases looksUp_lookUp p w with ⟨asked', hlog, hcalls, hanswered⟩
  -- Both say which questions the lookups have asked.
  have hsame : asked' = asked := by
    rw [hstate] at hlog
    exact List.append_cancel_left hlog.symm
  rw [hsame] at hcalls hanswered
  have hsilent : asked.filterMap Asked.write? = [] :=
    List.filterMap_eq_nil_iff.mpr fun q hq => (hasked q hq).2
  have hgoes : w.Goes (Run.lookUp p w).2 asked := by
    rw [hstate]
    exact ⟨rfl, by rw [hsilent, List.append_nil]⟩
  rcases hlook : Run.lookUp p w with ⟨f | found, w'⟩
  · rw [hlook] at hgoes hanswered
    have hprocess : Run.process rules p w = (.error f, w') := by
      unfold Run.process Call.andThen
      rw [hlook]
    rw [hprocess]
    refine ⟨asked, hgoes, ?_, fun hall => absurd (hanswered hall) Bool.false_ne_true⟩
    rw [hcalls]
    exact List.nil_sublist _
  · rw [hlook] at hgoes hfound
    rcases apply_calls rules.dryRun p.number (w.memory.planned rules p) w' with
      ⟨more, hgoes', hcalls'⟩
    have hfulfils : Fulfils (asked ++ more)
        (Answers.callFor rules.dryRun p.number (w.memory.planned rules p)).toList := by
      have heq : (asked ++ more).filterMap Asked.call?
          = (Answers.callFor rules.dryRun p.number (w.memory.planned rules p)).toList := by
        rw [List.filterMap_append, hcalls, hcalls', List.nil_append]
      exact ⟨heq ▸ List.Sublist.refl _, fun _ => heq⟩
    refine ⟨asked ++ more, hgoes.trans ?_, hfulfils⟩
    rw [process_of_found rules p w w' found hlook (hfound found rfl)]
    unfold Call.andThen
    rcases happly : Run.apply rules.dryRun p.number (w.memory.planned rules p) w' with
      ⟨f | effect, w''⟩
    · rw [happly] at hgoes'
      exact hgoes'
    · rw [happly] at hgoes'
      exact hgoes'

/-- Where every visit makes the calls that are due, all of them together
    do. -/
theorem fulfils_of_visits {m : Memory} {rules : Rules} {cutoff : Option Instant}
    {pulls : List Pull} {visits : List (Outcome × List Asked)}
    (h : List.Forall₂ (fun p v => Fulfils v.2 (m.due rules cutoff p).toList) pulls visits) :
    Fulfils (visits.flatMap Prod.snd) (pulls.filterMap (m.due rules cutoff)) := by
  induction h with
  | nil => exact ⟨List.Sublist.slnil, fun _ => rfl⟩
  | cons hvisit _ ih =>
      rw [filterMap_cons_toList, List.flatMap_cons]
      exact hvisit.append ih

/-- The question that fetches a selection adds nothing. -/
theorem call?_question (selection : Selection) (answered : Bool) :
    (⟨selection.question, answered⟩ : Asked).call? = none := by
  cases selection with
  | all state => rfl
  | single number => rfl

/-- A run makes the calls that are due for the pull requests of its
    selection. -/
theorem run_fulfils (rules : Rules) (selection : Selection) (cutoff : Option Instant)
    (w : Watched) (pulls : List Pull) (h : (Run.collect selection w).1 = .ok pulls) :
    ∃ (outcomes : List Outcome) (w' : Watched) (asked : List Asked),
      Run.run rules selection cutoff w = (.ok (outcomes, Summary.ofOutcomes outcomes), w') ∧
      w.Goes w' asked ∧ w.memory.selected selection = .ok pulls ∧
      Fulfils asked (pulls.filterMap (w.memory.due rules cutoff)) := by
  have hvisit : ∀ (p : Pull) (w' : Watched),
      w'.memory = { w.memory with writes := w'.memory.writes } →
      ∃ asked, w'.Goes (Run.visit rules cutoff p w').2 asked ∧
        Fulfils asked (w.memory.due rules cutoff p).toList := by
    intro p w' hm
    rcases visit_fulfils rules cutoff p w' with ⟨asked, hgoes, hfulfils⟩
    -- What is due does not depend on the writes.
    rw [hm] at hfulfils
    exact ⟨asked, hgoes, hfulfils⟩
  have hfetch : Fulfils [⟨selection.question, true⟩] [] := by
    have hcalls : [(⟨selection.question, true⟩ : Asked)].filterMap Asked.call? = [] := by
      rw [List.filterMap_cons_none (call?_question selection true), List.filterMap_nil]
    exact ⟨hcalls ▸ List.Sublist.refl _, fun _ => hcalls⟩
  rcases run_of_visit rules selection cutoff w
    (fun p _ asked => Fulfils asked (w.memory.due rules cutoff p).toList) hvisit pulls h with
    ⟨visits, w', hrun, hgoes, hselected, hvisits⟩
  exact ⟨_, w', _, hrun, hgoes, hselected, hfetch.append (fulfils_of_visits hvisits)⟩

/-- Whether or not its selection is fetched, a run makes no call that is not
    due for a listed pull request. -/
theorem run_due (rules : Rules) (selection : Selection) (cutoff : Option Instant)
    (w : Watched) :
    ∃ asked, w.Goes (Run.run rules selection cutoff w).2 asked ∧
      (∀ c ∈ asked.filterMap Asked.call?, ∃ p ∈ w.memory.opened ++ w.memory.closed,
        w.memory.due rules cutoff (w.memory.current p) = some c) ∧
      ∀ pulls, (Run.collect selection w).1 = .ok pulls →
        Fulfils asked (pulls.filterMap (w.memory.due rules cutoff)) := by
  cases hc : (Run.collect selection w).1 with
  | error f =>
      rw [run_error rules selection cutoff w f hc]
      refine ⟨_, collect_goes selection w, fun c hcall => ?_, fun pulls h => ?_⟩
      · rw [List.filterMap_cons_none (call?_question selection _)] at hcall
        exact absurd hcall List.not_mem_nil
      · exact absurd h (by simp only [reduceCtorEq, not_false_eq_true])
  | ok pulls =>
      rcases run_fulfils rules selection cutoff w pulls hc with
        ⟨outcomes, w', asked, hrun, hgoes, hselected, hfulfils⟩
      rcases w.memory.selected_sublist selection pulls hselected with ⟨listed, hlisted, rfl⟩
      rw [hrun]
      refine ⟨asked, hgoes, fun c hcall => ?_, fun pulls h => Except.ok.inj h ▸ hfulfils⟩
      rcases List.mem_filterMap.mp (hfulfils.sublist.subset hcall) with ⟨q, hq, hdue⟩
      rcases List.mem_map.mp hq with ⟨p, hp, rfl⟩
      exact ⟨p, hlisted.subset hp, hdue⟩

end Watched

/-- A number gets one call at most for each time that it is listed. -/
theorem length_callsTo_le (m : Memory) (rules : Rules) (cutoff : Option Instant)
    (pulls : List Pull) (asked : List Asked)
    (h : Watched.Fulfils asked (pulls.filterMap (m.due rules cutoff))) (number : Nat) :
    (callsTo number asked).length ≤ (pulls.map Pull.number).count number := by
  have hnumber : ∀ p c, m.due rules cutoff p = some c → c.1 = p.number := by
    intro p c hc
    rw [((m.due_eq_some_iff rules cutoff p c).mp hc).2.2.2]
  have hsublist : ((asked.filterMap Asked.call?).map Prod.fst).Sublist (pulls.map Pull.number) :=
    (h.sublist.map Prod.fst).trans (map_filterMap_sublist _ Pull.number Prod.fst hnumber pulls)
  calc (callsTo number asked).length
      = ((asked.filterMap Asked.call?).map Prod.fst).count number := by
        rw [callsTo, ← List.countP_eq_length_filter, List.count, List.countP_map]
        rfl
    _ ≤ (pulls.map Pull.number).count number := hsublist.count_le number

/-- No call adds a label twice, so there are as many calls as times that a
    label is added. -/
theorem count_labels_le (calls : List (Nat × List String)) (h : ∀ c ∈ calls, c.2.Nodup)
    (label : String) : (calls.flatMap Prod.snd).count label ≤ calls.length := by
  induction calls with
  | nil => exact Nat.le_refl 0
  | cons c rest ih =>
      rw [List.forall_mem_cons] at h
      rw [List.flatMap_cons, List.count_append, List.length_cons, Nat.add_comm]
      exact Nat.add_le_add (ih h.2) (List.nodup_iff_count_le_one.mp h.1 label)

/-- The calls of a run that add labels are some of those that are due for the
    pull requests of the list, and all of them if nothing fails. So a number
    gets one call at most for each time that it is listed, and each label once
    at most: a number that is listed once gets no more than one call. -/
theorem written_once_if_listed_once (config : Config) (w : Watched) (selection : Selection)
    (cutoff : Option Instant) (pulls : List Pull)
    (h : (Run.collect selection w).1 = .ok pulls) :
    ∃ (outcomes : List Outcome) (w' : Watched) (asked : List Asked),
      Run.run (Rules.ofConfig config) selection cutoff w
        = (.ok (outcomes, Summary.ofOutcomes outcomes), w') ∧
      w'.log = w.log ++ asked ∧ w.memory.selected selection = .ok pulls ∧
      (asked.filterMap Asked.call?).Sublist
        (pulls.filterMap (w.memory.due (Rules.ofConfig config) cutoff)) ∧
      ((∀ a ∈ asked, a.answered = true) → w'.memory.writes
        = w.memory.writes ++ pulls.filterMap (w.memory.due (Rules.ofConfig config) cutoff)) ∧
      ∀ number, (callsTo number asked).length ≤ (pulls.map Pull.number).count number ∧
        ∀ label, ((callsTo number asked).flatMap Prod.snd).count label
          ≤ (pulls.map Pull.number).count number := by
  rcases Watched.run_fulfils (Rules.ofConfig config) selection cutoff w pulls h with
    ⟨outcomes, w', asked, hrun, hgoes, hselected, hfulfils⟩
  refine ⟨outcomes, w', asked, hrun, hgoes.log, hselected, hfulfils.sublist, fun hall => ?_,
    fun number => ?_⟩
  · rw [hgoes.memory, filterMap_write?_of_answered asked hall, hfulfils.all hall]
  have hcalls := length_callsTo_le w.memory _ cutoff pulls asked hfulfils number
  have hnodup : ∀ c ∈ callsTo number asked, c.2.Nodup := by
    intro c hc
    -- Every call has the labels of a plan.
    rcases List.mem_filterMap.mp (hfulfils.sublist.subset (List.mem_filter.mp hc).1) with
      ⟨p, -, hdue⟩
    rw [((w.memory.due_eq_some_iff _ cutoff p c).mp hdue).2.2.2]
    exact Run.nodup_decide _ _ _ _
  exact ⟨hcalls, fun label => Nat.le_trans (count_labels_le _ hnodup label) hcalls⟩

namespace Sample

/-- A repository whose list has one pull request twice, as when a page of it
    has moved before the next one was fetched. -/
def shifted : Watched where
  memory := { memory with opened := [{ pull with number := 3, teams := ∅ }, pull, pull] }

end Sample

/-- The number that is listed once gets its label once. -/
theorem written_once_if_listed_once_shifted :
    (Run.collect (.all .opened) Sample.shifted).1
        = .ok (Sample.shifted.memory.pulls .opened) ∧
      ((Sample.shifted.memory.pulls .opened).map Pull.number).count 3 = 1 ∧
      ∃ (outcomes : List Outcome) (w' : Watched),
        Run.run (Rules.ofConfig Sample.config) (.all .opened) none Sample.shifted
          = (.ok (outcomes, Summary.ofOutcomes outcomes), w') ∧
        callsTo 3 w'.log = [(3, ["ExternalPR"])] ∧
        ∀ label, ((callsTo 3 w'.log).flatMap Prod.snd).count label ≤ 1 := by
  have hcollect : (Run.collect (.all .opened) Sample.shifted).1
      = .ok (Sample.shifted.memory.pulls .opened) := rfl
  rcases written_once_if_listed_once Sample.config Sample.shifted (.all .opened) none _ hcollect
    with ⟨outcomes, w', asked, hrun, hlog, -, -, -, hcounts⟩
  have hcalls : callsTo 3 (Run.run (Rules.ofConfig Sample.config) (.all .opened) none
      Sample.shifted).2.log = [(3, ["ExternalPR"])] := by
    decide +kernel
  rw [hrun] at hcalls
  refine ⟨hcollect, rfl, outcomes, w', hrun, hcalls, ?_⟩
  rw [hlog]
  exact (hcounts 3).2

/-- A run over a list that has a pull request twice makes two calls for its
    number, and the second adds the labels that the first has added. -/
theorem written_twice_if_listed_twice :
    Sample.config.dryRun = false ∧
      (Run.collect (.all .opened) Sample.shifted).1
        = .ok (Sample.shifted.memory.pulls .opened) ∧
      ∃ (result : List Outcome × Summary) (w' : Watched),
        Run.run (Rules.ofConfig Sample.config) (.all .opened) none Sample.shifted
          = (.ok result, w') ∧
        callsTo 1 w'.log
          = [(1, ["ExternalPR", "category: GPU"]), (1, ["ExternalPR", "category: GPU"])] ∧
        w'.memory.writes = [(3, ["ExternalPR"]), (1, ["ExternalPR", "category: GPU"]),
          (1, ["ExternalPR", "category: GPU"])] := by
  have hcalls : callsTo 1 (Run.run (Rules.ofConfig Sample.config) (.all .opened) none
      Sample.shifted).2.log
        = [(1, ["ExternalPR", "category: GPU"]), (1, ["ExternalPR", "category: GPU"])] := by
    decide +kernel
  have hwrites : (Run.run (Rules.ofConfig Sample.config) (.all .opened) none
      Sample.shifted).2.memory.writes = [(3, ["ExternalPR"]),
        (1, ["ExternalPR", "category: GPU"]), (1, ["ExternalPR", "category: GPU"])] := by
    decide +kernel
  rcases hrun : Run.run (Rules.ofConfig Sample.config) (.all .opened) none Sample.shifted with
    ⟨f | result, w'⟩
  · -- The list was fetched, so the run does not fail.
    have hok : (Run.run (Rules.ofConfig Sample.config) (.all .opened) none
        Sample.shifted).1.isOk = true := by
      decide +kernel
    rw [hrun] at hok
    exact absurd hok Bool.false_ne_true
  · rw [hrun] at hcalls hwrites
    exact ⟨rfl, rfl, result, w', rfl, hcalls, hwrites⟩

end PullTriage
