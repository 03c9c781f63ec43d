import PullTriage.Config.Resolve
import PullTriage.Proofs.Calls
import PullTriage.Proofs.Reports

/-!
# Where Type Labels Come From

A run can put a type label on a pull request in two ways. The verdict on the
author is one, and there is one verdict. The labels of the teams are the other:
a label that is read off the name of a team begins like a category and is no
type label, but the table of the configuration holds any texts, and a text in
it may be a type label. These are all the ways (`Memory.label_mem_planned`).

So the faults that a run can bring about are those that the table asks for. If
no team of a pull request has a type label in the table, a run leaves it with
the label of the verdict and no other, or with none, and no later run finds a
conflict there.

## Main definitions

* `Config.Deserves`: The type label that the author of a pull request calls for.
* `Config.MapsToType`: The table has a type label for a team.
* `Config.IsUntyped`: A pull request with no type label and none in the table.

## Theorems

* `TypeLabel.label_injective`: Type labels differ in their texts.
* `categoryLabel_ne_label`: No label of a category is a type label.
* `TeamRules.label_eq_label_iff`: When the label of a team is a type label.
* `Memory.label_mem_planned`: Where the type labels of a plan come from.
* `Watched.conflict_of_run`: A conflict in a report was listed.
* `Watched.deserved_of_untyped`, `Watched.typed_of_answered`: The type labels
  that a run leaves.
* `type_labels_from_verdict_or_table`: The type labels of a run.
* `type_label_from_table`: A table that makes a run bring about a conflict.
-/

namespace PullTriage

/-- The type label that the author of a pull request calls for: that of the
    verdict, except for members where theirs is not wanted. -/
def Config.Deserves (config : Config) (m : Memory) (p : Pull) (t : TypeLabel) : Prop :=
  t = (Rules.ofConfig config).classifier.verdict (m.author p.author) ∧
    (p.author ∈ m.members → config.labelsMembers = true)

/-- The table, where it is asked, has a type label for a team. -/
def Config.MapsToType (config : Config) (team : String) (t : TypeLabel) : Prop :=
  config.strategy ≠ .name ∧ config.teamLabels.get? team = some t.label

/-- A listed pull request that has no type label, no team with one in the
    table, and its number to itself. -/
structure Config.IsUntyped (config : Config) (m : Memory) (p : Pull) : Prop where
  listed : p ∈ m.opened ++ m.closed
  own : ∀ q ∈ m.opened ++ m.closed, q.number = p.number → q = p
  teams : ∀ team ∈ p.teams, ∀ t, ¬ config.MapsToType team t
  labels : ∀ t : TypeLabel, t.label ∉ (m.current p).labels

theorem TypeLabel.label_injective (t u : TypeLabel) (h : t.label = u.label) : t = u := by
  cases t <;> cases u <;> first | rfl | exact absurd h (by decide)

/-- The label of a category begins with a small letter, and a type label with a
    capital. -/
theorem categoryLabel_ne_label (category : String) (t : TypeLabel) :
    categoryLabel category ≠ t.label := by
  intro h
  have hhead : (categoryLabel category).toList.head? = some 'c' := by
    unfold categoryLabel
    rw [String.toList_append]
    rfl
  rw [h] at hhead
  cases t <;> exact absurd hhead (by decide)

namespace TeamRules

variable (rules : TeamRules) (team : String) (t : TypeLabel)

theorem byName_ne_label : rules.byName team ≠ some t.label := by
  unfold byName
  by_cases hadmins : Text.holds "admins".toList team.toList = true
  · rw [if_pos hadmins]
    exact fun h => categoryLabel_ne_label _ t (Option.some.inj h)
  · rw [if_neg hadmins]
    intro h
    rcases Option.bind_eq_some_iff.mp h with ⟨category, -, hlabel⟩
    by_cases hempty : category.isEmpty = true
    · rw [if_pos hempty] at hlabel
      cases hlabel
    · rw [if_neg hempty] at hlabel
      exact categoryLabel_ne_label _ t (Option.some.inj hlabel)

/-- No type label is empty, so none is left out. -/
theorem byTable_eq_label_iff :
    rules.byTable team = some t.label ↔ rules.table.get? team = some t.label := by
  have hne : t.label ≠ "" := by
    cases t <;> decide
  unfold byTable
  rw [Option.filter_eq_some_iff, decide_eq_true_iff]
  exact and_iff_left hne

/-- The label of a team is a type label only by the table. -/
theorem label_eq_label_iff :
    rules.label team = some t.label ↔
      rules.strategy ≠ .name ∧ rules.table.get? team = some t.label := by
  unfold label
  rw [← byTable_eq_label_iff]
  cases rules.strategy with
  | table => simp only [ne_eq, reduceCtorEq, not_false_eq_true, true_and]
  | name => simp only [byName_ne_label, ne_eq, not_true_eq_false, false_and]
  | both =>
      simp only [Option.or_eq_some_iff, byName_ne_label, and_false, or_false, ne_eq, reduceCtorEq,
        not_false_eq_true, true_and]

end TeamRules

/-- The type label that an author calls for is the desired one. -/
theorem Config.label_mem_desiredType (config : Config) (m : Memory) (p : Pull) (t : TypeLabel) :
    t.label ∈ (Rules.ofConfig config).desiredType (m.author p.author) ↔ config.Deserves m p t := by
  have hmember : (m.author p.author).isMember = true ↔ p.author ∈ m.members :=
    decide_eq_true_iff
  rw [Rules.mem_desiredType, Classifier.wants_verdict, Config.Deserves, and_comm]
  refine and_congr ⟨TypeLabel.label_injective _ _, fun h => h ▸ rfl⟩ ?_
  rw [← hmember]
  -- Wanted is what is not both a member and unwanted for members.
  change (!((m.author p.author).isMember && !config.labelsMembers)) = true ↔ _
  cases (m.author p.author).isMember <;> cases config.labelsMembers <;> decide

/-- The type labels of a plan are the ones that the author calls for and those
    that the table has for the teams. -/
theorem Memory.label_mem_planned (m : Memory) (config : Config) (p : Pull) (t : TypeLabel) :
    t.label ∈ m.planned (Rules.ofConfig config) p ↔
      (config.Deserves m p t ∨ ∃ team ∈ p.teams, config.MapsToType team t) ∧
        t.label ∉ p.labels := by
  rw [mem_planned, desired, Rules.desired, List.mem_append, config.label_mem_desiredType,
    List.mem_filterMap]
  refine and_congr_left fun _ => or_congr_right (exists_congr fun team => and_congr_right ?_)
  exact fun _ => TeamRules.label_eq_label_iff _ team t

namespace Watched

/-- The labels of a pull request after questions: those before, and those that
    were added to its number. -/
theorem Goes.mem_current {w w' : Watched} {asked : List Asked} (h : w.Goes w' asked) (p : Pull)
    (x : String) :
    x ∈ (w'.memory.current p).labels ↔ x ∈ (w.memory.current p).labels ∨
      ∃ c ∈ asked.filterMap Asked.write?, c.1 = p.number ∧ x ∈ c.2 := by
  rw [Memory.mem_current, Memory.mem_current, h.memory, labelPairs_append, List.mem_append,
    or_assoc, ← mem_labelPairs]

theorem call?_of_write? (a : Asked) (c : Nat × List String) (h : a.write? = some c) :
    a.call? = some c := by
  unfold Asked.write? at h
  unfold Asked.call?
  split at h
  · next hquestion _ =>
      rw [hquestion]
      exact h
  · cases h

/-- A conflict in the report of a run was there when the pull request was
    listed. -/
theorem conflict_of_run (config : Config) (selection : Selection) (cutoff : Option Instant)
    (w : Watched) (outcomes : List Outcome) (s : Summary)
    (h : (Run.run (Rules.ofConfig config) selection cutoff w).1 = .ok (outcomes, s))
    (number : Nat) (hnumber : number ∈ s.conflicts) :
    ∃ p ∈ w.memory.opened ++ w.memory.closed, p.number = number ∧
      HasTypeConflict (w.memory.current p).labels := by
  cases hc : (Run.collect selection w).1 with
  | error f =>
      -- Such a run has no summary.
      rw [run_error _ selection cutoff w f hc] at h
      exact absurd h (by simp only [reduceCtorEq, not_false_eq_true])
  | ok pulls =>
      rcases run_visited (Rules.ofConfig config) selection cutoff w pulls hc with
        ⟨visits, w', hrun, -, hselected, hvisits⟩
      have hexact := isExact_of_visited hvisits
      rw [hrun, Except.ok.injEq, Prod.mk.injEq] at h
      rw [← h.2, hexact.conflicts] at hnumber
      rcases List.mem_map.mp hnumber with ⟨r, hr, rfl⟩
      rw [List.mem_filter, decide_eq_true_iff] at hr
      -- The report is about a pull request of the selection, as it was listed.
      have hpull : r.pull ∈ pulls := by
        rw [← hexact.outcomes]
        exact List.mem_map_of_mem ((mem_reports _ r).mp hr.1)
      rcases w.memory.selected_sublist selection pulls hselected with ⟨listed, hlisted, rfl⟩
      rcases List.mem_map.mp hpull with ⟨p, hp, hcurrent⟩
      rw [← hcurrent] at hr ⊢
      exact ⟨p, hlisted.subset hp, rfl, hr.2⟩

section

variable {config : Config} {w w' : Watched} {cutoff : Option Instant} {asked : List Asked}
  {p : Pull}

/-- Calls that are due leave no type label that the author does not call
    for. -/
theorem deserved_of_untyped (hgoes : w.Goes w' asked)
    (hdue : ∀ c ∈ asked.filterMap Asked.call?, ∃ q ∈ w.memory.opened ++ w.memory.closed,
      w.memory.due (Rules.ofConfig config) cutoff (w.memory.current q) = some c)
    (hp : config.IsUntyped w.memory p) (t : TypeLabel)
    (ht : t.label ∈ (w'.memory.current p).labels) :
    Run.isOld cutoff p = false ∧ config.Deserves w.memory p t := by
  rcases (hgoes.mem_current p t.label).mp ht with hbefore | ⟨c, hc, hnumber, hlabel⟩
  · exact absurd hbefore (hp.labels t)
  rcases List.mem_filterMap.mp hc with ⟨a, ha, hwrite⟩
  rcases hdue c (List.mem_filterMap.mpr ⟨a, ha, call?_of_write? a c hwrite⟩) with ⟨q, hq, hcall⟩
  rcases (w.memory.due_eq_some_iff _ cutoff _ c).mp hcall with ⟨hold, -, -, rfl⟩
  -- The call to its number is about the pull request itself.
  have hqp : q = p := hp.own q hq hnumber
  rw [hqp] at hold hlabel
  rcases ((w.memory.label_mem_planned config _ t).mp hlabel).1 with hdeserved | ⟨team, hteam, hmaps⟩
  · exact ⟨hold, hdeserved⟩
  · exact absurd hmaps (hp.teams team hteam t)

/-- If nothing fails, the type label that the author calls for is there in the
    end. -/
theorem typed_of_answered (hgoes : w.Goes w' asked) (pulls : List Pull)
    (hfulfils : Fulfils asked (pulls.filterMap (w.memory.due (Rules.ofConfig config) cutoff)))
    (hdry : config.dryRun = false) (hanswered : ∀ a ∈ asked, a.answered = true)
    (hp : w.memory.current p ∈ pulls) (hold : Run.isOld cutoff p = false) (t : TypeLabel)
    (ht : config.Deserves w.memory p t) : t.label ∈ (w'.memory.current p).labels := by
  rw [hgoes.mem_current]
  by_cases hbefore : t.label ∈ (w.memory.current p).labels
  · exact Or.inl hbefore
  · have hplanned : t.label ∈ w.memory.planned (Rules.ofConfig config) (w.memory.current p) :=
      (w.memory.label_mem_planned config _ t).mpr ⟨Or.inl ht, hbefore⟩
    -- The plan is not empty, so its call is due, and what is due is written.
    have hdue : w.memory.due (Rules.ofConfig config) cutoff (w.memory.current p)
        = some (p.number, w.memory.planned (Rules.ofConfig config) (w.memory.current p)) :=
      (w.memory.due_eq_some_iff _ cutoff _ _).mpr
        ⟨hold, List.ne_nil_of_mem hplanned, hdry, rfl⟩
    have hwritten : (p.number, w.memory.planned (Rules.ofConfig config) (w.memory.current p))
        ∈ asked.filterMap Asked.write? := by
      rw [filterMap_write?_of_answered asked hanswered, hfulfils.all hanswered]
      exact List.mem_filterMap.mpr ⟨_, hp, hdue⟩
    exact Or.inr ⟨_, hwritten, rfl, hplanned⟩

end

end Watched

/-- The type labels that a run writes are those of the verdicts, and those that
    the table has for the teams. A pull request that has no type label and no
    team with one in the table has none afterwards but that of the verdict, it
    has that one if nothing fails, and no run after that finds a conflict. -/
theorem type_labels_from_verdict_or_table (config : Config) (w : Watched)
    (selection : Selection) (cutoff : Option Instant) :
    ∃ (w' : Watched) (asked : List Asked),
      (Run.run (Rules.ofConfig config) selection cutoff w).2 = w' ∧ w'.log = w.log ++ asked ∧
      (∀ c ∈ asked.filterMap Asked.call?, ∃ p ∈ w.memory.opened ++ w.memory.closed,
        c.1 = p.number ∧ ∀ t : TypeLabel, t.label ∈ c.2 →
          config.Deserves w.memory p t ∨ ∃ team ∈ p.teams, config.MapsToType team t) ∧
      ∀ p, config.IsUntyped w.memory p →
        (∀ t : TypeLabel, t.label ∈ (w'.memory.current p).labels →
          Run.isOld cutoff p = false ∧ config.Deserves w.memory p t) ∧
        (∀ pulls, (Run.collect selection w).1 = .ok pulls → w.memory.current p ∈ pulls →
          config.dryRun = false → (∀ a ∈ asked, a.answered = true) →
          ∀ t : TypeLabel, t.label ∈ (w'.memory.current p).labels ↔
            Run.isOld cutoff p = false ∧ config.Deserves w.memory p t) ∧
        ∀ (config' : Config) (selection' : Selection) (cutoff' : Option Instant) (w'' : Watched)
          (outcomes : List Outcome) (s : Summary),
          w''.memory = { w'.memory with faults := w''.memory.faults } →
          (Run.run (Rules.ofConfig config') selection' cutoff' w'').1 = .ok (outcomes, s) →
          p.number ∉ s.conflicts := by
  rcases Watched.run_due (Rules.ofConfig config) selection cutoff w with
    ⟨asked, hgoes, hdue, hfulfils⟩
  refine ⟨_, asked, rfl, hgoes.log, fun c hc => ?_, fun p hp => ?_⟩
  · rcases hdue c hc with ⟨p, hp, hcall⟩
    rcases (w.memory.due_eq_some_iff _ cutoff _ c).mp hcall with ⟨-, -, -, rfl⟩
    exact ⟨p, hp, rfl, fun t ht => ((w.memory.label_mem_planned config _ t).mp ht).1⟩
  have hdeserved := Watched.deserved_of_untyped hgoes hdue hp
  refine ⟨hdeserved, fun pulls hcollect hmem hdry hanswered t => ⟨hdeserved t, ?_⟩, ?_⟩
  · rintro ⟨hold, ht⟩
    exact Watched.typed_of_answered hgoes pulls (hfulfils pulls hcollect) hdry hanswered hmem hold
      t ht
  · intro config' selection' cutoff' w'' outcomes s hnext hrun hconflict
    rcases Watched.conflict_of_run config' selection' cutoff' w'' outcomes s hrun p.number hconflict
      with ⟨q, hq, hnumber, t, u, htu, ht, hu⟩
    -- The next run lists the same pull requests, with the labels of this one.
    rw [hnext, hgoes.memory] at hq
    have hqp : q = p := hp.own q hq hnumber
    have hcurrent : w''.memory.current q
        = (Run.run (Rules.ofConfig config) selection cutoff w).2.memory.current p := by
      rw [hnext, hqp]
      rfl
    rw [hcurrent] at ht hu
    exact htu ((hdeserved t ht).2.1.trans (hdeserved u hu).2.1.symm)

namespace Sample

/-- The small repository, where every question is answered. -/
def answering : Watched where
  memory := memory

/-- A file whose table has a type label for a team. -/
def typing : List (String × Json) :=
  [(Property.dryRun, .bool false), (Property.organization, .string "org"),
    (Property.repository, .string "repo"), (Property.proxies, .object []),
    (Property.teamLabels, .object [("gpu", .string "BadPR")])]

theorem isUntyped_pull : config.IsUntyped answering.memory pull where
  listed := List.mem_cons_self
  own := by
    intro q hq hnumber
    rcases List.mem_cons.mp hq with rfl | hq
    · rfl
    · rw [List.mem_singleton.mp hq] at hnumber
      exact absurd hnumber (by decide)
  teams := by
    intro team hteam t hmaps
    have hgpu : team = "gpu" := List.mem_singleton.mp hteam
    rw [hgpu] at hmaps
    cases t <;> exact absurd hmaps.2 (by decide)
  labels := by
    intro t
    cases t <;> decide

end Sample

/-- The table has a label for the team of a pull request here, but no type
    label. -/
theorem type_labels_from_verdict_or_table_answering :
    Sample.config.IsUntyped Sample.answering.memory Sample.pull ∧
      (Run.collect (.all .opened) Sample.answering).1
        = .ok (Sample.answering.memory.pulls .opened) ∧
      Sample.config.dryRun = false ∧
      ∃ (w' : Watched) (outcomes : List Outcome) (s : Summary),
        (Run.run (Rules.ofConfig Sample.config) (.all .opened) none Sample.answering).2 = w' ∧
        (∀ a ∈ w'.log, a.answered = true) ∧
        (∀ t : TypeLabel, t.label ∈ (w'.memory.current Sample.pull).labels ↔
          Sample.config.Deserves Sample.answering.memory Sample.pull t) ∧
        (Run.run (Rules.ofConfig Sample.config) (.all .opened) none w').1 = .ok (outcomes, s) ∧
        Sample.pull.number ∉ s.conflicts := by
  have hcollect : (Run.collect (.all .opened) Sample.answering).1
      = .ok (Sample.answering.memory.pulls .opened) := rfl
  rcases type_labels_from_verdict_or_table Sample.config Sample.answering (.all .opened) none with
    ⟨w', asked, hrun, hlog, -, huntyped⟩
  rcases huntyped Sample.pull Sample.isUntyped_pull with ⟨-, hlabels, hnext⟩
  have hanswered : ∀ a ∈ (Run.run (Rules.ofConfig Sample.config) (.all .opened) none
      Sample.answering).2.log, a.answered = true := by
    decide +kernel
  rw [hrun, hlog] at hanswered
  have hlabels' := hlabels _ hcollect List.mem_cons_self rfl hanswered
  have hok : (Run.run (Rules.ofConfig Sample.config) (.all .opened) none (Run.run
      (Rules.ofConfig Sample.config) (.all .opened) none Sample.answering).2).1.isOk = true := by
    decide +kernel
  rw [hrun] at hok
  rcases hsecond : (Run.run (Rules.ofConfig Sample.config) (.all .opened) none w').1 with
    f | ⟨outcomes, s⟩
  · rw [hsecond] at hok
    exact absurd hok Bool.false_ne_true
  · refine ⟨Sample.isUntyped_pull, hcollect, rfl, w', outcomes, s, hrun, hlog ▸ hanswered,
      fun t => ?_, hsecond, hnext _ _ _ w' outcomes s rfl hsecond⟩
    rw [hlabels' t]
    exact and_iff_right rfl

/-- The table of a configuration that is accepted makes a run put the label of
    conflicts on a pull request without type labels, next to that of the
    verdict. The next run reports the conflict. -/
theorem type_label_from_table :
    ∃ config, Config.resolve Sample.typing [] (fun _ => none) = .ok config ∧
      config.dryRun = false ∧
      (Rules.ofConfig config).classifier.verdict
        (Sample.answering.memory.author Sample.pull.author) = .external ∧
      (∀ t : TypeLabel, t.label ∉ (Sample.answering.memory.current Sample.pull).labels) ∧
      ∃ (w' : Watched) (outcomes : List Outcome) (s : Summary),
        (Run.run (Rules.ofConfig config) (.all .opened) none Sample.answering).2 = w' ∧
        (∀ a ∈ w'.log, a.answered = true) ∧
        w'.memory.writes = [(1, [TypeLabel.external.label, TypeLabel.conflict.label])] ∧
        (Run.run (Rules.ofConfig config) (.all .opened) none w').1 = .ok (outcomes, s) ∧
        s.conflicts = [1] := by
  have hconfig : (match Config.resolve Sample.typing [] (fun _ => none) with
      | .ok config => some (config.dryRun, (Rules.ofConfig config).classifier.verdict
          (Sample.answering.memory.author Sample.pull.author))
      | .error _ => none) = some (false, .external) := by
    decide +kernel
  have hfirst : (match Config.resolve Sample.typing [] (fun _ => none) with
      | .ok config => some (
          (Run.run (Rules.ofConfig config) (.all .opened) none Sample.answering).2.log.all
            Asked.answered,
          (Run.run (Rules.ofConfig config) (.all .opened) none Sample.answering).2.memory.writes)
      | .error _ => none) = some (true, [(1, ["ExternalPR", "BadPR"])]) := by
    decide +kernel
  have hsecond : (match Config.resolve Sample.typing [] (fun _ => none) with
      | .ok config =>
        match (Run.run (Rules.ofConfig config) (.all .opened) none (Run.run
            (Rules.ofConfig config) (.all .opened) none Sample.answering).2).1 with
        | .ok (_, s) => some s.conflicts
        | .error _ => none
      | .error _ => none) = some [1] := by
    decide +kernel
  rcases hresolve : Config.resolve Sample.typing [] (fun _ => none) with e | config
  · simp only [hresolve, reduceCtorEq] at hconfig
  simp only [hresolve, Option.some.injEq, Prod.mk.injEq] at hconfig hfirst hsecond
  rcases hrun : (Run.run (Rules.ofConfig config) (.all .opened) none (Run.run
      (Rules.ofConfig config) (.all .opened) none Sample.answering).2).1 with f | ⟨outcomes, s⟩
  · simp only [hrun, reduceCtorEq] at hsecond
  · simp only [hrun, Option.some.injEq] at hsecond
    exact ⟨config, rfl, hconfig.1, hconfig.2, Sample.isUntyped_pull.labels, _, outcomes, s, rfl,
      List.all_eq_true.mp hfirst.1, hfirst.2, hrun, hsecond⟩

end PullTriage
