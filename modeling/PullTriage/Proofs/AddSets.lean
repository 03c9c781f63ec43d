import PullTriage.Proofs.TypeLabels

/-!
# The Least Set of Labels to Add

A label can pass through the stages of a plan in different roles: a table may
hold the label of the verdict, or one that the naming convention gives as
well, or one that is there already. All the same the plan is least. It brings
the labels of a pull request up to the desired ones, no list with fewer
members does, and with its labels, or more of them, there is nothing left to
plan.

The type labels of a plan are the one place where a role shows. The label of
the verdict is in a plan if it is wanted and absent, and then it comes first.
But a team can bring in a type label by the table too, one that is not wanted
among them.

## Main definitions

* `IsLeastAddSet`: What is least about a plan.

## Theorems

* `Rules.isLeastAddSet_toAdd`: The labels to add are the least set.
* `Rules.head?_toAdd`: The wanted type label comes first.
* `Rules.label_mem_toAdd_iff`: The type labels among the labels to add.
* `Rules.toAdd_eq_nil_iff`: When there is nothing to add.
* `plan_least`: The plan for any author, labels and teams.
* `unwanted_type_label_planned`: A type label that is planned by the table only.
-/

namespace PullTriage

/-- A list is the least set that brings labels up to the desired ones: it is
    the desired ones that are absent, each where it occurs first, and nothing
    with fewer members does. -/
structure IsLeastAddSet (labels : OrderedSet String) (desired added : List String) : Prop where
  ordered : added = (desired.filter (· ∉ labels)).eraseDups
  nodup : added.Nodup
  disjoint : ∀ x ∈ added, x ∉ labels
  reaches : labels.insertAll added = labels.insertAll desired
  least : ∀ other : List String, (∀ x ∈ desired, x ∈ labels.insertAll other) →
    added ⊆ other ∧ added.length ≤ other.length

namespace Rules

variable (rules : Rules) (author : Identity) (labels : OrderedSet String) (teams : List String)

/-- The labels to add are the least set that brings the labels up to the
    desired ones. -/
theorem isLeastAddSet_toAdd :
    IsLeastAddSet labels (rules.desiredFor author teams) (rules.toAdd author labels teams) := by
  rw [toAdd_eq]
  generalize rules.desiredFor author teams = desired
  have hnodup := TeamRules.nodup_missing labels desired
  refine ⟨TeamRules.missing_eq_eraseDups labels desired, hnodup, ?_, ?_, ?_⟩
  · intro x hx
    exact ((TeamRules.mem_missing labels desired x).mp hx).2
  · apply OrderedSet.ext_of_mem
    intro x
    rw [OrderedSet.mem_insertAll, OrderedSet.mem_insertAll, TeamRules.mem_missing]
    by_cases hx : x ∈ labels
    · simp [hx]
    · simp [hx]
  · intro other hother
    have hsubset : TeamRules.missing labels desired ⊆ other := by
      intro x hx
      obtain ⟨hdesired, hlabels⟩ := (TeamRules.mem_missing labels desired x).mp hx
      exact (OrderedSet.mem_insertAll.mp (hother x hdesired)).resolve_left hlabels
    exact ⟨hsubset, hnodup.length_le_of_subset hsubset⟩

/-- A wanted type label that is absent comes first. -/
theorem head?_toAdd (hwanted : rules.classifier.wants (rules.classifier.verdict author) = true)
    (habsent : (rules.classifier.verdict author).label ∉ labels) :
    (rules.toAdd author labels teams).head? = some (rules.classifier.verdict author).label := by
  have hdesired : rules.desiredType author = [(rules.classifier.verdict author).label] := by
    rw [Classifier.wants_verdict, Bool.not_eq_true'] at hwanted
    rw [desiredType, hwanted, if_neg Bool.false_ne_true]
  rw [toAdd_eq, TeamRules.missing_eq_eraseDups, desiredFor, hdesired, List.singleton_append,
    List.filter_cons_of_pos (by simpa using habsent), List.eraseDups_cons, List.head?_cons]

/-- A type label is among the labels to add if it is absent, and it is that of
    the verdict and wanted or a team has it in the table. -/
theorem label_mem_toAdd_iff (t : TypeLabel) :
    t.label ∈ rules.toAdd author labels teams ↔ t.label ∉ labels ∧
      ((t = rules.classifier.verdict author ∧ rules.classifier.wants t = true) ∨
        ∃ team ∈ teams, rules.teams.strategy ≠ .name ∧
          rules.teams.table.get? team = some t.label) := by
  rw [toAdd_eq, TeamRules.mem_missing, desiredFor, List.mem_append, mem_desiredType,
    List.mem_filterMap, and_comm]
  refine and_congr_right fun _ => or_congr ?_ ?_
  · constructor
    · rintro ⟨hwants, hlabel⟩
      obtain rfl := TypeLabel.label_injective _ _ hlabel
      exact ⟨rfl, hwants⟩
    · rintro ⟨rfl, hwants⟩
      exact ⟨hwants, rfl⟩
  · refine exists_congr fun team => and_congr_right fun _ => ?_
    exact TeamRules.label_eq_label_iff rules.teams team t

/-- Nothing is left to add where the desired labels are present. -/
theorem toAdd_eq_nil_iff (larger : OrderedSet String) :
    rules.toAdd author larger teams = [] ↔ ∀ x ∈ rules.desiredFor author teams, x ∈ larger := by
  rw [toAdd_eq, List.eq_nil_iff_forall_not_mem]
  simp only [TeamRules.mem_missing, not_and, not_not]

end Rules

/-- The labels to add to a pull request, for any author, any labels and any
    list of teams: they are the least set that brings the labels up to the
    desired ones. The wanted type label comes first if it is absent. Other
    type labels do not keep it out, and a type label that is not wanted can
    only come from the table. With these labels, or more of them, nothing is
    left to add. A visit adds these labels for the teams that it finds. -/
theorem plan_least (rules : Rules) (author : Identity) (labels : OrderedSet String)
    (teams : List String) :
    IsLeastAddSet labels (rules.desiredFor author teams) (rules.toAdd author labels teams) ∧
      (rules.classifier.wants (rules.classifier.verdict author) = true →
        (rules.classifier.verdict author).label ∉ labels →
        (rules.toAdd author labels teams).head? =
          some (rules.classifier.verdict author).label) ∧
      (∀ t : TypeLabel, t.label ∈ rules.toAdd author labels teams ↔ t.label ∉ labels ∧
        ((t = rules.classifier.verdict author ∧ rules.classifier.wants t = true) ∨
          ∃ team ∈ teams, rules.teams.strategy ≠ .name ∧
            rules.teams.table.get? team = some t.label)) ∧
      (∀ larger : OrderedSet String,
        (∀ x ∈ labels.insertAll (rules.toAdd author labels teams), x ∈ larger) →
        rules.toAdd author larger teams = []) ∧
      ∀ (p : Pull) (found : OrderedSet String),
        (Run.decide rules p author found).2 = rules.toAdd author p.labels found.toList := by
  have hleast := rules.isLeastAddSet_toAdd author labels teams
  refine ⟨hleast, rules.head?_toAdd author labels teams,
    rules.label_mem_toAdd_iff author labels teams, ?_, fun _ _ => rfl⟩
  intro larger hlarger
  rw [Rules.toAdd_eq_nil_iff]
  intro x hx
  apply hlarger
  rw [hleast.reaches, OrderedSet.mem_insertAll]
  exact Or.inr hx

namespace Sample

/-- Rules for an organization whose members do not get their label by
    themselves. One team has it in the table. -/
def memberTeam : Rules where
  classifier := ⟨⟨[], []⟩, false⟩
  teams := ⟨"repo", Dictionary.ofList [("core", "OpenvinoPR"), ("docs", "category: docs")], .both⟩
  dryRun := false
  workers := 1

/-- The labels of a pull request that is marked for a conflict. -/
def marked : OrderedSet String :=
  .ofList ["BadPR", "category: ci"]

/-- The labels that teams call for, one of them present and one twice. -/
def reviewers : List String :=
  ["repo-docs-maintainers", "admins", "docs"]

end Sample

/-- An outsider gets the type label although the pull request is marked for a
    conflict, then the label of two of the teams once. With these labels and
    one more nothing is left to add. -/
theorem plan_least_marked :
    Sample.memberTeam.classifier.wants (Sample.memberTeam.classifier.verdict { login := "a" }) =
        true ∧
      (Sample.memberTeam.classifier.verdict { login := "a" }).label ∉ Sample.marked ∧
      Sample.memberTeam.toAdd { login := "a" } Sample.marked Sample.reviewers =
        ["ExternalPR", "category: docs"] ∧
      (Sample.memberTeam.toAdd { login := "a" } Sample.marked Sample.reviewers).head? =
        some (Sample.memberTeam.classifier.verdict { login := "a" }).label ∧
      Sample.memberTeam.toAdd { login := "a" } ((Sample.marked.insertAll
        (Sample.memberTeam.toAdd { login := "a" } Sample.marked Sample.reviewers)).insert "bug")
          Sample.reviewers = [] := by
  obtain ⟨hleast, hfirst, -, hagain, -⟩ :=
    plan_least Sample.memberTeam { login := "a" } Sample.marked Sample.reviewers
  have hwants : Sample.memberTeam.classifier.wants
      (Sample.memberTeam.classifier.verdict { login := "a" }) = true := by
    decide +kernel
  have habsent : (Sample.memberTeam.classifier.verdict { login := "a" }).label ∉
      Sample.marked := by
    decide +kernel
  refine ⟨hwants, habsent, ?_, hfirst hwants habsent, ?_⟩
  · rw [hleast.ordered]
    decide +kernel
  · apply hagain
    intro x hx
    exact OrderedSet.mem_insert.mpr (Or.inr hx)

/-- A member whose label is not wanted gets it from the table, if a team has
    it there. -/
theorem unwanted_type_label_planned :
    Sample.memberTeam.classifier.wants
        (Sample.memberTeam.classifier.verdict { login := "a", isMember := true }) = false ∧
      (Sample.memberTeam.classifier.verdict { login := "a", isMember := true }).label ∉
        (∅ : OrderedSet String) ∧
      (Sample.memberTeam.classifier.verdict { login := "a", isMember := true }).label ∈
        Sample.memberTeam.toAdd { login := "a", isMember := true } ∅ ["core"] := by
  decide +kernel

end PullTriage
