import Mathlib.Data.List.Induction
import PullTriage.Run.Basic

/-!
# The Labels of a Plan

Three stages each leave out labels that a pull request has: the pending type
label, the category labels, and the plan that joins the two. What comes out
is one thing said at once. `desired` lists the labels that an author and the
teams call for, whatever the pull request carries, and the plan is what is
missing of that list (`Rules.toAdd_eq`): it holds exactly those of them that
the pull request lacks, each of them once and in their order.

The lists are those of any teams in any order, with repetitions. A visit has a
set of teams and goes by the list of its members.

Sets of labels are compared by their members. An `OrderedSet` is the one
ascending list of its members, so `ext_of_mem` turns an agreement about
members into an equality.

## Main definitions

* `Rules.desiredType`: The type label that an author calls for.
* `Rules.desired`: The labels that an author and the teams call for.
* `Rules.desiredFor`: The same for a list of teams.
* `Rules.toAdd`: The labels to add for a list of teams.

## Theorems

* `OrderedSet.ext_of_mem`: Sets with the same members are equal.
* `TeamRules.mem_missing`: The members of a list that are missing in a set.
* `TeamRules.nodup_missing`: No missing label is listed twice.
* `TeamRules.missing_eq_eraseDups`: What is missing, as a single pass.
* `TeamRules.missing_append_missing`: Leaving out what is present twice.
* `Classifier.verdict_eq_member_iff`: Members get the label of members.
* `Classifier.verdict_eq_affiliated_iff`, `Classifier.verdict_eq_external_iff`:
  The two verdicts on outsiders.
* `Classifier.wants_verdict`: When the label of the verdict is wanted.
* `Rules.toAdd_eq`: The three stages are one pass over the desired labels.
* `Run.mem_decide`: The plan holds the desired labels that are absent.
* `Run.nodup_decide`: The plan holds no label twice.
-/

namespace PullTriage

namespace OrderedSet

variable {α : Type} [Ord α] [Std.TransOrd α]

theorem nodup_toList (s : OrderedSet α) : s.toList.Nodup := by
  refine s.ascending.imp (fun {a b} hlt heq => ?_)
  rw [heq, Std.ReflOrd.compare_self] at hlt
  exact absurd hlt (by decide)

/-- Sets with the same members are equal. Their lists hold the same members
    once each, and only one order of them is ascending. -/
theorem ext_of_mem (s t : OrderedSet α) (h : ∀ x, x ∈ s ↔ x ∈ t) : s = t := by
  -- Without repetitions, lists with the same members are permutations.
  have hperm : s.toList.Perm t.toList :=
    (List.perm_ext_iff_of_nodup s.nodup_toList t.nodup_toList).mpr h
  have hlist : s.toList = t.toList := by
    refine List.Perm.eq_of_pairwise (fun a b _ _ hab hba => ?_) s.ascending t.ascending hperm
    rw [Std.OrientedCmp.gt_of_lt hab] at hba
    exact absurd hba (by decide)
  cases s
  cases t
  cases hlist
  rfl

end OrderedSet

namespace TeamRules

/-- One label of the list more: kept unless it is present or kept already. -/
def keep (present : OrderedSet String) (kept : List String) (label : String) : List String :=
  if label ∈ present ∨ label ∈ kept then kept else label :: kept

theorem mem_keep (present : OrderedSet String) (kept : List String) (label x : String) :
    x ∈ keep present kept label ↔ x ∈ kept ∨ (x = label ∧ x ∉ present) := by
  unfold keep
  by_cases h : label ∈ present ∨ label ∈ kept
  · rw [if_pos h]
    constructor
    · exact Or.inl
    · rintro (hx | ⟨rfl, hx⟩)
      · exact hx
      · exact h.resolve_left hx
  · rw [if_neg h, List.mem_cons]
    constructor
    · rintro (rfl | hx)
      · exact Or.inr ⟨rfl, fun hp => h (Or.inl hp)⟩
      · exact Or.inl hx
    · rintro (hx | ⟨rfl, -⟩)
      · exact Or.inr hx
      · exact Or.inl rfl

theorem nodup_keep (present : OrderedSet String) (kept : List String) (label : String)
    (h : kept.Nodup) : (keep present kept label).Nodup := by
  unfold keep
  by_cases hl : label ∈ present ∨ label ∈ kept
  · rw [if_pos hl]
    exact h
  · rw [if_neg hl]
    exact List.nodup_cons.mpr ⟨fun hk => hl (Or.inr hk), h⟩

theorem mem_foldl_keep (present : OrderedSet String) (l kept : List String) (x : String) :
    x ∈ l.foldl (keep present) kept ↔ x ∈ kept ∨ (x ∈ l ∧ x ∉ present) := by
  induction l generalizing kept with
  | nil => simp only [List.foldl_nil, List.not_mem_nil, false_and, or_false]
  | cons label rest ih =>
      rw [List.foldl_cons, ih, mem_keep, List.mem_cons, or_assoc, ← or_and_right]

theorem mem_missing (present : OrderedSet String) (l : List String) (x : String) :
    x ∈ missing present l ↔ x ∈ l ∧ x ∉ present := by
  have h := mem_foldl_keep present l [] x
  simp only [List.not_mem_nil, false_or] at h
  rw [← h]
  exact List.mem_reverse

theorem nodup_missing (present : OrderedSet String) (l : List String) :
    (missing present l).Nodup := by
  have h : ∀ kept : List String, kept.Nodup → (l.foldl (keep present) kept).Nodup := by
    induction l with
    | nil => exact fun kept hk => hk
    | cons label rest ih => exact fun kept hk => ih _ (nodup_keep present kept label hk)
  exact (List.reverse_perm _).nodup_iff.mpr (h [] List.nodup_nil)

/-- What is kept of a list, after what is kept already. The induction is on the
    list, with what is kept left open. -/
theorem reverse_foldl_keep (present : OrderedSet String) (l kept : List String) :
    (l.foldl (keep present) kept).reverse =
      kept.reverse ++ (l.filter fun x => x ∉ present ∧ x ∉ kept).eraseDups := by
  induction l generalizing kept with
  | nil => simp
  | cons label l ih =>
      rw [List.foldl_cons, ih, keep]
      by_cases hlabel : label ∈ present ∨ label ∈ kept
      · rw [if_pos hlabel, List.filter_cons_of_neg]
        simp only [decide_eq_true_eq, not_and_or, not_not]
        exact hlabel
      · have hkept : label ∉ present ∧ label ∉ kept := not_or.mp hlabel
        rw [if_neg hlabel, List.filter_cons_of_pos (by simpa using hkept), List.eraseDups_cons,
          List.filter_filter, List.reverse_cons, List.append_assoc, List.singleton_append]
        -- What is kept from here on differs from `label` as well.
        congr 3
        apply List.filter_congr
        intro x _
        by_cases hx : x = label
        · simp [hx]
        · simp [hx]

/-- What is missing is found in a single pass: what is present is dropped, and
    the rest is kept where it occurs first. -/
theorem missing_eq_eraseDups (present : OrderedSet String) (l : List String) :
    missing present l = (l.filter (· ∉ present)).eraseDups := by
  have hfold := reverse_foldl_keep present l []
  simp only [List.not_mem_nil, not_false_eq_true, and_true, List.reverse_nil,
    List.nil_append] at hfold
  exact hfold

/-- Leaving out a part of a list what is present and what is repeated makes no
    difference where that is done with the whole list. -/
theorem missing_append_missing (present : OrderedSet String) (l l' : List String) :
    missing present (l ++ missing present l') = missing present (l ++ l') := by
  -- By induction from the end: what `l'` has already has been kept.
  have hfold : ∀ kept : List String,
      (missing present l').foldl (keep present) kept = l'.foldl (keep present) kept := by
    intro kept
    induction l' using List.reverseRecOn with
    | nil => rfl
    | append_singleton l' label ih =>
        have hmissing : missing present (l' ++ [label]) =
            (keep present (missing present l').reverse label).reverse := by
          rw [missing, missing, List.reverse_reverse, List.foldl_append]
          rfl
        rw [hmissing, keep, List.foldl_append, List.foldl_cons, List.foldl_nil, ← ih]
        by_cases hlabel : label ∈ present ∨ label ∈ (missing present l').reverse
        · rw [if_pos hlabel, List.reverse_reverse, keep, if_pos]
          refine hlabel.imp_right fun hmem => ?_
          rw [List.mem_reverse, mem_missing] at hmem
          rw [mem_foldl_keep, mem_missing]
          exact Or.inr ⟨hmem, hmem.2⟩
        · rw [if_neg hlabel, List.reverse_cons, List.reverse_reverse, List.foldl_append]
          rfl
  have hsplit : ∀ m : List String,
      missing present (l ++ m) = (m.foldl (keep present) (l.foldl (keep present) [])).reverse := by
    intro m
    rw [missing, List.foldl_append]
    rfl
  rw [hsplit, hsplit, hfold]

end TeamRules

namespace Classifier

theorem verdict_eq_member_iff (c : Classifier) (i : Identity) :
    c.verdict i = .member ↔ i.isMember = true := by
  unfold verdict
  by_cases hm : i.isMember = true
  · simp only [hm, if_true]
  · rw [if_neg hm]
    refine ⟨fun h => ?_, fun h => absurd h hm⟩
    by_cases hc : c.policy.covers i = true
    · rw [if_pos hc] at h
      exact absurd h (by decide)
    · rw [if_neg hc] at h
      exact absurd h (by decide)

theorem verdict_eq_affiliated_iff (c : Classifier) (i : Identity) :
    c.verdict i = .affiliated ↔ i.isMember = false ∧ c.policy.covers i = true := by
  unfold verdict
  cases i.isMember with
  | true => simp only [if_true, reduceCtorEq, Bool.true_eq_false, false_and]
  | false =>
      cases c.policy.covers i with
      | true => simp only [Bool.false_eq_true, if_false, if_true, and_self]
      | false => simp only [Bool.false_eq_true, if_false, reduceCtorEq, and_false]

theorem verdict_eq_external_iff (c : Classifier) (i : Identity) :
    c.verdict i = .external ↔ i.isMember = false ∧ c.policy.covers i = false := by
  unfold verdict
  cases i.isMember with
  | true => simp only [if_true, reduceCtorEq, Bool.true_eq_false, false_and]
  | false =>
      cases c.policy.covers i with
      | true => simp only [Bool.false_eq_true, if_false, if_true, reduceCtorEq, and_false]
      | false => simp only [Bool.false_eq_true, if_false, and_self]

/-- The label of the verdict is wanted, except for members where theirs is
    not. -/
theorem wants_verdict (c : Classifier) (i : Identity) :
    c.wants (c.verdict i) = !(i.isMember && !c.labelsMembers) := by
  have hv := c.verdict_eq_member_iff i
  unfold wants
  by_cases hm : i.isMember = true
  · simp only [hv.mpr hm, hm, ne_eq, not_true_eq_false, decide_false, Bool.false_or,
      Bool.true_and, Bool.not_not]
  · have hne : c.verdict i ≠ .member := fun h => hm (hv.mp h)
    simp only [hne, hm, ne_eq, not_false_eq_true, decide_true, Bool.true_or, Bool.false_and,
      Bool.not_false]

end Classifier

namespace Rules

/-- The type label that an author calls for: that of the verdict, except for
    members where theirs is not wanted. -/
def desiredType (rules : Rules) (author : Identity) : List String :=
  if author.isMember && !rules.classifier.labelsMembers then []
  else [(rules.classifier.verdict author).label]

/-- The labels that an author and the teams call for: the type label, and the
    labels of the teams that have one. -/
def desired (rules : Rules) (author : Identity) (teams : OrderedSet String) : List String :=
  rules.desiredType author ++ teams.toList.filterMap rules.teams.label

theorem mem_desiredType (rules : Rules) (author : Identity) (x : String) :
    x ∈ rules.desiredType author ↔
      rules.classifier.wants (rules.classifier.verdict author) = true ∧
        x = (rules.classifier.verdict author).label := by
  rw [Classifier.wants_verdict, desiredType]
  cases author.isMember && !rules.classifier.labelsMembers with
  | true =>
      simp only [if_true, List.not_mem_nil, Bool.not_true, Bool.false_eq_true, false_and]
  | false =>
      simp only [Bool.false_eq_true, if_false, List.mem_singleton, Bool.not_false, true_and]

/-- The labels to add to a pull request with the given labels, for teams in
    any order. -/
def toAdd (rules : Rules) (author : Identity) (labels : OrderedSet String)
    (teams : List String) : List String :=
  plan labels (rules.classifier.classify author labels).pending
    (rules.teams.categories labels teams)

/-- The labels that an author and a list of teams call for: the type label if
    it is wanted, and the labels of the teams that have one. -/
def desiredFor (rules : Rules) (author : Identity) (teams : List String) : List String :=
  rules.desiredType author ++ teams.filterMap rules.teams.label

/-- The type label is pending if it is desired and not dropped for being
    present. -/
theorem filter_pending (rules : Rules) (author : Identity) (labels : OrderedSet String) :
    ((rules.classifier.classify author labels).pending.map TypeLabel.label).toList =
      (rules.desiredType author).filter (· ∉ labels) := by
  have hwants := rules.classifier.wants_verdict author
  rw [Classifier.classify, desiredType]
  by_cases hunwanted : (author.isMember && !rules.classifier.labelsMembers) = true
  · rw [hunwanted] at hwants
    simp [hwants, hunwanted]
  · rw [Bool.eq_false_iff.mpr hunwanted] at hwants
    by_cases hpresent : (rules.classifier.verdict author).label ∈ labels
    · simp [hunwanted, hpresent]
    · simp [hwants, hunwanted, hpresent]

/-- The three stages are one pass over the desired labels. -/
theorem toAdd_eq (rules : Rules) (author : Identity) (labels : OrderedSet String)
    (teams : List String) :
    rules.toAdd author labels teams =
      TeamRules.missing labels (rules.desiredFor author teams) := by
  rw [toAdd, plan, TeamRules.categories, TeamRules.missing_append_missing, desiredFor,
    TeamRules.missing_eq_eraseDups, TeamRules.missing_eq_eraseDups, List.filter_append,
    List.filter_append, filter_pending, List.filter_filter]
  simp only [Bool.and_self]

end Rules

namespace Run

/-- A visit plans for the teams in their order. -/
theorem decide_eq (rules : Rules) (p : Pull) (author : Identity) (teams : OrderedSet String) :
    (decide rules p author teams).2 =
      TeamRules.missing p.labels (rules.desired author teams) :=
  rules.toAdd_eq author p.labels teams.toList

/-- The plan holds the desired labels that the pull request lacks. -/
theorem mem_decide (rules : Rules) (p : Pull) (author : Identity) (teams : OrderedSet String)
    (x : String) :
    x ∈ (decide rules p author teams).2 ↔ x ∈ rules.desired author teams ∧ x ∉ p.labels := by
  rw [decide_eq, TeamRules.mem_missing]

/-- The plan holds no label twice. -/
theorem nodup_decide (rules : Rules) (p : Pull) (author : Identity)
    (teams : OrderedSet String) : (decide rules p author teams).2.Nodup := by
  rw [decide_eq]
  exact TeamRules.nodup_missing _ _

end Run

end PullTriage
