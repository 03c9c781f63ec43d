import PullTriage.Proofs.Patterns
import PullTriage.Proofs.Phrases
import PullTriage.Proofs.Trimming
import PullTriage.TeamRules

/-!
# Names of Teams

The convention for the names of teams is a pattern: the repository, a gap for
the category and an ending, after which anything may follow. The gap takes as
much as it can, so the category reaches to the last occurrence of the ending
that the rest of the name allows. What the repository, the category and the
text after the ending are made of does not matter, they may hold the ending
themselves.

The rules find the category in one pass over the name, without a search that
goes back (`beforeLast_eq`). They agree with the search for the pattern, and
both with the convention as it is said: the label is that of the longest
category with which the name fits, if there is one and it is not blank.
The longest one decides, and a shorter one with which the name fits too is
never taken in its place, which is also why a category is found again in the
name that is made with it.

## Main definitions

* `TeamRules.maintainers`: The pattern of the names.
* `TeamRules.byPattern`: The label by a search for the pattern.
* `FitsCategory`: A name can be read with a category.
* `IsCategory`: The category of a name.
* `NamedLabel`: The convention.

## Theorems

* `TeamRules.beforeLast_eq`: The pass over a name is the search in the gap.
* `TeamRules.search_maintainers`: What the search remembers.
* `TeamRules.categoryOf?_eq_some_iff`: What the category of a name is.
* `IsCategory.of_ending`: The category of a name that ends in the ending.
* `byName_iff_convention`: The label by the name follows the convention.
-/

namespace PullTriage

/-- A name of a team can be read as the repository, the category and the
    ending, with anything after it. -/
structure FitsCategory (repository team category : String) : Prop where
  nonempty : category ≠ ""
  oneLine : '\n' ∉ category.toList
  spelled : ∃ rest, team = repository ++ "-" ++ category ++ "-maintainers" ++ rest

/-- The category of a name is the longest one with which it can be read. -/
structure IsCategory (repository team category : String) : Prop where
  fits : FitsCategory repository team category
  longest : ∀ other, FitsCategory repository team other → other.length ≤ category.length

/-- The convention for the labels that teams have by their names. -/
inductive NamedLabel (repository team : String) : Option String → Prop where
  /-- Administrators look after continuous integration. -/
  | admins (hadmins : "admins".toList <:+: team.toList) :
      NamedLabel repository team (some "category: ci")
  /-- Maintainers have the label of their category, without white space around
      it. -/
  | category (hadmins : ¬ "admins".toList <:+: team.toList) (category : String)
      (hcategory : IsCategory repository team category)
      (hblank : ¬ ∀ c ∈ category.toList, Text.isBlank c = true) :
      NamedLabel repository team (some ("category: " ++ Text.trimmed category))
  /-- A blank category is none. -/
  | blank (hadmins : ¬ "admins".toList <:+: team.toList) (category : String)
      (hcategory : IsCategory repository team category)
      (hblank : ∀ c ∈ category.toList, Text.isBlank c = true) :
      NamedLabel repository team none
  /-- Other teams have no label. -/
  | other (hadmins : ¬ "admins".toList <:+: team.toList)
      (hnone : ∀ category, ¬ FitsCategory repository team category) :
      NamedLabel repository team none

/-- A name that ends behind the ending is read with all that stands between
    the repository and the ending. -/
theorem IsCategory.of_ending (repository category : String) (hne : category ≠ "")
    (hline : '\n' ∉ category.toList) :
    IsCategory repository (repository ++ "-" ++ category ++ "-maintainers") category where
  fits := ⟨hne, hline, "", String.append_empty.symm⟩
  longest other hother := by
    obtain ⟨rest, hrest⟩ := hother.spelled
    have hlength := congrArg String.length hrest
    simp only [String.length_append] at hlength
    omega

namespace TeamRules

/-- The pattern of the names of teams of maintainers. -/
def maintainers (repository : List Char) : List PatternPart :=
  PatternPart.around (repository ++ ['-']) (· ≠ '\n') "-maintainers".toList

/-- The label by the name of the team, found by a search for the pattern. -/
def byPattern (rules : TeamRules) (team : String) : Option String :=
  if Text.holds "admins".toList team.toList then some (categoryLabel "ci")
  else
    ((((PatternPart.search true (maintainers rules.repository.toList) team.toList).bind
      fun captures => captures.head?).map Text.trim).filter fun category => !category.isEmpty).map
        fun category => categoryLabel (String.ofList category)

/-- The pass over a text finds what the search in a gap finds, and besides it
    the ending right at the front, where the gap would be empty. -/
theorem beforeLast_eq (marker text : List Char) :
    beforeLast marker text =
      (((PatternPart.fillings (· ≠ '\n') text).find? fun way => marker.isPrefixOf way.2).map
        fun way => way.1).or (if marker.isPrefixOf text then some [] else none) := by
  induction text with
  | nil =>
      rw [beforeLast, PatternPart.fillings, List.find?_nil, Option.map_none, Option.none_or]
      cases marker with
      | nil => rfl
      | cons c marker => rfl
  | cons c text ih =>
      rw [beforeLast]
      by_cases hc : c = '\n'
      · rw [if_pos hc, PatternPart.fillings_cons_of_neg _ c text (by simp [hc]), List.find?_nil,
          Option.map_none, Option.none_or]
      · rw [if_neg hc, PatternPart.fillings_cons_of_pos _ c text (by simp [hc]), ih,
          List.find?_append, List.find?_map]
        -- The way that fills the gap with `c` alone is the ending right behind it.
        have hlast : ([([c], text)].find? fun way => marker.isPrefixOf way.2).map
            (fun way => way.1) = (if marker.isPrefixOf text then some [] else none).map (c :: ·) := by
          by_cases hmarker : marker.isPrefixOf text = true
          · simp [hmarker]
          · simp [hmarker]
        rw [Option.map_or, Option.map_or, hlast, Option.map_map, Option.map_map]
        rfl

/-- The search remembers the category. -/
theorem search_maintainers (repository team : List Char) :
    PatternPart.search true (maintainers repository) team =
      (categoryOf? repository team).map fun category => [category] := by
  rw [maintainers, PatternPart.search_around _ _ _ _ (by simp), categoryOf?]
  simp only [List.isPrefixOf_iff_prefix]
  by_cases hlead : repository ++ ['-'] <+: team
  · rw [if_pos hlead, if_pos hlead, beforeLast_eq]
    -- What fills a gap is not empty, so it is only the ending at the front that is dropped.
    cases hfind : (PatternPart.fillings (· ≠ '\n') (team.drop (repository ++ ['-']).length)).find?
        fun way => "-maintainers".toList.isPrefixOf way.2 with
    | none =>
        rw [Option.map_none, Option.map_none, Option.none_or]
        split
        · rfl
        · rfl
    | some way =>
        have hne := ((PatternPart.mem_fillings _ _ _ _).mp (List.mem_of_find?_eq_some hfind)).1
        rw [Option.map_some, Option.map_some, Option.some_or, Option.filter_some, if_pos]
        · rfl
        · simpa using hne
  · rw [if_neg hlead, if_neg hlead]
    rfl

/-- Names can be read with the contents of the gap with which they fit the
    pattern. -/
theorem fills_iff_fitsCategory (repository team category : String) :
    PatternPart.Fills (repository.toList ++ ['-']) (· ≠ '\n') "-maintainers".toList team.toList
      category.toList ↔ FitsCategory repository team category := by
  constructor
  · rintro ⟨hne, hline, rest, hrest⟩
    refine ⟨?_, ?_, String.ofList rest, ?_⟩
    · rintro rfl
      exact hne rfl
    · intro hmem
      exact absurd (hline _ hmem) (by decide)
    · rw [← String.toList_inj, ← hrest]
      simp
  · rintro ⟨hne, hline, rest, rfl⟩
    refine ⟨?_, ?_, rest.toList, ?_⟩
    · intro h
      exact hne (String.toList_inj.mp h)
    · intro c hc
      simp only [decide_eq_true_eq]
      rintro rfl
      exact hline hc
    · simp

/-- The category that is found is the longest with which the name can be
    read. -/
theorem categoryOf?_eq_some_iff (repository team : String) (category : List Char) :
    categoryOf? repository.toList team.toList = some category ↔
      IsCategory repository team (String.ofList category) := by
  have hsearch := PatternPart.search_around_eq_some_iff (· ≠ '\n') (repository.toList ++ ['-'])
    "-maintainers".toList team.toList (by simp) [category]
  rw [← maintainers, search_maintainers, Option.map_eq_some_iff] at hsearch
  simp only [List.cons.injEq, and_true, exists_eq_right, ↓existsAndEq, true_and] at hsearch
  rw [hsearch]
  have hfits := fun category : List Char =>
    fills_iff_fitsCategory repository team (String.ofList category)
  simp only [String.toList_ofList] at hfits
  constructor
  · rintro ⟨hfills, hlongest⟩
    refine ⟨(hfits category).mp hfills, ?_⟩
    intro other hother
    have := hlongest other.toList ((fills_iff_fitsCategory repository team other).mpr hother)
    rwa [String.length_toList, ← String.length_ofList (l := category)] at this
  · rintro ⟨hfills, hlongest⟩
    refine ⟨(hfits category).mpr hfills, ?_⟩
    intro other hother
    have := hlongest (String.ofList other) ((hfits other).mp hother)
    simpa using this

/-- No category is found in a name that cannot be read with one. -/
theorem categoryOf?_eq_none_iff (repository team : String) :
    categoryOf? repository.toList team.toList = none ↔
      ∀ category, ¬ FitsCategory repository team category := by
  have hsearch := PatternPart.search_around_eq_none_iff (· ≠ '\n') (repository.toList ++ ['-'])
    "-maintainers".toList team.toList (by simp)
  rw [← maintainers, search_maintainers, Option.map_eq_none_iff] at hsearch
  rw [hsearch]
  constructor
  · intro hnone category hfits
    exact hnone _ ((fills_iff_fitsCategory repository team category).mpr hfits)
  · intro hnone content hfills
    refine hnone (String.ofList content) ((fills_iff_fitsCategory repository team _).mp ?_)
    rwa [String.toList_ofList (l := content)]

/-- The category of a name goes into the label without white space around it,
    so trimming it once more changes nothing. -/
theorem categoryLabel_trim (category : List Char) :
    categoryLabel (String.ofList (Text.trim category)) =
      "category: " ++ Text.trimmed (String.ofList category) := by
  rw [categoryLabel, Text.trimmed, Text.trimmed, String.toList_ofList, String.toList_ofList,
    Text.trim_eq_self _ (Text.isBare_trim category)]

/-- The label by the name is one that the convention gives. -/
theorem namedLabel_byName (rules : TeamRules) (team : String) :
    NamedLabel rules.repository team (rules.byName team) := by
  unfold byName
  by_cases hadmins : Text.holds "admins".toList team.toList = true
  · rw [if_pos hadmins, show categoryLabel "ci" = "category: ci" by decide]
    exact .admins ((Text.holds_iff _ _).mp hadmins)
  rw [if_neg hadmins]
  rw [Text.holds_iff] at hadmins
  cases hcategory : categoryOf? rules.repository.toList team.toList with
  | none => exact .other hadmins ((categoryOf?_eq_none_iff _ _).mp hcategory)
  | some category =>
      have hlongest := (categoryOf?_eq_some_iff _ _ _).mp hcategory
      rw [Option.map_some, Option.bind_some]
      by_cases hblank : (Text.trim category).isEmpty = true
      · rw [if_pos hblank]
        refine .blank hadmins _ hlongest ?_
        rw [String.toList_ofList]
        exact (Text.isEmpty_trim category).mp hblank
      · rw [if_neg hblank, categoryLabel_trim]
        refine .category hadmins _ hlongest ?_
        rw [String.toList_ofList]
        exact mt (Text.isEmpty_trim category).mpr hblank

end TeamRules

/-- A name has one category. -/
theorem IsCategory.unique (repository team category category' : String)
    (h : IsCategory repository team category) (h' : IsCategory repository team category') :
    category = category' := by
  rw [← String.ofList_toList (s := category), ← TeamRules.categoryOf?_eq_some_iff] at h
  rw [← String.ofList_toList (s := category'), ← TeamRules.categoryOf?_eq_some_iff, h] at h'
  exact String.toList_inj.mp (Option.some.inj h')

/-- The convention gives a name one label at most. -/
theorem NamedLabel.unique (repository team : String) (label label' : Option String)
    (h : NamedLabel repository team label) (h' : NamedLabel repository team label') :
    label = label' := by
  cases h with
  | admins hadmins =>
      cases h' with
      | admins _ => rfl
      | category hnot _ _ _ => exact absurd hadmins hnot
      | blank hnot _ _ _ => exact absurd hadmins hnot
      | other hnot _ => exact absurd hadmins hnot
  | category hnot category hcategory hblank =>
      cases h' with
      | admins hadmins => exact absurd hadmins hnot
      | category _ category' hcategory' _ => rw [hcategory.unique _ _ _ _ hcategory']
      | blank _ category' hcategory' hblank' =>
          exact absurd (hcategory'.unique _ _ _ _ hcategory ▸ hblank') hblank
      | other _ hnone => exact absurd hcategory.fits (hnone category)
  | blank hnot category hcategory hblank =>
      cases h' with
      | admins hadmins => exact absurd hadmins hnot
      | category _ category' hcategory' hblank' =>
          exact absurd (hcategory.unique _ _ _ _ hcategory' ▸ hblank) hblank'
      | blank _ _ _ _ => rfl
      | other _ hnone => exact absurd hcategory.fits (hnone category)
  | other hnot hnone =>
      cases h' with
      | admins hadmins => exact absurd hadmins hnot
      | category _ category' hcategory' _ => exact absurd hcategory'.fits (hnone category')
      | blank _ _ _ _ => rfl
      | other _ _ => rfl

/-- The label by the name of a team is the one that the convention gives, and
    the one that a search for the pattern gives. A name that is made with a
    category has its label, whatever the category holds. -/
theorem byName_iff_convention (rules : TeamRules) (team : String) :
    (∀ label, rules.byName team = label ↔ NamedLabel rules.repository team label) ∧
      rules.byName team = rules.byPattern team ∧
      ∀ category, team = rules.repository ++ "-" ++ category ++ "-maintainers" →
        '\n' ∉ category.toList → (¬ ∀ c ∈ category.toList, Text.isBlank c = true) →
        ¬ "admins".toList <:+: team.toList →
        rules.byName team = some ("category: " ++ Text.trimmed category) := by
  have hconvention : ∀ label,
      rules.byName team = label ↔ NamedLabel rules.repository team label := by
    intro label
    constructor
    · rintro rfl
      exact rules.namedLabel_byName team
    · exact (rules.namedLabel_byName team).unique _ _ _ _
  refine ⟨hconvention, ?_, ?_⟩
  · rw [TeamRules.byName, TeamRules.byPattern, TeamRules.search_maintainers]
    cases TeamRules.categoryOf? rules.repository.toList team.toList with
    | none => rfl
    | some category =>
        simp only [Option.map_some, Option.bind_some, List.head?_cons, Option.filter_some]
        by_cases hempty : (Text.trim category).isEmpty = true
        · simp only [hempty, if_true, Bool.not_true, Bool.false_eq_true, if_false, Option.map_none]
        · simp only [hempty, Bool.false_eq_true, if_false, Bool.not_false, if_true,
            Option.map_some]
  · rintro category rfl hline hblank hadmins
    have hne : category ≠ "" := by
      rintro rfl
      exact hblank (by simp)
    exact (hconvention _).mpr
      (.category hadmins category (IsCategory.of_ending _ _ hne hline) hblank)

/-- The category of a name that holds the ending three times: the last ending
    is the one that counts, and white space around the category is not part of
    its label. -/
theorem byName_iff_convention_endings :
    (TeamRules.mk "a.b-c" ∅ .name).byName "a.b-c-ci-maintainers-maintainers -maintainers" =
      some "category: ci-maintainers-maintainers" := by
  have hblank : ¬ ∀ c ∈ "ci-maintainers-maintainers ".toList, Text.isBlank c = true := by
    simp [Text.isBlank]
  have hadmins : ¬ "admins".toList <:+: "a.b-c-ci-maintainers-maintainers -maintainers".toList := by
    rw [← Text.holds_iff]
    decide
  have hlabel := (byName_iff_convention ⟨"a.b-c", ∅, .name⟩
    "a.b-c-ci-maintainers-maintainers -maintainers").2.2 "ci-maintainers-maintainers "
    (by decide) (by decide) hblank hadmins
  rw [hlabel]
  decide

end PullTriage
