import PullTriage.Proofs.Domains
import PullTriage.Proofs.Labels

/-!
# When Configured Entries Take Effect

A configured domain or company is brought into a normal form once, and so is
every address and every company that is compared with it, and the two normal
forms are not made in the same way. So it has to be asked whether an entry
finds the very text that it holds.

A domain does if there is no white space around the entry. White space is
taken off an address and off a company name but left on a domain, where it is
looked for. So an entry with white space around it misses the addresses at the
domain that it holds, at least those with one at sign (`effective_iff_bare`).

A company name does wherever it reads in the text as it reads alone. Only a
capital sigma at its edge can keep it from that, and only where the word goes
on there: a sigma that ends the entry is a final one, and it is not in the
middle of a longer word.

## Main definitions

* `domainText`: The domain that an entry holds.
* `HoldsDomain`: An address with a configured domain.
* `HoldsCompany`: A company with a configured name in it.

## Theorems

* `AffiliationPolicy.exists_around_domainText`: What is looked for against what
  an entry holds.
* `AffiliationPolicy.coversEmail_of_holdsDomain`,
  `AffiliationPolicy.coversCompany_of_holdsCompany`: Entries that take effect.
* `AffiliationPolicy.effective_iff_bare`: Which domains take effect.
* `entries_take_effect`: When authors are affiliated by an entry.
* `entries_without_effect`: Entries that do not find the text they hold.
-/

namespace PullTriage

/-- The domain that an entry holds: without white space around the entry and
    then without at signs in front. -/
def domainText (entry : String) : String :=
  bareDomain (Text.trimmed entry)

/-- The address ends in an at sign and the domain of an entry that has no white
    space around it. -/
def HoldsDomain (domains : List String) (email : String) : Prop :=
  ∃ entry ∈ domains, domainText entry ≠ "" ∧ Text.trimmed entry = entry ∧
    ∃ name, email = name ++ "@" ++ domainText entry

/-- The company has the name of an entry in it, at a place where it reads as it
    does alone. -/
def HoldsCompany (companies : List String) (company : String) : Prop :=
  ∃ entry ∈ companies, Text.trimmed entry ≠ "" ∧
    ∃ before after, company = before ++ Text.trimmed entry ++ after ∧
      Text.StandsAlone before.toList (Text.trimmed entry).toList after.toList

namespace AffiliationPolicy

theorem toList_domainText (entry : String) :
    (domainText entry).toList = (Text.trim entry.toList).dropWhile (· == '@') := by
  rw [domainText, bareDomain, Text.trimmed, String.toList_ofList, String.toList_ofList]

/-- An entry without white space around it holds the domain that is looked
    for. -/
theorem toList_domainText_of_bare (entry : String) (hbare : Text.trimmed entry = entry) :
    (domainText entry).toList = entry.toList.dropWhile (· == '@') := by
  rw [domainText, hbare, bareDomain, String.toList_ofList]

/-- Without the white space around it an entry is at signs and the domain that
    it holds. -/
theorem ats_append_domainText (entry : String) :
    (Text.trim entry.toList).takeWhile (· == '@') ++ (domainText entry).toList =
      Text.trim entry.toList := by
  rw [toList_domainText, List.takeWhile_append_dropWhile]

/-- What an entry holds does not end with white space. -/
theorem getLast?_domainText (entry : String) (c : Char)
    (hc : (domainText entry).toList.getLast? = some c) : Text.isBlank c = false := by
  apply (Text.isBare_trim entry.toList).last
  rw [← ats_append_domainText, List.getLast?_append, hc, Option.some_or]

/-- White space is only taken off the name in front of the domain. -/
theorem trim_address (entry name : String) :
    Text.trim (name ++ "@" ++ domainText entry).toList =
      Text.trimStart name.toList ++ '@' :: (domainText entry).toList := by
  rw [← Text.trim_append_cons _ '@' _ (by decide) (getLast?_domainText entry),
    String.toList_append, String.toList_append, List.append_assoc]
  rfl

/-- An address with a configured domain is affiliated. -/
theorem coversEmail_of_holdsDomain (domains companies : List String) (email : String)
    (h : HoldsDomain domains email) : (ofEntries domains companies).coversEmail email = true := by
  obtain ⟨entry, hentry, hne, hbare, name, rfl⟩ := h
  rw [coversEmail_ofEntries_iff]
  refine ⟨_, _, trim_address entry name, entry, hentry, ?_, ?_⟩
  · rw [← toList_domainText_of_bare entry hbare]
    exact fun hnil => hne (String.toList_inj.mp hnil)
  · rw [toList_domainText_of_bare entry hbare]

/-- No at sign in front is taken off a domain twice. -/
theorem dropWhile_domainText_append (entry : String) (hne : domainText entry ≠ "")
    (after : List Char) :
    ((domainText entry).toList ++ after).dropWhile (· == '@') =
      (domainText entry).toList ++ after := by
  have hhead := List.head?_dropWhile_not (· == '@') (Text.trim entry.toList)
  rw [← toList_domainText] at hhead
  cases hlist : (domainText entry).toList with
  | nil => exact absurd (String.toList_inj.mp hlist) hne
  | cons c rest =>
      rw [hlist, List.head?_cons] at hhead
      exact List.dropWhile_cons_of_neg (by rw [hhead]; decide)

/-- An entry with no white space in front is looked for as the domain that it
    holds with the white space behind it. -/
theorem dropWhile_ats_of_trailing (entry : String) (hne : domainText entry ≠ "")
    (white' : List Char) (hentry : Text.trim entry.toList ++ white' = entry.toList) :
    entry.toList.dropWhile (· == '@') = (domainText entry).toList ++ white' := by
  have hats : ∀ c ∈ (Text.trim entry.toList).takeWhile (· == '@'), (c == '@') = true :=
    fun c => List.mem_takeWhile_imp (p := (· == '@'))
  rw [← hentry, ← ats_append_domainText, List.append_assoc, List.dropWhile_append_of_pos hats,
    dropWhile_domainText_append entry hne]

/-- An entry is looked for as the domain that it holds with something around
    it, and with nothing around it only if there is no white space around the
    entry. -/
theorem exists_around_domainText (entry : String) (hne : domainText entry ≠ "") :
    ∃ before after, entry.toList.dropWhile (· == '@') =
        before ++ ((domainText entry).toList ++ after) ∧
      (before = [] → after = [] → Text.trimmed entry = entry) := by
  obtain ⟨white, white', hwhite, -, hentry⟩ := Text.exists_surrounded entry.toList
  cases white with
  | nil =>
      rw [List.nil_append] at hentry
      refine ⟨[], white', ?_, ?_⟩
      · rw [List.nil_append, dropWhile_ats_of_trailing entry hne white' hentry]
      · rintro - rfl
        rw [List.append_nil] at hentry
        rw [Text.trimmed, hentry, String.ofList_toList]
  | cons c white =>
      -- White space in front stays, and so do the at signs behind it.
      have hc : ¬ (c == '@') = true := by
        intro hc
        have hblank := hwhite c List.mem_cons_self
        rw [eq_of_beq hc] at hblank
        exact absurd hblank (by decide)
      refine ⟨c :: white ++ (Text.trim entry.toList).takeWhile (· == '@'), white', ?_, ?_⟩
      · rw [List.append_assoc, ← List.append_assoc _ (domainText entry).toList,
          ats_append_domainText, hentry, ← hentry, List.cons_append,
          List.dropWhile_cons_of_neg (p := (· == '@')) hc]
      · intro hnil
        exact absurd hnil (by simp)

/-- An entry takes effect on the addresses at the domain that it holds if there
    is no white space around it. -/
theorem effective_iff_bare (entry : String) (companies : List String)
    (hne : domainText entry ≠ "") (name : String) (hname : '@' ∉ name.toList) :
    (ofEntries [entry] companies).coversEmail (name ++ "@" ++ domainText entry) = true ↔
      Text.trimmed entry = entry := by
  constructor
  · intro hcovers
    rw [coversEmail_ofEntries_iff, trim_address] at hcovers
    obtain ⟨first, last, hemail, entry', hentry, -, hlast⟩ := hcovers
    obtain rfl := List.mem_singleton.mp hentry
    obtain ⟨before, after, haround, hbare⟩ := exists_around_domainText entry' hne
    -- What follows an at sign of the address is no longer than the domain.
    have hlength : (Text.lower last).length ≤ (Text.lower (domainText entry').toList).length := by
      have hsuffix : Text.trimStart name.toList <:+ name.toList := List.dropWhile_suffix _
      have hstart : '@' ∉ Text.trimStart name.toList := fun hmem => hname (hsuffix.subset hmem)
      rcases append_at_cases _ _ _ _ hstart hemail with hsame | ⟨more, hmore⟩
      · rw [hsame]
      · rw [hmore, Text.lower_append_at, List.length_append, List.length_cons]
        omega
    rw [hlast, haround, Text.length_lower_append, Text.length_lower_append] at hlength
    apply hbare
    · rw [← Text.lower_eq_nil_iff, ← List.length_eq_zero_iff]
      omega
    · rw [← Text.lower_eq_nil_iff, ← List.length_eq_zero_iff]
      omega
  · intro hbare
    exact coversEmail_of_holdsDomain [entry] companies _
      ⟨entry, List.mem_singleton_self entry, hne, hbare, name, rfl⟩

/-- A company with a configured name in it, read as it reads alone, is
    affiliated. -/
theorem coversCompany_of_holdsCompany (domains companies : List String) (company : String)
    (h : HoldsCompany companies company) :
    (ofEntries domains companies).coversCompany company = true := by
  obtain ⟨entry, hentry, hne, before, after, rfl, halone⟩ := h
  have hfound := Text.lower_infix_of_standsAlone _ _ _ halone
  rw [Text.trimmed, String.toList_ofList] at hfound
  simp only [coversCompany, ofEntries, normalCompany, List.any_eq_true, List.mem_filter,
    List.mem_map, Bool.not_eq_true', List.isEmpty_eq_false_iff, Text.holds_iff]
  refine ⟨_, ⟨⟨entry, hentry, rfl⟩, ?_⟩, ?_⟩
  · rw [ne_eq, Text.lower_eq_nil_iff]
    intro hnil
    exact hne (by rw [Text.trimmed, hnil])
  · rw [String.toList_append, String.toList_append, List.append_assoc, Text.trimmed,
      String.toList_ofList]
    exact hfound

end AffiliationPolicy

/-- An author whose address has a configured domain without white space around
    the entry, or whose company has a configured name in it where it reads as
    alone, is affiliated and no outsider. The condition on the entry of a domain
    is the right one, and a name without a capital sigma reads the same
    everywhere. -/
theorem entries_take_effect (domains companies : List String) :
    (∀ email, HoldsDomain domains email →
      (AffiliationPolicy.ofEntries domains companies).coversEmail email = true) ∧
    (∀ entry, domainText entry ≠ "" → ∀ name : String, '@' ∉ name.toList →
      ((AffiliationPolicy.ofEntries [entry] companies).coversEmail
        (name ++ "@" ++ domainText entry) = true ↔ Text.trimmed entry = entry)) ∧
    (∀ company, HoldsCompany companies company →
      (AffiliationPolicy.ofEntries domains companies).coversCompany company = true) ∧
    (∀ entry ∈ companies, Text.trimmed entry ≠ "" → 'Σ' ∉ (Text.trimmed entry).toList →
      ∀ before after : String, HoldsCompany companies (before ++ Text.trimmed entry ++ after)) ∧
    ∀ (labelsMembers : Bool) (author : Identity),
      ((∃ email, author.email = some email ∧ HoldsDomain domains email) ∨
        ∃ company, author.company = some company ∧ HoldsCompany companies company) →
      (Classifier.mk (AffiliationPolicy.ofEntries domains companies) labelsMembers).verdict
        author ≠ .external := by
  refine ⟨AffiliationPolicy.coversEmail_of_holdsDomain domains companies, ?_,
    AffiliationPolicy.coversCompany_of_holdsCompany domains companies, ?_, ?_⟩
  · intro entry hne name hname
    exact AffiliationPolicy.effective_iff_bare entry companies hne name hname
  · intro entry hentry hne hsigma before after
    exact ⟨entry, hentry, hne, before, after, rfl, Text.standsAlone_of_not_mem _ _ _ hsigma⟩
  · intro labelsMembers author hauthor
    have hcovers : (AffiliationPolicy.ofEntries domains companies).covers author = true := by
      rw [AffiliationPolicy.covers, Bool.or_eq_true]
      rcases hauthor with ⟨email, hemail, hholds⟩ | ⟨company, hcompany, hholds⟩
      · left
        rw [hemail]
        exact AffiliationPolicy.coversEmail_of_holdsDomain domains companies email hholds
      · right
        rw [hcompany]
        exact AffiliationPolicy.coversCompany_of_holdsCompany domains companies company hholds
    intro hexternal
    rw [Classifier.verdict_eq_external_iff, hcovers] at hexternal
    exact absurd hexternal.2 (by decide)

/-- A domain in letters of both cases is found, and so is a name that ends in a
    final sigma, since no word goes on behind it. -/
theorem entries_take_effect_final :
    HoldsDomain ["@Intel.com"] "dev@Intel.com" ∧ HoldsCompany ["ΟΔΟΣ"] "the ΟΔΟΣ, Athens" ∧
      (AffiliationPolicy.ofEntries ["@Intel.com"] ["ΟΔΟΣ"]).coversEmail "dev@Intel.com" = true ∧
      (AffiliationPolicy.ofEntries ["@Intel.com"] ["ΟΔΟΣ"]).coversCompany
        "the ΟΔΟΣ, Athens" = true ∧
      (Classifier.mk (AffiliationPolicy.ofEntries ["@Intel.com"] ["ΟΔΟΣ"]) true).verdict
        { login := "a", company := some "the ΟΔΟΣ, Athens" } ≠ .external := by
  have hdomain : HoldsDomain ["@Intel.com"] "dev@Intel.com" :=
    ⟨"@Intel.com", by decide, by decide, by decide, "dev", by decide⟩
  have hcompany : HoldsCompany ["ΟΔΟΣ"] "the ΟΔΟΣ, Athens" := by
    refine ⟨"ΟΔΟΣ", by decide, by decide, "the ", ", Athens", by decide, ?_, ?_⟩
    · intro _
      decide +kernel
    · intro _
      decide +kernel
  obtain ⟨hemails, -, hcompanies, -, hauthors⟩ := entries_take_effect ["@Intel.com"] ["ΟΔΟΣ"]
  exact ⟨hdomain, hcompany, hemails _ hdomain, hcompanies _ hcompany,
    hauthors true { login := "a", company := some "the ΟΔΟΣ, Athens" }
      (Or.inr ⟨_, rfl, hcompany⟩)⟩

/-- White space behind a domain keeps it from its addresses, and a final sigma
    keeps a name from a longer word that begins with it. The authors are taken
    for outsiders. -/
theorem entries_without_effect :
    domainText "intel.com " = "intel.com" ∧
      (AffiliationPolicy.ofEntries ["intel.com "] []).coversEmail "dev@intel.com" = false ∧
      (Classifier.mk (AffiliationPolicy.ofEntries ["intel.com "] []) true).verdict
        { login := "a", email := some "dev@intel.com" } = .external ∧
      Text.trimmed "ΟΔΟΣ" = "ΟΔΟΣ" ∧ "ΟΔΟΣΑ" = "" ++ Text.trimmed "ΟΔΟΣ" ++ "Α" ∧
      (AffiliationPolicy.ofEntries [] ["ΟΔΟΣ"]).coversCompany "ΟΔΟΣΑ" = false ∧
      (Classifier.mk (AffiliationPolicy.ofEntries [] ["ΟΔΟΣ"]) true).verdict
        { login := "a", company := some "ΟΔΟΣΑ" } = .external := by
  decide +kernel

end PullTriage
