import PullTriage.Affiliation
import PullTriage.Proofs.Phrases
import PullTriage.Proofs.Trimming

/-!
# Addresses by Whole Domains

Whether an address is affiliated is asked of its lowercase form, and it is
asked whether that form ends in an at sign and a domain in lowercase. Neither
is evidently a question about domains: lowercasing looks at neighbouring
characters and changes lengths, and an end of a text need not be one of its
parts.

Both are settled by the at sign. It interrupts every word, so what stands on
either side of it becomes what it becomes alone (`Text.lower_append_at`). And
no character but an at sign becomes one, so each at sign of the lowercase form
parts the text as well (`Text.exists_at_of_lowerAfter`). So an address is
affiliated exactly if what follows one of its at signs is a configured domain
up to case, and no longer domain, however it begins or ends, is taken for it.

## Main definitions

* `bareDomain`: A configured domain without the at signs in front.

## Theorems

* `Text.lower_append_at`: Lowercasing on the two sides of an at sign.
* `Text.exists_at_of_lowerAfter`: Where the at signs of a lowercase form come
  from.
* `AffiliationPolicy.coversEmail_ofEntries_iff`: Which addresses are affiliated.
* `affiliated_by_whole_domain`: The same on strings, and for addresses with one
  at sign.
-/

namespace PullTriage

namespace Text

theorem meetsCased_at (l : List Char) : meetsCased ('@' :: l) = false := by
  rw [meetsCased_cons, if_neg (by decide +kernel)]
  decide +kernel

/-- What follows an at sign becomes what it becomes alone. -/
theorem lowerAfter_at (before last : List Char) :
    lowerAfter before ('@' :: last) = '@' :: lower last := by
  have hlast : lowerAfter ('@' :: before) last = lower last := by
    rw [lower, ← lowerWithin_nil, ← lowerWithin_nil]
    exact lowerWithin_congr _ _ last [] [] (meetsCased_at before) rfl
  rw [lowerAfter, if_neg (by decide), lowerChar_of_ascii '@' (by decide), hlast]
  rfl

/-- The two sides of an at sign become what they become alone. -/
theorem lower_append_at (first last : List Char) :
    lower (first ++ '@' :: last) = lower first ++ '@' :: lower last := by
  have hfirst : lowerWithin [] first ('@' :: last) = lower first := by
    rw [lower, ← lowerWithin_nil]
    exact lowerWithin_congr [] [] first _ [] rfl (meetsCased_at last)
  rw [lower, lowerAfter_append, hfirst, lowerAfter_at]

/-- Only an at sign becomes one. -/
theorem eq_at_of_mem_lowerForm (c : Char) (form : List Char) (h : LowerForm c form)
    (hmem : '@' ∈ form) : c = '@' := by
  cases h with
  | ascii hc =>
      -- A capital becomes a letter, and every other ASCII character stays.
      have hall : ∀ n : Fin 128, (Char.ofNat n).toLower = '@' → Char.ofNat n = '@' := by decide
      have hc := hall ⟨c.toNat, hc⟩
      rw [Char.ofNat_toNat] at hc
      exact hc (List.mem_singleton.mp hmem).symm
  | dotted _ => exact absurd hmem (by decide)
  | kelvin _ => exact absurd hmem (by decide)
  | other _ d hd =>
      rw [List.mem_singleton] at hmem
      exact absurd (show d.toNat < 128 by rw [← hmem]; decide) hd

/-- An at sign of the lowercase form is one of the text, and what follows it
    is the lowercase form of what follows in the text. -/
theorem exists_at_of_lowerAfter (before l first last : List Char)
    (h : lowerAfter before l = first ++ '@' :: last) :
    ∃ first' last', l = first' ++ '@' :: last' ∧ lower last' = last := by
  induction l generalizing before first with
  | nil =>
      rw [lowerAfter] at h
      exact absurd h.symm (by simp)
  | cons c l ih =>
      by_cases hc : c = '@'
      · rw [hc, lowerAfter_at] at h
        cases first with
        | nil =>
            rw [List.nil_append, List.cons.injEq] at h
            exact ⟨[], l, by rw [hc]; rfl, h.2⟩
        | cons d first =>
            rw [List.cons_append, List.cons.injEq] at h
            obtain ⟨first', last', rfl, hlast⟩ := ih [] first h.2
            exact ⟨c :: first', last', rfl, hlast⟩
      · obtain ⟨form, hform, heq⟩ := lowerAfter_cons before c l
        rw [heq] at h
        -- The at sign is not in what `c` becomes, so it comes behind that.
        rcases List.append_eq_append_iff.mp h with ⟨more, hmore, hrest⟩ | ⟨more, hmore, hrest⟩
        · obtain ⟨first', last', rfl, hlast⟩ := ih (c :: before) more hrest
          exact ⟨c :: first', last', rfl, hlast⟩
        · cases more with
          | nil =>
              obtain ⟨first', last', rfl, hlast⟩ := ih (c :: before) [] hrest.symm
              exact ⟨c :: first', last', rfl, hlast⟩
          | cons d more =>
              rw [List.cons_append, List.cons.injEq] at hrest
              refine absurd (eq_at_of_mem_lowerForm c form hform ?_) hc
              rw [hmore, hrest.1]
              simp

/-- Nothing becomes nothing. -/
theorem lower_eq_nil_iff (l : List Char) : lower l = [] ↔ l = [] := by
  cases l with
  | nil => exact iff_of_true rfl rfl
  | cons c l =>
      obtain ⟨form, hform, heq⟩ := lowerAfter_cons [] c l
      rw [lower, heq]
      cases hform <;> simp

end Text

namespace AffiliationPolicy

/-- An address is affiliated if what follows one of its at signs is a
    configured domain up to case. -/
theorem coversEmail_ofEntries_iff (domains companies : List String) (email : String) :
    (ofEntries domains companies).coversEmail email = true ↔
      ∃ first last, Text.trim email.toList = first ++ '@' :: last ∧
        ∃ entry ∈ domains, entry.toList.dropWhile (· == '@') ≠ [] ∧
          Text.lower last = Text.lower (entry.toList.dropWhile (· == '@')) := by
  have hends : ∀ domain : List Char,
      Text.endsIn ('@' :: domain) (Text.lower (Text.trim email.toList)) = true ↔
        ∃ first last, Text.trim email.toList = first ++ '@' :: last ∧ Text.lower last = domain := by
    intro domain
    rw [Text.endsIn, List.isSuffixOf_iff_suffix]
    constructor
    · rintro ⟨first, hfirst⟩
      exact Text.exists_at_of_lowerAfter [] _ first domain hfirst.symm
    · rintro ⟨first, last, hemail, rfl⟩
      rw [hemail, Text.lower_append_at]
      exact List.suffix_append _ _
  simp only [coversEmail, ofEntries, normalDomain, List.any_eq_true, List.mem_filter, List.mem_map,
    hends, Bool.not_eq_true', List.isEmpty_eq_false_iff]
  constructor
  · rintro ⟨_, ⟨⟨entry, hentry, rfl⟩, hne⟩, first, last, hemail, hlast⟩
    exact ⟨first, last, hemail, entry, hentry, mt (Text.lower_eq_nil_iff _).mpr hne, hlast⟩
  · rintro ⟨first, last, hemail, entry, hentry, hne, hlast⟩
    exact ⟨_, ⟨⟨entry, hentry, rfl⟩, mt (Text.lower_eq_nil_iff _).mp hne⟩, first, last, hemail,
      hlast⟩

end AffiliationPolicy

/-- A configured domain without the at signs in front. -/
def bareDomain (entry : String) : String :=
  String.ofList (entry.toList.dropWhile (· == '@'))

/-- The text is one of the configured domains, each taken to lowercase by
    itself. An entry without a domain stands for none. -/
def IsConfiguredDomain (domains : List String) (domain : String) : Prop :=
  ∃ entry ∈ domains, bareDomain entry ≠ "" ∧
    Text.lowercased domain = Text.lowercased (bareDomain entry)

theorem isConfiguredDomain_iff (domains : List String) (domain : String) :
    IsConfiguredDomain domains domain ↔
      ∃ entry ∈ domains, entry.toList.dropWhile (· == '@') ≠ [] ∧
        Text.lower domain.toList = Text.lower (entry.toList.dropWhile (· == '@')) := by
  simp only [IsConfiguredDomain, bareDomain, Text.lowercased, String.toList_ofList,
    String.ofList_inj, ne_eq, String.ofList_eq_empty_iff]

theorem trimmed_eq_iff (email name domain : String) :
    Text.trimmed email = name ++ "@" ++ domain ↔
      Text.trim email.toList = name.toList ++ '@' :: domain.toList := by
  rw [Text.trimmed, ← String.toList_inj, String.toList_ofList, String.toList_append,
    String.toList_append, List.append_assoc]
  rfl

/-- What follows an at sign of a text follows the first one, or else another
    one behind that. -/
theorem append_at_cases (first last first' last' : List Char) (hfirst : '@' ∉ first)
    (h : first ++ '@' :: last = first' ++ '@' :: last') :
    last' = last ∨ ∃ more, last = more ++ '@' :: last' := by
  rcases List.append_eq_append_iff.mp h with ⟨more, rfl, hmore⟩ | ⟨more, rfl, hmore⟩
  · cases more with
    | nil => exact Or.inl (List.cons.inj hmore).2.symm
    | cons d more => exact Or.inr ⟨more, (List.cons.inj hmore).2⟩
  · cases more with
    | nil => exact Or.inl (List.cons.inj hmore).2
    | cons d more =>
        rw [List.cons_append, List.cons.injEq] at hmore
        exact absurd (by rw [← hmore.1]; simp) hfirst

/-- An address is affiliated if, without white space around it, it has an at
    sign behind which a configured domain stands. With one at sign there is one
    such text, so a domain that is longer than a configured one, on either
    side, has to be configured itself. -/
theorem affiliated_by_whole_domain (domains companies : List String) (email : String) :
    ((AffiliationPolicy.ofEntries domains companies).coversEmail email = true ↔
      ∃ name domain : String, Text.trimmed email = name ++ "@" ++ domain ∧
        IsConfiguredDomain domains domain) ∧
    ∀ name domain : String, Text.trimmed email = name ++ "@" ++ domain →
      '@' ∉ name.toList → '@' ∉ domain.toList →
      ((AffiliationPolicy.ofEntries domains companies).coversEmail email = true ↔
        IsConfiguredDomain domains domain) := by
  have hcovers : (AffiliationPolicy.ofEntries domains companies).coversEmail email = true ↔
      ∃ name domain : String, Text.trimmed email = name ++ "@" ++ domain ∧
        IsConfiguredDomain domains domain := by
    rw [AffiliationPolicy.coversEmail_ofEntries_iff]
    simp only [trimmed_eq_iff, isConfiguredDomain_iff]
    constructor
    · rintro ⟨first, last, hemail, hdomain⟩
      refine ⟨String.ofList first, String.ofList last, ?_⟩
      rw [String.toList_ofList, String.toList_ofList]
      exact ⟨hemail, hdomain⟩
    · rintro ⟨name, domain, hemail, hdomain⟩
      exact ⟨name.toList, domain.toList, hemail, hdomain⟩
  refine ⟨hcovers, ?_⟩
  intro name domain hemail hname hdomain
  rw [hcovers]
  constructor
  · rintro ⟨name', domain', hemail', hconfigured⟩
    rw [trimmed_eq_iff] at hemail hemail'
    rcases append_at_cases _ _ _ _ hname (hemail.symm.trans hemail') with hsame | ⟨more, hmore⟩
    · rwa [← String.toList_inj.mp hsame]
    · exact absurd (by rw [hmore]; simp) hdomain
  · intro hconfigured
    exact ⟨name, domain, hemail, hconfigured⟩

/-- A domain of two Greek words is found in capitals and with white space around
    the address. Of its two sigmas only the last is final, since a dot does not
    end a word. A domain that only ends in a configured one is not found. -/
theorem affiliated_by_whole_domain_greek :
    Text.trimmed " dev@ΟΔΟΣ.ΑΣ\n" = "dev" ++ "@" ++ "ΟΔΟΣ.ΑΣ" ∧
      (AffiliationPolicy.ofEntries ["intel.com", "@οδοσ.ας"] []).coversEmail
        " dev@ΟΔΟΣ.ΑΣ\n" = true ∧
      ¬ (AffiliationPolicy.ofEntries ["intel.com", "@οδοσ.ας"] []).coversEmail
        "dev@notintel.com" = true := by
  have htrimmed : Text.trimmed " dev@ΟΔΟΣ.ΑΣ\n" = "dev" ++ "@" ++ "ΟΔΟΣ.ΑΣ" := by
    decide +kernel
  refine ⟨htrimmed, ?_, ?_⟩
  · rw [(affiliated_by_whole_domain _ [] _).2 "dev" "ΟΔΟΣ.ΑΣ" htrimmed (by decide) (by decide)]
    exact ⟨"@οδοσ.ας", by decide, by decide, by decide +kernel⟩
  · rw [(affiliated_by_whole_domain _ [] _).2 "dev" "notintel.com" (by decide) (by decide)
      (by decide)]
    rintro ⟨entry, hentry, -, hlower⟩
    simp only [List.mem_cons, List.not_mem_nil, or_false] at hentry
    rcases hentry with rfl | rfl
    · exact absurd hlower (by decide +kernel)
    · exact absurd hlower (by decide +kernel)

end PullTriage
