import PullTriage.Text.Lowercase

/-!
# Lowercase in Context

A part of a text does not always become in the text what it becomes alone,
since a capital sigma looks at the letters around it. What stands around the
part counts only by whether a cased character is met on either side, before a
character that interrupts the word (`lowerWithin_congr`). And even that counts
only for a sigma at the edge of the part: one between the beginning and the
first character that interrupts a word sees what stands before the part, and
one between the last such character and the end sees what stands behind it.

So there are two ways in which a part is sure to read the same alone: it has
no sigma at the edge, or the word does not go on there (`StandsAlone`). How
long the part becomes does not depend on the context at all.

## Main definitions

* `Text.lowerWithin`: What a part of a text becomes between two others.
* `Text.OpensWithSigma`, `Text.ClosesWithSigma`: A sigma at the edge.
* `Text.StandsAlone`: A part that reads the same as alone.

## Theorems

* `Text.lowerAfter_append`: A text in two parts.
* `Text.lowerWithin_congr`: What the context counts by.
* `Text.lowerWithin_of_not_opens`, `Text.lowerWithin_of_not_closes`: Where it
  does not count.
* `Text.lower_infix_of_standsAlone`: A part that stands alone is found.
* `Text.length_lower_append`: The lengths of the parts add up.
-/

namespace PullTriage

namespace Text

/-- What a part of a text becomes between what stands before it, given from
    the last character back, and what stands behind it. -/
def lowerWithin (before : List Char) : List Char → List Char → List Char
  | [], _ => []
  | c :: rest, after =>
    (if c = 'Σ' then [if meetsCased before && !meetsCased (rest ++ after) then 'ς' else 'σ']
      else lowerChar c) ++ lowerWithin (c :: before) rest after

/-- The part has a capital sigma that sees what stands before the part. -/
def OpensWithSigma (l : List Char) : Prop :=
  ∃ first last, l = first ++ 'Σ' :: last ∧ ∀ c ∈ first, isCaseIgnorable c = true

/-- The part has a capital sigma that sees what stands behind the part. -/
def ClosesWithSigma (l : List Char) : Prop :=
  ∃ first last, l = first ++ 'Σ' :: last ∧ ∀ c ∈ last, isCaseIgnorable c = true

/-- The part has no sigma at an edge where the word goes on. -/
structure StandsAlone (before l after : List Char) : Prop where
  opens (h : OpensWithSigma l) : meetsCased before.reverse = false
  closes (h : ClosesWithSigma l) : meetsCased after = false

/-- A part without a capital sigma stands alone. -/
theorem standsAlone_of_not_mem (before l after : List Char) (h : 'Σ' ∉ l) :
    StandsAlone before l after where
  opens := by
    rintro ⟨first, last, rfl, -⟩
    exact absurd (by simp) h
  closes := by
    rintro ⟨first, last, rfl, -⟩
    exact absurd (by simp) h

/-- What a text of two parts becomes, from any place on. -/
theorem lowerAfter_append (before l after : List Char) :
    lowerAfter before (l ++ after) =
      lowerWithin before l after ++ lowerAfter (l.reverse ++ before) after := by
  induction l generalizing before with
  | nil => rfl
  | cons c l ih =>
      rw [List.cons_append, lowerAfter, lowerWithin, ih, List.append_assoc, List.reverse_cons,
        List.append_assoc, List.singleton_append]

theorem lowerWithin_nil (before l : List Char) :
    lowerWithin before l [] = lowerAfter before l := by
  have happend := lowerAfter_append before l []
  rw [List.append_nil, lowerAfter, List.append_nil] at happend
  exact happend.symm

theorem meetsCased_cons (c : Char) (l : List Char) :
    meetsCased (c :: l) = if isCaseIgnorable c = true then meetsCased l else isCased c := by
  by_cases hc : isCaseIgnorable c = true
  · rw [meetsCased, List.dropWhile_cons_of_pos hc, if_pos hc, meetsCased]
  · rw [meetsCased, List.dropWhile_cons_of_neg hc, if_neg hc]

/-- What is met behind a text counts by itself. -/
theorem meetsCased_append_congr (l m m' : List Char) (h : meetsCased m = meetsCased m') :
    meetsCased (l ++ m) = meetsCased (l ++ m') := by
  induction l with
  | nil => exact h
  | cons c l ih => rw [List.cons_append, List.cons_append, meetsCased_cons, meetsCased_cons, ih]

/-- Nothing is met behind a text that interrupts a word. -/
theorem meetsCased_append_of_not_ignorable (l m : List Char)
    (h : ¬ ∀ c ∈ l, isCaseIgnorable c = true) : meetsCased (l ++ m) = meetsCased l := by
  induction l with
  | nil => exact absurd (fun _ hc => absurd hc List.not_mem_nil) h
  | cons c l ih =>
      rw [List.cons_append, meetsCased_cons, meetsCased_cons]
      by_cases hc : isCaseIgnorable c = true
      · rw [if_pos hc, if_pos hc]
        apply ih
        intro hall
        exact h (List.forall_mem_cons.mpr ⟨hc, hall⟩)
      · rw [if_neg hc, if_neg hc]

/-- What stands around a part counts by whether a cased character is met. -/
theorem lowerWithin_congr (before before' l after after' : List Char)
    (hbefore : meetsCased before = meetsCased before')
    (hafter : meetsCased after = meetsCased after') :
    lowerWithin before l after = lowerWithin before' l after' := by
  induction l generalizing before before' with
  | nil => rfl
  | cons c l ih =>
      have hcons : meetsCased (c :: before) = meetsCased (c :: before') := by
        rw [meetsCased_cons, meetsCased_cons, hbefore]
      rw [lowerWithin, lowerWithin, hbefore, meetsCased_append_congr l after after' hafter,
        ih _ _ hcons]

/-- What stands before a part counts only for a sigma at its beginning. -/
theorem lowerWithin_of_not_opens (before before' l after : List Char) (h : ¬ OpensWithSigma l) :
    lowerWithin before l after = lowerWithin before' l after := by
  induction l generalizing before before' with
  | nil => rfl
  | cons c l ih =>
      have hc : c ≠ 'Σ' := by
        rintro rfl
        exact h ⟨[], l, rfl, fun _ hd => absurd hd List.not_mem_nil⟩
      rw [lowerWithin, lowerWithin, if_neg hc, if_neg hc]
      by_cases hignorable : isCaseIgnorable c = true
      · -- The character is passed over, so a sigma at the beginning of the rest would be one here.
        rw [ih (c :: before) (c :: before')]
        rintro ⟨first, last, rfl, hfirst⟩
        exact h ⟨c :: first, last, rfl, List.forall_mem_cons.mpr ⟨hignorable, hfirst⟩⟩
      · -- Behind the character nothing before it is seen.
        rw [lowerWithin_congr (c :: before) (c :: before') l after after _ rfl]
        rw [meetsCased_cons, meetsCased_cons, if_neg hignorable, if_neg hignorable]

/-- What stands behind a part counts only for a sigma at its end. -/
theorem lowerWithin_of_not_closes (before l after after' : List Char)
    (h : ¬ ClosesWithSigma l) : lowerWithin before l after = lowerWithin before l after' := by
  induction l generalizing before with
  | nil => rfl
  | cons c l ih =>
      have hrest : ¬ ClosesWithSigma l := by
        rintro ⟨first, last, rfl, hlast⟩
        exact h ⟨c :: first, last, rfl, hlast⟩
      rw [lowerWithin, lowerWithin, ih (c :: before) hrest]
      by_cases hc : c = 'Σ'
      · -- The rest interrupts the word, and what is behind it is not seen.
        have hseen : ¬ ∀ d ∈ l, isCaseIgnorable d = true := by
          intro hall
          exact h ⟨[], l, by rw [hc]; rfl, hall⟩
        rw [meetsCased_append_of_not_ignorable l after hseen,
          meetsCased_append_of_not_ignorable l after' hseen]
      · rw [if_neg hc, if_neg hc]

/-- What a part that stands alone becomes is found in what the text becomes. -/
theorem lower_infix_of_standsAlone (before l after : List Char) (h : StandsAlone before l after) :
    lower l <:+: lower (before ++ (l ++ after)) := by
  have hopens : lowerWithin (before.reverse ++ []) l after = lowerWithin [] l after := by
    rw [List.append_nil]
    by_cases hsigma : OpensWithSigma l
    · exact lowerWithin_congr _ _ l after after (h.opens hsigma) rfl
    · exact lowerWithin_of_not_opens _ _ l after hsigma
  have hcloses : lowerWithin [] l after = lower l := by
    rw [lower, ← lowerWithin_nil]
    by_cases hsigma : ClosesWithSigma l
    · exact lowerWithin_congr [] [] l after [] rfl (h.closes hsigma)
    · exact lowerWithin_of_not_closes [] l after [] hsigma
  rw [lower, lower, lowerAfter_append, lowerAfter_append, hopens, hcloses]
  exact ⟨_, _, List.append_assoc _ _ _⟩

/-- The context chooses between letters and not how many there are. -/
theorem length_lowerWithin (before before' l after after' : List Char) :
    (lowerWithin before l after).length = (lowerWithin before' l after').length := by
  induction l generalizing before before' with
  | nil => rfl
  | cons c l ih =>
      rw [lowerWithin, lowerWithin, List.length_append, List.length_append,
        ih (c :: before) (c :: before')]
      by_cases hc : c = 'Σ'
      · rw [if_pos hc, if_pos hc]
        rfl
      · rw [if_neg hc, if_neg hc]

/-- A text of two parts becomes as long as the parts become alone. -/
theorem length_lower_append (l m : List Char) :
    (lower (l ++ m)).length = (lower l).length + (lower m).length := by
  rw [lower, lowerAfter_append, List.length_append, lower, lower, ← lowerWithin_nil [] l,
    ← lowerWithin_nil [] m, ← lowerWithin_nil _ m, length_lowerWithin [] [] l m [],
    length_lowerWithin (l.reverse ++ []) [] m [] []]

end Text

end PullTriage
