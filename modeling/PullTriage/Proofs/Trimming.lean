import Mathlib.Data.List.TakeWhile
import PullTriage.Text.Blank

/-!
# Trimming

A text is made of white space, a part that neither begins nor ends with white
space, and white space again, and there is one such part: what trimming
leaves. So trimming takes nothing from a text without white space at its
ends, whatever there is within, and nothing is left of a text exactly if all
of it is white space.

## Main definitions

* `Text.IsBare`: A text without white space at its ends.

## Theorems

* `Text.trim_surrounded`: White space around a text is trimmed.
* `Text.trim_append_cons`: Only white space in front is trimmed.
* `Text.exists_surrounded`: What is trimmed is white space around the rest.
* `Text.isBare_trim`: Nothing more could be trimmed.
* `Text.trim_eq_self`: There is nothing to trim.
* `Text.isEmpty_trim`: All of the text is trimmed.
-/

namespace PullTriage

namespace Text

/-- The text neither begins nor ends with white space. -/
structure IsBare (l : List Char) : Prop where
  first (c : Char) (h : l.head? = some c) : isBlank c = false
  last (c : Char) (h : l.getLast? = some c) : isBlank c = false

theorem isBare_of_forall (l : List Char) (h : ∀ c ∈ l, isBlank c = false) : IsBare l :=
  ⟨fun c hc => h c (List.mem_of_head? hc), fun c hc => h c (List.mem_of_getLast? hc)⟩

theorem isBare_between (c d : Char) (l : List Char) (hc : isBlank c = false)
    (hd : isBlank d = false) : IsBare (c :: (l ++ [d])) where
  first b hb := by
    rw [List.head?_cons, Option.some.injEq] at hb
    exact hb ▸ hc
  last b hb := by
    rw [← List.cons_append, List.getLast?_concat, Option.some.injEq] at hb
    exact hb ▸ hd

/-- White space around a text is trimmed, and no more if the text does not
    begin or end with white space itself. -/
theorem trim_surrounded (white l white' : List Char) (hwhite : ∀ c ∈ white, isBlank c = true)
    (hwhite' : ∀ c ∈ white', isBlank c = true)
    (hfirst : ∀ c, l.head? = some c → isBlank c = false)
    (hlast : ∀ c, l.getLast? = some c → isBlank c = false) :
    trim (white ++ (l ++ white')) = l := by
  have hdrop : ∀ (m w : List Char), (∀ c ∈ w, isBlank c = true) →
      (∀ c, m.head? = some c → isBlank c = false) → (w ++ m).dropWhile isBlank = m := by
    intro m w hw hm
    rw [List.dropWhile_append_of_pos hw]
    cases m with
    | nil => rfl
    | cons c rest => exact List.dropWhile_cons_of_neg (by rw [hm c rfl]; decide)
  unfold trim trimEnd trimStart
  -- Without the text all of the white space goes at the beginning.
  cases l with
  | nil =>
      have hall : ∀ c ∈ white ++ ([] ++ white'), isBlank c = true := fun c hc =>
        (List.mem_append.mp hc).elim (hwhite c) (hwhite' c)
      rw [List.dropWhile_eq_nil_iff.mpr hall]
      rfl
  | cons c rest =>
      rw [hdrop (c :: rest ++ white') white hwhite hfirst, List.reverse_append,
        hdrop _ white'.reverse (fun d hd => hwhite' d (List.mem_reverse.mp hd)) ?_,
        List.reverse_reverse]
      intro d hd
      rw [List.head?_reverse] at hd
      exact hlast d hd

/-- Only white space in front is taken off a text that does not end with white
    space. -/
theorem trim_append_cons (l : List Char) (c : Char) (rest : List Char)
    (hc : isBlank c = false) (hlast : ∀ d, rest.getLast? = some d → isBlank d = false) :
    trim (l ++ c :: rest) = trimStart l ++ c :: rest := by
  have htrim := trim_surrounded (l.takeWhile isBlank) (trimStart l ++ c :: rest) []
    (fun d => List.mem_takeWhile_imp) (by simp) ?_ ?_
  · rwa [List.append_nil, ← List.append_assoc, trimStart,
      List.takeWhile_append_dropWhile] at htrim
  · intro d hd
    have hstart := List.head?_dropWhile_not isBlank l
    rw [← trimStart] at hstart
    cases hl : trimStart l with
    | nil =>
        rw [hl, List.nil_append, List.head?_cons, Option.some.injEq] at hd
        exact hd ▸ hc
    | cons e more =>
        rw [hl, List.cons_append, List.head?_cons, Option.some.injEq] at hd
        rw [hl, List.head?_cons] at hstart
        exact hd ▸ hstart
  · intro d hd
    rw [List.getLast?_append, List.getLast?_cons, Option.some_or, Option.some.injEq] at hd
    cases hrest : rest.getLast? with
    | none =>
        rw [hrest, Option.getD_none] at hd
        exact hd ▸ hc
    | some e =>
        rw [hrest, Option.getD_some] at hd
        exact hd ▸ hlast e hrest

/-- The white space that is trimmed at the end of a text. -/
theorem trim_append_trailing (l : List Char) :
    trim l ++ ((trimStart l).reverse.takeWhile isBlank).reverse = trimStart l := by
  rw [trim, trimEnd, ← List.reverse_append, List.takeWhile_append_dropWhile, List.reverse_reverse]

/-- What is trimmed off a text is white space on either side of the rest. -/
theorem exists_surrounded (l : List Char) :
    ∃ white white', (∀ c ∈ white, isBlank c = true) ∧ (∀ c ∈ white', isBlank c = true) ∧
      white ++ (trim l ++ white') = l := by
  refine ⟨l.takeWhile isBlank, ((trimStart l).reverse.takeWhile isBlank).reverse,
    fun c => List.mem_takeWhile_imp, fun c hc => List.mem_takeWhile_imp (List.mem_reverse.mp hc), ?_⟩
  rw [trim_append_trailing]
  exact List.takeWhile_append_dropWhile

/-- What is left after trimming has no white space at its ends. -/
theorem isBare_trim (l : List Char) : IsBare (trim l) where
  first c hc := by
    -- The beginning of what is left is that of the text without its leading white space.
    have hstart := List.head?_dropWhile_not isBlank l
    have hhead : (trimStart l).head? = some c := by
      rw [← trim_append_trailing, List.head?_append, hc, Option.some_or]
    rw [trimStart] at hhead
    rw [hhead] at hstart
    exact hstart
  last c hc := by
    have hend := List.head?_dropWhile_not isBlank (trimStart l).reverse
    rw [trim, trimEnd, List.getLast?_reverse] at hc
    rw [hc] at hend
    exact hend

/-- Nothing is trimmed off a text without white space at its ends. -/
theorem trim_eq_self (l : List Char) (h : IsBare l) : trim l = l := by
  have htrim := trim_surrounded [] l [] (by simp) (by simp) h.first h.last
  rwa [List.nil_append, List.append_nil] at htrim

/-- Nothing is left of a text without the blanks around it if all of it is
    blank. -/
theorem isEmpty_trim (l : List Char) :
    (trim l).isEmpty = true ↔ ∀ c ∈ l, isBlank c = true := by
  obtain ⟨white, white', hwhite, hwhite', hl⟩ := exists_surrounded l
  constructor
  · intro hempty c hc
    rw [← hl, List.isEmpty_iff.mp hempty, List.nil_append] at hc
    exact (List.mem_append.mp hc).elim (hwhite c) (hwhite' c)
  · intro hall
    rw [List.isEmpty_iff, List.eq_nil_iff_forall_not_mem]
    intro c hc
    -- What is left has a first character, which is not blank.
    cases htrim : trim l with
    | nil => exact absurd (htrim ▸ hc) List.not_mem_nil
    | cons d rest =>
        have hd := (isBare_trim l).first d (by rw [htrim]; rfl)
        rw [hall d (by rw [← hl, htrim]; simp)] at hd
        exact absurd hd (by decide)

end Text

end PullTriage
