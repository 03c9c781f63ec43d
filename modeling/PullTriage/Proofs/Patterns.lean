import Mathlib.Data.List.Basic

/-!
# Patterns of Names

A convention for names can be given as a pattern: fixed characters, and gaps
in which characters of a class stand and whose content is remembered. A text
may fit a pattern in several ways that remember different things, so a
pattern means an order in which the ways are tried. A gap takes as many
characters as it can, and gives them back one at a time while what follows it
does not fit. A place further on in the text is tried only if nothing fits
where the search stands.

`ways` lists the ways at one place in this order, the content of the gaps for
each, and trying the next way is going on in the list. A search answers with
the first way at the first place that has one.

For a pattern that is tied to the beginning of the text and has one gap, the
order comes to a condition without it: what is remembered is the longest
content with which the text fits (`search_around_eq_some_iff`). Nothing is
asked of the texts around the gap, which may occur in the content too.

## Main definitions

* `PatternPart`: What a pattern is made of.
* `PatternPart.fillings`: The ways to fill a gap.
* `PatternPart.ways`: The ways in which a pattern fits at a place.
* `PatternPart.search`: What is remembered of a text.
* `PatternPart.around`: The pattern of a gap between two given texts.
* `PatternPart.Fills`: The contents of the gap with which a text fits.

## Theorems

* `mem_fillings`: What a gap can be filled with.
* `fillings_descending`: Longer contents are tried first.
* `search_start`: A pattern tied to the beginning fits there or nowhere.
* `search_around`: The search for a gap between two texts.
* `search_around_eq_some_iff`: The longest content is remembered.
* `search_around_eq_none_iff`: No content is remembered.
-/

namespace PullTriage

/-- A part of a pattern. -/
inductive PatternPart where
  /-- The beginning of the text. -/
  | start
  /-- The given character. -/
  | letter (c : Char)
  /-- One or more characters of a class, as many as possible, which are
      remembered. -/
  | gap (allowed : Char → Bool)

namespace PatternPart

/-- The ways to fill a gap from the front of a text, each with the rest of the
    text. -/
def fillings (allowed : Char → Bool) : List Char → List (List Char × List Char)
  | [] => []
  | c :: rest =>
    if allowed c then
      (fillings allowed rest).map (fun way => (c :: way.1, way.2)) ++ [([c], rest)]
    else []

/-- The ways in which a pattern fits at a place of a text: what the gaps are
    filled with. The flag says whether the place is the beginning. -/
def ways (atStart : Bool) : List PatternPart → List Char → List (List (List Char))
  | [], _ => [[]]
  | start :: parts, text => if atStart then ways atStart parts text else []
  | letter _ :: _, [] => []
  | letter c :: parts, d :: text => if d = c then ways false parts text else []
  | gap allowed :: parts, text =>
    (fillings allowed text).flatMap fun way => (ways false parts way.2).map (way.1 :: ·)

/-- What is remembered when a pattern is searched for in a text, from a place
    on. -/
def search (atStart : Bool) (parts : List PatternPart) : List Char → Option (List (List Char))
  | [] => (ways atStart parts []).head?
  | c :: rest => (ways atStart parts (c :: rest)).head?.or (search false parts rest)

/-- A gap between two given texts, the first of which begins the text. -/
def around (lead : List Char) (allowed : Char → Bool) (ending : List Char) : List PatternPart :=
  start :: (lead.map letter ++ gap allowed :: ending.map letter)

/-- The text fits the pattern with the given content of the gap, and may go on
    after it. -/
structure Fills (lead : List Char) (allowed : Char → Bool) (ending text content : List Char) :
    Prop where
  nonempty : content ≠ []
  allowed : ∀ c ∈ content, allowed c = true
  fits : lead ++ (content ++ ending) <+: text

variable (allowed : Char → Bool)

theorem fillings_cons_of_pos (c : Char) (rest : List Char) (h : allowed c = true) :
    fillings allowed (c :: rest) =
      (fillings allowed rest).map (fun way => (c :: way.1, way.2)) ++ [([c], rest)] := by
  rw [fillings, if_pos h]

theorem fillings_cons_of_neg (c : Char) (rest : List Char) (h : ¬ allowed c = true) :
    fillings allowed (c :: rest) = [] := by
  rw [fillings, if_neg h]

theorem mem_fillings (text content rest : List Char) :
    (content, rest) ∈ fillings allowed text ↔
      content ≠ [] ∧ (∀ c ∈ content, allowed c = true) ∧ content ++ rest = text := by
  induction text generalizing content with
  | nil =>
      simp only [fillings, List.not_mem_nil, List.append_eq_nil_iff, false_iff]
      intro h
      exact h.1 h.2.2.1
  | cons c text ih =>
      by_cases hc : allowed c = true
      · rw [fillings_cons_of_pos allowed c text hc, List.mem_append, List.mem_map, List.mem_singleton]
        constructor
        · rintro (⟨⟨content, rest⟩, hmem, heq⟩ | heq)
          · obtain ⟨-, hall, htext⟩ := (ih content).mp ((Prod.mk.inj heq).2 ▸ hmem)
            obtain ⟨rfl, rfl⟩ := Prod.mk.inj heq
            exact ⟨List.cons_ne_nil _ _, List.forall_mem_cons.mpr ⟨hc, hall⟩, by
              rw [List.cons_append, htext]⟩
          · obtain ⟨rfl, rfl⟩ := Prod.mk.inj heq
            exact ⟨List.cons_ne_nil _ _, List.forall_mem_singleton.mpr hc, rfl⟩
        · rintro ⟨hne, hall, htext⟩
          cases content with
          | nil => exact absurd rfl hne
          | cons d content =>
              rw [List.cons_append, List.cons.injEq] at htext
              obtain ⟨rfl, htext⟩ := htext
              -- The last way takes one character, and the others go on.
              cases content with
              | nil => exact Or.inr (Prod.ext rfl htext)
              | cons e content =>
                  refine Or.inl ⟨(e :: content, rest), (ih _).mpr ⟨List.cons_ne_nil _ _, ?_, htext⟩,
                    rfl⟩
                  exact (List.forall_mem_cons.mp hall).2
      · rw [fillings_cons_of_neg allowed c text hc]
        simp only [List.not_mem_nil, false_iff]
        rintro ⟨hne, hall, htext⟩
        cases content with
        | nil => exact hne rfl
        | cons d content =>
            rw [List.cons_append, List.cons.injEq] at htext
            exact hc (htext.1 ▸ hall d List.mem_cons_self)

/-- A gap takes as many characters as it can before it takes fewer. -/
theorem fillings_descending (text : List Char) :
    (fillings allowed text).Pairwise fun way other => other.1.length < way.1.length := by
  induction text with
  | nil => exact List.Pairwise.nil
  | cons c text ih =>
      by_cases hc : allowed c = true
      · rw [fillings_cons_of_pos allowed c text hc, List.pairwise_append, List.pairwise_map]
        refine ⟨ih.imp fun h => Nat.succ_lt_succ h, List.pairwise_singleton _ _, ?_⟩
        intro way hway last hlast
        obtain ⟨⟨content, rest⟩, hmem, rfl⟩ := List.mem_map.mp hway
        obtain rfl := List.mem_singleton.mp hlast
        have hne := ((mem_fillings allowed text content rest).mp hmem).1
        simp only [List.length_cons, List.length_nil]
        have := List.length_pos_iff.mpr hne
        omega
      · rw [fillings_cons_of_neg allowed c text hc]
        exact List.Pairwise.nil

/-- Given characters that are all that is left of a pattern. -/
theorem ways_letters (atStart : Bool) (ending text : List Char) :
    ways atStart (ending.map letter) text = if ending <+: text then [[]] else [] := by
  induction ending generalizing atStart text with
  | nil => rw [if_pos List.nil_prefix, List.map_nil, ways]
  | cons c ending ih =>
      cases text with
      | nil => rw [List.map_cons, ways, if_neg (by simp only [List.prefix_nil, reduceCtorEq,
          not_false_eq_true])]
      | cons d text =>
          rw [List.map_cons, ways, ih]
          simp only [List.cons_prefix_cons, eq_comm (a := d)]
          by_cases hc : c = d
          · simp only [hc, true_and, if_true]
          · simp only [hc, false_and, if_false]

/-- Given characters are there, and the rest of the pattern fits behind them. -/
theorem ways_letters_append (lead : List Char) (parts : List PatternPart) (text : List Char)
    (hlead : lead ≠ []) (atStart : Bool) :
    ways atStart (lead.map letter ++ parts) text =
      if lead <+: text then ways false parts (text.drop lead.length) else [] := by
  induction lead generalizing atStart text with
  | nil => exact absurd rfl hlead
  | cons c lead ih =>
      cases text with
      | nil => rw [List.map_cons, List.cons_append, ways, if_neg (by simp only [List.prefix_nil,
          reduceCtorEq, not_false_eq_true])]
      | cons d text =>
          rw [List.map_cons, List.cons_append, ways]
          simp only [List.cons_prefix_cons, eq_comm (a := d), List.length_cons, List.drop_succ_cons]
          by_cases hc : c = d
          · simp only [hc, true_and, if_true]
            by_cases hempty : lead = []
            · simp only [hempty, List.map_nil, List.nil_append, List.nil_prefix, if_true,
                List.length_nil, List.drop_zero]
            · exact ih text hempty false
          · simp only [hc, false_and, if_false]

/-- A pattern that is tied to the beginning of the text fits there or not at
    all. -/
theorem search_start (parts : List PatternPart) (text : List Char) :
    search true (start :: parts) text = (ways true parts text).head? := by
  have hlater : ∀ text, search false (start :: parts) text = none := by
    intro text
    induction text with
    | nil => rfl
    | cons c text ih => rw [search, ih, ways, if_neg (by decide)]; rfl
  cases text with
  | nil => rfl
  | cons c text => rw [search, hlater, Option.or_none, ways, if_pos rfl]

/-- The first content of the gap behind which the ending stands. -/
theorem search_around (lead ending text : List Char) (hlead : lead ≠ []) :
    search true (around lead allowed ending) text =
      if lead <+: text then
        ((fillings allowed (text.drop lead.length)).find? fun way => ending.isPrefixOf way.2).map
          fun way => [way.1]
      else none := by
  rw [around, search_start, ways_letters_append _ _ _ hlead]
  by_cases hprefix : lead <+: text
  · rw [if_pos hprefix, if_pos hprefix, ways]
    induction fillings allowed (text.drop lead.length) with
    | nil => rfl
    | cons way more ih =>
        rw [List.flatMap_cons, List.head?_append, ih, ways_letters, List.find?_cons]
        by_cases hway : ending <+: way.2
        · rw [if_pos hway, List.isPrefixOf_iff_prefix.mpr hway]
          rfl
        · rw [if_neg hway, Bool.eq_false_iff.mpr (mt List.isPrefixOf_iff_prefix.mp hway)]
          rfl
  · rw [if_neg hprefix, if_neg hprefix]
    rfl

/-- In a list that descends, the first member with a property is the greatest
    that has it. -/
theorem find?_eq_some_iff_greatest {α : Type} (size : α → Nat) (p : α → Bool) (l : List α)
    (h : l.Pairwise fun a b => size b < size a) (a : α) :
    l.find? p = some a ↔ (a ∈ l ∧ p a = true) ∧ ∀ b ∈ l, p b = true → size b ≤ size a := by
  induction l with
  | nil => simp only [List.find?_nil, reduceCtorEq, List.not_mem_nil, false_and]
  | cons b l ih =>
      obtain ⟨hb, hl⟩ := List.pairwise_cons.mp h
      rw [List.find?_cons]
      by_cases hpb : p b = true
      · rw [hpb]
        simp only [Option.some.injEq]
        constructor
        · rintro rfl
          refine ⟨⟨List.mem_cons_self, hpb⟩, ?_⟩
          intro c hc _
          rcases List.mem_cons.mp hc with rfl | hc
          · exact Nat.le_refl _
          · exact Nat.le_of_lt (hb c hc)
        · rintro ⟨⟨hmem, -⟩, hgreatest⟩
          -- A later member is smaller than `b`, which has the property.
          rcases List.mem_cons.mp hmem with rfl | hmem
          · rfl
          · have := hb a hmem
            have := hgreatest b List.mem_cons_self hpb
            omega
      · rw [Bool.eq_false_iff.mpr hpb]
        simp only [ih hl, List.mem_cons, forall_eq_or_imp, hpb, false_implies, true_and,
          Bool.false_eq_true]
        refine and_congr_left fun _ => and_congr_left fun hpa => (or_iff_right ?_).symm
        rintro rfl
        exact hpb hpa

/-- A filling of the gap with the ending behind it is a content with which the
    text fits. -/
theorem fills_iff_mem_fillings (lead ending body content : List Char) :
    Fills lead allowed ending (lead ++ body) content ↔
      ∃ rest, (content, rest) ∈ fillings allowed body ∧ ending.isPrefixOf rest = true := by
  simp only [mem_fillings, List.isPrefixOf_iff_prefix]
  constructor
  · rintro ⟨hne, hall, hfits⟩
    rw [List.prefix_append_right_inj] at hfits
    obtain ⟨more, hmore⟩ := hfits
    refine ⟨ending ++ more, ⟨hne, hall, ?_⟩, List.prefix_append _ _⟩
    rw [← hmore, List.append_assoc]
  · rintro ⟨rest, ⟨hne, hall, rfl⟩, hending⟩
    refine ⟨hne, hall, ?_⟩
    rw [List.prefix_append_right_inj, List.prefix_append_right_inj]
    exact hending

/-- What is remembered is the longest content of the gap with which the text
    fits. -/
theorem search_around_eq_some_iff (lead ending text : List Char) (hlead : lead ≠ [])
    (captures : List (List Char)) :
    search true (around lead allowed ending) text = some captures ↔
      ∃ content, captures = [content] ∧ Fills lead allowed ending text content ∧
        ∀ other, Fills lead allowed ending text other → other.length ≤ content.length := by
  rw [search_around allowed lead ending text hlead]
  by_cases hprefix : lead <+: text
  · obtain ⟨body, rfl⟩ := hprefix
    rw [if_pos (List.prefix_append lead body), List.drop_left]
    have hfind := find?_eq_some_iff_greatest (fun way : List Char × List Char => way.1.length)
      (fun way => ending.isPrefixOf way.2) _ (fillings_descending allowed body)
    rw [Option.map_eq_some_iff]
    simp only [fills_iff_mem_fillings]
    constructor
    · rintro ⟨⟨content, rest⟩, hway, rfl⟩
      obtain ⟨⟨hmem, hending⟩, hgreatest⟩ := (hfind _).mp hway
      refine ⟨content, rfl, ⟨rest, hmem, hending⟩, ?_⟩
      rintro other ⟨rest', hmem', hending'⟩
      exact hgreatest _ hmem' hending'
    · rintro ⟨content, rfl, ⟨rest, hmem, hending⟩, hlongest⟩
      refine ⟨(content, rest), (hfind _).mpr ⟨⟨hmem, hending⟩, ?_⟩, rfl⟩
      rintro ⟨other, rest'⟩ hmem' hending'
      exact hlongest other ⟨rest', hmem', hending'⟩
  · rw [if_neg hprefix]
    simp only [reduceCtorEq, false_iff, not_exists, not_and]
    intro content _ hcontent
    exact absurd ((List.prefix_append _ _).trans hcontent.fits) hprefix

/-- Nothing is remembered of a text that does not fit. -/
theorem search_around_eq_none_iff (lead ending text : List Char) (hlead : lead ≠ []) :
    search true (around lead allowed ending) text = none ↔
      ∀ content, ¬ Fills lead allowed ending text content := by
  rw [search_around allowed lead ending text hlead]
  by_cases hprefix : lead <+: text
  · obtain ⟨body, rfl⟩ := hprefix
    rw [if_pos (List.prefix_append lead body), List.drop_left, Option.map_eq_none_iff,
      List.find?_eq_none]
    simp only [fills_iff_mem_fillings, not_exists, not_and, Prod.forall]
  · rw [if_neg hprefix]
    simp only [true_iff]
    intro content hcontent
    exact hprefix ((List.prefix_append _ _).trans hcontent.fits)

end PatternPart

end PullTriage
