import PullTriage.Proofs.FileEntries
import PullTriage.Proofs.Overrides

/-!
# Texts as Values of a File

A text can be written where the value of a property stands in a file. It is a
value there if the file then has that property and no other, and which value
it is does not depend on what is around it.

The same text can be given to a property as an override, and an override of a
whole number is not read by the grammar of files. It is laxer in some ways, and
in one way it is stricter: with its sign the number has to fit into 64 bits,
while a file may also hold numbers that need all 64 bits without one. So a
whole number of a file is the same number as an override if it is below
`2 ^ 63`, and otherwise no number at all (`Literal.readInt?_of_inFile`).

## Main definitions

* `InFile`: A text that is a value in a file.

## Theorems

* `tree_of_inFile`: The text is read as that value by itself.
* `InFile.unique`: It is no other value.
* `inFile_compact`: The text that a value is printed as.
* `Numeral.toJson?_eq_int`: Which numerals are whole numbers.
* `Literal.readInt?_of_inFile`: A whole number of a file as an override.
-/

namespace PullTriage

open Json

/-- The text is a value where it stands as the value of a property in a
    file. -/
def InFile (text : String) (v : Json) : Prop :=
  ∃ path, parseEntries path ("\x7b\"A\":" ++ text ++ "\x7d") = .ok [("A", v)]

namespace Json

/-- In front of what is no white space there is none. -/
theorem blanks_eq_nil {w : List Char} (hw : Blanks w) {c : Char} (hc : ¬ IsBlank c)
    {s rest : Source} (h : w.map some ++ s = some c :: rest) : w = [] := by
  cases w with
  | nil => rfl
  | cons b w =>
      rw [List.map_cons, List.cons_append, List.cons.injEq, Option.some.injEq] at h
      exact absurd (h.1 ▸ hw b List.mem_cons_self) hc

/-- Behind a brace at the end of a source there is no white space. -/
theorem blanks_eq_nil_of_brace {w : List Char} (hw : Blanks w) {s s' : Source}
    (h : s ++ [some '\x7d'] = s' ++ some '\x7d' :: w.map some) : w = [] ∧ s = s' := by
  rcases List.eq_nil_or_concat w with rfl | ⟨l, c, hconcat⟩
  · exact ⟨rfl, List.append_cancel_right h⟩
  · -- The last character of the source would be blank.
    rw [List.concat_eq_append] at hconcat
    rw [hconcat, List.map_append, List.map_singleton, ← List.cons_append, ← List.append_assoc] at h
    have hbrace : (some '\x7d' : Option Char) = some c :=
      List.singleton_inj.mp (List.append_inj_right' h rfl)
    have hblank : IsBlank c := hw c (hconcat ▸ List.mem_append_right l List.mem_cons_self)
    rw [← Option.some.inj hbrace] at hblank
    exact absurd hblank (by decide)

/-- A string of one letter. -/
theorem readString_letter (rest : Source) :
    readString (some 'A' :: some '"' :: rest) = some ([some 'A'], rest) := by
  refine (readString_eq_some_iff _ _ _).mpr ⟨[some 'A'], ⟨[.char 'A'], ?_, rfl⟩, rfl⟩
  exact .plain 'A' [] [] (by decide) (by decide) (by decide) .nil

/-- The value of the only member of an object, whose name is one letter. -/
theorem ofSource?_of_object {s : Source} {key : Raw} {t : Tree}
    (h : Tree.ofSource? (some '\x7b' :: some '"' :: some 'A' :: some '"' :: some ':' ::
      (s ++ [some '\x7d'])) = some (.object [(key, t)])) : Tree.ofSource? s = some t := by
  rcases (Tree.ofSource?_eq_some_iff _ _).mp h with ⟨v, used, w, hv, hused, hw, hsource⟩
  -- The grammar allows white space in four places where the source has none.
  obtain rfl := blanks_eq_nil hv (by decide) hsource.symm
  rw [List.map_nil, List.nil_append] at hsource
  cases hused with
  | object _ body hbody =>
      cases hbody with
      | last _ _ hmember =>
          cases hmember with
          | mk _ _ u keySource v' w' value x hu hkey hv' hw' hvalue hx =>
              simp only [List.append_assoc, List.cons_append, List.cons.injEq, true_and]
                at hsource
              obtain rfl := blanks_eq_nil hu (by decide) hsource.symm
              simp only [List.map_nil, List.nil_append, List.cons.injEq, true_and] at hsource
              -- Where the name ends is what reading it says, not its spelling.
              have hread := (readString_eq_some_iff _ key _).mpr ⟨keySource, hkey, hsource⟩
              rw [readString_letter, Option.some.injEq, Prod.mk.injEq] at hread
              have hcolon := hread.2
              obtain rfl := blanks_eq_nil hv' (by decide) hcolon.symm
              simp only [List.map_nil, List.nil_append, List.cons.injEq, true_and] at hcolon
              rw [← List.append_assoc, ← List.append_assoc] at hcolon
              rcases blanks_eq_nil_of_brace hw hcolon with ⟨-, rfl⟩
              rw [List.append_assoc]
              exact (Tree.ofSource?_eq_some_iff _ _).mpr ⟨w', value, x, hw', hvalue, hx, rfl⟩
      | more _ _ _ _ _ hrest => cases hrest

end Json

/-- Values of members are one for each of them. -/
theorem members_of_singleton {limit : Nat} {members : List (Raw × Tree)} {entry : String × Json}
    (h : Tree.membersToJson? limit members = some [entry]) :
    ∃ key t, members = [(key, t)] ∧ t.toJsonWithin? limit = some entry.2 := by
  cases members with
  | nil => simp only [Tree.membersToJson?, Option.some.injEq, List.nil_eq, reduceCtorEq] at h
  | cons member rest =>
      rcases member with ⟨key, t⟩
      simp only [Tree.membersToJson?, Option.bind_eq_bind, Option.bind_eq_some_iff,
        Option.pure_def, Option.some.injEq, List.cons.injEq] at h
      rcases h with ⟨name, -, v, hv, entries, hentries, rfl, rfl⟩
      cases rest with
      | nil => exact ⟨key, t, rfl, hv⟩
      | cons other more =>
          simp only [Tree.membersToJson?, Option.bind_eq_bind, Option.bind_eq_some_iff,
            Option.pure_def, Option.some.injEq, reduceCtorEq, and_false, exists_false]
            at hentries

/-- A text that is a value in a file is that value by itself. -/
theorem tree_of_inFile {text : String} {v : Json} (h : InFile text v) :
    ∃ t, Tree.ofSource? (Source.ofString text) = some t ∧
      t.toJsonWithin? (nestingLimit - 1) = some v := by
  rcases h with ⟨path, h⟩
  have hsource : skipBlank (Source.ofString ("\x7b\"A\":" ++ text ++ "\x7d"))
      = some '\x7b' :: some '"' :: some 'A' :: some '"' :: some ':' ::
        (Source.ofString text ++ [some '\x7d']) := by
    unfold Source.ofString
    rw [String.toList_append, String.toList_append, List.map_append, List.map_append]
    exact skipBlank_cons '\x7b' (by decide) _
  unfold parseEntries at h
  simp only [hsource] at h
  split at h
  · next members htree =>
    split at h
    · next entries hentries =>
      rw [Except.ok.inj h] at hentries
      rcases members_of_singleton hentries with ⟨key, t, rfl, hv⟩
      exact ⟨t, ofSource?_of_object htree, hv⟩
    · simp only [reduceCtorEq] at h
  · simp only [reduceCtorEq] at h

/-- A text is one value in a file at most. -/
theorem InFile.unique {text : String} {v v' : Json} (h : InFile text v) (h' : InFile text v') :
    v = v' := by
  rcases tree_of_inFile h with ⟨t, ht, hv⟩
  rcases tree_of_inFile h' with ⟨t', ht', hv'⟩
  rw [ht, Option.some.injEq] at ht'
  rw [← ht', hv, Option.some.injEq] at hv'
  exact hv'

/-- The compact text of a value is that value in a file. -/
theorem inFile_compact {v : Json} (h : Plain (nestingLimit - 1) v) : InFile v.compact v := by
  rcases exists_tree_of_plain h with ⟨t, ht, hvalue⟩
  have hobject : tree? (.object [("A", v)]) = some (.ofMembers [("A", t)]) := by
    rw [tree?, memberTrees?, ht]
    rfl
  have hfile : FileSpelling [("A", v)] (Json.print (.object [("A", v)])) := by
    have hspelled := FileSpelling.mk [("A", t, v)] [] _ [] blanks_nil
      (List.forall_mem_singleton.mpr hvalue) (spelling_print _ _ hobject) blanks_nil
    rwa [List.nil_append, List.append_nil] at hspelled
  have htext : "\x7b\"A\":" ++ v.compact ++ "\x7d"
      = String.ofList (Json.print (.object [("A", v)])) := by
    apply String.toList_injective
    simp only [String.toList_append, compact, String.toList_ofList, List.append_assoc]
    rfl
  exact ⟨"", htext ▸ parseEntries_of_spelling "" (List.forall_mem_singleton.mpr h) hfile⟩

theorem inFile_int {text : String} {n : Int} (htext : Json.compact (.int n) = text)
    (hlow : -(Nat.pow 2 63 : Int) ≤ n) (hhigh : n < Nat.pow 2 64) : InFile text (.int n) :=
  htext ▸ inFile_compact (.int _ n hlow hhigh)

/-- Whole numbers have neither point nor exponent. Minus zero is none. -/
theorem Json.Numeral.toJson?_eq_int {numeral : Numeral} {n : Int}
    (h : numeral.toJson? = some (.int n)) :
    numeral.fraction = none ∧ numeral.exponent = none ∧
      (numeral.negative = true → Nat.ofDigitChars 10 numeral.whole 0 ≤ Nat.pow 2 63) ∧
      n = if numeral.negative then -(Nat.ofDigitChars 10 numeral.whole 0 : Int)
        else Nat.ofDigitChars 10 numeral.whole 0 := by
  have hfloat : ∀ x : Option Binary64, x.map Json.float ≠ some (.int n) := by
    intro x
    cases x <;> simp only [Option.map_none, Option.map_some, ne_eq, Option.some.injEq,
      reduceCtorEq, not_false_eq_true]
  have hite : ∀ (c : Bool) (k : Int) (x : Option Binary64),
      (if c = true then some (Json.int k) else x.map Json.float) = some (.int n) →
        c = true ∧ n = k := by
    intro c k x hx
    cases c with
    | true => exact ⟨rfl, (Json.int.inj (Option.some.inj hx)).symm⟩
    | false => exact absurd hx (hfloat x)
  rcases hite _ _ _ h with ⟨hwhole, hvalue⟩
  simp only [Bool.and_eq_true, Option.isNone_iff_eq_none] at hwhole
  refine ⟨hwhole.1.1, hwhole.1.2, fun hnegative => ?_, hvalue⟩
  have hlimit := hwhole.2
  rw [if_pos hnegative, Bool.and_eq_true, decide_eq_true_eq, decide_eq_true_eq] at hlimit
  exact hlimit.2

/-- A whole number is the value of a number and of nothing else. -/
theorem Json.Tree.toJsonWithin?_eq_int {limit : Nat} {t : Tree} {n : Int}
    (h : t.toJsonWithin? limit = some (.int n)) :
    ∃ numeral, t = .number numeral ∧ numeral.toJson? = some (.int n) := by
  cases t with
  | number numeral => exact ⟨numeral, rfl, h⟩
  | array items =>
      by_cases hlimit : limit = 0 <;>
        simp only [Tree.toJsonWithin?, hlimit, if_true, if_false, Option.map_eq_some_iff,
          reduceCtorEq, and_false, exists_false] at h
  | object members =>
      by_cases hlimit : limit = 0 <;>
        simp only [Tree.toJsonWithin?, hlimit, if_true, if_false, Option.map_eq_some_iff,
          reduceCtorEq, and_false, exists_false] at h
  | _ =>
      simp only [Tree.toJsonWithin?, Option.some.injEq, Option.map_eq_some_iff, reduceCtorEq,
        and_false, exists_false] at h

/-- A whole number of a file is written as digits behind a sign, if it is
    negative, between white space. -/
theorem spelling_of_inFile_int {text : String} {n : Int} (h : InFile text (.int n)) :
    ∃ v whole w sign, Blanks v ∧ Digits whole ∧ Blanks w ∧
      text.toList = v ++ (((if sign then ['-'] else []) ++ whole) ++ w) ∧
      (sign = true → Nat.ofDigitChars 10 whole 0 ≤ Nat.pow 2 63) ∧
      n = if sign then -(Nat.ofDigitChars 10 whole 0 : Int) else Nat.ofDigitChars 10 whole 0 := by
  -- The text alone is a source of the number, so its spelling is known.
  rcases tree_of_inFile h with ⟨t, ht, hn⟩
  rcases (Tree.ofSource?_eq_some_iff _ _).mp ht with ⟨v, used, w, hv, hused, hw, hsource⟩
  rcases Tree.toJsonWithin?_eq_int hn with ⟨numeral, rfl, hn⟩
  cases hused with
  | number _ spelled hspelled =>
      rcases Numeral.toJson?_eq_int hn with ⟨hfraction, hexponent, hlimit, hvalue⟩
      cases hspelled with
      | mk sign whole fraction exponent _ _ hwhole _ htext hmore =>
          simp only at hfraction hexponent
          rw [hfraction] at htext
          rw [hexponent] at hmore
          cases htext
          cases hmore
          refine ⟨v, whole, w, sign, hv, hwhole, hw, ?_, hlimit, hvalue⟩
          rw [← List.map_append, ← List.map_append, List.append_nil, List.append_nil] at hsource
          exact List.map_injective_iff.mpr (fun _ _ => Option.some.inj) hsource

/-- White space of a file is white space around an override. -/
theorem Json.isBlank_of_blanks {w : List Char} (hw : Blanks w) :
    ∀ c ∈ w, Text.isBlank c = true := by
  intro c hc
  rcases hw c hc with rfl | rfl | rfl | rfl <;> decide

/-- A whole number of a file is read as an override if it fits into 64 bits
    with its sign. The sign and the digits are what is left between the white
    space. -/
theorem Literal.readInt?_of_inFile {text : String} {n : Int} (h : InFile text (.int n)) :
    Literal.readInt? (Text.trim text.toList) = if n < Nat.pow 2 63 then some n else none := by
  rcases spelling_of_inFile_int h with ⟨v, whole, w, sign, hv, hwhole, hw, htext, hlimit, hn⟩
  have hdigit : ∀ c ∈ whole, Text.isBlank c = false := fun c hc =>
    Instant.isBlank_of_isDigit c (hwhole.2 c hc)
  have hbare : Text.IsBare ((if sign then ['-'] else []) ++ whole) := by
    refine Text.isBare_of_forall _ fun c hc => ?_
    rcases List.mem_append.mp hc with hc | hc
    · cases sign with
      | true => rw [List.mem_singleton.mp hc]; decide
      | false => exact absurd hc List.not_mem_nil
    · exact hdigit c hc
  rw [htext, Text.trim_surrounded v _ w (isBlank_of_blanks hv) (isBlank_of_blanks hw)
    hbare.first hbare.last]
  unfold Literal.readInt?
  cases sign with
  | true =>
      have hpos : 0 < Nat.pow 2 63 := by decide
      have hsmall : n < Nat.pow 2 63 := by
        rw [hn, if_pos rfl]
        omega
      rw [if_pos hsmall]
      simp only [if_true, List.singleton_append, splitSign, readDigits?_of_digits hwhole,
        Option.bind_some, if_pos (hlimit rfl), hn]
  | false =>
      simp only [Bool.false_eq_true, if_false, List.nil_append, splitSign_of_digits hwhole,
        readDigits?_of_digits hwhole, Option.bind_some, hn, Int.ofNat_lt]

end PullTriage
