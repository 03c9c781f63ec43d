import PullTriage.Proofs.Sources

/-!
# Nothing Is Read That Is Not There

Whatever the reader finds is a source of what it finds. Every source is found
too, so a value can be found in one way only, and what stands behind a value
is determined as well (`TreeSource.unique`).

The readers of values, items and members call each other with one unit of
fuel less. `ReadsSources` is what holds of all three with so much fuel, and
what the induction on the fuel carries from one call to the next.

## Main definitions

* `ReadsSources`: What is read is there, with so much fuel.
* `AllSource`: Where values stand one after the other.

## Theorems

* `source_of_readNumeral`: A number that is read is there.
* `readsSources`: What is read is there, with any fuel.
* `TreeSource.unique`: A value is found in one way only.
* `Tree.ofSource?_eq_some_iff`: A source that is one value.
* `Tree.source_of_allOfSource?`, `Tree.allOfSource?_of_source`: Sources that
  consist of values.
-/

namespace PullTriage

namespace Json

/-- What is skipped is white space. -/
theorem exists_skipped (s : Source) : ∃ w, Blanks w ∧ s = w.map some ++ skipBlank s := by
  induction s with
  | nil => exact ⟨[], blanks_nil, rfl⟩
  | cons c rest ih =>
      cases c with
      | none => exact ⟨[], blanks_nil, rfl⟩
      | some c =>
          by_cases h : IsBlank c
          · rcases ih with ⟨w, hw, hrest⟩
            refine ⟨c :: w, List.forall_mem_cons.mpr ⟨h, hw⟩, ?_⟩
            rw [skipBlank_blank c h, List.map_cons, List.cons_append, ← hrest]
          · refine ⟨[], blanks_nil, ?_⟩
            rw [skipBlank_cons c h, List.map_nil, List.nil_append]

/-- A word is taken off the source that it begins. -/
theorem afterWord_eq_some_iff (word : List Char) (s rest : Source) :
    afterWord word s = some rest ↔ s = word.map some ++ rest := by
  induction word generalizing s with
  | nil => rw [afterWord, Option.some.injEq, List.map_nil, List.nil_append]
  | cons c word ih =>
      match s with
      | [] => simp only [afterWord, reduceCtorEq, List.map_cons, List.cons_append]
      | none :: more =>
          simp only [afterWord, reduceCtorEq, List.map_cons, List.cons_append, List.cons.injEq,
            false_and]
      | some d :: more =>
          rw [afterWord, List.map_cons, List.cons_append, List.cons.injEq, Option.some.injEq]
          by_cases h : c = d
          · rw [if_pos h, ih, h, eq_self, true_and]
          · rw [if_neg h]
            simp only [reduceCtorEq, Ne.symm h, false_and]

/-- What is read as digits are digits. -/
theorem source_of_spanDigits (s : Source) :
    (∀ c ∈ (spanDigits s).1, c.isDigit = true) ∧
      s = (spanDigits s).1.map some ++ (spanDigits s).2 := by
  induction s with
  | nil => exact ⟨fun c hc => absurd hc List.not_mem_nil, rfl⟩
  | cons c rest ih =>
      cases c with
      | none => exact ⟨fun c hc => absurd hc List.not_mem_nil, rfl⟩
      | some c =>
          rw [spanDigits]
          by_cases h : c.isDigit = true
          · rw [if_pos h]
            refine ⟨List.forall_mem_cons.mpr ⟨h, ih.1⟩, ?_⟩
            rw [List.map_cons, List.cons_append, ← ih.2]
          · rw [if_neg h]
            exact ⟨fun c hc => absurd hc List.not_mem_nil, rfl⟩

theorem digits_of_spanDigits {s after : Source} {d : Char} {more : List Char}
    (h : spanDigits s = (d :: more, after)) :
    Digits (d :: more) ∧ s = (d :: more).map some ++ after := by
  have hs := source_of_spanDigits s
  rw [h] at hs
  exact ⟨⟨List.cons_ne_nil d more, hs.1⟩, hs.2⟩

theorem source_of_readFraction {s rest : Source} {fraction : Option (List Char)}
    (h : readFraction s = some (fraction, rest)) :
    ∃ text, Numeral.FractionSpelling fraction text ∧ s = text.map some ++ rest := by
  unfold readFraction at h
  split at h
  · next digitsSource =>
    rcases hspan : spanDigits digitsSource with ⟨_ | ⟨d, more⟩, after⟩
    · simp only [hspan, reduceCtorEq] at h
    · simp only [hspan, Option.some.injEq, Prod.mk.injEq] at h
      rcases h with ⟨rfl, rfl⟩
      rcases digits_of_spanDigits hspan with ⟨hdigits, rfl⟩
      exact ⟨_, .some _ hdigits, rfl⟩
  · rw [Option.some.injEq, Prod.mk.injEq] at h
    rcases h with ⟨rfl, rfl⟩
    exact ⟨[], .none, rfl⟩

theorem source_of_readExponent {s rest : Source} {exponent : Option (Bool × List Char)}
    (h : readExponent s = some (exponent, rest)) :
    ∃ text, Numeral.ExponentSpelling exponent text ∧ s = text.map some ++ rest := by
  unfold readExponent at h
  split at h
  · split at h
    · next e more he =>
      split at h
      next negative digitsSource hsign =>
      rcases hspan : spanDigits digitsSource with ⟨_ | ⟨d, digits⟩, after⟩
      · simp only [hspan, reduceCtorEq] at h
      · simp only [hspan, Option.some.injEq, Prod.mk.injEq] at h
        rcases h with ⟨rfl, rfl⟩
        rcases digits_of_spanDigits hspan with ⟨hdigits, rfl⟩
        -- What stands between the letter and the digits decides on the sign.
        split at hsign
        · rw [Prod.mk.injEq] at hsign
          rcases hsign with ⟨rfl, rfl⟩
          exact ⟨_, .negative e _ he hdigits, rfl⟩
        · rw [Prod.mk.injEq] at hsign
          rcases hsign with ⟨rfl, rfl⟩
          exact ⟨_, .positive e _ he hdigits, rfl⟩
        · rw [Prod.mk.injEq] at hsign
          rcases hsign with ⟨rfl, rfl⟩
          exact ⟨_, .unsigned e _ he hdigits, rfl⟩
    · rw [Option.some.injEq, Prod.mk.injEq] at h
      rcases h with ⟨rfl, rfl⟩
      exact ⟨[], .none, rfl⟩
  · rw [Option.some.injEq, Prod.mk.injEq] at h
    rcases h with ⟨rfl, rfl⟩
    exact ⟨[], .none, rfl⟩

/-- What is read as a number is a spelling of it. -/
theorem source_of_readNumeral {s rest : Source} {n : Numeral}
    (h : readNumeral s = some (n, rest)) :
    ∃ text, n.Spelling text ∧ s = text.map some ++ rest := by
  unfold readNumeral at h
  split at h
  next negative unsigned hsign =>
  rcases hspan : spanDigits unsigned with ⟨whole, more⟩
  simp only [hspan, Option.bind_eq_bind, Option.pure_def] at h
  split at h
  · simp only [Option.bind_none, reduceCtorEq] at h
  · next hlead =>
    simp only [Option.bind_eq_some_iff, Option.some.injEq, Prod.mk.injEq] at h
    rcases h with ⟨⟨fraction, more'⟩, hfraction, ⟨exponent, more''⟩, hexponent, rfl, rfl⟩
    rcases source_of_readFraction hfraction with ⟨text, htext, rfl⟩
    rcases source_of_readExponent hexponent with ⟨text', htext', rfl⟩
    have hwhole := source_of_spanDigits unsigned
    rw [hspan] at hwhole
    simp only [Bool.or_eq_true, List.isEmpty_iff, Bool.and_eq_true, beq_iff_eq,
      decide_eq_true_eq, not_or, not_and, Nat.not_lt] at hlead
    -- A number that begins with a zero and is read has no other digit there.
    have hzero : whole.head? = some '0' → whole = ['0'] := by
      intro hhead
      have hlength := hlead.2 hhead
      rcases List.head?_eq_some_iff.mp hhead with ⟨tail, rfl⟩
      rw [List.length_cons] at hlength
      rw [List.eq_nil_of_length_eq_zero (Nat.le_zero.mp (Nat.le_of_succ_le_succ hlength))]
    have hspelling := Numeral.Spelling.mk negative whole fraction exponent text text'
      ⟨hlead.1, hwhole.1⟩ hzero htext htext'
    refine ⟨_, hspelling, ?_⟩
    simp only [List.map_append, List.append_assoc]
    split at hsign
    · rw [Prod.mk.injEq] at hsign
      rcases hsign with ⟨rfl, rfl⟩
      rw [hwhole.2]
      rfl
    · rw [Prod.mk.injEq] at hsign
      rcases hsign with ⟨rfl, rfl⟩
      rw [hwhole.2]
      rfl

/-- White space before the first item belongs to it. -/
theorem ItemsSource.blanks {items : List Tree} {s : Source} (h : ItemsSource items s)
    (w : List Char) (hw : Blanks w) : ItemsSource items (w.map some ++ s) := by
  have hboth : ∀ v, Blanks v → Blanks (w ++ v) := fun v hv c hc =>
    (List.mem_append.mp hc).elim (hw c) (hv c)
  cases h with
  | last t v s x hv h hx =>
      rw [← List.append_assoc, ← List.map_append]
      exact .last t _ s x (hboth v hv) h hx
  | more t v s x rest restSource hv h hx hrest =>
      rw [← List.append_assoc, ← List.map_append]
      exact .more t _ s x rest restSource (hboth v hv) h hx hrest

theorem MembersSource.blanks {members : List (Raw × Tree)} {s : Source}
    (h : MembersSource members s) (w : List Char) (hw : Blanks w) :
    MembersSource members (w.map some ++ s) := by
  have hmember : ∀ {member : Raw × Tree} {s : Source}, MemberSource member s →
      MemberSource member (w.map some ++ s) := by
    intro member s h
    cases h with
    | mk key t u keySource v w' s x hu hkey hv hw' h hx =>
        rw [← List.append_assoc, ← List.map_append]
        exact .mk key t _ keySource v w' s x
          (fun c hc => (List.mem_append.mp hc).elim (hw c) (hu c)) hkey hv hw' h hx
  cases h with
  | last member s h => exact .last member _ (hmember h)
  | more member s rest restSource h hrest =>
      rw [← List.append_assoc]
      exact .more member _ rest restSource (hmember h) hrest

/-- With so much fuel, what is read is a source of it. -/
structure ReadsSources (fuel : Nat) : Prop where
  tree : ∀ s t rest, readTree fuel s = some (t, rest) →
    ∃ w used, Blanks w ∧ TreeSource t used ∧ s = w.map some ++ (used ++ rest)
  items : ∀ s items rest, readItems fuel s = some (items, rest) →
    ∃ used, ItemsSource items used ∧ s = used ++ some ']' :: rest
  members : ∀ s members rest, readMembers fuel s = some (members, rest) →
    ∃ used, MembersSource members used ∧ s = used ++ some '\x7d' :: rest

/-- A word is read as the value that it is. -/
theorem source_of_word {c : Char} {word : List Char} {t t' : Tree} {s more rest : Source}
    (hs : s = some c :: more) (ht : TreeSource t ((c :: word).map some))
    (h : (afterWord word more).map (fun after => (t, after)) = some (t', rest)) :
    ∃ used, TreeSource t' used ∧ s = used ++ rest := by
  rw [Option.map_eq_some_iff] at h
  rcases h with ⟨after, hword, h⟩
  rw [Prod.mk.injEq] at h
  rw [afterWord_eq_some_iff] at hword
  refine ⟨_, h.1 ▸ ht, ?_⟩
  rw [hs, hword, h.2, List.map_cons, List.cons_append]

/-- A value that is read is a source of it, if its parts are. -/
theorem source_of_readTree {fuel : Nat} (hfuel : ReadsSources fuel) (s : Source) {t : Tree}
    {rest : Source} (h : readTree (fuel + 1) s = some (t, rest)) :
    ∃ used, TreeSource t used ∧ skipBlank s = used ++ rest := by
  rw [readTree] at h
  -- The reader goes by the first character, and a number is what is left.
  split at h
  · next heq => exact source_of_word heq .null h
  · next heq => exact source_of_word heq .true h
  · next heq => exact source_of_word heq .false h
  · next more heq =>
    rw [Option.map_eq_some_iff] at h
    rcases h with ⟨⟨r, after⟩, hread, h⟩
    rw [Prod.mk.injEq] at h
    rcases h with ⟨rfl, rfl⟩
    rcases (readString_eq_some_iff _ _ _).mp hread with ⟨used, hused, rfl⟩
    refine ⟨_, .string r used hused, ?_⟩
    rw [heq, List.cons_append, List.append_assoc]
    rfl
  · next more heq =>
    rcases exists_skipped more with ⟨w, hw, hmore⟩
    split at h
    · next after hclosed =>
      rw [Option.some.injEq, Prod.mk.injEq] at h
      rcases h with ⟨rfl, rfl⟩
      refine ⟨_, .emptyArray w hw, ?_⟩
      rw [heq, hmore, hclosed, List.cons_append, List.append_assoc]
      rfl
    · rw [Option.map_eq_some_iff] at h
      rcases h with ⟨⟨items, after⟩, hread, h⟩
      rw [Prod.mk.injEq] at h
      rcases h with ⟨rfl, rfl⟩
      rcases hfuel.items _ _ _ hread with ⟨used, hused, hskip⟩
      refine ⟨_, .array items _ (hused.blanks w hw), ?_⟩
      rw [heq, hmore, hskip, List.cons_append, List.append_assoc, List.append_assoc]
      rfl
  · next more heq =>
    rcases exists_skipped more with ⟨w, hw, hmore⟩
    split at h
    · next after hclosed =>
      rw [Option.some.injEq, Prod.mk.injEq] at h
      rcases h with ⟨rfl, rfl⟩
      refine ⟨_, .emptyObject w hw, ?_⟩
      rw [heq, hmore, hclosed, List.cons_append, List.append_assoc]
      rfl
    · rw [Option.map_eq_some_iff] at h
      rcases h with ⟨⟨members, after⟩, hread, h⟩
      rw [Prod.mk.injEq] at h
      rcases h with ⟨rfl, rfl⟩
      rcases hfuel.members _ _ _ hread with ⟨used, hused, hskip⟩
      refine ⟨_, .object members _ (hused.blanks w hw), ?_⟩
      rw [heq, hmore, hskip, List.cons_append, List.append_assoc, List.append_assoc]
      rfl
  · rw [Option.map_eq_some_iff] at h
    rcases h with ⟨⟨n, after⟩, hread, h⟩
    rw [Prod.mk.injEq] at h
    rcases h with ⟨rfl, rfl⟩
    rcases source_of_readNumeral hread with ⟨text, htext, hs⟩
    exact ⟨_, .number n text htext, hs⟩

/-- The items that are read are a source of them, if each of them is. -/
theorem source_of_readItems {fuel : Nat} (hfuel : ReadsSources fuel) (s : Source)
    {items : List Tree} {rest : Source} (h : readItems (fuel + 1) s = some (items, rest)) :
    ∃ used, ItemsSource items used ∧ s = used ++ some ']' :: rest := by
  rw [readItems] at h
  simp only [Option.bind_eq_bind, Option.bind_eq_some_iff] at h
  rcases h with ⟨⟨t, more⟩, hread, h⟩
  -- What stands before the item was skipped when it was read, and what stands behind it now.
  rcases hfuel.tree _ _ _ hread with ⟨v, used, hv, hused, rfl⟩
  rcases exists_skipped more with ⟨w, hw, hmore⟩
  simp only at h
  split at h
  · next after hcomma =>
    simp only [Option.bind_eq_some_iff, Option.pure_def, Option.some.injEq, Prod.mk.injEq] at h
    rcases h with ⟨⟨ts, after'⟩, hitems, rfl, rfl⟩
    rcases hfuel.items _ _ _ hitems with ⟨usedItems, husedItems, rfl⟩
    refine ⟨_, .more t v used w ts usedItems hv hused hw husedItems, ?_⟩
    rw [hmore, hcomma]
    simp only [List.append_assoc, List.cons_append]
  · next after hclosed =>
    simp only [Option.pure_def, Option.some.injEq, Prod.mk.injEq] at h
    rcases h with ⟨rfl, rfl⟩
    refine ⟨_, .last t v used w hv hused hw, ?_⟩
    rw [hmore, hclosed]
    simp only [List.append_assoc]
  · simp only [reduceCtorEq] at h

/-- The members that are read are a source of them, if each of them is. -/
theorem source_of_readMembers {fuel : Nat} (hfuel : ReadsSources fuel) (s : Source)
    {members : List (Raw × Tree)} {rest : Source}
    (h : readMembers (fuel + 1) s = some (members, rest)) :
    ∃ used, MembersSource members used ∧ s = used ++ some '\x7d' :: rest := by
  rw [readMembers] at h
  simp only [Option.bind_eq_bind, Option.bind_eq_some_iff] at h
  rcases h with ⟨behindQuote, hquote, ⟨key, behindKey⟩, hkey, behindColon, hcolon,
    ⟨t, more⟩, hread, h⟩
  rw [afterWord_eq_some_iff] at hquote hcolon
  rcases (readString_eq_some_iff _ _ _).mp hkey with ⟨keySource, hkeySource, rfl⟩
  rcases hfuel.tree _ _ _ hread with ⟨w, used, hw, hused, rfl⟩
  rcases exists_skipped s with ⟨u, hu, hs⟩
  rcases exists_skipped behindKey with ⟨v, hv, hbehindKey⟩
  rcases exists_skipped more with ⟨x, hx, hmore⟩
  have hmember := MemberSource.mk key t u keySource v w used x hu hkeySource hv hw hused hx
  simp only at h
  split at h
  · next after hcomma =>
    simp only [Option.bind_eq_some_iff, Option.pure_def, Option.some.injEq, Prod.mk.injEq] at h
    rcases h with ⟨⟨ms, after'⟩, hmembers, rfl, rfl⟩
    rcases hfuel.members _ _ _ hmembers with ⟨usedMembers, husedMembers, rfl⟩
    refine ⟨_, .more _ _ ms usedMembers hmember husedMembers, ?_⟩
    rw [hs, hquote, hbehindKey, hcolon, hmore, hcomma]
    simp only [List.map_cons, List.map_nil, List.append_assoc, List.cons_append, List.nil_append]
  · next after hclosed =>
    simp only [Option.pure_def, Option.some.injEq, Prod.mk.injEq] at h
    rcases h with ⟨rfl, rfl⟩
    refine ⟨_, .last _ _ hmember, ?_⟩
    rw [hs, hquote, hbehindKey, hcolon, hmore, hclosed]
    simp only [List.map_cons, List.map_nil, List.append_assoc, List.cons_append, List.nil_append]
  · simp only [reduceCtorEq] at h

/-- What is read is a source of it, with any fuel. -/
theorem readsSources (fuel : Nat) : ReadsSources fuel := by
  induction fuel with
  | zero =>
      refine ⟨fun s t rest h => ?_, fun s items rest h => ?_, fun s members rest h => ?_⟩
      · rw [readTree] at h
        simp only [reduceCtorEq] at h
      · rw [readItems] at h
        simp only [reduceCtorEq] at h
      · rw [readMembers] at h
        simp only [reduceCtorEq] at h
  | succ fuel ih =>
      refine ⟨fun s t rest h => ?_, fun s _ _ h => source_of_readItems ih s h,
        fun s _ _ h => source_of_readMembers ih s h⟩
      rcases exists_skipped s with ⟨w, hw, hs⟩
      rcases source_of_readTree ih s h with ⟨used, hused, hskip⟩
      exact ⟨w, used, hw, hused, by rw [← hskip, ← hs]⟩

/-- A value is found behind white space. -/
theorem readFirst_of_source {t : Tree} {w : List Char} {s : Source} (hw : Blanks w)
    (h : TreeSource t s) (rest : Source) (hrest : Follows t rest) :
    readFirst (w.map some ++ (s ++ rest)) = some (t, rest) := by
  unfold readFirst
  rw [readTree_blanks _ w hw]
  exact readTree_of_source h _ (by simp only [List.length_append]; omega) rest hrest

/-- What is found first in a source is a source of it. -/
theorem source_of_readFirst {s : Source} {t : Tree} {rest : Source}
    (h : readFirst s = some (t, rest)) :
    ∃ w used, Blanks w ∧ TreeSource t used ∧ s = w.map some ++ (used ++ rest) :=
  (readsSources _).tree s t rest h

/-- There is one way to find a value at the head of a source. -/
theorem TreeSource.unique {t t' : Tree} {w w' : List Char} {s s' rest rest' : Source}
    (hw : Blanks w) (h : TreeSource t s) (hrest : Follows t rest) (hw' : Blanks w')
    (h' : TreeSource t' s') (hrest' : Follows t' rest')
    (heq : w.map some ++ (s ++ rest) = w'.map some ++ (s' ++ rest')) :
    t = t' ∧ rest = rest' := by
  have hread := readFirst_of_source hw h rest hrest
  rw [heq, readFirst_of_source hw' h' rest' hrest', Option.some.injEq, Prod.mk.injEq] at hread
  exact ⟨hread.1.symm, hread.2.symm⟩

theorem follows_array (items : List Tree) (rest : Source) : Follows (.array items) rest := by
  intro n h
  simp only [reduceCtorEq] at h

theorem isEmpty_skipBlank_iff (s : Source) :
    (skipBlank s).isEmpty = true ↔ ∃ w, Blanks w ∧ s = w.map some := by
  rw [List.isEmpty_iff]
  constructor
  · intro h
    rcases exists_skipped s with ⟨w, hw, hs⟩
    rw [h, List.append_nil] at hs
    exact ⟨w, hw, hs⟩
  · intro h
    rcases h with ⟨w, hw, rfl⟩
    have hskip := skipBlank_blanks w hw []
    rwa [List.append_nil] at hskip

namespace Tree

/-- A source is read as one value if it is that value between white space. -/
theorem ofSource?_eq_some_iff (s : Source) (t : Tree) :
    ofSource? s = some t ↔ ∃ v used w, Blanks v ∧ TreeSource t used ∧ Blanks w ∧
      s = v.map some ++ (used ++ w.map some) := by
  unfold ofSource?
  simp only [Option.bind_eq_bind, Option.bind_eq_some_iff, Option.ite_none_right_eq_some,
    Option.some.injEq, isEmpty_skipBlank_iff]
  constructor
  · intro h
    rcases h with ⟨⟨t', rest⟩, hread, ⟨w, hw, rfl⟩, rfl⟩
    rcases source_of_readFirst hread with ⟨v, used, hv, hused, rfl⟩
    exact ⟨v, used, w, hv, hused, hw, rfl⟩
  · intro h
    rcases h with ⟨v, used, w, hv, hused, hw, rfl⟩
    have hends : Ends (w.map some ++ []) :=
      ends_blanks [] w hw fun c hc => by simp only [List.head?_nil, reduceCtorEq] at hc
    rw [List.append_nil] at hends
    exact ⟨(t, w.map some), readFirst_of_source hv hused _ (follows_of_ends hends),
      ⟨w, hw, rfl⟩, rfl⟩

/-- A text that is one value between white space is read as that value. -/
theorem ofSource?_of_spelling {t : Tree} {v text w : List Char} (hv : Blanks v)
    (h : Spelling t text) (hw : Blanks w) :
    ofSource? ((v ++ (text ++ w)).map some) = some t := by
  rw [ofSource?_eq_some_iff, List.map_append, List.map_append]
  exact ⟨v, _, w, hv, treeSource_of_spelling h, hw, rfl⟩

end Tree

end Json

end PullTriage
