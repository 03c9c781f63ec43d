import PullTriage.Proofs.Spellings

/-!
# Sources of JSON Values

Where a value stands in a source, as a relation. It extends the grammar of
texts: in a string there may be places where no character stands, and
surrogates that belong to nothing. Such a string has contents too, which are
of no use but do no harm where nobody looks at them.

Every source of a value is read as it, so nothing is refused without a reason.
This is an induction on the relation, in which the fuel is bounded by the
length of the source. A spelling of a value is a source of it in which every
place holds a character, so spellings are read as well.

## Main definitions

* `PiecesSource`, `StringSource`: Where a string stands in a source.
* `TreeSource`: Where a value stands in a source.
* `Follows`: What can stand behind a value.

## Theorems

* `readString_eq_some_iff`: Strings are read exactly where they stand.
* `readTree_of_source`: Values are found wherever they stand.
* `treeSource_of_spelling`: A spelling is a source.
-/

namespace PullTriage

namespace Json

/-- How pieces of a string can stand in a source, up to its closing quote. -/
inductive PiecesSource : List Piece → Source → Prop
  | nil : PiecesSource [] []
  | plain (c : Char) (pieces : List Piece) (s : Source) (hquote : c ≠ '"') (hbackslash : c ≠ '\\')
      (hcontrol : 32 ≤ c.toNat) (h : PiecesSource pieces s) :
      PiecesSource (.char c :: pieces) (some c :: s)
  | letter (c e : Char) (pieces : List Piece) (s : Source) (he : escaped? e = some c)
      (h : PiecesSource pieces s) :
      PiecesSource (.char c :: pieces) (some '\\' :: some e :: s)
  | unit (n : Nat) (digits : List Char) (pieces : List Piece) (s : Source)
      (hn : UnitSpelling n digits) (h : PiecesSource pieces s) :
      PiecesSource (.unit n :: pieces) (some '\\' :: some 'u' :: (digits.map some ++ s))
  | damaged (pieces : List Piece) (s : Source) (h : PiecesSource pieces s) :
      PiecesSource (.damaged :: pieces) (none :: s)

/-- How the contents of a string can stand in a source, up to its closing
    quote. -/
def StringSource (r : Raw) (s : Source) : Prop :=
  ∃ pieces, PiecesSource pieces s ∧ joinPieces pieces = r

mutual

/-- How a value can stand in a source. -/
inductive TreeSource : Tree → Source → Prop
  | null : TreeSource .null (['n', 'u', 'l', 'l'].map some)
  | true : TreeSource (.bool true) (['t', 'r', 'u', 'e'].map some)
  | false : TreeSource (.bool false) (['f', 'a', 'l', 's', 'e'].map some)
  | number (n : Numeral) (text : List Char) (h : n.Spelling text) :
      TreeSource (.number n) (text.map some)
  | string (r : Raw) (s : Source) (h : StringSource r s) :
      TreeSource (.string r) (some '"' :: (s ++ [some '"']))
  | emptyArray (w : List Char) (hw : Blanks w) :
      TreeSource (.array []) (some '[' :: (w.map some ++ [some ']']))
  | array (items : List Tree) (s : Source) (h : ItemsSource items s) :
      TreeSource (.array items) (some '[' :: (s ++ [some ']']))
  | emptyObject (w : List Char) (hw : Blanks w) :
      TreeSource (.object []) (some '\x7b' :: (w.map some ++ [some '\x7d']))
  | object (members : List (Raw × Tree)) (s : Source) (h : MembersSource members s) :
      TreeSource (.object members) (some '\x7b' :: (s ++ [some '\x7d']))

/-- How the items of an array can stand between its brackets. -/
inductive ItemsSource : List Tree → Source → Prop
  | last (t : Tree) (v : List Char) (s : Source) (w : List Char) (hv : Blanks v)
      (h : TreeSource t s) (hw : Blanks w) : ItemsSource [t] (v.map some ++ (s ++ w.map some))
  | more (t : Tree) (v : List Char) (s : Source) (w : List Char) (rest : List Tree)
      (restSource : Source) (hv : Blanks v) (h : TreeSource t s) (hw : Blanks w)
      (hrest : ItemsSource rest restSource) :
      ItemsSource (t :: rest) (v.map some ++ (s ++ (w.map some ++ some ',' :: restSource)))

/-- How a member of an object can stand in a source. -/
inductive MemberSource : Raw × Tree → Source → Prop
  | mk (key : Raw) (t : Tree) (u : List Char) (keySource : Source) (v w : List Char) (s : Source)
      (x : List Char) (hu : Blanks u) (hkey : StringSource key keySource) (hv : Blanks v)
      (hw : Blanks w) (h : TreeSource t s) (hx : Blanks x) :
      MemberSource (key, t)
        (u.map some ++ (some '"' :: (keySource ++ (some '"' :: (v.map some ++ (some ':' ::
          (w.map some ++ (s ++ x.map some))))))))

/-- How the members of an object can stand between its braces. -/
inductive MembersSource : List (Raw × Tree) → Source → Prop
  | last (member : Raw × Tree) (s : Source) (h : MemberSource member s) :
      MembersSource [member] s
  | more (member : Raw × Tree) (s : Source) (rest : List (Raw × Tree)) (restSource : Source)
      (h : MemberSource member s) (hrest : MembersSource rest restSource) :
      MembersSource (member :: rest) (s ++ some ',' :: restSource)

end

/-- What can follow a value. Only a number could go on with it. -/
def Follows (t : Tree) (rest : Source) : Prop :=
  ∀ n, t = .number n → Ends rest

/-- The pieces of a string are found up to its closing quote. -/
theorem readPieces_of_source {pieces : List Piece} {s : Source} (h : PiecesSource pieces s)
    (rest : Source) : readPieces (s ++ some '"' :: rest) = some (pieces, rest) := by
  induction h with
  | nil => rfl
  | plain c pieces s hquote hbackslash hcontrol _ ih =>
      have hplain : ¬ (c = '\\' ∨ c.toNat < 32) :=
        not_or.mpr ⟨hbackslash, Nat.not_lt.mpr hcontrol⟩
      rw [List.cons_append, readPieces.eq_6 c _ hquote (fun _ _ _ _ _ _ => hbackslash)
        (fun _ _ _ => hbackslash), if_neg hplain, ih, Option.map_some]
  | letter c e pieces s he _ ih =>
      have hunit : e ≠ 'u' := by
        intro heq
        have hnone : escaped? 'u' = none := rfl
        rw [heq, hnone] at he
        simp only [reduceCtorEq] at he
      rw [List.cons_append, List.cons_append, readPieces.eq_5 e _ (fun _ _ _ _ _ _ => hunit), he,
        ih]
      rfl
  | unit n digits pieces s hn _ ih =>
      -- The reader takes exactly four digits, and a spelling has four.
      rcases codeUnit?_of_spelling hn with ⟨a, b, c, d, rfl, hcode⟩
      simp only [List.map_cons, List.map_nil, List.cons_append, List.nil_append, readPieces,
        hcode, ih, Option.bind_eq_bind, Option.bind_some, Option.pure_def]
  | damaged pieces s _ ih => rw [List.cons_append, readPieces, ih, Option.map_some]

/-- A code unit is read from its spelling only. -/
theorem spelling_of_codeUnit? {a b c d : Option Char} {n : Nat}
    (h : codeUnit? [a, b, c, d] = some n) :
    ∃ digits, [a, b, c, d] = digits.map some ∧ UnitSpelling n digits := by
  unfold codeUnit? at h
  simp only [List.mapM_cons, List.mapM_nil, Option.bind_eq_bind, Option.pure_def,
    Option.map_eq_some_iff, Option.bind_eq_some_iff, Option.some.injEq] at h
  rcases h with ⟨_, ⟨i, ⟨a, rfl, ha⟩, _, ⟨j, ⟨b, rfl, hb⟩, _, ⟨k, ⟨c, rfl, hc⟩, _,
    ⟨l, ⟨d, rfl, hd⟩, _, rfl, rfl⟩, rfl⟩, rfl⟩, rfl⟩, rfl⟩
  refine ⟨[a, b, c, d], rfl, ?_⟩
  have hmk := UnitSpelling.mk a b c d i j k l ha hb hc hd
  rwa [List.foldl_cons, List.foldl_cons, List.foldl_cons, List.foldl_cons, List.foldl_nil,
    Nat.mul_zero, Nat.zero_add]

/-- What is read as the pieces of a string is a source of them. -/
theorem source_of_readPieces (s : Source) {pieces : List Piece} {rest : Source}
    (h : readPieces s = some (pieces, rest)) :
    ∃ used, PiecesSource pieces used ∧ s = used ++ some '"' :: rest := by
  -- The cases are those of the reader: end of text, damage, closing quote, code unit,
  -- letter, and a character that is forbidden or stands for itself.
  induction s using readPieces.induct generalizing pieces rest with
  | case1 =>
      rw [readPieces] at h
      simp only [reduceCtorEq] at h
  | case2 s ih =>
      rw [readPieces, Option.map_eq_some_iff] at h
      rcases h with ⟨⟨more, after⟩, hmore, h⟩
      rw [Prod.mk.injEq] at h
      rcases ih hmore with ⟨used, hused, rfl⟩
      exact ⟨none :: used, h.1 ▸ .damaged more used hused, by rw [h.2, List.cons_append]⟩
  | case3 s =>
      rw [readPieces, Option.some.injEq, Prod.mk.injEq] at h
      exact ⟨[], h.1 ▸ .nil, by rw [h.2, List.nil_append]⟩
  | case4 a b c d s ih =>
      rw [readPieces] at h
      simp only [Option.bind_eq_bind, Option.bind_eq_some_iff, Option.pure_def,
        Option.some.injEq, Prod.mk.injEq] at h
      rcases h with ⟨n, hn, ⟨more, after⟩, hmore, rfl, rfl⟩
      rcases ih hmore with ⟨used, hused, rfl⟩
      rcases spelling_of_codeUnit? hn with ⟨digits, hdigits, hspelling⟩
      refine ⟨_, .unit n digits more used hspelling hused, ?_⟩
      rw [← hdigits]
      rfl
  | case5 e s hunit ih =>
      rw [readPieces.eq_5 e s hunit] at h
      simp only [Option.bind_eq_bind, Option.bind_eq_some_iff, Option.pure_def,
        Option.some.injEq, Prod.mk.injEq] at h
      rcases h with ⟨c, hc, ⟨more, after⟩, hmore, rfl, rfl⟩
      rcases ih hmore with ⟨used, hused, rfl⟩
      exact ⟨_, .letter c e more used hc hused, rfl⟩
  | case6 c s hquote hunit hletter hbad =>
      rw [readPieces.eq_6 c s hquote hunit hletter, if_pos hbad] at h
      simp only [reduceCtorEq] at h
  | case7 c s hquote hunit hletter hplain ih =>
      rw [readPieces.eq_6 c s hquote hunit hletter, if_neg hplain, Option.map_eq_some_iff] at h
      rcases h with ⟨⟨more, after⟩, hmore, h⟩
      rw [Prod.mk.injEq] at h
      rcases ih hmore with ⟨used, hused, rfl⟩
      rw [not_or, Nat.not_lt] at hplain
      exact ⟨some c :: used, h.1 ▸ .plain c more used hquote hplain.1 hplain.2 hused,
        by rw [h.2, List.cons_append]⟩

/-- A string is read exactly where one stands. -/
theorem readString_eq_some_iff (s : Source) (r : Raw) (rest : Source) :
    readString s = some (r, rest) ↔ ∃ used, StringSource r used ∧ s = used ++ some '"' :: rest := by
  rw [readString, Option.map_eq_some_iff]
  constructor
  · intro h
    rcases h with ⟨⟨pieces, after⟩, hread, h⟩
    rw [Prod.mk.injEq] at h
    rcases source_of_readPieces s hread with ⟨used, hused, rfl⟩
    exact ⟨used, ⟨pieces, hused, h.1⟩, by rw [h.2]⟩
  · intro h
    rcases h with ⟨used, ⟨pieces, hused, rfl⟩, rfl⟩
    exact ⟨_, readPieces_of_source hused rest, rfl⟩

/-- A character is written as pieces that are joined to it. -/
theorem pieces_of_charSpelling {c : Char} {text : List Char} (h : CharSpelling c text)
    {pieces : List Piece} {s : Source} (hs : PiecesSource pieces s) :
    ∃ more, PiecesSource more (text.map some ++ s) ∧
      joinPieces more = some c :: joinPieces pieces := by
  cases h with
  | plain hquote hbackslash hcontrol =>
      exact ⟨_, .plain c pieces s hquote hbackslash hcontrol hs, rfl⟩
  | letter e he => exact ⟨_, .letter c e pieces s he hs, rfl⟩
  | unit digits hunit => exact ⟨_, .unit _ digits pieces s hunit hs, joinPieces_unit c pieces⟩
  | pair high low digits more hhigh hlow hchar hunit hunit' =>
      refine ⟨_, ?_, joinPieces_pair c high low hhigh hlow hchar pieces⟩
      have hboth := PiecesSource.unit _ digits _ _ hunit (.unit _ more pieces s hunit' hs)
      simpa only [List.map_cons, List.map_append, List.cons_append, List.append_assoc] using hboth

/-- A spelling of a string is a source of it. -/
theorem stringSource_of_spelling {l text : List Char} (h : StringSpelling l text) :
    StringSource (l.map some) (text.map some) := by
  induction h with
  | nil => exact ⟨[], .nil, rfl⟩
  | cons c l text more hc _ ih =>
      rcases ih with ⟨pieces, hpieces, hjoin⟩
      rcases pieces_of_charSpelling hc hpieces with ⟨all, hall, hjoin'⟩
      exact ⟨all, by rwa [List.map_append], by rw [hjoin', hjoin, List.map_cons]⟩

/-- A value begins neither with white space nor with a closing bracket, and
    only an array with an opening one. -/
theorem head_source {t : Tree} {s : Source} (h : TreeSource t s) :
    ∃ c more, s = some c :: more ∧ ¬ IsBlank c ∧ c ≠ ']' ∧ c ≠ '\x7d' ∧
      (c = '[' ↔ ∃ items, t = .array items) := by
  cases h with
  | number n text h =>
      rcases head_numeral h with ⟨c, more, rfl, hc⟩
      refine ⟨c, more.map some, rfl, not_isBlank_of_head_numeral hc,
        ne_of_head_numeral hc _ rfl (by decide), ne_of_head_numeral hc _ rfl (by decide),
        fun heq => absurd heq (ne_of_head_numeral hc _ rfl (by decide)), fun harray => ?_⟩
      rcases harray with ⟨items, harray⟩
      simp only [reduceCtorEq] at harray
  | emptyArray w _ =>
      exact ⟨_, _, rfl, by decide, by decide, by decide,
        fun _ => ⟨[], rfl⟩, fun _ => rfl⟩
  | array items s _ =>
      exact ⟨_, _, rfl, by decide, by decide, by decide,
        fun _ => ⟨items, rfl⟩, fun _ => rfl⟩
  | _ =>
      refine ⟨_, _, rfl, by decide, by decide, by decide,
        fun heq => absurd heq (by decide), fun harray => ?_⟩
      rcases harray with ⟨items, harray⟩
      simp only [reduceCtorEq] at harray

/-- What stands before a value is skipped. -/
theorem skipBlank_source {t : Tree} {s : Source} (h : TreeSource t s) (w : List Char)
    (hw : Blanks w) (rest : Source) :
    skipBlank (w.map some ++ (s ++ rest)) = s ++ rest := by
  rcases head_source h with ⟨c, more, rfl, hblank, -⟩
  rw [skipBlank_blanks w hw, List.cons_append, skipBlank_cons c hblank]

theorem skipBlank_items {items : List Tree} {s : Source} (h : ItemsSource items s)
    (rest l : Source) : skipBlank (s ++ rest) ≠ some ']' :: l := by
  -- The first item begins with a character, and no value begins with a bracket.
  have hhead : ∀ (t : Tree) (v : List Char) (s rest : Source), Blanks v → TreeSource t s →
      skipBlank (v.map some ++ (s ++ rest)) ≠ some ']' :: l := by
    intro t v s rest hv ht heq
    rw [skipBlank_source ht v hv] at heq
    rcases head_source ht with ⟨c, more, rfl, -, hc, -⟩
    exact hc (Option.some.inj (List.cons.inj heq).1)
  cases h with
  | last t v s w hv ht _ =>
      rw [List.append_assoc, List.append_assoc]
      exact hhead t v s _ hv ht
  | more t v s w more moreSource hv ht _ _ =>
      rw [List.append_assoc, List.append_assoc]
      exact hhead t v s _ hv ht

theorem skipBlank_member {member : Raw × Tree} {s : Source} (h : MemberSource member s)
    (rest l : Source) : skipBlank (s ++ rest) ≠ some '\x7d' :: l := by
  cases h with
  | mk key t u keySource v w s x hu =>
      rw [List.append_assoc, skipBlank_blanks u hu, List.cons_append,
        skipBlank_cons _ (by decide)]
      intro heq
      exact absurd (List.cons.inj heq).1 (by decide)

theorem skipBlank_members {members : List (Raw × Tree)} {s : Source}
    (h : MembersSource members s) (rest l : Source) :
    skipBlank (s ++ rest) ≠ some '\x7d' :: l := by
  cases h with
  | last member s h => exact skipBlank_member h rest l
  | more member s more moreSource h _ =>
      rw [List.append_assoc]
      exact skipBlank_member h _ l

theorem follows_of_ends {t : Tree} {rest : Source} (h : Ends rest) : Follows t rest :=
  fun _ _ => h

mutual

/-- A value is found wherever it stands. -/
theorem readTree_of_source {t : Tree} {s : Source} (h : TreeSource t s) (fuel : Nat)
    (hfuel : 2 * s.length ≤ fuel) (rest : Source) (hrest : Follows t rest) :
    readTree fuel (s ++ rest) = some (t, rest) := by
  rcases head_source h with ⟨c, more, hs, -⟩
  rcases Nat.exists_eq_succ_of_ne_zero (n := fuel) (by rw [hs, List.length_cons] at hfuel; omega)
    with ⟨fuel, rfl⟩
  -- The reader goes by the first character, so each case brings it to the front.
  cases h with
  | null => rfl
  | true => rfl
  | false => rfl
  | number n text h =>
      rcases head_numeral h with ⟨d, digits, rfl, hd⟩
      have hread := readNumeral_of_spelling rest h (hrest n rfl)
      rw [List.map_cons, List.cons_append] at hread ⊢
      rw [readTree_numeral fuel d hd, hread, Option.map_some]
  | string r s h =>
      have hread := (readString_eq_some_iff (s ++ some '"' :: rest) r rest).mpr ⟨s, h, rfl⟩
      rw [List.cons_append, List.append_assoc, readTree,
        skipBlank_cons _ (by decide)]
      simp only [List.cons_append, List.nil_append, hread, Option.map_some]
  | emptyArray w hw =>
      rw [List.cons_append, List.append_assoc, readTree,
        skipBlank_cons _ (by decide)]
      simp only [skipBlank_blanks w hw, List.cons_append, List.nil_append]
      rw [skipBlank_cons _ (by decide)]
      rfl
  | array items s h =>
      have hread := readItems_of_source h fuel
        (by simp only [List.length_cons, List.length_append] at hfuel; omega) rest
      rw [List.cons_append, List.append_assoc, readTree_array _ _ (skipBlank_items h _),
        readItems_skipBlank]
      simp only [List.cons_append, List.nil_append, hread, Option.map_some]
  | emptyObject w hw =>
      rw [List.cons_append, List.append_assoc, readTree,
        skipBlank_cons _ (by decide)]
      simp only [skipBlank_blanks w hw, List.cons_append, List.nil_append]
      rw [skipBlank_cons _ (by decide)]
      rfl
  | object members s h =>
      have hread := readMembers_of_source h fuel
        (by simp only [List.length_cons, List.length_append] at hfuel; omega) rest
      rw [List.cons_append, List.append_assoc, readTree_object _ _ (skipBlank_members h _),
        readMembers_skipBlank]
      simp only [List.cons_append, List.nil_append, hread, Option.map_some]

theorem readItems_of_source {items : List Tree} {s : Source} (h : ItemsSource items s)
    (fuel : Nat) (hfuel : 2 * s.length + 1 ≤ fuel) (rest : Source) :
    readItems fuel (s ++ some ']' :: rest) = some (items, rest) := by
  rcases Nat.exists_eq_succ_of_ne_zero (n := fuel) (by omega) with ⟨fuel, rfl⟩
  cases h with
  | last t v s w hv h hw =>
      have hread := readTree_of_source h fuel
        (by simp only [List.length_append] at hfuel; omega) _
        (follows_of_ends (ends_blanks _ w hw (ends_cons rest ']' (by decide))))
      rw [readItems, List.append_assoc, readTree_blanks _ _ hv, List.append_assoc, hread]
      simp only [Option.bind_eq_bind, Option.bind_some, skipBlank_blanks w hw]
      rw [skipBlank_cons _ (by decide)]
      rfl
  | more t v s w more moreSource hv h hw hmore =>
      have hread := readTree_of_source h fuel
        (by simp only [List.length_append] at hfuel; omega) _
        (follows_of_ends
          (ends_blanks _ w hw (ends_cons (moreSource ++ some ']' :: rest) ',' (by decide))))
      have hread' := readItems_of_source hmore fuel
        (by simp only [List.length_append, List.length_cons] at hfuel; omega) rest
      rw [readItems, List.append_assoc, readTree_blanks _ _ hv, List.append_assoc,
        List.append_assoc, List.cons_append, hread]
      simp only [Option.bind_eq_bind, Option.bind_some, skipBlank_blanks w hw]
      rw [skipBlank_cons _ (by decide)]
      simp only [hread', Option.bind_some, Option.pure_def]

/-- Behind a member stands a comma and another member, or the closing brace. -/
theorem readMember_of_source {member : Raw × Tree} {used : Source}
    (h : MemberSource member used) (fuel : Nat) (hfuel : 2 * used.length ≤ fuel) (s : Source)
    (hs : Ends s) :
    readMembers (fuel + 1) (used ++ s) =
      match skipBlank s with
      | some ',' :: more => (readMembers fuel more).map fun (ms, after) => (member :: ms, after)
      | some '\x7d' :: after => some ([member], after)
      | _ => none := by
  cases h with
  | mk key t u keySource v w tree x hu hkey hv hw h hx =>
      have hread := readTree_of_source h fuel
        (by simp only [List.length_append, List.length_cons] at hfuel; omega) _
        (follows_of_ends (ends_blanks s x hx hs))
      have hreadKey := fun rest =>
        (readString_eq_some_iff (keySource ++ some '"' :: rest) key rest).mpr ⟨_, hkey, rfl⟩
      rw [readMembers, List.append_assoc, skipBlank_blanks u hu, List.cons_append,
        skipBlank_cons _ (by decide), List.append_assoc, List.cons_append]
      simp only [afterWord, if_true, Option.bind_eq_bind, Option.bind_some, hreadKey]
      rw [List.append_assoc, skipBlank_blanks v hv, List.cons_append,
        skipBlank_cons _ (by decide)]
      simp only [afterWord, if_true, Option.bind_some]
      rw [List.append_assoc, readTree_blanks _ w hw, List.append_assoc, hread]
      simp only [Option.bind_some, skipBlank_blanks x hx, Option.pure_def]
      generalize skipBlank s = next
      split
      · exact Option.map_eq_bind.symm
      · rfl
      · simp only

theorem readMembers_of_source {members : List (Raw × Tree)} {s : Source}
    (h : MembersSource members s) (fuel : Nat) (hfuel : 2 * s.length + 1 ≤ fuel)
    (rest : Source) :
    readMembers fuel (s ++ some '\x7d' :: rest) = some (members, rest) := by
  rcases Nat.exists_eq_succ_of_ne_zero (n := fuel) (by omega) with ⟨fuel, rfl⟩
  cases h with
  | last member s h =>
      rw [readMember_of_source h fuel (by omega) _ (ends_cons rest '\x7d' (by decide)),
        skipBlank_cons _ (by decide)]
      rfl
  | more member s more moreSource h hmore =>
      have hread := readMembers_of_source hmore fuel
        (by simp only [List.length_append, List.length_cons] at hfuel; omega) rest
      rw [List.append_assoc, List.cons_append,
        readMember_of_source h fuel
          (by simp only [List.length_append, List.length_cons] at hfuel; omega) _
          (ends_cons _ ',' (by decide)),
        skipBlank_cons _ (by decide)]
      simp only [hread, Option.map_some]

end

mutual

/-- A spelling of a value is a source of it. -/
theorem treeSource_of_spelling {t : Tree} {text : List Char} (h : Spelling t text) :
    TreeSource t (text.map some) := by
  cases h with
  | null => exact .null
  | true => exact .true
  | false => exact .false
  | number n text h => exact .number n text h
  | string l text h =>
      rw [List.map_cons, List.map_append]
      exact .string _ _ (stringSource_of_spelling h)
  | emptyArray w hw =>
      rw [List.map_cons, List.map_append]
      exact .emptyArray w hw
  | array items text h =>
      rw [List.map_cons, List.map_append]
      exact .array items _ (itemsSource_of_spelling h)
  | emptyObject w hw =>
      rw [List.map_cons, List.map_append]
      exact .emptyObject w hw
  | object members text h =>
      rw [List.map_cons, List.map_append]
      exact .object members _ (membersSource_of_spelling h)

theorem itemsSource_of_spelling {items : List Tree} {text : List Char}
    (h : ItemsSpelling items text) : ItemsSource items (text.map some) := by
  cases h with
  | last t v text w hv h hw =>
      rw [List.map_append, List.map_append]
      exact .last t v _ w hv (treeSource_of_spelling h) hw
  | more t v text w rest restText hv h hw hrest =>
      rw [List.map_append, List.map_append, List.map_append, List.map_cons]
      exact .more t v _ w rest _ hv (treeSource_of_spelling h) hw (itemsSource_of_spelling hrest)

theorem memberSource_of_spelling {member : Raw × Tree} {text : List Char}
    (h : MemberSpelling member text) : MemberSource member (text.map some) := by
  cases h with
  | mk key t u keyText v w text x hu hkey hv hw h hx =>
      simp only [List.map_append, List.map_cons]
      exact .mk _ t u _ v w _ x hu (stringSource_of_spelling hkey) hv hw
        (treeSource_of_spelling h) hx

theorem membersSource_of_spelling {members : List (Raw × Tree)} {text : List Char}
    (h : MembersSpelling members text) : MembersSource members (text.map some) := by
  cases h with
  | last member text h => exact .last member _ (memberSource_of_spelling h)
  | more member text rest restText h hrest =>
      rw [List.map_append, List.map_cons]
      exact .more member _ rest _ (memberSource_of_spelling h) (membersSource_of_spelling hrest)

end

/-- A spelling begins neither with white space nor with a closing bracket. -/
theorem head_spelling {t : Tree} {text : List Char} (h : Spelling t text) :
    ∃ c more, text = c :: more ∧ ¬ IsBlank c ∧ c ≠ ']' ∧ c ≠ '\x7d' := by
  rcases head_source (treeSource_of_spelling h) with ⟨c, more, hs, hblank, hbracket, hbrace, -⟩
  rcases List.map_eq_cons_iff.mp hs with ⟨d, l, rfl, hd, -⟩
  rw [Option.some.injEq] at hd
  exact ⟨d, l, rfl, hd ▸ hblank, hd ▸ hbracket, hd ▸ hbrace⟩

end Json

end PullTriage
