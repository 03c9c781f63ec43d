import PullTriage.Json.Reader

/-!
# Spellings of JSON

The grammar of JSON as relations between what a text says and the text. One
value has many spellings: white space may stand between any two parts, and
most characters of a string can be written in several ways. The reader has to
find the value in every one of them. That it does is proved where the grammar
is extended to sources that are damaged in places; the parts that are never
damaged, white space and numbers, are read here.

What follows a value is left open, so that a value is found where it stands in
a longer text. It may not go on with what could belong to a number, since a
number has no end of its own.

## Main definitions

* `Blanks`: White space.
* `CharSpelling`, `StringSpelling`: How a string can be written.
* `Numeral.Spelling`: How a number can be written.
* `Spelling`: How a value can be written.
* `Ends`: What can follow a value.
* `AllSpelling`: How values can be written one after the other.

## Theorems

* `joinPieces_unit`, `joinPieces_pair`: Code units that are characters.
* `skipBlank_blanks`: White space is skipped.
* `readNumeral_of_spelling`: Numbers are found.
* `readTree_numeral`, `readTree_array`, `readTree_object`: The reader goes by
  the first character.
-/

namespace PullTriage

namespace Json

/-- The character is white space. -/
def IsBlank (c : Char) : Prop :=
  c = ' ' ∨ c = '\n' ∨ c = '\t' ∨ c = '\r'

instance (c : Char) : Decidable (IsBlank c) :=
  inferInstanceAs (Decidable (_ ∨ _))

/-- The text is white space. -/
def Blanks (w : List Char) : Prop :=
  ∀ c ∈ w, IsBlank c

theorem blanks_nil : Blanks [] :=
  fun _ hc => absurd hc List.not_mem_nil

/-- Four hexadecimal digits spell a code unit. -/
inductive UnitSpelling : Nat → List Char → Prop
  | mk (a b c d : Char) (i j k l : Nat) (ha : hexValue? a = some i) (hb : hexValue? b = some j)
      (hc : hexValue? c = some k) (hd : hexValue? d = some l) :
      UnitSpelling (16 * (16 * (16 * i + j) + k) + l) [a, b, c, d]

/-- How a character can be written in a string: as itself, by a letter behind a
    backslash, by its code unit, or by the two units of a surrogate pair. -/
inductive CharSpelling (c : Char) : List Char → Prop
  | plain (hquote : c ≠ '"') (hbackslash : c ≠ '\\') (hcontrol : 32 ≤ c.toNat) :
      CharSpelling c [c]
  | letter (e : Char) (h : escaped? e = some c) : CharSpelling c ['\\', e]
  | unit (digits : List Char) (h : UnitSpelling c.toNat digits) :
      CharSpelling c ('\\' :: 'u' :: digits)
  | pair (high low : Nat) (digits more : List Char) (hhigh : high < 0x400) (hlow : low < 0x400)
      (hchar : c.toNat = 0x10000 + high * 0x400 + low)
      (h : UnitSpelling (0xD800 + high) digits) (h' : UnitSpelling (0xDC00 + low) more) :
      CharSpelling c ('\\' :: 'u' :: (digits ++ '\\' :: 'u' :: more))

/-- How the characters of a string can be written between its quotes. -/
inductive StringSpelling : List Char → List Char → Prop
  | nil : StringSpelling [] []
  | cons (c : Char) (rest text more : List Char) (h : CharSpelling c text)
      (hrest : StringSpelling rest more) : StringSpelling (c :: rest) (text ++ more)

/-- The text consists of digits, at least one. -/
def Digits (l : List Char) : Prop :=
  l ≠ [] ∧ ∀ c ∈ l, c.isDigit = true

namespace Numeral

/-- How a fraction can be written. -/
inductive FractionSpelling : Option (List Char) → List Char → Prop
  | none : FractionSpelling none []
  | some (digits : List Char) (h : Digits digits) : FractionSpelling (some digits) ('.' :: digits)

/-- How an exponent can be written. -/
inductive ExponentSpelling : Option (Bool × List Char) → List Char → Prop
  | none : ExponentSpelling none []
  | unsigned (e : Char) (digits : List Char) (he : e = 'e' ∨ e = 'E') (h : Digits digits) :
      ExponentSpelling (some (false, digits)) (e :: digits)
  | positive (e : Char) (digits : List Char) (he : e = 'e' ∨ e = 'E') (h : Digits digits) :
      ExponentSpelling (some (false, digits)) (e :: '+' :: digits)
  | negative (e : Char) (digits : List Char) (he : e = 'e' ∨ e = 'E') (h : Digits digits) :
      ExponentSpelling (some (true, digits)) (e :: '-' :: digits)

/-- How a number can be written: without leading zeros, and with digits on
    both sides of a point. -/
inductive Spelling : Numeral → List Char → Prop
  | mk (sign : Bool) (whole : List Char) (fraction : Option (List Char))
      (exponent : Option (Bool × List Char)) (text more : List Char) (hwhole : Digits whole)
      (hzero : whole.head? = some '0' → whole = ['0'])
      (hfraction : FractionSpelling fraction text) (hexponent : ExponentSpelling exponent more) :
      Spelling ⟨sign, whole, fraction, exponent⟩
        ((if sign then ['-'] else []) ++ (whole ++ (text ++ more)))

end Numeral

mutual

/-- How a value can be written. -/
inductive Spelling : Tree → List Char → Prop
  | null : Spelling .null ['n', 'u', 'l', 'l']
  | true : Spelling (.bool true) ['t', 'r', 'u', 'e']
  | false : Spelling (.bool false) ['f', 'a', 'l', 's', 'e']
  | number (n : Numeral) (text : List Char) (h : n.Spelling text) : Spelling (.number n) text
  | string (l text : List Char) (h : StringSpelling l text) :
      Spelling (.string (l.map some)) ('"' :: (text ++ ['"']))
  | emptyArray (w : List Char) (hw : Blanks w) : Spelling (.array []) ('[' :: (w ++ [']']))
  | array (items : List Tree) (text : List Char) (h : ItemsSpelling items text) :
      Spelling (.array items) ('[' :: (text ++ [']']))
  | emptyObject (w : List Char) (hw : Blanks w) :
      Spelling (.object []) ('\x7b' :: (w ++ ['\x7d']))
  | object (members : List (Raw × Tree)) (text : List Char) (h : MembersSpelling members text) :
      Spelling (.object members) ('\x7b' :: (text ++ ['\x7d']))

/-- How the items of an array can be written between its brackets. -/
inductive ItemsSpelling : List Tree → List Char → Prop
  | last (t : Tree) (v text w : List Char) (hv : Blanks v) (h : Spelling t text) (hw : Blanks w) :
      ItemsSpelling [t] (v ++ (text ++ w))
  | more (t : Tree) (v text w : List Char) (rest : List Tree) (restText : List Char)
      (hv : Blanks v) (h : Spelling t text) (hw : Blanks w)
      (hrest : ItemsSpelling rest restText) :
      ItemsSpelling (t :: rest) (v ++ (text ++ (w ++ ',' :: restText)))

/-- How a member of an object can be written. -/
inductive MemberSpelling : Raw × Tree → List Char → Prop
  | mk (key : List Char) (t : Tree) (u keyText v w text x : List Char) (hu : Blanks u)
      (hkey : StringSpelling key keyText) (hv : Blanks v) (hw : Blanks w) (h : Spelling t text)
      (hx : Blanks x) :
      MemberSpelling (key.map some, t)
        (u ++ ('"' :: (keyText ++ ('"' :: (v ++ (':' :: (w ++ (text ++ x))))))))

/-- How the members of an object can be written between its braces. -/
inductive MembersSpelling : List (Raw × Tree) → List Char → Prop
  | last (member : Raw × Tree) (text : List Char) (h : MemberSpelling member text) :
      MembersSpelling [member] text
  | more (member : Raw × Tree) (text : List Char) (rest : List (Raw × Tree))
      (restText : List Char) (h : MemberSpelling member text)
      (hrest : MembersSpelling rest restText) :
      MembersSpelling (member :: rest) (text ++ ',' :: restText)

end

/-- What follows a value does not go on with what could belong to a number. -/
def Ends (rest : Source) : Prop :=
  ∀ c, rest.head? = some (some c) → c.isDigit = false ∧ c ≠ '.' ∧ c ≠ 'e' ∧ c ≠ 'E'

section

variable (rest : Source)

theorem codeUnit?_of_spelling {n : Nat} {digits : List Char} (h : UnitSpelling n digits) :
    ∃ a b c d, digits = [a, b, c, d] ∧ codeUnit? [some a, some b, some c, some d] = some n := by
  cases h with
  | mk a b c d i j k l ha hb hc hd =>
      refine ⟨a, b, c, d, rfl, ?_⟩
      simp only [codeUnit?, List.mapM_cons, List.mapM_nil, Option.bind_some, ha, hb, hc, hd,
        Option.bind_eq_bind, Option.pure_def, Option.map_some, List.foldl_cons, List.foldl_nil,
        Nat.mul_zero, Nat.zero_add]

/-- A code unit that is a character is joined to nothing. -/
theorem joinPieces_unit (c : Char) (pieces : List Piece) :
    joinPieces (.unit c.toNat :: pieces) = some c :: joinPieces pieces := by
  have hvalid : c.toNat < 0xD800 ∨ 0xDFFF < c.toNat ∧ c.toNat < 0x110000 := c.valid
  have hchar : Char.ofNat c.toNat = c := Char.ofNat_toNat c
  generalize c.toNat = n at hvalid hchar ⊢
  have hwhole : ¬ (0xD800 ≤ n ∧ n < 0xE000) := by omega
  cases pieces with
  | nil => simp only [joinPieces, if_neg hwhole, hchar]
  | cons piece more =>
      cases piece with
      | unit m => rw [joinPieces, if_neg (by omega), if_neg hwhole, hchar]
      | _ => simp only [joinPieces, if_neg hwhole, hchar]

theorem joinPieces_pair (c : Char) (high low : Nat) (hhigh : high < 0x400) (hlow : low < 0x400)
    (hchar : c.toNat = 0x10000 + high * 0x400 + low) (pieces : List Piece) :
    joinPieces (.unit (0xD800 + high) :: .unit (0xDC00 + low) :: pieces)
      = some c :: joinPieces pieces := by
  rw [joinPieces, if_pos (by omega), Nat.add_sub_cancel_left, Nat.add_sub_cancel_left, ← hchar,
    Char.ofNat_toNat]

theorem skipBlank_blank (c : Char) (h : IsBlank c) (s : Source) :
    skipBlank (some c :: s) = skipBlank s := by
  rw [skipBlank]
  exact if_pos h

theorem skipBlank_cons (c : Char) (h : ¬ IsBlank c) (s : Source) :
    skipBlank (some c :: s) = some c :: s := by
  rw [skipBlank]
  exact if_neg h

theorem skipBlank_blanks (w : List Char) (hw : Blanks w) (s : Source) :
    skipBlank (w.map some ++ s) = skipBlank s := by
  induction w with
  | nil => rfl
  | cons c more ih =>
      rw [List.map_cons, List.cons_append, skipBlank_blank c (hw c List.mem_cons_self)]
      exact ih fun d hd => hw d (List.mem_cons_of_mem _ hd)

theorem skipBlank_skipBlank (s : Source) : skipBlank (skipBlank s) = skipBlank s := by
  induction s with
  | nil => rfl
  | cons c rest ih =>
      cases c with
      | none => rfl
      | some c =>
          by_cases h : IsBlank c
          · rw [skipBlank_blank c h, ih]
          · rw [skipBlank_cons c h, skipBlank_cons c h]

/-- Digits are read up to what is no digit. -/
theorem spanDigits_append (digits : List Char) (h : ∀ c ∈ digits, c.isDigit = true) (s : Source)
    (hs : ∀ c, s.head? = some (some c) → c.isDigit = false) :
    spanDigits (digits.map some ++ s) = (digits, s) := by
  induction digits with
  | nil =>
      rw [List.map_nil, List.nil_append]
      cases s with
      | nil => rfl
      | cons c rest =>
          cases c with
          | none => rfl
          | some c => rw [spanDigits, hs c rfl, if_neg Bool.false_ne_true]
  | cons c more ih =>
      rw [List.map_cons, List.cons_append, spanDigits, if_pos (h c List.mem_cons_self),
        ih fun d hd => h d (List.mem_cons_of_mem _ hd)]

theorem spanDigits_digits (digits : List Char) (h : Digits digits) (s : Source)
    (hs : ∀ c, s.head? = some (some c) → c.isDigit = false) :
    ∃ d more, digits = d :: more ∧ spanDigits (digits.map some ++ s) = (d :: more, s) := by
  rcases List.exists_cons_of_ne_nil h.1 with ⟨d, more, rfl⟩
  exact ⟨d, more, rfl, spanDigits_append _ h.2 s hs⟩

theorem readFraction_of_spelling {fraction : Option (List Char)} {text : List Char}
    (h : Numeral.FractionSpelling fraction text)
    (hrest : ∀ c, rest.head? = some (some c) → c.isDigit = false ∧ c ≠ '.') :
    readFraction (text.map some ++ rest) = some (fraction, rest) := by
  cases h with
  | none =>
      rw [List.map_nil, List.nil_append]
      unfold readFraction
      split
      · exact absurd rfl (hrest '.' rfl).2
      · rfl
  | some digits h =>
      rcases spanDigits_digits digits h rest (fun c hc => (hrest c hc).1) with ⟨d, more, rfl, hspan⟩
      rw [List.map_cons, List.cons_append, readFraction, hspan]

theorem readExponent_of_spelling {exponent : Option (Bool × List Char)} {text : List Char}
    (h : Numeral.ExponentSpelling exponent text)
    (hrest : ∀ c, rest.head? = some (some c) → c.isDigit = false ∧ c ≠ 'e' ∧ c ≠ 'E') :
    readExponent (text.map some ++ rest) = some (exponent, rest) := by
  cases h with
  | none =>
      rw [List.map_nil, List.nil_append]
      unfold readExponent
      split
      · next c more =>
        rw [if_neg (not_or.mpr (hrest c rfl).2)]
      · rfl
  | unsigned e digits he h =>
      rcases spanDigits_digits digits h rest (fun c hc => (hrest c hc).1) with ⟨d, more, rfl, hspan⟩
      have hsign : ∀ c : Char, c.isDigit = false → ∀ l,
          (d :: more).map some ++ rest = some c :: l → False := by
        intro c hc l heq
        rw [List.map_cons, List.cons_append, List.cons.injEq, Option.some.injEq] at heq
        rw [← heq.1, h.2 d List.mem_cons_self] at hc
        exact absurd hc (by simp only [reduceCtorEq, not_false_eq_true])
      rw [List.map_cons, List.cons_append,
        readExponent.eq_3 e _ (hsign '-' rfl) (hsign '+' rfl), if_pos he]
      simp only [hspan]
  | positive e digits he h =>
      rcases spanDigits_digits digits h rest (fun c hc => (hrest c hc).1) with ⟨d, more, rfl, hspan⟩
      rw [List.map_cons, List.map_cons, List.cons_append, List.cons_append, readExponent,
        if_pos he]
      simp only [hspan]
  | negative e digits he h =>
      rcases spanDigits_digits digits h rest (fun c hc => (hrest c hc).1) with ⟨d, more, rfl, hspan⟩
      rw [List.map_cons, List.map_cons, List.cons_append, List.cons_append, readExponent,
        if_pos he]
      simp only [hspan]

theorem head?_exponent {exponent : Option (Bool × List Char)} {text : List Char}
    (h : Numeral.ExponentSpelling exponent text) (hrest : Ends rest) (c : Char)
    (hc : (text.map some ++ rest).head? = some (some c)) : c.isDigit = false ∧ c ≠ '.' := by
  have hletter : ∀ c : Char, c = 'e' ∨ c = 'E' → c.isDigit = false ∧ c ≠ '.' := by
    rintro c (rfl | rfl) <;> decide
  cases h with
  | none => exact ⟨(hrest c hc).1, (hrest c hc).2.1⟩
  | _ =>
      rw [List.map_cons, List.cons_append, List.head?_cons, Option.some.injEq,
        Option.some.injEq] at hc
      exact hletter c (hc ▸ ‹_ ∨ _›)

theorem head?_fraction {fraction : Option (List Char)} {text : List Char}
    (h : Numeral.FractionSpelling fraction text)
    (hrest : ∀ c, rest.head? = some (some c) → c.isDigit = false) (c : Char)
    (hc : (text.map some ++ rest).head? = some (some c)) : c.isDigit = false := by
  cases h with
  | none => exact hrest c hc
  | some digits _ =>
      rw [List.map_cons, List.cons_append, List.head?_cons, Option.some.injEq,
        Option.some.injEq] at hc
      exact hc ▸ rfl

/-- A number is found up to what cannot belong to it. -/
theorem readNumeral_of_spelling {n : Numeral} {text : List Char} (h : n.Spelling text)
    (hrest : Ends rest) : readNumeral (text.map some ++ rest) = some (n, rest) := by
  cases h with
  | mk sign whole fraction exponent text more hwhole hzero hfraction hexponent =>
      have hmore := head?_exponent rest hexponent hrest
      have hspan := spanDigits_append whole hwhole.2 _
        (head?_fraction _ hfraction fun c hc => (hmore c hc).1)
      have hread := readFraction_of_spelling _ hfraction hmore
      have hread' := readExponent_of_spelling rest hexponent
        fun c hc => ⟨(hrest c hc).1, (hrest c hc).2.2⟩
      have hlead : (whole.isEmpty || (whole.head? == some '0' && decide (1 < whole.length)))
          = false := by
        rw [List.isEmpty_eq_false_iff.mpr hwhole.1, Bool.false_or, Bool.and_eq_false_iff]
        by_cases hhead : whole.head? = some '0'
        · rw [hzero hhead]
          exact Or.inr rfl
        · exact Or.inl (beq_eq_false_iff_ne.mpr hhead)
      unfold readNumeral
      simp only [List.map_append, List.append_assoc]
      cases sign with
      | true =>
          simp only [if_true, List.map_cons, List.map_nil, List.cons_append, List.nil_append,
            hspan, hlead, hread]
          simp only [Bool.false_eq_true, if_false, Option.bind_eq_bind, Option.bind_some, hread',
            Option.pure_def]
      | false =>
          simp only [Bool.false_eq_true, if_false, List.map_nil, List.nil_append]
          split
          · next heq =>
            -- A number without a sign does not begin with one.
            rcases List.exists_cons_of_ne_nil hwhole.1 with ⟨d, digits, rfl⟩
            rw [List.map_cons, List.cons_append, List.cons.injEq, Option.some.injEq] at heq
            have hdigit := hwhole.2 d List.mem_cons_self
            rw [heq.1] at hdigit
            exact absurd hdigit (by decide)
          · simp only [hspan, hlead, hread, Bool.false_eq_true, if_false, Option.bind_eq_bind,
              Option.bind_some, hread', Option.pure_def]

/-- A number begins with a minus sign or a digit. -/
theorem head_numeral {n : Numeral} {text : List Char} (h : n.Spelling text) :
    ∃ c more, text = c :: more ∧ (c = '-' ∨ c.isDigit = true) := by
  cases h with
  | mk sign whole fraction exponent text more hwhole hzero hfraction hexponent =>
      cases sign with
      | true => exact ⟨_, _, rfl, Or.inl rfl⟩
      | false =>
          rcases List.exists_cons_of_ne_nil hwhole.1 with ⟨d, digits, rfl⟩
          exact ⟨_, _, rfl, Or.inr (hwhole.2 d List.mem_cons_self)⟩

theorem ne_of_head_numeral {c : Char} (hc : c = '-' ∨ c.isDigit = true) (d : Char)
    (hd : d.isDigit = false) (hminus : d ≠ '-') : c ≠ d := by
  rintro rfl
  rcases hc with hc | hc
  · exact hminus hc
  · rw [hd] at hc
    exact absurd hc (by simp only [reduceCtorEq, not_false_eq_true])

theorem not_isBlank_of_head_numeral {c : Char} (hc : c = '-' ∨ c.isDigit = true) :
    ¬ IsBlank c := by
  rintro (h | h | h | h) <;> exact ne_of_head_numeral hc _ rfl (by decide) h

theorem readTree_skipBlank (fuel : Nat) (s : Source) :
    readTree fuel (skipBlank s) = readTree fuel s := by
  cases fuel with
  | zero => rfl
  | succ fuel => rw [readTree, readTree, skipBlank_skipBlank]

theorem readTree_blanks (fuel : Nat) (w : List Char) (hw : Blanks w) (s : Source) :
    readTree fuel (w.map some ++ s) = readTree fuel s := by
  rw [← readTree_skipBlank, skipBlank_blanks w hw, readTree_skipBlank]

theorem readTree_numeral (fuel : Nat) (c : Char) (hc : c = '-' ∨ c.isDigit = true) (s : Source) :
    readTree (fuel + 1) (some c :: s) =
      (readNumeral (some c :: s)).map fun (n, after) => (.number n, after) := by
  have hne : ∀ d l, d.isDigit = false → d ≠ '-' → some c :: s ≠ some d :: l :=
    fun d l hd hminus h => ne_of_head_numeral hc d hd hminus (Option.some.inj (List.cons.inj h).1)
  rw [readTree, skipBlank_cons c (not_isBlank_of_head_numeral hc)]
  split
  · next heq => exact absurd heq (hne _ _ rfl (by decide))
  · next heq => exact absurd heq (hne _ _ rfl (by decide))
  · next heq => exact absurd heq (hne _ _ rfl (by decide))
  · next heq => exact absurd heq (hne _ _ rfl (by decide))
  · next heq => exact absurd heq (hne _ _ rfl (by decide))
  · next heq => exact absurd heq (hne _ _ rfl (by decide))
  · rfl

theorem ends_blanks (w : List Char) (hw : Blanks w) (hrest : Ends rest) :
    Ends (w.map some ++ rest) := by
  cases w with
  | nil => exact hrest
  | cons c more =>
      intro d hd
      rw [List.map_cons, List.cons_append, List.head?_cons, Option.some.injEq,
        Option.some.injEq] at hd
      rcases hd ▸ hw c List.mem_cons_self with rfl | rfl | rfl | rfl <;> decide

theorem ends_cons (c : Char) (h : c.isDigit = false ∧ c ≠ '.' ∧ c ≠ 'e' ∧ c ≠ 'E') :
    Ends (some c :: rest) := by
  intro d hd
  rw [List.head?_cons, Option.some.injEq, Option.some.injEq] at hd
  exact hd ▸ h

/-- The items of an array are read if the first thing in its brackets is no
    closing bracket. -/
theorem readTree_array (fuel : Nat) (s : Source) (hs : ∀ l, skipBlank s ≠ some ']' :: l) :
    readTree (fuel + 1) (some '[' :: s) =
      (readItems fuel (skipBlank s)).map fun (ts, after) => (.array ts, after) := by
  rw [readTree, skipBlank_cons _ (by decide)]
  simp only

theorem readTree_object (fuel : Nat) (s : Source) (hs : ∀ l, skipBlank s ≠ some '\x7d' :: l) :
    readTree (fuel + 1) (some '\x7b' :: s) =
      (readMembers fuel (skipBlank s)).map fun (ms, after) => (.object ms, after) := by
  rw [readTree, skipBlank_cons _ (by decide)]
  simp only

theorem readItems_skipBlank (fuel : Nat) (s : Source) :
    readItems fuel (skipBlank s) = readItems fuel s := by
  cases fuel with
  | zero => rfl
  | succ fuel => rw [readItems, readItems, readTree_skipBlank]

theorem readMembers_skipBlank (fuel : Nat) (s : Source) :
    readMembers fuel (skipBlank s) = readMembers fuel s := by
  cases fuel with
  | zero => rfl
  | succ fuel => rw [readMembers, readMembers, skipBlank_skipBlank]

end

/-- How a text can be written that consists of values, one after the other. -/
inductive AllSpelling : List Tree → List Char → Prop
  | nil (w : List Char) (hw : Blanks w) : AllSpelling [] w
  | cons (t : Tree) (ts : List Tree) (w text more : List Char) (hw : Blanks w)
      (h : Spelling t text) (hmore : AllSpelling ts more) (hends : Ends (more.map some)) :
      AllSpelling (t :: ts) (w ++ (text ++ more))

end Json

end PullTriage
