import PullTriage.Json.Printer
import PullTriage.Proofs.Renderings

/-!
# Printed Values Are Spelled Well

The compact text of a value without floating point numbers is one of the
spellings of its tree, in which numbers are digits and strings have a
character at every place. So what holds of every spelling of a tree holds of
the text that is printed.

## Main definitions

* `tree?`: The tree of a value without floating point numbers.

## Theorems

* `charSpelling_printChar`: A character is escaped in one of its spellings.
* `spelling_print`: A value is printed in one of the spellings of its tree.
-/

namespace PullTriage

namespace Json

mutual

/-- The tree of a value, if no floating point number is in it. -/
def tree? : Json → Option Tree
  | .null => some .null
  | .bool b => some (.bool b)
  | .int n => some (.number ⟨n < 0, Nat.toDigits 10 n.natAbs, none, none⟩)
  | .float _ => none
  | .string s => some (.ofText s)
  | .array items => (itemTrees? items).map .array
  | .object members => (memberTrees? members).map .ofMembers

/-- The trees of the items of an array. -/
def itemTrees? : List Json → Option (List Tree)
  | [] => some []
  | v :: rest =>
    match tree? v, itemTrees? rest with
    | some t, some ts => some (t :: ts)
    | _, _ => none

/-- The names and trees of the members of an object. -/
def memberTrees? : List (String × Json) → Option (List (String × Tree))
  | [] => some []
  | (name, v) :: rest =>
    match tree? v, memberTrees? rest with
    | some t, some ts => some ((name, t) :: ts)
    | _, _ => none

end

theorem hexValue?_hexDigit : ∀ n < 16, hexValue? (hexDigit n) = some n := by
  decide

/-- A character is escaped in one of its spellings: by a letter if it has one,
    and by its code unit if it is another control character. -/
theorem charSpelling_printChar (c : Char) : CharSpelling c (printChar c) := by
  have hchar : ∀ n, c.toNat = n → c = Char.ofNat n := by
    rintro _ rfl
    exact (Char.ofNat_toNat c).symm
  unfold printChar
  split_ifs with hquote hbackslash hnewline hreturn htab hbackspace hfeed hcontrol
  · exact hquote ▸ .letter '"' rfl
  · exact hbackslash ▸ .letter '\\' rfl
  · exact hnewline ▸ .letter 'n' rfl
  · exact hreturn ▸ .letter 'r' rfl
  · exact htab ▸ .letter 't' rfl
  · exact .letter 'b' (congrArg some (hchar 8 hbackspace).symm)
  · exact .letter 'f' (congrArg some (hchar 12 hfeed).symm)
  · refine .unit _ ?_
    have hunit := UnitSpelling.mk '0' '0' _ _ 0 0 _ _ rfl rfl
      (hexValue?_hexDigit (c.toNat / 16) (by omega)) (hexValue?_hexDigit (c.toNat % 16) (by omega))
    have hvalue : 16 * (16 * (16 * 0 + 0) + c.toNat / 16) + c.toNat % 16 = c.toNat := by omega
    rwa [hvalue] at hunit
  · exact .plain hquote hbackslash (Nat.not_lt.mp hcontrol)

theorem stringSpelling_printChar (l : List Char) : StringSpelling l (l.flatMap printChar) := by
  induction l with
  | nil => exact .nil
  | cons c rest ih => exact .cons c rest _ _ (charSpelling_printChar c) ih

theorem digits_toDigits (n : Nat) : Digits (Nat.toDigits 10 n) :=
  ⟨Nat.toDigits_ne_nil, fun _ hc => Nat.isDigit_of_mem_toDigits (by decide) (by decide) hc⟩

/-- The digits of a number do not begin with a zero, unless it is zero. -/
theorem head?_toDigits (n : Nat) (h : (Nat.toDigits 10 n).head? = some '0') : n = 0 := by
  induction n using Nat.strongRecOn with
  | _ n ih =>
      by_cases hn : n < 10
      · rw [Nat.toDigits_of_lt_base hn, List.head?_cons, Option.some.injEq] at h
        have hzero : ∀ n < 10, Nat.digitChar n = '0' → n = 0 := by decide
        exact hzero n hn h
      · -- The first digit is that of the number without its last digit.
        rw [Nat.toDigits_of_base_le (by decide) (Nat.not_lt.mp hn),
          List.head?_append_of_ne_nil _ Nat.toDigits_ne_nil] at h
        have hquotient := ih (n / 10) (by omega) h
        omega

theorem numeralSpelling_printInt (n : Int) :
    Numeral.Spelling ⟨n < 0, Nat.toDigits 10 n.natAbs, none, none⟩ (printInt n) := by
  have h := Numeral.Spelling.mk (decide (n < 0)) _ none none [] [] (digits_toDigits n.natAbs)
    (fun hzero => by rw [head?_toDigits _ hzero]; rfl) .none .none
  unfold printInt
  by_cases hn : n < 0
  · simp only [hn, decide_true, if_true, List.append_nil, List.singleton_append] at h ⊢
    exact h
  · simp only [hn, decide_false, if_false, Bool.false_eq_true, List.append_nil, List.nil_append]
      at h ⊢
    exact h

mutual

/-- A value is printed in one of the spellings of its tree. -/
theorem spelling_print : ∀ (v : Json) (t : Tree), v.tree? = some t → Spelling t v.print
  | .null, _, h => Option.some.inj h ▸ .null
  | .bool true, _, h => Option.some.inj h ▸ .true
  | .bool false, _, h => Option.some.inj h ▸ .false
  | .int n, _, h => Option.some.inj h ▸ .number _ _ (numeralSpelling_printInt n)
  | .string s, _, h => Option.some.inj h ▸ .string _ _ (stringSpelling_printChar s.toList)
  | .array [], _, h => Option.some.inj h ▸ .emptyArray [] blanks_nil
  | .array (v :: rest), t, h => by
      rw [tree?, Option.map_eq_some_iff] at h
      rcases h with ⟨ts, hts, rfl⟩
      rcases itemsSpelling_print (v :: rest) ts hts (List.cons_ne_nil v rest) with
        ⟨text, htext, hspelling⟩
      rw [print, htext]
      exact .array ts text hspelling
  | .object [], _, h => Option.some.inj h ▸ .emptyObject [] blanks_nil
  | .object (m :: rest), t, h => by
      rw [tree?, Option.map_eq_some_iff] at h
      rcases h with ⟨ts, hts, rfl⟩
      rcases membersSpelling_print (m :: rest) ts hts (List.cons_ne_nil m rest) with
        ⟨text, htext, hspelling⟩
      rw [print, htext]
      exact .object _ text hspelling

theorem itemsSpelling_print : ∀ (items : List Json) (ts : List Tree),
    itemTrees? items = some ts → items ≠ [] →
    ∃ text, printItems items = text ++ [']'] ∧ ItemsSpelling ts text
  | [], _, _, hne => absurd rfl hne
  | [v], ts, h, _ => by
      simp only [itemTrees?] at h
      split at h
      · next t ts' ht hts =>
        rw [← Option.some.inj h, ← Option.some.inj hts]
        have hspelling := ItemsSpelling.last t [] v.print [] blanks_nil (spelling_print v t ht)
          blanks_nil
        exact ⟨_, by rw [printItems, List.nil_append, List.append_nil], hspelling⟩
      · exact absurd h (by simp only [reduceCtorEq, not_false_eq_true])
  | v :: w :: rest, ts, h, _ => by
      rw [itemTrees?] at h
      split at h
      · next t ts' ht hts =>
        rw [← Option.some.inj h]
        rcases itemsSpelling_print (w :: rest) ts' hts (List.cons_ne_nil w rest) with
          ⟨text, htext, hrest⟩
        have hspelling := ItemsSpelling.more t [] v.print [] ts' text blanks_nil
          (spelling_print v t ht) blanks_nil hrest
        refine ⟨_, ?_, hspelling⟩
        rw [printItems, htext]
        simp only [List.nil_append, List.append_assoc, List.cons_append]
      · exact absurd h (by simp only [reduceCtorEq, not_false_eq_true])

theorem membersSpelling_print : ∀ (members : List (String × Json)) (ts : List (String × Tree)),
    memberTrees? members = some ts → members ≠ [] →
    ∃ text, printMembers members = text ++ ['\x7d'] ∧
      MembersSpelling (ts.map fun m => (m.1.toList.map some, m.2)) text
  | [], _, _, hne => absurd rfl hne
  | [(name, v)], ts, h, _ => by
      simp only [memberTrees?] at h
      split at h
      · next t ts' ht hts =>
        rw [← Option.some.inj h, ← Option.some.inj hts]
        have hmember := MemberSpelling.mk name.toList t [] _ [] [] v.print [] blanks_nil
          (stringSpelling_printChar name.toList) blanks_nil blanks_nil (spelling_print v t ht)
          blanks_nil
        refine ⟨_, ?_, MembersSpelling.last _ _ hmember⟩
        rw [printMembers, printString]
        simp only [List.nil_append, List.append_nil, List.append_assoc, List.cons_append]
      · exact absurd h (by simp only [reduceCtorEq, not_false_eq_true])
  | (name, v) :: m :: rest, ts, h, _ => by
      rw [memberTrees?] at h
      split at h
      · next t ts' ht hts =>
        rw [← Option.some.inj h]
        rcases membersSpelling_print (m :: rest) ts' hts (List.cons_ne_nil m rest) with
          ⟨text, htext, hrest⟩
        have hmember := MemberSpelling.mk name.toList t [] _ [] [] v.print [] blanks_nil
          (stringSpelling_printChar name.toList) blanks_nil blanks_nil (spelling_print v t ht)
          blanks_nil
        refine ⟨_, ?_, MembersSpelling.more _ _ _ _ hmember hrest⟩
        rw [printMembers, printString, htext]
        simp only [List.nil_append, List.append_nil, List.append_assoc, List.cons_append]
      · exact absurd h (by simp only [reduceCtorEq, not_false_eq_true])

end

theorem tree?_ofNat (n : Nat) : (Json.int n).tree? = some (Tree.ofNat n) := by
  have hsign : ¬ (n : Int) < 0 := by omega
  rw [tree?, Int.natAbs_natCast, decide_eq_false hsign]
  rfl

/-- A text that may be absent as a tree. -/
def Tree.ofOptional (text : Option String) : Tree :=
  (text.map ofText).getD .null

theorem tree?_optional (text : Option String) :
    ((text.map Json.string).getD .null).tree? = some (Tree.ofOptional text) := by
  cases text <;> rfl

theorem itemTrees?_map {α : Type} (f : α → Json) (g : α → Tree) (l : List α)
    (h : ∀ x ∈ l, tree? (f x) = some (g x)) : itemTrees? (l.map f) = some (l.map g) := by
  induction l with
  | nil => rfl
  | cons x rest ih =>
      rcases List.forall_mem_cons.mp h with ⟨hx, hrest⟩
      rw [List.map_cons, itemTrees?, hx, ih hrest]
      rfl

theorem hasMember_of_mem {members : List (String × Tree)} {name : String} {value : Tree}
    {P : Tree → Prop} (hnames : (members.map Prod.fst).Nodup) (hmem : (name, value) ∈ members)
    (hvalue : P value) : HasMember members name P := by
  rcases List.append_of_mem hmem with ⟨before, after, rfl⟩
  rw [List.map_append, List.map_cons, List.nodup_middle, List.nodup_cons, ← List.map_append]
    at hnames
  refine ⟨before, value, after, rfl, hvalue, fun m hm heq => hnames.1 ?_⟩
  have hfirst := List.mem_map_of_mem (f := Prod.fst) hm
  rwa [heq] at hfirst

end Json

namespace Gh

open Json

/-- The names of a set, each in a record. -/
def namesJson (names : OrderedSet String) : Json :=
  .array (names.toList.map fun name => .object [("name", .string name)])

/-- The record of a pull request. -/
def pullJson (p : Pull) : Json :=
  .object [("number", .int p.number), ("title", .string p.title),
    ("user", .object [("login", .string p.author)]),
    ("created_at", .string p.createdAt.stamp), ("labels", namesJson p.labels),
    ("requested_teams", namesJson p.teams)]

/-- The record of the review requests of a pull request. -/
def reviewsJson (teams : OrderedSet String) : Json :=
  .object [("teams", namesJson teams)]

/-- The record of a user. -/
def userJson (i : Identity) : Json :=
  .object [("login", .string i.login), ("email", (i.email.map .string).getD .null),
    ("company", (i.company.map .string).getD .null)]

end Gh

end PullTriage
