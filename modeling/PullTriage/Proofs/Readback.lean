import PullTriage.Proofs.Dictionaries
import PullTriage.Proofs.Printing

/-!
# Values Read Back from Their Texts

The compact text of a value is read as that value. This is for values as a
reader gives them, without floating point numbers: whole numbers fit into 64
bits, with a sign if they are negative, the members of an object are in
ascending order of their names, and arrays and objects are nested no deeper
than a text may nest them.

A text may have the members of an object in any order, so a value is that of
many trees. All of them are read as the value, by induction on what makes a
tree stand for a value; the members of an object are put in order one by one.
The value is printed in a spelling of one of these trees, and a spelling is
read as its tree.

## Main definitions

* `Plain`: A value as a reader gives it, with no floating point number.
* `Denotes`: A tree stands for a value.

## Theorems

* `toJsonWithin?_of_denotes`: A tree that stands for a plain value has it.
* `exists_tree_of_plain`: A plain value is printed as a tree that stands for
  it.
* `ofString?_compact`: The compact text of a plain value is read as it.
-/

namespace PullTriage

namespace Json

/-- A value as a reader gives it, with no floating point number and at most
    `limit` levels of nesting. -/
inductive Plain : Nat → Json → Prop where
  | null (limit : Nat) : Plain limit .null
  | bool (limit : Nat) (b : Bool) : Plain limit (.bool b)
  | int (limit : Nat) (n : Int) (hlow : -(Nat.pow 2 63 : Int) ≤ n) (hhigh : n < Nat.pow 2 64) :
      Plain limit (.int n)
  | string (limit : Nat) (s : String) : Plain limit (.string s)
  | array (limit : Nat) (items : List Json) (h : ∀ v ∈ items, Plain limit v) :
      Plain (limit + 1) (.array items)
  | object (limit : Nat) (members : List (String × Json))
      (hascending : members.Pairwise fun a b => compare a.1 b.1 = .lt)
      (h : ∀ m ∈ members, Plain limit m.2) : Plain (limit + 1) (.object members)

/-- A tree stands for a value in which no number is a floating point number.
    The members of an object may be in any order. -/
inductive Denotes : Tree → Json → Prop where
  | null : Denotes .null .null
  | bool (b : Bool) : Denotes (.bool b) (.bool b)
  | int (n : Int) : Denotes (.number ⟨n < 0, Nat.toDigits 10 n.natAbs, none, none⟩) (.int n)
  | string (s : String) : Denotes (.ofText s) (.string s)
  | array (items : List (Tree × Json)) (h : ∀ m ∈ items, Denotes m.1 m.2) :
      Denotes (.array (items.map Prod.fst)) (.array (items.map Prod.snd))
  | object (members : List (String × Tree × Json)) (sorted : List (String × Json))
      (h : ∀ m ∈ members, Denotes m.2.1 m.2.2)
      (hsorted : (members.map fun m => (m.1, m.2.2)).Perm sorted) :
      Denotes (.ofMembers (members.map fun m => (m.1, m.2.1))) (.object sorted)

/-- The digits of a whole number of 64 bits have its value. -/
theorem toJson?_printInt (n : Int) (hlow : -(Nat.pow 2 63 : Int) ≤ n) (hhigh : n < Nat.pow 2 64) :
    Numeral.toJson? ⟨n < 0, Nat.toDigits 10 n.natAbs, none, none⟩ = some (.int n) := by
  unfold Numeral.toJson?
  rw [Nat.ofDigitChars_ten_toDigits]
  -- Zero is read without a sign, since the one with a sign is no whole number.
  by_cases hn : n < 0
  · have hfits : 0 < n.natAbs ∧ n.natAbs ≤ Nat.pow 2 63 := by omega
    have habs : -(n.natAbs : Int) = n := by omega
    simp only [hn, decide_true, if_true, Option.isNone_none, Bool.and_self, hfits.1, hfits.2]
    rw [habs]
  · have hfits : n.natAbs < Nat.pow 2 64 := by omega
    have habs : (n.natAbs : Int) = n := by omega
    simp only [hn, decide_false, Bool.false_eq_true, if_false, Option.isNone_none, Bool.and_self,
      hfits, decide_true, if_true, habs]

/-- The items of an array have their values if each has its own. -/
theorem itemsToJson?_of_forall (limit : Nat) (items : List (Tree × Json))
    (h : ∀ m ∈ items, m.1.toJsonWithin? limit = some m.2) :
    Tree.itemsToJson? limit (items.map Prod.fst) = some (items.map Prod.snd) := by
  induction items with
  | nil => rfl
  | cons m rest ih =>
      rcases List.forall_mem_cons.mp h with ⟨hm, hrest⟩
      rw [List.map_cons, Tree.itemsToJson?, hm, ih hrest]
      rfl

/-- The same for the members of an object, in the order of the text. -/
theorem membersToJson?_of_forall (limit : Nat) (members : List (String × Tree × Json))
    (h : ∀ m ∈ members, m.2.1.toJsonWithin? limit = some m.2.2) :
    Tree.membersToJson? limit (members.map fun m => (m.1.toList.map some, m.2.1))
      = some (members.map fun m => (m.1, m.2.2)) := by
  induction members with
  | nil => rfl
  | cons m rest ih =>
      rcases List.forall_mem_cons.mp h with ⟨hm, hrest⟩
      rw [List.map_cons, Tree.membersToJson?, Raw.text?_map_some, hm, ih hrest]
      rfl

/-- A tree that stands for a plain value has that value. The limit goes down
    with the levels. -/
theorem toJsonWithin?_of_denotes {t : Tree} {v : Json} (h : Denotes t v) (limit : Nat)
    (hv : Plain limit v) : t.toJsonWithin? limit = some v := by
  induction h generalizing limit with
  | null => rfl
  | bool => rfl
  | int n =>
      cases hv with
      | int _ _ hlow hhigh => exact toJson?_printInt n hlow hhigh
  | string s =>
      rw [Tree.ofText, Tree.toJsonWithin?, Raw.text?_map_some]
      rfl
  -- A level is taken off the limit here, for the items and for the members.
  | array items _ ih =>
      cases hv with
      | array limit _ hitems =>
          have hvalues := itemsToJson?_of_forall limit items fun m hm =>
            ih m hm limit (hitems m.2 (List.mem_map_of_mem hm))
          rw [Tree.toJsonWithin?, if_neg (Nat.succ_ne_zero limit), Nat.add_sub_cancel, hvalues]
          rfl
  | object members sorted _ hsorted ih =>
      cases hv with
      | object limit _ hascending hmembers =>
          -- The members are put in order here, and there is one ascending order of them.
          have hvalues := membersToJson?_of_forall limit members fun m hm =>
            ih m hm limit (hmembers (m.1, m.2.2) (hsorted.subset (List.mem_map_of_mem hm)))
          rw [Tree.ofMembers, List.map_map, Tree.toJsonWithin?, if_neg (Nat.succ_ne_zero limit),
            Nat.add_sub_cancel]
          simp only [Function.comp_def, hvalues, Option.map_some]
          rw [Dictionary.foldl_insertMember _ sorted hsorted hascending]

/-- The items of an array are printed as trees that stand for them. -/
theorem exists_itemTrees (items : List Json)
    (h : ∀ v ∈ items, ∃ t, tree? v = some t ∧ Denotes t v) :
    ∃ l : List (Tree × Json), itemTrees? items = some (l.map Prod.fst) ∧
      l.map Prod.snd = items ∧ ∀ m ∈ l, Denotes m.1 m.2 := by
  induction items with
  | nil => exact ⟨[], rfl, rfl, fun m hm => absurd hm List.not_mem_nil⟩
  | cons v rest ih =>
      rcases List.forall_mem_cons.mp h with ⟨⟨t, ht, hvalue⟩, hrest⟩
      rcases ih hrest with ⟨l, hl, hitems, hvalues⟩
      refine ⟨(t, v) :: l, ?_, by rw [List.map_cons, hitems],
        List.forall_mem_cons.mpr ⟨hvalue, hvalues⟩⟩
      rw [itemTrees?, ht, hl]
      rfl

/-- The same for the members of an object. -/
theorem exists_memberTrees (members : List (String × Json))
    (h : ∀ m ∈ members, ∃ t, tree? m.2 = some t ∧ Denotes t m.2) :
    ∃ l : List (String × Tree × Json),
      memberTrees? members = some (l.map fun m => (m.1, m.2.1)) ∧
      (l.map fun m => (m.1, m.2.2)) = members ∧ ∀ m ∈ l, Denotes m.2.1 m.2.2 := by
  induction members with
  | nil => exact ⟨[], rfl, rfl, fun m hm => absurd hm List.not_mem_nil⟩
  | cons m rest ih =>
      rcases List.forall_mem_cons.mp h with ⟨⟨t, ht, hvalue⟩, hrest⟩
      rcases ih hrest with ⟨l, hl, hmembers, hvalues⟩
      refine ⟨(m.1, t, m.2) :: l, ?_, by rw [List.map_cons, hmembers],
        List.forall_mem_cons.mpr ⟨hvalue, hvalues⟩⟩
      rw [memberTrees?, ht, hl]
      rfl

/-- A plain value is printed as a tree that stands for it. The induction is on
    what makes the value plain. -/
theorem exists_tree_of_plain {limit : Nat} {v : Json} (h : Plain limit v) :
    ∃ t, tree? v = some t ∧ Denotes t v := by
  induction h with
  | null => exact ⟨_, rfl, .null⟩
  | bool _ b => exact ⟨_, rfl, .bool b⟩
  | int _ n => exact ⟨_, rfl, .int n⟩
  | string _ s => exact ⟨_, rfl, .string s⟩
  | array _ items _ ih =>
      rcases exists_itemTrees items ih with ⟨l, hl, rfl, hvalues⟩
      exact ⟨_, by rw [tree?, hl]; rfl, .array l hvalues⟩
  | object _ members _ _ ih =>
      rcases exists_memberTrees members ih with ⟨l, hl, rfl, hvalues⟩
      exact ⟨_, by rw [tree?, hl]; rfl, .object l _ hvalues (List.Perm.refl _)⟩

/-- The compact text of a plain value is read as that value. -/
theorem ofString?_compact (v : Json) (h : Plain nestingLimit v) :
    ofString? v.compact = some v := by
  rcases exists_tree_of_plain h with ⟨t, ht, hdenotes⟩
  have hread := Tree.ofSource?_of_spelling blanks_nil (spelling_print v t ht) blanks_nil
  rw [List.nil_append, List.append_nil] at hread
  unfold ofString? Source.ofString compact
  rw [String.toList_ofList, hread]
  exact toJsonWithin?_of_denotes hdenotes nestingLimit h

end Json

end PullTriage
