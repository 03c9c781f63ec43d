/-!
# Ordered Sets

A finite set of labels, teams or people is shown in a fixed order whatever
the order in which its members arrived. `OrderedSet` keeps the members as the
one list that is strictly ascending, so two sets with the same members are
the same value.

## Main definitions

* `OrderedSet`: A finite set, as its ascending list.
* `insert`: Adds a member.
* `insertAll`: Adds the members of a list.
* `ofList`: The set of the members of a list.

## Theorems

* `mem_insert`: The members after an insertion.
* `mem_insertAll`: The members after a list of insertions.
* `mem_ofList`: The members of the set of a list.
-/

namespace PullTriage

/-- A finite set, kept as the list of its members in ascending order. -/
structure OrderedSet (α : Type) [Ord α] where
  /-- The members in ascending order. -/
  toList : List α
  /-- Each member is below every later one, so none occurs twice. -/
  ascending : toList.Pairwise fun a b => compare a b = .lt := by exact List.Pairwise.nil

namespace OrderedSet

variable {α : Type} [Ord α]

instance [DecidableEq α] : DecidableEq (OrderedSet α) := fun s t =>
  if h : s.toList = t.toList then
    isTrue (by cases s; cases t; cases h; rfl)
  else isFalse fun e => h (e ▸ rfl)

instance : EmptyCollection (OrderedSet α) := ⟨⟨[], List.Pairwise.nil⟩⟩

instance : Inhabited (OrderedSet α) := ⟨∅⟩

instance : Membership α (OrderedSet α) := ⟨fun s a => a ∈ s.toList⟩

instance [DecidableEq α] (a : α) (s : OrderedSet α) : Decidable (a ∈ s) :=
  inferInstanceAs (Decidable (a ∈ s.toList))

/-- The ascending list with `a` at its place. -/
def insertInto (a : α) : List α → List α
  | [] => [a]
  | b :: rest =>
    match compare a b with
    | .lt => a :: b :: rest
    | .eq => b :: rest
    | .gt => b :: insertInto a rest

theorem mem_of_mem_insertInto {a x : α} {l : List α} (h : x ∈ insertInto a l) :
    x = a ∨ x ∈ l := by
  induction l with
  | nil => exact Or.inl (List.mem_singleton.mp h)
  | cons b rest ih =>
    rw [insertInto] at h
    split at h
    · exact List.mem_cons.mp h
    · exact Or.inr h
    · rcases List.mem_cons.mp h with rfl | h
      · exact Or.inr List.mem_cons_self
      · exact (ih h).imp id (List.mem_cons_of_mem b)

/-- Inserting keeps the order: what stands before the new member is below
    it, and what stands behind it is above it. -/
theorem pairwise_insertInto [Std.TransOrd α] (a : α) {l : List α}
    (h : l.Pairwise fun a b => compare a b = .lt) :
    (insertInto a l).Pairwise fun a b => compare a b = .lt := by
  induction l with
  | nil => exact List.pairwise_singleton _ _
  | cons b rest ih =>
    have hrest := List.pairwise_cons.mp h
    rw [insertInto]
    split
    · next hlt =>
      refine List.pairwise_cons.mpr ⟨fun x hx => ?_, h⟩
      rcases List.mem_cons.mp hx with rfl | hx
      · exact hlt
      · exact Std.TransCmp.lt_trans hlt (hrest.1 x hx)
    · exact h
    · next hgt =>
      refine List.pairwise_cons.mpr ⟨fun x hx => ?_, ih hrest.2⟩
      rcases mem_of_mem_insertInto hx with rfl | hx
      · exact Std.OrientedCmp.lt_of_gt hgt
      · exact hrest.1 x hx

variable [Std.TransOrd α]

/-- The set with one more member. -/
def insert (a : α) (s : OrderedSet α) : OrderedSet α :=
  ⟨insertInto a s.toList, pairwise_insertInto a s.ascending⟩

/-- The set with the members of a list added. -/
def insertAll (s : OrderedSet α) (l : List α) : OrderedSet α :=
  l.foldl (fun s a => s.insert a) s

/-- The set of the members of a list. -/
def ofList (l : List α) : OrderedSet α :=
  insertAll ∅ l

variable [Std.LawfulEqOrd α]

omit [Std.TransOrd α] in
theorem mem_insertInto {a x : α} {l : List α} : x ∈ insertInto a l ↔ x = a ∨ x ∈ l := by
  refine ⟨mem_of_mem_insertInto, fun h => ?_⟩
  induction l with
  | nil =>
    rcases h with rfl | h
    · exact List.mem_singleton.mpr rfl
    · exact absurd h List.not_mem_nil
  | cons b rest ih =>
    rw [insertInto]
    split
    · exact List.mem_cons.mpr h
    · next heq =>
      rcases h with rfl | h
      · exact List.mem_cons.mpr (Or.inl (Std.LawfulEqCmp.eq_of_compare heq))
      · exact h
    · rcases h with rfl | h
      · exact List.mem_cons_of_mem _ (ih (Or.inl rfl))
      · rcases List.mem_cons.mp h with rfl | h
        · exact List.mem_cons_self
        · exact List.mem_cons_of_mem _ (ih (Or.inr h))

/-- Inserting adds the new member and no other. -/
@[simp] theorem mem_insert {a x : α} {s : OrderedSet α} : x ∈ s.insert a ↔ x = a ∨ x ∈ s :=
  mem_insertInto

omit [Std.TransOrd α] [Std.LawfulEqOrd α] in
@[simp] theorem not_mem_empty {x : α} : x ∉ (∅ : OrderedSet α) :=
  List.not_mem_nil

/-- Inserting a list adds its members and no others. -/
@[simp] theorem mem_insertAll {x : α} {s : OrderedSet α} {l : List α} :
    x ∈ s.insertAll l ↔ x ∈ s ∨ x ∈ l := by
  induction l generalizing s with
  | nil => simp [insertAll]
  | cons a rest ih =>
    have : s.insertAll (a :: rest) = (s.insert a).insertAll rest := rfl
    rw [this, ih, mem_insert, List.mem_cons, or_assoc, or_left_comm]

/-- The set of a list has the members of the list. -/
@[simp] theorem mem_ofList {x : α} {l : List α} : x ∈ ofList l ↔ x ∈ l := by
  simp [ofList]

end OrderedSet

end PullTriage
