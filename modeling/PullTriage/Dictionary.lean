import PullTriage.Json.Basic

/-!
# Dictionaries

A finite map from names: the properties of a configuration, the labels of the
teams, the variables of an environment. Its entries are kept in ascending
order of their names, so a dictionary is determined by what it holds, and
going through it visits the names in the order in which they are shown.

## Main definitions

* `Dictionary`: A finite map from names.
* `get?`: The value of a name.
* `insert`: Gives a name a value.
* `ofList`: The dictionary of a list of entries, the last of a name winning.
* `names`: The names that have a value.

## Theorems

* `get?_insert`: Looking up after an insertion.
-/

namespace PullTriage

/-- A finite map from names, kept as its entries in ascending order. -/
structure Dictionary (β : Type) where
  /-- The names with their values, in ascending order of the names. -/
  entries : List (String × β)
  /-- Each name is below every later one, so none occurs twice. -/
  ascending : entries.Pairwise fun a b => compare a.1 b.1 = .lt :=
    by exact List.Pairwise.nil

namespace Dictionary

variable {β : Type}

instance : EmptyCollection (Dictionary β) := ⟨⟨[], List.Pairwise.nil⟩⟩

instance : Inhabited (Dictionary β) := ⟨∅⟩

instance [DecidableEq β] : DecidableEq (Dictionary β) := fun s t =>
  if h : s.entries = t.entries then
    isTrue (by cases s; cases t; cases h; rfl)
  else isFalse fun e => h (e ▸ rfl)

theorem name_of_mem_insertMember {name : String} {value : β} {x : String × β}
    {l : List (String × β)} (h : x ∈ Json.insertMember name value l) :
    x.1 = name ∨ x ∈ l := by
  induction l with
  | nil =>
    rw [Json.insertMember, List.mem_singleton] at h
    exact Or.inl (h ▸ rfl)
  | cons entry rest ih =>
    rw [Json.insertMember] at h
    split at h
    · rcases List.mem_cons.mp h with rfl | h
      · exact Or.inl rfl
      · exact Or.inr h
    · rcases List.mem_cons.mp h with rfl | h
      · exact Or.inl rfl
      · exact Or.inr (List.mem_cons_of_mem _ h)
    · rcases List.mem_cons.mp h with rfl | h
      · exact Or.inr List.mem_cons_self
      · exact (ih h).imp id (List.mem_cons_of_mem _)

theorem pairwise_insertMember (name : String) (value : β) {l : List (String × β)}
    (h : l.Pairwise fun a b => compare a.1 b.1 = .lt) :
    (Json.insertMember name value l).Pairwise fun a b => compare a.1 b.1 = .lt := by
  induction l with
  | nil => exact List.pairwise_singleton _ _
  | cons entry rest ih =>
    have hrest := List.pairwise_cons.mp h
    rw [Json.insertMember]
    split
    · next hlt =>
      refine List.pairwise_cons.mpr ⟨fun x hx => ?_, h⟩
      rcases List.mem_cons.mp hx with rfl | hx
      · exact hlt
      · exact Std.TransCmp.lt_trans hlt (hrest.1 x hx)
    · next heq =>
      refine List.pairwise_cons.mpr ⟨fun x hx => ?_, hrest.2⟩
      exact Std.LawfulEqCmp.eq_of_compare heq ▸ hrest.1 x hx
    · next hgt =>
      refine List.pairwise_cons.mpr ⟨fun x hx => ?_, ih hrest.2⟩
      rcases name_of_mem_insertMember hx with hx | hx
      · exact hx ▸ Std.OrientedCmp.lt_of_gt hgt
      · exact hrest.1 x hx

/-- The value of a name, if it has one. -/
def get? (d : Dictionary β) (name : String) : Option β :=
  d.entries.lookup name

/-- Whether the name has a value. -/
def contains (d : Dictionary β) (name : String) : Bool :=
  (d.get? name).isSome

/-- The dictionary in which `name` has the given value. -/
def insert (d : Dictionary β) (name : String) (value : β) : Dictionary β :=
  ⟨Json.insertMember name value d.entries, pairwise_insertMember name value d.ascending⟩

/-- The dictionary of a list of entries. The last entry of a name wins. -/
def ofList (l : List (String × β)) : Dictionary β :=
  l.foldl (fun d (name, value) => d.insert name value) ∅

/-- The names that have a value, in ascending order. -/
def names (d : Dictionary β) : List String :=
  d.entries.map Prod.fst

/-- The dictionary with the entries of a list inserted one after the other. -/
def overlaid (d : Dictionary β) (l : List (String × β)) : Dictionary β :=
  l.foldl (fun d (name, value) => d.insert name value) d

theorem lookup_cons (key : String) (entry : String × β) (rest : List (String × β)) :
    (entry :: rest).lookup key = if key = entry.1 then some entry.2 else rest.lookup key := by
  rcases entry with ⟨name, value⟩
  rw [List.lookup_cons]
  by_cases h : key = name
  · rw [if_pos h, beq_iff_eq.mpr h]
  · rw [if_neg h, beq_eq_false_iff_ne.mpr h]

theorem lookup_insertMember (name key : String) (value : β) (l : List (String × β)) :
    (Json.insertMember name value l).lookup key
      = if key = name then some value else l.lookup key := by
  induction l with
  | nil => rw [Json.insertMember, lookup_cons]
  | cons entry rest ih =>
    rw [Json.insertMember]
    split
    · rw [lookup_cons]
    · next heq =>
      rw [lookup_cons, lookup_cons, ← Std.LawfulEqCmp.eq_of_compare heq]
      by_cases hk : key = name
      · rw [if_pos hk, if_pos hk]
      · rw [if_neg hk, if_neg hk, if_neg hk]
    · next hgt =>
      have hne : entry.1 ≠ name := by
        intro h
        rw [h, Std.ReflOrd.compare_self] at hgt
        exact absurd hgt (by decide)
      rw [lookup_cons, lookup_cons, ih]
      by_cases hk : key = entry.1
      · rw [if_pos hk, if_pos hk, if_neg (hk ▸ hne)]
      · rw [if_neg hk, if_neg hk]

/-- An insertion changes the value of its name and of no other. -/
theorem get?_insert (d : Dictionary β) (name key : String) (value : β) :
    (d.insert name value).get? key = if key = name then some value else d.get? key :=
  lookup_insertMember name key value d.entries

end Dictionary

end PullTriage
