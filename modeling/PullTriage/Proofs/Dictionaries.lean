import Mathlib.Data.List.Nodup
import PullTriage.Dictionary

/-!
# Dictionaries by Their Values

A dictionary is what it says of each name. Its entries are the names with
their values, and two dictionaries that agree on all names are equal, since
there is one ascending list of entries only. So what is built by insertions is
known once the value of every name is: the last entry inserted for it.

## Theorems

* `Dictionary.get?_overlaid`, `Dictionary.get?_ofList`,
  `Dictionary.get?_ofList_eq_some`: The last entry of a name wins.
* `Dictionary.mem_entries`: The entries are the names with their values.
* `Dictionary.mem_names`: The names are those that have a value.
* `Dictionary.mem_before_iff`: Entries come in the order of their names.
* `Dictionary.ext_get?`: A dictionary is determined by its values.
* `Dictionary.get?_ofList_of_nodup`, `Dictionary.ofList_of_perm`: Entries
  without repetitions.
* `Dictionary.foldl_insertMember`: Members put in order.
-/

namespace PullTriage

namespace Dictionary

variable {β : Type}

theorem lookup_append (l m : List (String × β)) (name : String) :
    (l ++ m).lookup name = (l.lookup name).or (m.lookup name) := by
  induction l with
  | nil => rfl
  | cons entry rest ih =>
      rw [List.cons_append, lookup_cons, lookup_cons, ih]
      by_cases h : name = entry.1
      · rw [if_pos h, if_pos h]
        rfl
      · rw [if_neg h, if_neg h]

/-- Of the entries of a name the last one counts, and the dictionary before
    them if there is none. -/
theorem get?_overlaid (d : Dictionary β) (l : List (String × β)) (name : String) :
    (d.overlaid l).get? name = (l.reverse.lookup name).or (d.get? name) := by
  induction l generalizing d with
  | nil => rfl
  | cons entry rest ih =>
      have hrest : d.overlaid (entry :: rest) = (d.insert entry.1 entry.2).overlaid rest := rfl
      rw [hrest, ih, get?_insert, List.reverse_cons, lookup_append, lookup_cons]
      cases rest.reverse.lookup name with
      | some v => rfl
      | none =>
          by_cases h : name = entry.1
          · rw [if_pos h, if_pos h]
            rfl
          · rw [if_neg h, if_neg h]
            rfl

/-- Of the entries of a name the last one counts. -/
theorem get?_ofList (l : List (String × β)) (name : String) :
    (ofList l).get? name = l.reverse.lookup name := by
  have h := get?_overlaid ∅ l name
  rwa [show (∅ : Dictionary β).get? name = none from rfl, Option.or_none] at h

/-- The value of a name is that of its last entry. -/
theorem get?_ofList_eq_some (l : List (String × β)) (name : String) (v : β) :
    (ofList l).get? name = some v ↔
      ∃ before after, l = before ++ (name, v) :: after ∧ ∀ later ∈ after, later.1 ≠ name := by
  rw [get?_ofList, List.lookup_eq_some_iff]
  constructor
  · rintro ⟨first, last, h, hfirst⟩
    refine ⟨last.reverse, first.reverse, ?_, fun later hlater heq => ?_⟩
    · rw [← List.reverse_reverse l, h, List.reverse_append, List.reverse_cons, List.append_assoc]
      rfl
    · exact bne_iff_ne.mp (hfirst later (List.mem_reverse.mp hlater)) heq.symm
  · rintro ⟨before, after, rfl, hafter⟩
    refine ⟨after.reverse, before.reverse, ?_, fun later hlater => ?_⟩
    · rw [List.reverse_append, List.reverse_cons, List.append_assoc]
      rfl
    · exact bne_iff_ne.mpr (Ne.symm (hafter later (List.mem_reverse.mp hlater)))

/-- Where no name occurs twice, an entry is found by its name. -/
theorem lookup_eq_some_iff (l : List (String × β)) (h : (l.map Prod.fst).Nodup) (name : String)
    (v : β) : l.lookup name = some v ↔ (name, v) ∈ l := by
  induction l with
  | nil => simp only [List.lookup_nil, reduceCtorEq, List.not_mem_nil]
  | cons entry rest ih =>
      rw [List.map_cons, List.nodup_cons] at h
      rw [lookup_cons, List.mem_cons]
      by_cases hname : name = entry.1
      · rw [if_pos hname, Option.some.injEq]
        constructor
        · exact fun hv => Or.inl (Prod.ext hname hv.symm)
        · rintro (heq | hmem)
          · exact (congrArg Prod.snd heq).symm
          · exact absurd (hname ▸ List.mem_map_of_mem (f := Prod.fst) hmem) h.1
      · rw [if_neg hname, ih h.2]
        constructor
        · exact Or.inr
        · rintro (heq | hmem)
          · exact absurd (congrArg Prod.fst heq) hname
          · exact hmem

/-- No name has two entries. -/
theorem nodup_names (d : Dictionary β) : d.names.Nodup := by
  refine List.pairwise_map.mpr (d.ascending.imp fun {a b} hlt heq => ?_)
  rw [heq, Std.ReflOrd.compare_self] at hlt
  exact absurd hlt (by decide)

theorem mem_entries (d : Dictionary β) (name : String) (v : β) :
    (name, v) ∈ d.entries ↔ d.get? name = some v :=
  (lookup_eq_some_iff d.entries d.nodup_names name v).symm

theorem mem_names (d : Dictionary β) (name : String) :
    name ∈ d.names ↔ ∃ v, d.get? name = some v := by
  unfold names
  rw [List.mem_map]
  constructor
  · rintro ⟨⟨n, v⟩, h, rfl⟩
    exact ⟨v, (d.mem_entries n v).mp h⟩
  · rintro ⟨v, h⟩
    exact ⟨(name, v), (d.mem_entries name v).mpr h, rfl⟩

/-- The entries before one of them are those of lesser names. -/
theorem mem_before_iff (d : Dictionary β) (before after : List (String × β)) (entry : String × β)
    (h : d.entries = before ++ entry :: after) (other : String × β) :
    other ∈ before ↔ other ∈ d.entries ∧ other.1 < entry.1 := by
  have hascending := d.ascending
  rw [h, List.pairwise_append, List.pairwise_cons] at hascending
  rcases hascending with ⟨-, ⟨hafter, -⟩, hbefore⟩
  rw [h, List.mem_append, List.mem_cons]
  constructor
  · intro hmem
    exact ⟨Or.inl hmem,
      compareOfLessAndEq_eq_lt.mp (hbefore other hmem entry List.mem_cons_self)⟩
  · rintro ⟨hmem | rfl | hmem, hlt⟩
    · exact hmem
    · exact absurd hlt (Std.lt_irrefl)
    · exact absurd (compareOfLessAndEq_eq_lt.mp (hafter other hmem)) (Std.not_gt_of_lt hlt)

/-- A dictionary is determined by the values of the names. Its entries are
    then the same ones, and only one order of them is ascending. -/
theorem ext_get? (d e : Dictionary β) (h : ∀ name, d.get? name = e.get? name) : d = e := by
  have hperm : d.entries.Perm e.entries := by
    refine (List.perm_ext_iff_of_nodup ?_ ?_).mpr fun entry => ?_
    · exact List.Nodup.of_map Prod.fst d.nodup_names
    · exact List.Nodup.of_map Prod.fst e.nodup_names
    · rw [mem_entries d entry.1 entry.2, mem_entries e entry.1 entry.2, h]
  have hentries : d.entries = e.entries := by
    refine List.Perm.eq_of_pairwise (fun a b _ _ hab hba => ?_) d.ascending e.ascending hperm
    rw [Std.OrientedCmp.gt_of_lt hab] at hba
    exact absurd hba (by decide)
  cases d
  cases e
  cases hentries
  rfl

/-- In a list without repeated names the order of the entries does not
    matter. -/
theorem get?_ofList_of_nodup (l : List (String × β)) (h : (l.map Prod.fst).Nodup)
    (name : String) : (ofList l).get? name = l.lookup name := by
  have hreverse : (l.reverse.map Prod.fst).Nodup := by
    rw [List.map_reverse]
    exact List.nodup_reverse.mpr h
  refine Option.ext fun v => ?_
  rw [get?_ofList, lookup_eq_some_iff _ hreverse, lookup_eq_some_iff _ h, List.mem_reverse]

/-- The entries of a dictionary in any order make it up again. -/
theorem ofList_of_perm (d : Dictionary β) (l : List (String × β)) (h : l.Perm d.entries) :
    ofList l = d := by
  have hnodup : (l.map Prod.fst).Nodup := (h.map Prod.fst).nodup_iff.mpr d.nodup_names
  refine ext_get? _ _ fun name => Option.ext fun v => ?_
  rw [get?_ofList_of_nodup l hnodup, lookup_eq_some_iff l hnodup, h.mem_iff, mem_entries]

theorem entries_overlaid (d : Dictionary β) (l : List (String × β)) :
    (d.overlaid l).entries
      = l.foldl (fun sorted (name, value) => Json.insertMember name value sorted) d.entries := by
  induction l generalizing d with
  | nil => rfl
  | cons entry rest ih => exact ih (d.insert entry.1 entry.2)

/-- Members are put in the ascending order of their names. -/
theorem foldl_insertMember (l sorted : List (String × β)) (h : l.Perm sorted)
    (hascending : sorted.Pairwise fun a b => compare a.1 b.1 = .lt) :
    l.foldl (fun sorted (name, value) => Json.insertMember name value sorted) [] = sorted := by
  have hdictionary := ofList_of_perm ⟨sorted, hascending⟩ l h
  exact (entries_overlaid ∅ l).symm.trans (congrArg entries hdictionary)

end Dictionary

end PullTriage
