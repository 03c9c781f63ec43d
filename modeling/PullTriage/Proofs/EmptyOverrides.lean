import PullTriage.Proofs.Overrides

/-!
# Empty Overrides

An argument `NAME=` and a variable with an empty value give a property no
value. For a variable that is all: an empty one is as good as none. An argument
does more by its place. Of several arguments for a property the last one
counts, and an empty one is still the last one, so it takes back whatever the
arguments before it have said. Only then is its text found to be empty, and the
lower layers decide.

So a configuration depends on the last argument for each property, where an
empty one is as good as none (`Resolve.resolve_congr_of_lastSays`). Leaving out
empty arguments makes no difference as long as this does not uncover an earlier
argument, and where the last one is empty, all arguments for its property can
be left out.

## Main definitions

* `Resolve.IsEmptyFor`: An argument that gives a property an empty text.
* `Resolve.Dropped`: A list of which some members were left out.

## Theorems

* `Resolve.counting_congr`: The override that decides, up to empty texts.
* `Resolve.get?_overridesOf_cons`: One argument more at the beginning.
* `Resolve.resolve_congr_of_lastSays`: What a configuration depends on in its
  arguments.
* `Resolve.get?_overridesOf_of_dropped`: The last arguments without the empty
  ones.
* `empty_overrides`: When empty overrides make no difference.
* `empty_argument_displaces`: An empty argument after another one.
-/

namespace PullTriage

namespace Resolve

/-- The argument gives an empty text to a property that exists. -/
def IsEmptyFor (entries : List (String × Json)) (argument : String) : Prop :=
  ∃ name, Says argument name (.text "") ∧ (defaultOf entries name).isSome = true

/-- The second list is the first without some of the members that may be
    left out. -/
inductive Dropped (droppable : String → Prop) : List String → List String → Prop
  | nil : Dropped droppable [] []
  | keep (a : String) {l l' : List String} (h : Dropped droppable l l') :
      Dropped droppable (a :: l) (a :: l')
  | drop (a : String) {l l' : List String} (ha : droppable a) (h : Dropped droppable l l') :
      Dropped droppable (a :: l) l'

theorem dropped_filter (keeps : String → Bool) (l : List String) :
    Dropped (fun a => keeps a = false) l (l.filter keeps) := by
  induction l with
  | nil => exact .nil
  | cons a rest ih =>
      cases ha : keeps a with
      | true =>
          rw [List.filter_cons_of_pos ha]
          exact .keep a ih
      | false =>
          rw [List.filter_cons_of_neg (Bool.eq_false_iff.mp ha)]
          exact .drop a ha ih

/-- What is not looked for can be left out. -/
theorem Dropped.find?_eq {droppable : String → Prop} {l l' : List String}
    (h : Dropped droppable l l') (p : String → Bool) (hp : ∀ a, droppable a → p a = false) :
    l.find? p = l'.find? p := by
  induction h with
  | nil => rfl
  | keep a _ ih =>
      rw [List.find?_cons, List.find?_cons, ih]
  | drop a ha _ ih => rw [List.find?_cons_of_neg (Bool.eq_false_iff.mp (hp a ha)), ih]

/-- The override that decides about a property depends on its last argument and
    on its variable, where an empty text is as good as none. -/
theorem counting_congr {last last' : Option Override} {exported exported' : Option String}
    (hlast : ∀ o, o ≠ .text "" → (last = some o ↔ last' = some o))
    (hexported : (exported.filter fun s => s ≠ "") = exported'.filter fun s => s ≠ "") :
    counting last exported = counting last' exported' := by
  have hempty : ∀ l : Option Override, (∀ o, o ≠ .text "" → l ≠ some o) → ∀ e,
      counting l e = (e.filter fun s => s ≠ "").map .text := by
    intro l hl e
    match l with
    | none => rfl
    | some o =>
        have ho : o = .text "" := by
          by_contra hne
          exact hl o hne rfl
        rw [ho]
        rfl
  -- Either both last arguments are the same, or neither of them counts.
  by_cases h : ∃ o, o ≠ Override.text "" ∧ last = some o
  · rcases h with ⟨o, ho, hsome⟩
    rw [hsome, (hlast o ho).mp hsome]
    cases o with
    | flag => rfl
    | text s =>
        have hs : s ≠ "" := fun hs => ho (congrArg Override.text hs)
        simp only [counting, if_neg hs]
  · have hnone : ∀ o, o ≠ Override.text "" → last ≠ some o := fun o ho hsome => h ⟨o, ho, hsome⟩
    rw [hempty last hnone, hexported,
      hempty last' fun o ho hsome => hnone o ho ((hlast o ho).mpr hsome)]

/-- One argument more at the beginning is the last one for its property only if
    there is no other. -/
theorem get?_overridesOf_cons (a : String) (l : List String) (name : String) :
    (overridesOf (a :: l)).get? name = ((overridesOf l).get? name).or
      (if name = (splitArgument a).1 then some (splitArgument a).2 else none) := by
  unfold overridesOf
  rw [Dictionary.get?_ofList, Dictionary.get?_ofList, List.map_cons, List.reverse_cons,
    Dictionary.lookup_append, Dictionary.lookup_cons, List.lookup_nil]

section

variable {entries : List (String × Json)} {arguments arguments' : List String}
  {environment environment' : String → Option String}

/-- A configuration depends on the first argument for no property, on the last
    argument for each property and on its variable, where an empty text is as
    good as none. -/
theorem resolve_congr_of_lastSays
    (hunsupported : (arguments.find? fun a => (defaultOf entries (splitArgument a).1).isNone)
      = arguments'.find? fun a => (defaultOf entries (splitArgument a).1).isNone)
    (hlast : ∀ name o, o ≠ .text "" → (LastSays arguments name o ↔ LastSays arguments' name o))
    (hexported : ∀ name, ((environment name).filter fun s => s ≠ "")
      = (environment' name).filter fun s => s ≠ "") :
    Config.resolve entries arguments environment
      = Config.resolve entries arguments' environment' := by
  refine resolve_congr rfl (fun _ => hunsupported) fun _ name => ?_
  unfold valueAt resolveProperty
  have hcounting : counting ((overridesOf arguments).get? name) (environment name)
      = counting ((overridesOf arguments').get? name) (environment' name) := by
    refine counting_congr (fun o ho => ?_) (hexported name)
    rw [← lastSays_iff, ← lastSays_iff]
    exact hlast name o ho
  simp only [overridden_eq, hcounting]

/-- Without some empty arguments the last argument for a property is the same,
    or it was an empty one. The induction is on what is left out. -/
theorem get?_overridesOf_of_dropped (h : Dropped (IsEmptyFor entries) arguments arguments')
    (name : String) :
    (overridesOf arguments').get? name = (overridesOf arguments).get? name ∨
      (overridesOf arguments).get? name = some (.text "") := by
  induction h with
  | nil => exact Or.inl rfl
  | keep a _ ih =>
      rw [get?_overridesOf_cons, get?_overridesOf_cons]
      rcases ih with hsame | hempty
      · exact Or.inl (by rw [hsame])
      · exact Or.inr (by rw [hempty]; rfl)
  | drop a ha _ ih =>
      rcases ha with ⟨other, hsays, -⟩
      rw [get?_overridesOf_cons, (says_iff _ _ _).mp hsays]
      rcases ih with hsame | hempty
      · rw [hsame]
        cases (overridesOf _).get? name with
        | some o => exact Or.inl rfl
        | none =>
            -- The empty argument was the only one for its property.
            by_cases hname : name = other
            · exact Or.inr (by rw [if_pos hname]; rfl)
            · exact Or.inl (by rw [if_neg hname]; rfl)
      · exact Or.inr (by rw [hempty]; rfl)

/-- Without the arguments for a property the others have the last arguments
    that they had. -/
theorem get?_overridesOf_filter (arguments : List String) (name other : String) :
    (overridesOf (arguments.filter fun a => (splitArgument a).1 ≠ name)).get? other
      = if other = name then none else (overridesOf arguments).get? other := by
  induction arguments with
  | nil =>
      rw [List.filter_nil]
      by_cases hother : other = name
      · rw [if_pos hother]
        rfl
      · rw [if_neg hother]
  | cons a rest ih =>
      by_cases ha : (splitArgument a).1 = name
      · rw [List.filter_cons_of_neg (by rw [decide_eq_true_iff]; exact not_not.mpr ha), ih,
          get?_overridesOf_cons, ha]
        by_cases hother : other = name
        · rw [if_pos hother, if_pos hother]
        · rw [if_neg hother, if_neg hother, if_neg hother, Option.or_none]
      · rw [List.filter_cons_of_pos (by rw [decide_eq_true_iff]; exact ha), get?_overridesOf_cons,
          ih, get?_overridesOf_cons]
        by_cases hother : other = name
        · rw [if_pos hother, if_pos hother, hother, if_neg (Ne.symm ha)]
          rfl
        · rw [if_neg hother, if_neg hother]

end

end Resolve

open Resolve in
/-- Empty variables are as good as none. Empty arguments can be left out where
    that does not uncover an earlier argument for the same property, and an
    empty argument that is the last one for a property takes back all the
    others for it. -/
theorem empty_overrides (entries : List (String × Json)) (arguments : List String)
    (environment : String → Option String) :
    (∀ environment' : String → Option String,
      (∀ name, environment' name = environment name ∨
        environment name = some "" ∧ environment' name = none) →
      Config.resolve entries arguments environment'
        = Config.resolve entries arguments environment) ∧
    (∀ remaining, Dropped (IsEmptyFor entries) arguments remaining →
      (∀ name o, LastSays arguments name (.text "") → LastSays remaining name o → o = .text "") →
      Config.resolve entries remaining environment
        = Config.resolve entries arguments environment) ∧
    ∀ name, (defaultOf entries name).isSome = true → LastSays arguments name (.text "") →
      Config.resolve entries (arguments.filter fun a => (splitArgument a).1 ≠ name) environment
        = Config.resolve entries arguments environment := by
  refine ⟨fun environment' hunset => ?_, fun remaining hdropped huncovers => ?_,
    fun name hdeclared hempty => ?_⟩
  · refine resolve_congr_of_lastSays rfl (fun _ _ _ => Iff.rfl) fun name => ?_
    rcases hunset name with hsame | ⟨hempty, hnone⟩
    · rw [hsame]
    · rw [hempty, hnone]
      rfl
  · refine resolve_congr_of_lastSays (Eq.symm (hdropped.find?_eq _ fun a ha => ?_))
      (fun name o ho => ?_) fun _ => rfl
    · -- What is left out is for properties that exist.
      rcases ha with ⟨name, hsays, hdeclared⟩
      rw [(says_iff _ _ _).mp hsays]
      exact Option.isNone_eq_false_iff.mpr hdeclared
    · rcases get?_overridesOf_of_dropped hdropped name with hsame | hempty
      · rw [lastSays_iff, lastSays_iff, hsame]
      · refine ⟨fun h => absurd (huncovers name o ((lastSays_iff _ _ _).mpr hempty) h) ho,
          fun h => ?_⟩
        rw [lastSays_iff, hempty, Option.some.injEq] at h
        exact absurd h.symm ho
  · refine resolve_congr_of_lastSays (Eq.symm ((dropped_filter _ arguments).find?_eq _
      fun a ha => ?_)) (fun other o ho => ?_) fun _ => rfl
    · rw [of_not_not (of_decide_eq_false ha)]
      exact Option.isNone_eq_false_iff.mpr hdeclared
    · rw [lastSays_iff] at hempty
      rw [lastSays_iff, lastSays_iff, get?_overridesOf_filter]
      by_cases hother : other = name
      · rw [if_pos hother, hother, hempty, Option.some.injEq]
        exact ⟨fun h => (by cases h), fun h => absurd h.symm ho⟩
      · rw [if_neg hother]

open Resolve Sample in
/-- An empty variable, an empty argument that is the only one for its property,
    and one that is the last of two. -/
theorem empty_overrides_sample :
    exported Property.organization = some "" ∧
      Config.resolve entries arguments
          (fun name => if name = Property.organization then none else exported name)
        = Config.resolve entries arguments exported ∧
      Dropped (IsEmptyFor entries) arguments (arguments.drop 1) ∧
      Config.resolve entries (arguments.drop 1) exported
        = Config.resolve entries arguments exported ∧
      LastSays ["WORKERS=3", "DRY_RUN", "WORKERS="] "WORKERS" (.text "") ∧
      Config.resolve entries ["DRY_RUN"] exported
        = Config.resolve entries ["WORKERS=3", "DRY_RUN", "WORKERS="] exported := by
  have hdropped : Dropped (IsEmptyFor entries) arguments (arguments.drop 1) := by
    refine .drop _ ⟨"WORKERS", (says_iff _ _ _).mpr (by decide +kernel), rfl⟩ ?_
    exact .keep _ (.keep _ (.keep _ .nil))
  have hlast : LastSays ["WORKERS=3", "DRY_RUN", "WORKERS="] "WORKERS" (.text "") :=
    (lastSays_iff _ _ _).mpr (by decide +kernel)
  -- No other argument is for the number of workers.
  have hempty : ∀ a ∈ arguments, (splitArgument a).2 = .text "" →
      (splitArgument a).1 = "WORKERS" := by
    decide +kernel
  have hothers : ∀ a ∈ arguments.drop 1, (splitArgument a).1 ≠ "WORKERS" := by
    decide +kernel
  have huncovers : ∀ name o, LastSays arguments name (.text "") →
      LastSays (arguments.drop 1) name o → o = .text "" := by
    rintro name o ⟨before, a, after, hsplit, ha, -⟩ ⟨before', b, after', hsplit', hb, -⟩
    rw [says_iff] at ha hb
    have hname := hempty a (hsplit ▸ List.mem_append_right before List.mem_cons_self) (by rw [ha])
    have hother := hothers b (hsplit' ▸ List.mem_append_right before' List.mem_cons_self)
    rw [ha] at hname
    rw [hb] at hother
    exact absurd hname hother
  have hunset : ∀ name, (fun name => if name = Property.organization then none
      else exported name) name = exported name ∨ exported name = some "" ∧
        (fun name => if name = Property.organization then none else exported name) name = none := by
    intro name
    by_cases hname : name = Property.organization
    · exact Or.inr ⟨hname ▸ rfl, if_pos hname⟩
    · exact Or.inl (if_neg hname)
  exact ⟨rfl, (empty_overrides entries arguments exported).1 _ hunset, hdropped,
    (empty_overrides entries arguments exported).2.1 _ hdropped huncovers, hlast,
    (empty_overrides entries ["WORKERS=3", "DRY_RUN", "WORKERS="] exported).2.2 "WORKERS" rfl hlast⟩

open Resolve Sample in
/-- An empty argument after another one for the same property makes a
    difference: it takes the other one back, and the file decides. -/
theorem empty_argument_displaces :
    Dropped (IsEmptyFor entries) ["WORKERS=3", "WORKERS="] ["WORKERS=3"] ∧
      ∃ c c', Config.resolve entries ["WORKERS=3", "WORKERS="] (fun _ => none) = .ok c ∧
        Config.resolve entries ["WORKERS=3"] (fun _ => none) = .ok c' ∧
        c.workers = 2 ∧ c'.workers = 3 := by
  have hboth : (match Config.resolve entries ["WORKERS=3", "WORKERS="] (fun _ => none) with
      | .ok c => some c.workers
      | .error _ => none) = some 2 := by
    decide +kernel
  have hfirst : (match Config.resolve entries ["WORKERS=3"] (fun _ => none) with
      | .ok c => some c.workers
      | .error _ => none) = some 3 := by
    decide +kernel
  refine ⟨.keep _ (.drop _ ⟨"WORKERS", (says_iff _ _ _).mpr (by decide +kernel), rfl⟩ .nil), ?_⟩
  cases hresolve : Config.resolve entries ["WORKERS=3", "WORKERS="] (fun _ => none) with
  | error e => simp only [hresolve, reduceCtorEq] at hboth
  | ok c =>
      cases hresolve' : Config.resolve entries ["WORKERS=3"] (fun _ => none) with
      | error e => simp only [hresolve', reduceCtorEq] at hfirst
      | ok c' =>
          simp only [hresolve, hresolve', Option.some.injEq] at hboth hfirst
          exact ⟨c, c', rfl, rfl, hboth, hfirst⟩

end PullTriage
