import PullTriage.Config.Resolve
import PullTriage.Proofs.Dictionaries

/-!
# The Layers of a Property

Which of the three layers a property takes its value from, and what that value
is, as relations that do not follow the order of the reading. `Counts` is the
override that decides: the last argument for the property unless its text is
empty, and otherwise the variable of its name unless that is empty. `Means` is
the value that it stands for, and `Layered` the value of the property.

The text of an override may spell no value of the kind of the property. It
then stands for itself as a string, but is refused for that, because every
text spells a string: `means_of_kind` is the reason why the two rules cannot
conflict. So a property has a value if and only if its override spells one of
its kind.

## Main definitions

* `Says`: What an argument says of which property.
* `LastSays`: What the last argument for a property says.
* `Counts`: The override that decides about a property.
* `Means`: The value that an override stands for.
* `Shown`: How an override is shown in an error.
* `Layered`: The value of a property.

## Theorems

* `says_iff`: An argument says one thing.
* `lastSays_iff`: The last argument is the one in the dictionary of overrides.
* `counts_iff`: The override that decides, in terms of the two upper layers.
* `Layered.unique`: A property has one value.
* `resolveProperty_eq_ok`: When a property has a value, and which.
* `resolveProperty_eq_error`: When a property is in error, and which.
-/

namespace PullTriage

namespace Text

theorem splitAtFirst_eq_none (c : Char) (l : List Char) : splitAtFirst c l = none ↔ c ∉ l := by
  induction l with
  | nil => simp only [splitAtFirst, List.not_mem_nil, not_false_eq_true]
  | cons d rest ih =>
      rw [splitAtFirst, List.mem_cons, not_or]
      by_cases h : d = c
      · rw [if_pos h]
        simp only [reduceCtorEq, h, not_true_eq_false, false_and]
      · rw [if_neg h, Option.map_eq_none_iff, ih]
        exact ⟨fun hr => ⟨Ne.symm h, hr⟩, fun hr => hr.2⟩

theorem splitAtFirst_eq_some (c : Char) (l before after : List Char) :
    splitAtFirst c l = some (before, after) ↔ l = before ++ c :: after ∧ c ∉ before := by
  induction l generalizing before with
  | nil =>
      simp only [splitAtFirst, reduceCtorEq, false_iff, not_and]
      exact fun h => absurd h.symm (List.append_ne_nil_of_right_ne_nil _ (List.cons_ne_nil _ _))
  | cons d rest ih =>
      rw [splitAtFirst]
      -- Nothing is before the character exactly if it comes first.
      by_cases h : d = c
      · rw [if_pos h, Option.some.injEq, Prod.mk.injEq]
        cases before with
        | nil =>
            simp only [h, List.nil_append, List.cons.injEq, true_and, List.not_mem_nil,
              not_false_eq_true, and_true]
        | cons b more =>
            simp only [reduceCtorEq, false_and, List.cons_append, List.cons.injEq, false_iff]
            rintro ⟨⟨hb, -⟩, hmem⟩
            exact hmem (List.mem_cons.mpr (Or.inl (h.symm.trans hb)))
      · rw [if_neg h, Option.map_eq_some_iff]
        cases before with
        | nil =>
            simp only [Prod.mk.injEq, reduceCtorEq, false_and, and_false, exists_false,
              List.nil_append, List.cons.injEq, h, false_and]
        | cons b more =>
            constructor
            · rintro ⟨⟨x, y⟩, hxy, heq⟩
              rw [Prod.mk.injEq, List.cons.injEq] at heq
              rcases heq with ⟨⟨rfl, rfl⟩, rfl⟩
              rcases (ih x).mp hxy with ⟨rfl, hx⟩
              exact ⟨rfl, fun hc => (List.mem_cons.mp hc).elim (Ne.symm h) hx⟩
            · rintro ⟨heq, hmem⟩
              rw [List.cons_append, List.cons.injEq] at heq
              refine ⟨(more, after), (ih more).mpr ⟨heq.2, ?_⟩, ?_⟩
              · exact fun hc => hmem (List.mem_cons_of_mem _ hc)
              · rw [heq.1]

end Text

namespace Resolve

/-- What an argument says of which property. A bare name is a flag. Behind a
    name without an equals sign and an equals sign stands a text. -/
inductive Says : String → String → Override → Prop
  | bare (name : String) (h : '=' ∉ name.toList) : Says name name .flag
  | valued (name text : String) (h : '=' ∉ name.toList) :
      Says (name ++ "=" ++ text) name (.text text)

/-- An argument says one thing of one property. -/
theorem says_iff (argument name : String) (o : Override) :
    Says argument name o ↔ splitArgument argument = (name, o) := by
  unfold splitArgument
  constructor
  · intro hsays
    cases hsays with
    | bare _ h => simp only [(Text.splitAtFirst_eq_none _ _).mpr h]
    | valued _ text h =>
      have hsplit : Text.splitAtFirst '=' (name ++ "=" ++ text).toList
          = some (name.toList, text.toList) := by
        refine (Text.splitAtFirst_eq_some _ _ _ _).mpr ⟨?_, h⟩
        rw [String.toList_append, String.toList_append, List.append_assoc]
        rfl
      simp only [hsplit, String.ofList_toList]
  · intro h
    cases hsplit : Text.splitAtFirst '=' argument.toList with
    | none =>
        simp only [hsplit, Prod.mk.injEq] at h
        rcases h with ⟨rfl, rfl⟩
        exact .bare _ ((Text.splitAtFirst_eq_none _ _).mp hsplit)
    | some parts =>
        rcases parts with ⟨before, after⟩
        simp only [hsplit, Prod.mk.injEq] at h
        rcases h with ⟨rfl, rfl⟩
        rcases (Text.splitAtFirst_eq_some _ _ _ _).mp hsplit with ⟨hargument, hbefore⟩
        have heq : argument = String.ofList before ++ "=" ++ String.ofList after := by
          apply String.toList_injective
          rw [hargument, String.toList_append, String.toList_append, String.toList_ofList,
            String.toList_ofList, String.toList_ofList, List.append_assoc]
          rfl
        rw [heq]
        exact .valued _ _ (by rwa [String.toList_ofList])

/-- What the last argument for a property says. -/
def LastSays (arguments : List String) (name : String) (o : Override) : Prop :=
  ∃ before argument after, arguments = before ++ argument :: after ∧ Says argument name o ∧
    ∀ later ∈ after, ∀ o', ¬ Says later name o'

/-- The overrides of the command line by name, the last of a name winning. -/
def overridesOf (arguments : List String) : Dictionary Override :=
  Dictionary.ofList (arguments.map splitArgument)

/-- The last argument for a property is the one that is kept. -/
theorem lastSays_iff (arguments : List String) (name : String) (o : Override) :
    LastSays arguments name o ↔ (overridesOf arguments).get? name = some o := by
  unfold overridesOf LastSays
  rw [Dictionary.get?_ofList_eq_some]
  constructor
  · rintro ⟨before, argument, after, rfl, hargument, hafter⟩
    refine ⟨before.map splitArgument, after.map splitArgument, ?_, fun later hlater heq => ?_⟩
    · rw [List.map_append, List.map_cons, (says_iff _ _ _).mp hargument]
    · rcases List.mem_map.mp hlater with ⟨a, ha, rfl⟩
      exact hafter a ha _ ((says_iff _ _ _).mpr (Prod.ext heq rfl))
  · rintro ⟨before, after, h, hafter⟩
    rcases List.map_eq_append_iff.mp h with ⟨first, rest, rfl, rfl, hrest⟩
    rcases List.map_eq_cons_iff.mp hrest with ⟨argument, last, rfl, hargument, rfl⟩
    refine ⟨first, argument, last, rfl, (says_iff _ _ _).mpr hargument,
      fun later hlater o' h' => ?_⟩
    exact hafter _ (List.mem_map_of_mem hlater) (congrArg Prod.fst ((says_iff _ _ _).mp h'))

/-- The override that decides about a property: the last argument for it,
    unless its text is empty, and otherwise the variable of its name, unless
    that is empty. -/
inductive Counts (arguments : List String) (environment : String → Option String)
    (name : String) : Override → Prop
  | bare (h : LastSays arguments name .flag) : Counts arguments environment name .flag
  | argument (text : String) (h : LastSays arguments name (.text text)) (hne : text ≠ "") :
      Counts arguments environment name (.text text)
  | exported (text : String) (hlast : ∀ o, LastSays arguments name o → o = .text "")
      (h : environment name = some text) (hne : text ≠ "") :
      Counts arguments environment name (.text text)

/-- The override that decides, if there is one, given what the two upper
    layers hold. -/
def counting (last : Option Override) (exported : Option String) : Option Override :=
  match last with
  | some .flag => some .flag
  | some (.text s) =>
    if s = "" then (exported.filter fun s => s ≠ "").map .text else some (.text s)
  | none => (exported.filter fun s => s ≠ "").map .text

/-- A variable says its text, unless that is empty. -/
theorem exported_eq_some_iff (exported : Option String) (o : Override) :
    (exported.filter fun s => s ≠ "").map Override.text = some o ↔
      ∃ text, exported = some text ∧ text ≠ "" ∧ o = .text text := by
  simp only [Option.map_eq_some_iff, Option.filter_eq_some_iff, decide_eq_true_iff]
  constructor
  · rintro ⟨text, ⟨h, hne⟩, rfl⟩
    exact ⟨text, h, hne, rfl⟩
  · rintro ⟨text, h, hne, rfl⟩
    exact ⟨text, ⟨h, hne⟩, rfl⟩

theorem counts_iff (arguments : List String) (environment : String → Option String)
    (name : String) (o : Override) :
    Counts arguments environment name o ↔
      counting ((overridesOf arguments).get? name) (environment name) = some o := by
  constructor
  · intro h
    cases h with
    | bare h => rw [(lastSays_iff _ _ _).mp h, counting]
    | argument text h hne => rw [(lastSays_iff _ _ _).mp h, counting, if_neg hne]
    | exported text hlast h hne =>
        have htext := (exported_eq_some_iff _ (.text text)).mpr ⟨text, h, hne, rfl⟩
        cases hget : (overridesOf arguments).get? name with
        | none => exact htext
        | some last =>
            rw [hlast last ((lastSays_iff _ _ _).mpr hget), counting, if_pos rfl]
            exact htext
  · intro h
    cases hget : (overridesOf arguments).get? name with
    | none =>
        -- Where the arguments say nothing, the variable decides.
        rw [hget, counting, exported_eq_some_iff] at h
        rcases h with ⟨text, htext, hne, rfl⟩
        refine .exported text (fun last hlast => ?_) htext hne
        rw [lastSays_iff, hget] at hlast
        exact absurd hlast (by simp only [reduceCtorEq, not_false_eq_true])
    | some last =>
        have hlast := (lastSays_iff _ _ _).mpr hget
        rw [hget] at h
        cases last with
        | flag =>
            rw [counting, Option.some.injEq] at h
            exact h ▸ .bare hlast
        | text s =>
            rw [counting] at h
            by_cases hs : s = ""
            · rw [if_pos hs, exported_eq_some_iff] at h
              rcases h with ⟨text, htext, hne, rfl⟩
              refine .exported text (fun last hlast' => ?_) htext hne
              rw [lastSays_iff, hget, Option.some.injEq] at hlast'
              rw [← hlast', hs]
            · rw [if_neg hs, Option.some.injEq] at h
              exact h ▸ .argument s hlast hs

/-- The value that an override stands for, read as a value of a kind. -/
inductive Means (kind : Kind) : Override → Json → Prop
  | flag : Means kind .flag (.bool true)
  | text (s : String) (v : Json) (h : kind.read? s = some v) : Means kind (.text s) v

/-- How an override is shown in an error: by the value that it stands for, and
    a text that spells none by itself. -/
inductive Shown (kind : Kind) : Override → String → Prop
  | value (o : Override) (v : Json) (h : Means kind o v) :
      Shown kind o (v.asString?.getD v.compact)
  | raw (s : String) (h : kind.read? s = none) : Shown kind (.text s) s

/-- The value that an override is taken for, which need not be of the kind. -/
def taken (default : Json) : Override → Json
  | .flag => .bool true
  | .text s => coerce default s

theorem overridden_eq (last : Option Override) (exported : Option String) (default : Json) :
    overridden last exported default = (counting last exported).map (taken default) := by
  have hmap : ((exported.filter fun s => s ≠ "").map (coerce default))
      = ((exported.filter fun s => s ≠ "").map Override.text).map (taken default) := by
    rw [Option.map_map]
    rfl
  cases last with
  | none => exact hmap
  | some o =>
      cases o with
      | flag => rfl
      | text s =>
          simp only [overridden, counting]
          by_cases hs : s = ""
          · rw [if_pos hs, if_pos hs]
            exact hmap
          · rw [if_neg hs, if_neg hs]
            rfl

theorem means_unique {kind : Kind} {o : Override} {v w : Json} (h : Means kind o v)
    (h' : Means kind o w) : v = w := by
  cases h with
  | flag =>
      cases h'
      rfl
  | text s _ h =>
      cases h' with
      | text _ _ h' => exact Option.some.inj (h.symm.trans h')

/-- What an override means is what it is taken for. -/
theorem taken_of_means {default v : Json} {o : Override} (h : Means (Kind.of default) o v) :
    taken default o = v := by
  cases h with
  | flag => rfl
  | text s _ h => rw [taken, coerce, h, Option.getD_some]

/-- An override that is taken for a value of the kind means it. A text that
    spells no value is taken for a string, and every text spells a string. -/
theorem means_of_kind (default : Json) (o : Override)
    (h : Kind.of (taken default o) = Kind.of default) :
    Means (Kind.of default) o (taken default o) := by
  cases o with
  | flag => exact .flag
  | text s =>
      rw [taken, coerce] at h ⊢
      cases hread : (Kind.of default).read? s with
      | some v =>
          rw [Option.getD_some]
          exact .text s v hread
      | none =>
          rw [hread, Option.getD_none] at h
          rw [← h] at hread
          exact absurd hread (by simp only [Kind.of, Kind.read?, reduceCtorEq, not_false_eq_true])

theorem shown_iff (default : Json) (o : Override) (text : String) :
    Shown (Kind.of default) o text ↔
      text = (taken default o).asString?.getD (taken default o).compact := by
  constructor
  · intro h
    cases h with
    | value _ v h => rw [taken_of_means h]
    | raw _ h =>
        rw [taken, coerce, h]
        rfl
  · rintro rfl
    cases o with
    | flag => exact .value _ _ .flag
    | text s =>
        cases hread : (Kind.of default).read? s with
        | some v =>
            have hmeans := Means.text s v hread
            rw [taken_of_means hmeans]
            exact .value _ v hmeans
        | none =>
            rw [taken, coerce, hread]
            exact .raw s hread

/-- The value of a property whose value in the file, or built in, is the given
    one: what the override that decides stands for, or else that value. -/
inductive Layered (arguments : List String) (environment : String → Option String)
    (name : String) (default : Json) : Json → Prop
  | override (o : Override) (v : Json) (h : Counts arguments environment name o)
      (hmeans : Means (Kind.of default) o v) : Layered arguments environment name default v
  | default (h : ∀ o, ¬ Counts arguments environment name o) :
      Layered arguments environment name default default

/-- The layers leave no choice of a value. -/
theorem Layered.unique {arguments : List String} {environment : String → Option String}
    {name : String} {default v w : Json} (h : Layered arguments environment name default v)
    (h' : Layered arguments environment name default w) : v = w := by
  cases h with
  | override o _ hcounts hmeans =>
      cases h' with
      | override o' _ hcounts' hmeans' =>
          rw [counts_iff] at hcounts hcounts'
          rw [Option.some.inj (hcounts.symm.trans hcounts')] at hmeans
          exact means_unique hmeans hmeans'
      | default hnone => exact absurd hcounts (hnone o)
  | default hnone =>
      cases h' with
      | override o _ hcounts _ => exact absurd hcounts (hnone o)
      | default => rfl

/-- The override that decides stands for no value of the kind of the
    property. -/
def IsMismatch (arguments : List String) (environment : String → Option String) (name : String)
    (default : Json) (o : Override) : Prop :=
  Counts arguments environment name o ∧
    ∀ v, Means (Kind.of default) o v → Kind.of v ≠ Kind.of default

section

variable (arguments : List String) (environment : String → Option String) (name : String)
  (default : Json)

theorem resolveProperty_of_counts (o : Override) (h : Counts arguments environment name o) :
    resolveProperty (overridesOf arguments) environment name default =
      if Kind.of (taken default o) = Kind.of default then .ok (taken default o)
      else .error (Typed.mismatch name (Kind.of default) (taken default o)) := by
  unfold resolveProperty
  rw [overridden_eq, (counts_iff _ _ _ _).mp h]
  rfl

theorem resolveProperty_of_not_counts (h : ∀ o, ¬ Counts arguments environment name o) :
    resolveProperty (overridesOf arguments) environment name default = .ok default := by
  have hnone : counting ((overridesOf arguments).get? name) (environment name) = none :=
    Option.eq_none_iff_forall_ne_some.mpr fun o ho => h o ((counts_iff _ _ _ _).mpr ho)
  unfold resolveProperty
  rw [overridden_eq, hnone]
  rfl

/-- A property has the value of its layers, if that is of its kind. -/
theorem resolveProperty_eq_ok (v : Json) :
    resolveProperty (overridesOf arguments) environment name default = .ok v ↔
      Layered arguments environment name default v ∧ Kind.of v = Kind.of default := by
  by_cases hcounts : ∃ o, Counts arguments environment name o
  · rcases hcounts with ⟨o, ho⟩
    rw [resolveProperty_of_counts _ _ _ _ o ho]
    constructor
    · intro h
      by_cases hkind : Kind.of (taken default o) = Kind.of default
      · rw [if_pos hkind, Except.ok.injEq] at h
        rw [← h]
        exact ⟨.override o _ ho (means_of_kind default o hkind), hkind⟩
      · rw [if_neg hkind] at h
        exact absurd h (by simp only [reduceCtorEq, not_false_eq_true])
    · rintro ⟨hlayered, hkind⟩
      cases hlayered with
      | override o' _ ho' hmeans =>
          -- No two overrides count at once.
          have heq : o = o' :=
            Option.some.inj (((counts_iff _ _ _ _).mp ho).symm.trans ((counts_iff _ _ _ _).mp ho'))
          rw [heq, taken_of_means hmeans, if_pos hkind]
      | default h => exact absurd ho (h o)
  · rw [not_exists] at hcounts
    rw [resolveProperty_of_not_counts _ _ _ _ hcounts, Except.ok.injEq]
    constructor
    · rintro rfl
      exact ⟨.default hcounts, rfl⟩
    · rintro ⟨hlayered, -⟩
      cases hlayered with
      | override o _ ho _ => exact absurd ho (hcounts o)
      | default _ => rfl

/-- A property is in error if the override that decides stands for no value of
    its kind, and is named with the kind and that override. -/
theorem resolveProperty_eq_error (e : ConfigError) :
    resolveProperty (overridesOf arguments) environment name default = .error e ↔
      ∃ o text, IsMismatch arguments environment name default o ∧
        Shown (Kind.of default) o text ∧ e = .typeMismatch name (Kind.of default) text := by
  constructor
  · intro h
    by_cases hcounts : ∃ o, Counts arguments environment name o
    · rcases hcounts with ⟨o, ho⟩
      rw [resolveProperty_of_counts _ _ _ _ o ho] at h
      by_cases hkind : Kind.of (taken default o) = Kind.of default
      · rw [if_pos hkind] at h
        exact absurd h (by simp only [reduceCtorEq, not_false_eq_true])
      · rw [if_neg hkind, Except.error.injEq] at h
        refine ⟨o, _, ⟨ho, fun v hmeans => ?_⟩, (shown_iff _ _ _).mpr rfl, h.symm⟩
        rw [← taken_of_means hmeans]
        exact hkind
    · rw [resolveProperty_of_not_counts _ _ _ _ (not_exists.mp hcounts)] at h
      exact absurd h (by simp only [reduceCtorEq, not_false_eq_true])
  · rintro ⟨o, text, ⟨ho, hmeans⟩, hshown, rfl⟩
    have hkind : Kind.of (taken default o) ≠ Kind.of default := fun hkind =>
      hmeans _ (means_of_kind default o hkind) hkind
    rw [resolveProperty_of_counts _ _ _ _ o ho, if_neg hkind, (shown_iff _ _ _).mp hshown]
    rfl

end

end Resolve

end PullTriage
