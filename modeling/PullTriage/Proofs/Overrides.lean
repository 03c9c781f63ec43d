import PullTriage.Proofs.Readback
import PullTriage.Proofs.Resolution
import PullTriage.Proofs.Trimming

/-!
# Overrides That Spell a Value

A value can be given to a property in the file, by an argument or by a
variable, and it makes no difference in which of these ways it is given. An
override is a text, so this is first about texts: a value without floating
point numbers is spelled by its compact text, and a string by itself between
quotes, whatever is in it. Read as the kind of the value, and with white space
around it, each of these texts is the value again.

The rest is about resolving. A configuration depends on the file, the
arguments and the environment only through the names in the file, the first
argument for no property, and what becomes of each property, which is
`valueAt`. Two ways to give a property the same value agree in all three.

## Main definitions

* `Resolve.Spells`: The texts that stand for a value in an override.
* `Resolve.IsCommon`: A value that every layer can give.
* `Resolve.valueAt`: What becomes of a property.

## Theorems

* `Literal.readInt?_printInt`: A whole number is read from its digits.
* `Resolve.read?_of_spells`: A text that spells a value is read as it.
* `Resolve.resolveAll_eq_error_iff`, `Resolve.readArguments_eq_error_iff`:
  Which error is reported.
* `Resolve.resolve_congr`: What a configuration depends on.
* `layers_agree`: The layers agree on values.
-/

namespace PullTriage

namespace Literal

/-- Digits are read as the number that they spell. -/
theorem readDigits?_of_digits {l : List Char} (h : Json.Digits l) :
    readDigits? l = some (Nat.ofDigitChars 10 l 0) := by
  have hgood : (l.isEmpty || !l.all Char.isDigit) = false := by
    rw [List.isEmpty_eq_false_iff.mpr h.1, List.all_eq_true.mpr h.2]
    rfl
  rw [readDigits?, hgood]
  rfl

/-- Digits are read as the number that they are the digits of. -/
theorem readDigits?_toDigits (n : Nat) : readDigits? (Nat.toDigits 10 n) = some n := by
  rw [readDigits?_of_digits (Json.digits_toDigits n), Nat.ofDigitChars_ten_toDigits]

/-- A text of digits has no sign. -/
theorem splitSign_of_digits {l : List Char} (h : Json.Digits l) : splitSign l = (false, l) := by
  rcases List.exists_cons_of_ne_nil h.1 with ⟨d, more, hd⟩
  have hdigit : d.isDigit = true := h.2 d (hd ▸ List.mem_cons_self)
  rw [hd]
  unfold splitSign
  split
  · next heq =>
    rw [List.cons.injEq] at heq
    exact absurd (heq.1 ▸ hdigit) (by decide)
  · next heq =>
    rw [List.cons.injEq] at heq
    exact absurd (heq.1 ▸ hdigit) (by decide)
  · rfl

theorem splitSign_toDigits (n : Nat) :
    splitSign (Nat.toDigits 10 n) = (false, Nat.toDigits 10 n) :=
  splitSign_of_digits (Json.digits_toDigits n)

/-- A whole number of 64 bits with its sign is read from its digits. -/
theorem readInt?_printInt (n : Int) (hlow : -(Nat.pow 2 63 : Int) ≤ n)
    (hhigh : n < Nat.pow 2 63) : readInt? (Json.printInt n) = some n := by
  unfold readInt? Json.printInt
  by_cases hn : n < 0
  · have hfits : n.natAbs ≤ Nat.pow 2 63 := by omega
    have habs : -(n.natAbs : Int) = n := by omega
    rw [if_pos hn]
    simp only [splitSign, readDigits?_toDigits, Option.bind_some, if_true, if_pos hfits, habs]
  · have hfits : n.natAbs < Nat.pow 2 63 := by omega
    have habs : (n.natAbs : Int) = n := by omega
    rw [if_neg hn, splitSign_toDigits]
    simp only [readDigits?_toDigits, Option.bind_some, Bool.false_eq_true, if_false, if_pos hfits,
      habs]

/-- The quotes around a text are taken off. -/
theorem unquotedBy?_quoted (quote : Char) (l : List Char) :
    unquotedBy? quote (quote :: (l ++ [quote])) = some l := by
  rw [unquotedBy?, if_pos ⟨rfl, List.getLast?_concat⟩, List.dropLast_concat]

end Literal

namespace Json

/-- The characters of a whole number are not white space. -/
theorem isBare_printInt (n : Int) : Text.IsBare (printInt n) := by
  have hdigit : ∀ c ∈ Nat.toDigits 10 n.natAbs, Text.isBlank c = false := fun c hc =>
    Instant.isBlank_of_isDigit c ((digits_toDigits n.natAbs).2 c hc)
  refine Text.isBare_of_forall _ fun c hc => ?_
  unfold printInt at hc
  split at hc
  · rcases List.mem_cons.mp hc with rfl | hc
    · decide
    · exact hdigit c hc
  · exact hdigit c hc

theorem exists_printItems (items : List Json) : ∃ text, printItems items = text ++ [']'] := by
  induction items with
  | nil => exact ⟨[], rfl⟩
  | cons v rest ih =>
      cases rest with
      | nil => exact ⟨v.print, rfl⟩
      | cons w rest =>
          rcases ih with ⟨text, htext⟩
          exact ⟨v.print ++ ',' :: text, by rw [printItems, htext, List.append_assoc]; rfl⟩

theorem exists_printMembers (members : List (String × Json)) :
    ∃ text, printMembers members = text ++ ['\x7d'] := by
  induction members with
  | nil => exact ⟨[], rfl⟩
  | cons m rest ih =>
      rcases m with ⟨name, v⟩
      cases rest with
      | nil =>
          refine ⟨printString name ++ ':' :: v.print, ?_⟩
          rw [printMembers, List.append_assoc]
          rfl
      | cons w rest =>
          rcases ih with ⟨text, htext⟩
          refine ⟨printString name ++ ':' :: (v.print ++ ',' :: text), ?_⟩
          rw [printMembers, htext]
          simp only [List.append_assoc, List.cons_append]

/-- The compact text of an array or an object stands between brackets. -/
theorem isBare_printItems (items : List Json) : Text.IsBare ('[' :: printItems items) := by
  rcases exists_printItems items with ⟨text, htext⟩
  rw [htext]
  exact Text.isBare_between _ _ text (by decide) (by decide)

theorem isBare_printMembers (members : List (String × Json)) :
    Text.IsBare ('\x7b' :: printMembers members) := by
  rcases exists_printMembers members with ⟨text, htext⟩
  rw [htext]
  exact Text.isBare_between _ _ text (by decide) (by decide)

end Json

namespace Resolve

/-- The texts that stand for a value in an override: a string between quotes,
    and any other value by its compact text. -/
inductive Spells : Json → String → Prop where
  | double (s : String) : Spells (.string s) ("\"" ++ s ++ "\"")
  | single (s : String) : Spells (.string s) ("\x27" ++ s ++ "\x27")
  | compact (v : Json) (h : v.asString? = none) : Spells v v.compact

/-- A value that every layer can give: it has no floating point number, and if
    it is a whole number, it fits into 64 bits with a sign. -/
structure IsCommon (v : Json) : Prop where
  plain : Json.Plain Json.nestingLimit v
  fits (n : Int) (h : v = .int n) : n < Nat.pow 2 63

/-- A whole number that every layer can give fits into 64 bits with a sign. -/
theorem IsCommon.bounds {n : Int} (h : IsCommon (.int n)) :
    -(Nat.pow 2 63 : Int) ≤ n ∧ n < Nat.pow 2 63 := by
  rcases h.plain with - | - | ⟨_, _, hlow, -⟩
  exact ⟨hlow, h.fits n rfl⟩

theorem not_isCommon_float (x : Binary64) : ¬ IsCommon (.float x) := by
  rintro ⟨⟨⟩, -⟩

/-- The compact text of a value other than a string has no white space at its
    ends. -/
theorem isBare_print (v : Json) (hv : IsCommon v) (hstring : v.asString? = none) :
    Text.IsBare v.print := by
  cases v with
  | null => exact Text.isBare_between 'n' 'l' ['u', 'l'] (by decide) (by decide)
  | bool b =>
      cases b with
      | true => exact Text.isBare_between 't' 'e' ['r', 'u'] (by decide) (by decide)
      | false => exact Text.isBare_between 'f' 'e' ['a', 'l', 's'] (by decide) (by decide)
  | int n => exact Json.isBare_printInt n
  | float x => exact absurd hv (not_isCommon_float x)
  | string s => exact absurd hstring (Option.some_ne_none s)
  | array items => exact Json.isBare_printItems items
  | object members => exact Json.isBare_printMembers members

/-- The kind of a value reads the compact text of the value, white space
    around it being taken away first. -/
theorem read?_of_compact (v : Json) (text : String) (hv : IsCommon v)
    (hstring : v.asString? = none) (htrim : Text.trim text.toList = v.print) :
    (Kind.of v).read? text = some v := by
  unfold Kind.read?
  rw [htrim]
  cases v with
  | null => rfl
  | bool b => cases b <;> rfl
  | int n =>
      simp only [Kind.of, Json.print, Literal.readInt?_printInt n hv.bounds.1 hv.bounds.2,
        Option.map_some]
  | float x => exact absurd hv (not_isCommon_float x)
  | string s => exact absurd hstring (Option.some_ne_none s)
  | array items => exact Json.ofString?_compact _ hv.plain
  | object members => exact Json.ofString?_compact _ hv.plain

/-- A text that spells a value is read as the value, with white space around
    it or without. -/
theorem read?_of_spells (v : Json) (text white white' : String) (hv : IsCommon v)
    (htext : Spells v text) (hwhite : ∀ c ∈ white.toList, Text.isBlank c = true)
    (hwhite' : ∀ c ∈ white'.toList, Text.isBlank c = true) :
    (Kind.of v).read? (white ++ text ++ white') = some v := by
  have htrim : ∀ l, text.toList = l → Text.IsBare l →
      Text.trim (white ++ text ++ white').toList = l := by
    rintro l rfl hbare
    rw [String.toList_append, String.toList_append, List.append_assoc]
    exact Text.trim_surrounded _ _ _ hwhite hwhite' hbare.first hbare.last
  cases htext with
  | double s =>
      unfold Kind.read?
      rw [htrim ('"' :: (s.toList ++ ['"'])) (by simp only [String.toList_append]; rfl)
        (Text.isBare_between _ _ _ (by decide) (by decide))]
      simp only [Kind.of, Literal.unquoted, Literal.unquotedBy?_quoted, Option.some_or,
        Option.getD_some, String.ofList_toList]
  | single s =>
      unfold Kind.read?
      rw [htrim (Char.ofNat 39 :: (s.toList ++ [Char.ofNat 39]))
        (by simp only [String.toList_append]; rfl)
        (Text.isBare_between _ _ _ (by decide) (by decide))]
      -- Double quotes are looked for first.
      have hdouble : Literal.unquotedBy? '"'
          (Char.ofNat 39 :: (s.toList ++ [Char.ofNat 39])) = none := by
        rw [Literal.unquotedBy?, if_neg fun h => absurd h.1 (by decide)]
      simp only [Kind.of, Literal.unquoted, hdouble, Literal.unquotedBy?_quoted, Option.none_or,
        Option.getD_some, String.ofList_toList]
  | compact _ hstring =>
      exact read?_of_compact v _ hv hstring
        (htrim v.print String.toList_ofList (isBare_print v hv hstring))

/-- A text that spells a value is not empty. -/
theorem ne_empty_of_spells (v : Json) (text white white' : String) (hv : IsCommon v)
    (htext : Spells v text) : white ++ text ++ white' ≠ "" := by
  have hne : text.toList ≠ [] := by
    cases htext with
    | double s =>
        rw [String.toList_append, String.toList_append]
        exact List.cons_ne_nil _ _
    | single s =>
        rw [String.toList_append, String.toList_append]
        exact List.cons_ne_nil _ _
    | compact _ _ =>
        -- The compact text is a spelling, and each of those has a first character.
        rcases Json.exists_tree_of_plain hv.plain with ⟨t, ht, -⟩
        rcases Json.head_spelling (Json.spelling_print v t ht) with ⟨c, more, hprint, -⟩
        rw [Json.compact, String.toList_ofList, hprint]
        exact List.cons_ne_nil c more
  intro hempty
  have hlist := congrArg String.toList hempty
  rw [String.toList_append, String.toList_append] at hlist
  exact hne (List.append_eq_nil_iff.mp (List.append_eq_nil_iff.mp hlist).1).2

/-- What becomes of a property: its value or its error, and nothing if there
    is no such property. -/
def valueAt (entries : List (String × Json)) (arguments : List String)
    (environment : String → Option String) (name : String) : Option (Except ConfigError Json) :=
  (defaultOf entries name).map (resolveProperty (overridesOf arguments) environment name)

section

variable (entries : List (String × Json)) (arguments : List String)
  (environment : String → Option String)

/-- The properties have the values of their layers if they are what becomes of
    them. -/
theorem resolved_iff (properties : Dictionary Json) :
    Resolved entries arguments environment properties ↔
      ∀ name, valueAt entries arguments environment name
        = (properties.get? name).map Except.ok := by
  refine forall_congr' fun name => ?_
  -- Without a property there is nothing on either side.
  unfold valueAt
  cases defaultOf entries name with
  | none =>
      simp only [reduceCtorEq, false_implies, implies_true, and_true, true_implies,
        Option.map_none, eq_comm (a := none), Option.map_eq_none_iff]
  | some default =>
      simp only [reduceCtorEq, false_implies, true_and, Option.some.injEq, forall_eq',
        Option.map_some, ← resolveProperty_eq_ok]
      rw [eq_comm (a := some _), Option.map_eq_some_iff]
      refine exists_congr fun v => and_congr_right fun _ => ?_
      exact eq_comm

/-- The property in error with the least name is reported. -/
theorem resolveAll_eq_error_iff (hnodup : (entries.map Prod.fst).Nodup) (e : ConfigError) :
    resolveAll entries arguments environment = .error e ↔
      ∃ name, valueAt entries arguments environment name = some (.error e) ∧
        ∀ other e', other < name →
          valueAt entries arguments environment other ≠ some (.error e') := by
  -- The only error of a property is that its override is of another kind.
  have hvalue : ∀ name e', valueAt entries arguments environment name = some (.error e') ↔
      ∃ default o text, defaultOf entries name = some default ∧
        IsMismatch arguments environment name default o ∧ Shown (Kind.of default) o text ∧
        e' = .typeMismatch name (Kind.of default) text := by
    intro name e'
    unfold valueAt
    simp only [Option.map_eq_some_iff, resolveProperty_eq_error, exists_and_left]
  rw [resolveAll_eq_error entries arguments environment hnodup]
  refine exists_congr fun name => ?_
  simp only [ne_eq, hvalue]
  constructor
  · rintro ⟨text, default, o, hdefault, ho, hleast, htext, rfl⟩
    refine ⟨⟨default, o, text, hdefault, ho, htext, rfl⟩, ?_⟩
    rintro other e' hlt ⟨default', o', text', hdefault', ho', -⟩
    exact hleast other default' o' hlt hdefault' ho'
  · rintro ⟨⟨default, o, text, hdefault, ho, htext, rfl⟩, hleast⟩
    refine ⟨text, default, o, hdefault, ho, fun other default' o' hlt hdefault' ho' => ?_, htext,
      rfl⟩
    exact hleast other _ hlt ⟨default', o', _, hdefault', ho', (shown_iff _ _ _).mpr rfl, rfl⟩

/-- The first argument for no property is reported. -/
theorem readArguments_eq_error_iff (hnodup : (entries.map Prod.fst).Nodup) (e : ConfigError) :
    readArguments (builtIn.overlaid entries) arguments = .error e ↔
      (arguments.find? fun a => (defaultOf entries (splitArgument a).1).isNone).map
        .unsupportedArgument = some e := by
  have hsupported : ∀ a, Supported entries a ↔
      (defaultOf entries (splitArgument a).1).isNone = false := by
    intro a
    rw [supported_iff entries hnodup, Dictionary.contains, get?_defaults entries hnodup,
      Option.isNone_eq_false_iff]
  rw [readArguments_eq_error entries arguments hnodup]
  simp only [Option.map_eq_some_iff, List.find?_eq_some_iff_append, hsupported,
    Bool.not_eq_false, Bool.not_eq_true']
  constructor
  · rintro ⟨before, argument, after, rfl, hbefore, hargument, rfl⟩
    exact ⟨argument, ⟨hargument, before, after, rfl, hbefore⟩, rfl⟩
  · rintro ⟨argument, ⟨hargument, before, after, rfl, hbefore⟩, rfl⟩
    exact ⟨before, argument, after, rfl, hbefore, hargument, rfl⟩

end

/-- A configuration depends on the names in the file and, where none of them is
    repeated, on the first argument for no property and on what becomes of each
    property. -/
theorem resolve_congr {entries entries' : List (String × Json)}
    {arguments arguments' : List String} {environment environment' : String → Option String}
    (hnames : entries.map Prod.fst = entries'.map Prod.fst)
    (harguments : (entries.map Prod.fst).Nodup →
      (arguments.find? fun a => (defaultOf entries (splitArgument a).1).isNone)
        = arguments'.find? fun a => (defaultOf entries' (splitArgument a).1).isNone)
    (hvalues : (entries.map Prod.fst).Nodup → ∀ name,
      valueAt entries arguments environment name
        = valueAt entries' arguments' environment' name) :
    Config.resolve entries arguments environment
      = Config.resolve entries' arguments' environment' := by
  by_cases hnodup : (entries.map Prod.fst).Nodup
  · have hnodup' : (entries'.map Prod.fst).Nodup := hnames ▸ hnodup
    rw [resolve_of_nodup hnodup, resolve_of_nodup hnodup']
    refine bind_congr_of_error _ _ (fun e => ?_) fun _ _ _ _ => ?_
    · rw [readArguments_eq_error_iff _ _ hnodup, readArguments_eq_error_iff _ _ hnodup',
        harguments hnodup]
    refine bind_congr_of_error _ _ (fun e => ?_) fun l l' hl hl' => ?_
    · simp only [resolveAll_eq_error_iff _ _ _ hnodup, resolveAll_eq_error_iff _ _ _ hnodup',
        hvalues hnodup]
    · -- Both dictionaries hold what becomes of the properties.
      have hresolved := (resolved_iff _ _ _ _).mp (resolved_of_resolveAll _ _ _ hnodup l hl)
      simp only [hvalues hnodup] at hresolved
      have hsame := ((resolved_iff _ _ _ _).mpr hresolved).unique
        (resolved_of_resolveAll _ _ _ hnodup' l' hl')
      rw [hsame]
  · have hnodup' : ¬(entries'.map Prod.fst).Nodup := hnames ▸ hnodup
    -- The first name that is repeated is the error, and the names are the same.
    have hrepeat : firstRepeat? [] (entries.map Prod.fst) ≠ none := fun hnone =>
      hnodup ((firstRepeat?_eq_none _ _).mp hnone).1
    rcases Option.ne_none_iff_exists'.mp hrepeat with ⟨name, hname⟩
    rw [(resolve_of_not_nodup hnodup _).mpr ⟨name, hname, rfl⟩,
      (resolve_of_not_nodup hnodup' _).mpr ⟨name, hnames ▸ hname, rfl⟩]

section

variable {entries entries' : List (String × Json)} {arguments arguments' : List String}
  {environment environment' : String → Option String} {name : String}

/-- What becomes of a property depends on its value in the file, on its last
    argument and on its variable. -/
theorem valueAt_congr (hdefault : defaultOf entries name = defaultOf entries' name)
    (hargument : (overridesOf arguments).get? name = (overridesOf arguments').get? name)
    (hexported : environment name = environment' name) :
    valueAt entries arguments environment name = valueAt entries' arguments' environment' name := by
  unfold valueAt resolveProperty
  rw [hdefault, hargument, hexported]

/-- Without an override a property has its value in the file. -/
theorem valueAt_of_silent {v : Json} (hdefault : defaultOf entries name = some v)
    (hsilent : ∀ a ∈ arguments, ∀ o, ¬ Says a name o)
    (hunset : ∀ s, environment name = some s → s = "") :
    valueAt entries arguments environment name = some (.ok v) := by
  -- No layer above the file says anything.
  have hlast : ∀ o, ¬ LastSays arguments name o := by
    rintro o ⟨before, a, after, rfl, ha, -⟩
    exact hsilent a (List.mem_append_right _ List.mem_cons_self) o ha
  have hcounts : ∀ o, ¬ Counts arguments environment name o := by
    intro o ho
    cases ho with
    | bare h => exact hlast _ h
    | argument _ h _ => exact hlast _ h
    | exported text _ h hne => exact hne (hunset text h)
  unfold valueAt
  rw [hdefault, Option.map_some, resolveProperty_of_not_counts _ _ _ _ hcounts]

/-- A property has the value that the text that counts is read as. -/
theorem valueAt_of_counts {v w : Json} {text : String}
    (hdefault : defaultOf entries name = some w) (hkind : Kind.of w = Kind.of v)
    (hread : (Kind.of v).read? text = some v)
    (hcounts : Counts arguments environment name (.text text)) :
    valueAt entries arguments environment name = some (.ok v) := by
  have hmeans : Means (Kind.of w) (.text text) v := .text text v (hkind ▸ hread)
  unfold valueAt
  rw [hdefault, Option.map_some, resolveProperty_of_counts _ _ _ _ _ hcounts,
    taken_of_means hmeans, if_pos hkind.symm]

end

section

variable (before after : List (String × Json)) (name : String) (v w : Json)

/-- The value of one property in the file is nothing to the others. -/
theorem defaultOf_of_ne (other : String) (h : other ≠ name) :
    defaultOf (before ++ (name, v) :: after) other
      = defaultOf (before ++ (name, w) :: after) other := by
  unfold defaultOf
  rw [Dictionary.lookup_append, Dictionary.lookup_append, Dictionary.lookup_cons,
    Dictionary.lookup_cons, if_neg h, if_neg h]

theorem defaultOf_self (hnodup : ((before ++ (name, v) :: after).map Prod.fst).Nodup) :
    defaultOf (before ++ (name, v) :: after) name = some v := by
  have hlookup := (Dictionary.lookup_eq_some_iff _ hnodup name v).mpr
    (List.mem_append_right before List.mem_cons_self)
  rw [defaultOf, hlookup, Option.some_or]

/-- A property exists whatever its value is. -/
theorem isNone_defaultOf (hnodup : ((before ++ (name, v) :: after).map Prod.fst).Nodup)
    (hnodup' : ((before ++ (name, w) :: after).map Prod.fst).Nodup) (other : String) :
    (defaultOf (before ++ (name, v) :: after) other).isNone
      = (defaultOf (before ++ (name, w) :: after) other).isNone := by
  by_cases h : other = name
  · rw [h, defaultOf_self before after name v hnodup, defaultOf_self before after name w hnodup']
    rfl
  · rw [defaultOf_of_ne before after name v w other h]

/-- An argument for one property is nothing to the others. -/
theorem get?_overridesOf_of_ne (first last : List String) (argument other : String) (o : Override)
    (hargument : Says argument name o) (h : other ≠ name) :
    (overridesOf (first ++ argument :: last)).get? other
      = (overridesOf (first ++ last)).get? other := by
  unfold overridesOf
  rw [Dictionary.get?_ofList, Dictionary.get?_ofList, List.map_append, List.map_append,
    List.map_cons, (says_iff _ _ _).mp hargument, List.reverse_append, List.reverse_append,
    List.reverse_cons, Dictionary.lookup_append, Dictionary.lookup_append,
    Dictionary.lookup_append, Dictionary.lookup_cons, if_neg h, List.lookup_nil, Option.or_none]

end

end Resolve

open Resolve in
/-- A value can be given to a property by the file, by an argument or by a
    variable, and the configuration is the same, or is refused for the same
    reason. The text of the override is the one that spells the value, for a
    variable with white space around it. -/
theorem layers_agree (before after : List (String × Json)) (name : String) (v w : Json)
    (text white white' : String) (first last : List String)
    (environment : String → Option String) (hname : '=' ∉ name.toList)
    (hkind : Kind.of w = Kind.of v) (hv : IsCommon v) (htext : Spells v text)
    (hwhite : ∀ c ∈ white.toList, Text.isBlank c = true)
    (hwhite' : ∀ c ∈ white'.toList, Text.isBlank c = true)
    (hsilent : ∀ a ∈ first ++ last, ∀ o, ¬ Says a name o)
    (hunset : ∀ s, environment name = some s → s = "") :
    Config.resolve (before ++ (name, w) :: after) (first ++ (name ++ "=" ++ text) :: last)
        environment
      = Config.resolve (before ++ (name, v) :: after) (first ++ last) environment ∧
    Config.resolve (before ++ (name, w) :: after) (first ++ last)
        (fun n => if n = name then some (white ++ text ++ white') else environment n)
      = Config.resolve (before ++ (name, v) :: after) (first ++ last) environment := by
  have hnames : (before ++ (name, w) :: after).map Prod.fst
      = (before ++ (name, v) :: after).map Prod.fst := by
    simp only [List.map_append, List.map_cons]
  have hsays : Says (name ++ "=" ++ text) name (.text text) := .valued name text hname
  have hbare : Kind.read? (Kind.of v) text = some v := by
    have hread := read?_of_spells v text "" "" hv htext (fun _ hc => nomatch hc)
      (fun _ hc => nomatch hc)
    rwa [String.empty_append, String.append_empty] at hread
  have hne : text ≠ "" := by
    have hne := ne_empty_of_spells v text "" "" hv htext
    rwa [String.empty_append, String.append_empty] at hne
  constructor
  · refine resolve_congr hnames (fun hnodup => ?_) fun hnodup n => ?_
    · -- The argument for the property is one for a property that exists.
      have hexists : (defaultOf (before ++ (name, v) :: after)
          (splitArgument (name ++ "=" ++ text)).1).isNone = false := by
        rw [(says_iff _ _ _).mp hsays, defaultOf_self before after name v (hnames ▸ hnodup)]
        rfl
      simp only [isNone_defaultOf before after name w v hnodup (hnames ▸ hnodup)]
      rw [List.find?_append, List.find?_cons_of_neg (by rw [hexists]; decide), List.find?_append]
    · by_cases hn : n = name
      · subst hn
        have hlast : LastSays (first ++ (n ++ "=" ++ text) :: last) n (.text text) :=
          ⟨first, _, last, rfl, hsays, fun a ha => hsilent a (List.mem_append_right first ha)⟩
        rw [valueAt_of_counts (defaultOf_self before after n w hnodup) hkind hbare
            (.argument text hlast hne),
          valueAt_of_silent (defaultOf_self before after n v (hnames ▸ hnodup)) hsilent hunset]
      · exact valueAt_congr (defaultOf_of_ne before after name w v n hn)
          (get?_overridesOf_of_ne name first last _ n _ hsays hn) rfl
  · refine resolve_congr hnames (fun hnodup => ?_) fun hnodup n => ?_
    · simp only [isNone_defaultOf before after name w v hnodup (hnames ▸ hnodup)]
    · by_cases hn : n = name
      · subst hn
        have hlast : ∀ o, LastSays (first ++ last) n o → o = .text "" := by
          rintro o ⟨earlier, a, later, hsplit, ha, -⟩
          refine absurd ha (hsilent a ?_ o)
          rw [hsplit]
          exact List.mem_append_right _ List.mem_cons_self
        rw [valueAt_of_counts (defaultOf_self before after n w hnodup) hkind
            (read?_of_spells v text white white' hv htext hwhite hwhite')
            (.exported _ hlast (if_pos rfl) (ne_empty_of_spells v text white white' hv htext)),
          valueAt_of_silent (defaultOf_self before after n v (hnames ▸ hnodup)) hsilent hunset]
      · exact valueAt_congr (defaultOf_of_ne before after name w v n hn) rfl (if_neg hn)

namespace Sample

/-- The labels of two teams. -/
def teams : Json :=
  .object [("core", .string "area = core"), ("web", .string "")]

theorem isCommon_teams : Resolve.IsCommon teams where
  plain := by
    refine .object _ _ (by decide +kernel) ?_
    intro m hm
    simp only [List.mem_cons, List.not_mem_nil, or_false] at hm
    rcases hm with rfl | rfl
    · exact .string _ _
    · exact .string _ _
  fits _ h := nomatch h

/-- The file with the labels of the teams and with a title. -/
def titled (teams title : Json) : List (String × Json) :=
  entries.take 4 ++ (Property.teamLabels, teams) :: ("TITLE", title) :: entries.drop 6

end Sample

open Sample in
/-- A title with quotes, equals signs and white space in it, and the labels of
    the teams, given in each of the three ways. -/
theorem layers_agree_title_teams :
    (Config.resolve (titled (.object []) (.string "none"))
        ["WORKERS=3", "TITLE=\"a = \"b \"", "DRY_RUN"] exported
      = Config.resolve (titled (.object []) (.string "a = \"b ")) ["WORKERS=3", "DRY_RUN"]
          exported ∧
    Config.resolve (titled (.object []) (.string "none")) ["WORKERS=3", "DRY_RUN"]
        (fun n => if n = "TITLE" then some "\t\"a = \"b \"\n" else exported n)
      = Config.resolve (titled (.object []) (.string "a = \"b ")) ["WORKERS=3", "DRY_RUN"]
          exported) ∧
    Config.resolve (titled (.object []) (.string "none")) ["WORKERS=3", "DRY_RUN"]
        (fun n => if n = Property.teamLabels then
          some " \x7b\"core\":\"area = core\",\"web\":\"\"\x7d" else exported n)
      = Config.resolve (titled teams (.string "none")) ["WORKERS=3", "DRY_RUN"] exported := by
  have hnames : ∀ a ∈ ["WORKERS=3", "DRY_RUN"], (Resolve.splitArgument a).1 ≠ "TITLE" ∧
      (Resolve.splitArgument a).1 ≠ Property.teamLabels := by
    decide +kernel
  -- Nothing but the sample's own layers has to be evaluated.
  have hblank : ∀ s : String, s.toList.all Text.isBlank = true →
      ∀ c ∈ s.toList, Text.isBlank c = true := fun s hs => List.all_eq_true.mp hs
  have htitle : exported "TITLE" = none := by decide +kernel
  have hteams : exported Property.teamLabels = none := by decide +kernel
  have hspelled : " " ++ teams.compact ++ ""
      = " \x7b\"core\":\"area = core\",\"web\":\"\"\x7d" := by
    decide +kernel
  constructor
  · exact layers_agree (entries.take 4 ++ [(Property.teamLabels, .object [])]) (entries.drop 6)
      "TITLE" (.string "a = \"b ") (.string "none") "\"a = \"b \"" "\t" "\n" ["WORKERS=3"]
      ["DRY_RUN"] exported (by decide +kernel) rfl ⟨.string _ _, fun _ h => nomatch h⟩
      (.double "a = \"b ") (hblank "\t" (by decide +kernel)) (hblank "\n" (by decide +kernel))
      (fun a ha o h => (hnames a ha).1 (congrArg Prod.fst ((Resolve.says_iff _ _ _).mp h)))
      (fun s h => absurd (htitle.symm.trans h) (by simp only [reduceCtorEq, not_false_eq_true]))
  · have hagree := (layers_agree (entries.take 4) (("TITLE", .string "none") :: entries.drop 6)
      Property.teamLabels teams (.object []) teams.compact " " "" ["WORKERS=3"] ["DRY_RUN"] exported
      (by decide +kernel) rfl isCommon_teams (.compact teams rfl)
      (hblank " " (by decide +kernel)) (hblank "" (by decide +kernel))
      (fun a ha o h => (hnames a ha).2 (congrArg Prod.fst ((Resolve.says_iff _ _ _).mp h)))
      (fun s h => absurd (hteams.symm.trans h)
        (by simp only [reduceCtorEq, not_false_eq_true]))).2
    rw [hspelled] at hagree
    exact hagree

end PullTriage
