import PullTriage.Proofs.Demands
import PullTriage.Proofs.Layers

/-!
# Resolving a Configuration

What a configuration resolves to, and what it is refused for. Every property
of the file and every built-in one has the value of its layers, and what the
run reads off the properties is what they hold (`resolve_layered`). A
configuration is refused for the first fault in the order of four stages
(`resolve_eq_error`): a name that the file repeats, an argument for no
property, an override that is no value of the kind of its property, and what
reading the properties finds. `Fault` says what these are, without the order
in which they are looked for: within a stage it is the first in the file, the
first argument, the least name, and the first in the order of reading.

The third stage goes through the properties in the order of their names, so
the least name among several is reported. Only its failure or success matters
to the fourth: if no override is a mismatch, the properties have the values of
their layers.

## Main definitions

* `defaultOf`: The value of a property in the file, or built in.
* `Resolved`: The properties have the values of their layers.
* `Supported`: An argument is for a property that exists.
* `Fault`: What a configuration is refused for.

## Theorems

* `firstRepeat?_eq_some`, `firstRepeat?_eq_none`: Repeated names.
* `readArguments_eq_error`, `readArguments_eq_ok`: Arguments for no property.
* `resolveAll_eq_error`, `resolved_of_resolveAll`: Overrides of the wrong kind.
* `Resolved.unique`: The layers leave no choice.
* `resolve_layered`: What a configuration resolves to.
* `resolve_eq_error`: What a configuration is refused for.
-/

namespace PullTriage

namespace Resolve

theorem firstRepeat?_eq_some (seen l : List String) (name : String) :
    firstRepeat? seen l = some name ↔ ∃ before after, l = before ++ name :: after ∧
      (name ∈ seen ∨ name ∈ before) ∧ before.Nodup ∧ ∀ n ∈ before, n ∉ seen := by
  induction l generalizing seen with
  | nil =>
      simp only [firstRepeat?, reduceCtorEq, false_iff]
      rintro ⟨before, after, h, -⟩
      exact absurd h.symm (List.append_ne_nil_of_right_ne_nil _ (List.cons_ne_nil _ _))
  | cons first rest ih =>
      rw [firstRepeat?]
      by_cases hseen : first ∈ seen
      · rw [if_pos hseen, Option.some.injEq]
        constructor
        · rintro rfl
          exact ⟨[], rest, rfl, Or.inl hseen, List.nodup_nil,
            fun n hn => absurd hn List.not_mem_nil⟩
        · rintro ⟨before, after, h, -, -, hnew⟩
          cases before with
          | nil => exact (List.cons.inj h).1
          | cons b more =>
              exact absurd ((List.cons.inj h).1 ▸ hseen) (hnew b List.mem_cons_self)
      · rw [if_neg hseen, ih]
        constructor
        · rintro ⟨before, after, rfl, hname, hnodup, hnew⟩
          refine ⟨first :: before, after, rfl, ?_, ?_, ?_⟩
          · rcases hname with hname | hname
            · rcases List.mem_cons.mp hname with rfl | hname
              · exact Or.inr List.mem_cons_self
              · exact Or.inl hname
            · exact Or.inr (List.mem_cons_of_mem _ hname)
          · exact List.nodup_cons.mpr ⟨fun hmem => hnew first hmem List.mem_cons_self, hnodup⟩
          · intro n hn
            rcases List.mem_cons.mp hn with rfl | hn
            · exact hseen
            · exact fun hmem => hnew n hn (List.mem_cons_of_mem _ hmem)
        · rintro ⟨before, after, h, hname, hnodup, hnew⟩
          cases before with
          | nil =>
              -- The first name is not among those that were seen.
              rcases hname with hname | hname
              · exact absurd ((List.cons.inj h).1 ▸ hname) hseen
              · exact absurd hname List.not_mem_nil
          | cons b more =>
              rcases List.cons.inj h with ⟨rfl, rfl⟩
              rw [List.nodup_cons] at hnodup
              refine ⟨more, after, rfl, ?_, hnodup.2, fun n hn hmem => ?_⟩
              · rcases hname with hname | hname
                · exact Or.inl (List.mem_cons_of_mem _ hname)
                · rcases List.mem_cons.mp hname with rfl | hname
                  · exact Or.inl List.mem_cons_self
                  · exact Or.inr hname
              · rcases List.mem_cons.mp hmem with rfl | hmem
                · exact hnodup.1 hn
                · exact hnew n (List.mem_cons_of_mem _ hn) hmem

theorem firstRepeat?_eq_none (seen l : List String) :
    firstRepeat? seen l = none ↔ l.Nodup ∧ ∀ n ∈ l, n ∉ seen := by
  induction l generalizing seen with
  | nil =>
      simp only [firstRepeat?, List.nodup_nil, List.not_mem_nil, false_implies, implies_true,
        and_self]
  | cons first rest ih =>
      rw [firstRepeat?, List.nodup_cons]
      by_cases hseen : first ∈ seen
      · rw [if_pos hseen]
        simp only [reduceCtorEq, false_iff, not_and, not_forall]
        exact fun _ => ⟨first, List.mem_cons_self, not_not.mpr hseen⟩
      · rw [if_neg hseen, ih, List.forall_mem_cons]
        simp only [List.mem_cons, not_or]
        constructor
        · rintro ⟨hnodup, hnew⟩
          exact ⟨⟨fun hmem => (hnew first hmem).1 rfl, hnodup⟩, hseen, fun n hn => (hnew n hn).2⟩
        · rintro ⟨⟨hmem, hnodup⟩, -, hnew⟩
          exact ⟨hnodup, fun n hn => ⟨fun heq => hmem (heq ▸ hn), hnew n hn⟩⟩

/-- The value of a property in the file, or else the one that is built in. -/
def defaultOf (entries : List (String × Json)) (name : String) : Option Json :=
  (entries.lookup name).or (builtIn.get? name)

/-- An argument is for a property that exists. -/
def Supported (entries : List (String × Json)) (argument : String) : Prop :=
  ∃ name o default, Says argument name o ∧ defaultOf entries name = some default

/-- The properties have the values of their layers, each of its kind. -/
def Resolved (entries : List (String × Json)) (arguments : List String)
    (environment : String → Option String) (properties : Dictionary Json) : Prop :=
  ∀ name,
    (defaultOf entries name = none → properties.get? name = none) ∧
    ∀ default, defaultOf entries name = some default →
      ∃ v, properties.get? name = some v ∧ Layered arguments environment name default v ∧
        Kind.of v = Kind.of default

/-- What a configuration is refused for. -/
inductive Fault (entries : List (String × Json)) (arguments : List String)
    (environment : String → Option String) : ConfigError → Prop
  /-- The first name in the file that occurred before. -/
  | repeated (before after : List String) (name : String)
      (h : entries.map Prod.fst = before ++ name :: after) (hmem : name ∈ before)
      (hnodup : before.Nodup) : Fault entries arguments environment (.duplicateProperty name)
  /-- The first argument for a property that does not exist. -/
  | unsupported (before after : List String) (argument : String)
      (hnodup : (entries.map Prod.fst).Nodup) (h : arguments = before ++ argument :: after)
      (hbefore : ∀ a ∈ before, Supported entries a) (hargument : ¬ Supported entries argument) :
      Fault entries arguments environment (.unsupportedArgument argument)
  /-- The least name whose override is no value of the kind of its property. -/
  | mismatched (name text : String) (default : Json) (o : Override)
      (hnodup : (entries.map Prod.fst).Nodup) (harguments : ∀ a ∈ arguments, Supported entries a)
      (hdefault : defaultOf entries name = some default)
      (h : IsMismatch arguments environment name default o)
      (hleast : ∀ other default' o', other < name → defaultOf entries other = some default' →
        ¬ IsMismatch arguments environment other default' o')
      (htext : Shown (Kind.of default) o text) :
      Fault entries arguments environment (.typeMismatch name (Kind.of default) text)
  /-- What is wrong with the first property that is not right. -/
  | refused (properties : Dictionary Json) (e : ConfigError)
      (hnodup : (entries.map Prod.fst).Nodup) (harguments : ∀ a ∈ arguments, Supported entries a)
      (hproperties : Resolved entries arguments environment properties)
      (h : FirstOffence properties Property.demands e) : Fault entries arguments environment e

section

variable (entries : List (String × Json)) (arguments : List String)
  (environment : String → Option String)

/-- Where no name is repeated, the defaults are the file over what is built
    in. -/
theorem get?_defaults (hnodup : (entries.map Prod.fst).Nodup) (name : String) :
    (builtIn.overlaid entries).get? name = defaultOf entries name := by
  have hreverse : (entries.reverse.map Prod.fst).Nodup := by
    rw [List.map_reverse]
    exact List.nodup_reverse.mpr hnodup
  have hlookup : entries.reverse.lookup name = entries.lookup name := by
    refine Option.ext fun v => ?_
    rw [Dictionary.lookup_eq_some_iff _ hreverse, Dictionary.lookup_eq_some_iff _ hnodup,
      List.mem_reverse]
  rw [Dictionary.get?_overlaid, hlookup, defaultOf]

theorem supported_iff (hnodup : (entries.map Prod.fst).Nodup) (argument : String) :
    Supported entries argument ↔
      (builtIn.overlaid entries).contains (splitArgument argument).1 = true := by
  unfold Supported Dictionary.contains
  simp only [says_iff, get?_defaults entries hnodup, Option.isSome_iff_exists]
  constructor
  · rintro ⟨name, o, default, h, hdefault⟩
    rw [h]
    exact ⟨default, hdefault⟩
  · rintro ⟨default, h⟩
    exact ⟨_, _, default, rfl, h⟩

/-- Arguments are checked one by one. -/
theorem readArguments_eq :
    readArguments (builtIn.overlaid entries) arguments = arguments.mapM fun argument =>
      if (builtIn.overlaid entries).contains (splitArgument argument).1 then
        .ok (splitArgument argument)
      else .error (.unsupportedArgument argument) :=
  rfl

theorem readArguments_eq_ok (hnodup : (entries.map Prod.fst).Nodup)
    (l : List (String × Override)) :
    readArguments (builtIn.overlaid entries) arguments = .ok l ↔
      (∀ a ∈ arguments, Supported entries a) ∧ l = arguments.map splitArgument := by
  rw [readArguments_eq, mapM_eq_ok]
  induction arguments generalizing l with
  | nil =>
      simp only [List.forall₂_nil_left_iff, List.not_mem_nil, false_implies, implies_true,
        List.map_nil, true_and]
  | cons a rest ih =>
      rw [List.forall₂_cons_left_iff, List.forall_mem_cons, supported_iff entries hnodup,
        List.map_cons]
      by_cases h : (builtIn.overlaid entries).contains (splitArgument a).1 = true
      · simp only [h, if_true, Except.ok.injEq, true_and, ih]
        constructor
        · rintro ⟨_, _, rfl, ⟨hrest, rfl⟩, rfl⟩
          exact ⟨hrest, rfl⟩
        · rintro ⟨hrest, rfl⟩
          exact ⟨_, _, rfl, ⟨hrest, rfl⟩, rfl⟩
      · simp only [h, Bool.false_eq_true, if_false, reduceCtorEq, false_and, exists_false]

theorem readArguments_eq_error (hnodup : (entries.map Prod.fst).Nodup) (e : ConfigError) :
    readArguments (builtIn.overlaid entries) arguments = .error e ↔
      ∃ before argument after, arguments = before ++ argument :: after ∧
        (∀ a ∈ before, Supported entries a) ∧ ¬ Supported entries argument ∧
        e = .unsupportedArgument argument := by
  have hok : ∀ a, (∃ c, (if (builtIn.overlaid entries).contains (splitArgument a).1 then
      Except.ok (splitArgument a) else .error (ConfigError.unsupportedArgument a)) = .ok c) ↔
        Supported entries a := by
    intro a
    rw [supported_iff entries hnodup]
    by_cases h : (builtIn.overlaid entries).contains (splitArgument a).1 = true
    · rw [if_pos h]
      exact ⟨fun _ => h, fun _ => ⟨_, rfl⟩⟩
    · rw [if_neg h]
      exact ⟨fun ⟨c, hc⟩ => absurd hc (by simp only [reduceCtorEq, not_false_eq_true]),
        fun hc => absurd hc h⟩
  rw [readArguments_eq, mapM_eq_error]
  simp only [hok]
  refine exists_congr fun before => exists_congr fun a => exists_congr fun after => ?_
  refine and_congr_right fun _ => and_congr_right fun _ => ?_
  rw [supported_iff entries hnodup]
  by_cases h : (builtIn.overlaid entries).contains (splitArgument a).1 = true
  · rw [if_pos h]
    exact ⟨fun hc => absurd hc (by simp only [reduceCtorEq, not_false_eq_true]),
      fun hc => absurd h hc.1⟩
  · rw [if_neg h, Except.error.injEq]
    exact ⟨fun he => ⟨h, he.symm⟩, fun he => he.2.symm⟩

/-- The value of a property, with its name. -/
def resolveEntry (entry : String × Json) : Except ConfigError (String × Json) :=
  resolveProperty (overridesOf arguments) environment entry.1 entry.2 >>= fun v => .ok (entry.1, v)

/-- The names and values of the properties, in the order of the names. -/
def resolveAll : Except ConfigError (List (String × Json)) :=
  (builtIn.overlaid entries).entries.mapM (resolveEntry arguments environment)

theorem resolveEntry_eq_ok (entry resolved : String × Json) :
    resolveEntry arguments environment entry = .ok resolved ↔
      resolved.1 = entry.1 ∧ Layered arguments environment entry.1 entry.2 resolved.2 ∧
        Kind.of resolved.2 = Kind.of entry.2 := by
  unfold resolveEntry
  simp only [bind_eq_ok, resolveProperty_eq_ok, Except.ok.injEq]
  constructor
  · rintro ⟨v, h, rfl⟩
    exact ⟨rfl, h⟩
  · rintro ⟨hname, h⟩
    exact ⟨resolved.2, h, Prod.ext hname.symm rfl⟩

theorem resolveEntry_eq_error (entry : String × Json) (e : ConfigError) :
    resolveEntry arguments environment entry = .error e ↔
      ∃ o text, IsMismatch arguments environment entry.1 entry.2 o ∧
        Shown (Kind.of entry.2) o text ∧
        e = .typeMismatch entry.1 (Kind.of entry.2) text := by
  unfold resolveEntry
  simp only [bind_eq_error, resolveProperty_eq_error, reduceCtorEq, and_false, exists_false,
    or_false]

/-- A property has a value unless its override is a mismatch. -/
theorem exists_resolveEntry_iff (entry : String × Json) :
    (∃ resolved, resolveEntry arguments environment entry = .ok resolved) ↔
      ∀ o, ¬ IsMismatch arguments environment entry.1 entry.2 o := by
  constructor
  · rintro ⟨resolved, h⟩ o ho
    have herror := (resolveEntry_eq_error arguments environment entry _).mpr
      ⟨o, _, ho, (shown_iff _ _ _).mpr rfl, rfl⟩
    rw [h] at herror
    exact absurd herror (by simp only [reduceCtorEq, not_false_eq_true])
  · intro h
    rcases ok_or_error (resolveEntry arguments environment entry) with hok | ⟨e, he⟩
    · exact hok
    · rcases (resolveEntry_eq_error _ _ _ _).mp he with ⟨o, -, ho, -⟩
      exact absurd ho (h o)

/-- The properties have the values of their layers, unless one of them is in
    error. -/
theorem resolved_of_resolveAll (hnodup : (entries.map Prod.fst).Nodup)
    (l : List (String × Json)) (h : resolveAll entries arguments environment = .ok l) :
    Resolved entries arguments environment (Dictionary.ofList l) := by
  unfold resolveAll at h
  simp only [mapM_eq_ok, resolveEntry_eq_ok] at h
  -- The names stay as they are, so none of them is repeated.
  have hnames : l.map Prod.fst = (builtIn.overlaid entries).names := by
    unfold Dictionary.names
    generalize (builtIn.overlaid entries).entries = properties at h
    induction h with
    | nil => rfl
    | cons hp _ ih => rw [List.map_cons, List.map_cons, ih, hp.1]
  have hl : (l.map Prod.fst).Nodup := hnames ▸ Dictionary.nodup_names _
  intro name
  rw [← get?_defaults entries hnodup, Dictionary.get?_ofList_of_nodup l hl]
  constructor
  · intro hnone
    rw [Option.eq_none_iff_forall_ne_some]
    intro v hv
    have hmem : name ∈ l.map Prod.fst :=
      List.mem_map_of_mem (f := Prod.fst) ((Dictionary.lookup_eq_some_iff l hl name v).mp hv)
    rw [hnames, Dictionary.mem_names] at hmem
    rcases hmem with ⟨w, hw⟩
    rw [hnone] at hw
    exact absurd hw (by simp only [reduceCtorEq, not_false_eq_true])
  · intro default hdefault
    rw [← Dictionary.mem_entries] at hdefault
    rcases List.forall₂_iff_get.mp h with ⟨hlength, hall⟩
    rcases List.get_of_mem hdefault with ⟨i, hi⟩
    rcases hall i i.isLt (hlength ▸ i.isLt) with ⟨hname, hlayered⟩
    rw [hi] at hname hlayered
    have hentry : (name, (l.get ⟨i, hlength ▸ i.isLt⟩).2) = l.get ⟨i, hlength ▸ i.isLt⟩ :=
      Prod.ext hname.symm rfl
    refine ⟨_, (Dictionary.lookup_eq_some_iff l hl name _).mpr ?_, hlayered⟩
    rw [hentry]
    exact List.get_mem _ _

/-- The property in error with the least name is reported. -/
theorem resolveAll_eq_error (hnodup : (entries.map Prod.fst).Nodup) (e : ConfigError) :
    resolveAll entries arguments environment = .error e ↔
      ∃ name text default o, defaultOf entries name = some default ∧
        IsMismatch arguments environment name default o ∧
        (∀ other default' o', other < name → defaultOf entries other = some default' →
          ¬ IsMismatch arguments environment other default' o') ∧
        Shown (Kind.of default) o text ∧ e = .typeMismatch name (Kind.of default) text := by
  have hmem : ∀ name default, (name, default) ∈ (builtIn.overlaid entries).entries ↔
      defaultOf entries name = some default := fun name default => by
    rw [Dictionary.mem_entries, get?_defaults entries hnodup]
  unfold resolveAll
  simp only [mapM_eq_error, exists_resolveEntry_iff, resolveEntry_eq_error, ← hmem]
  constructor
  · rintro ⟨before, ⟨name, default⟩, after, hsplit, hbefore, o, text, ho, htext, rfl⟩
    refine ⟨name, text, default, o, ?_, ho, fun other default' o' hlt hother => ?_, htext, rfl⟩
    · rw [hsplit]
      exact List.mem_append_right _ List.mem_cons_self
    · exact hbefore (other, default') ((Dictionary.mem_before_iff _ _ _ _ hsplit _).mpr
        ⟨hother, hlt⟩) o'
  · rintro ⟨name, text, default, o, hentry, ho, hleast, htext, rfl⟩
    rcases List.append_of_mem hentry with ⟨before, after, hsplit⟩
    refine ⟨before, (name, default), after, hsplit, fun other hother o' => ?_, o, text, ho, htext,
      rfl⟩
    rcases (Dictionary.mem_before_iff _ _ _ _ hsplit other).mp hother with ⟨hother, hlt⟩
    exact hleast other.1 other.2 o' hlt hother

variable {entries arguments environment}

/-- The layers leave no choice of the properties. -/
theorem Resolved.unique {p q : Dictionary Json} (hp : Resolved entries arguments environment p)
    (hq : Resolved entries arguments environment q) : p = q := by
  refine Dictionary.ext_get? p q fun name => ?_
  cases hdefault : defaultOf entries name with
  | none => rw [(hp name).1 hdefault, (hq name).1 hdefault]
  | some default =>
      rcases (hp name).2 default hdefault with ⟨v, hv, hlayered⟩
      rcases (hq name).2 default hdefault with ⟨w, hw, hlayered'⟩
      have hok := (resolveProperty_eq_ok _ _ _ _ _).mpr hlayered
      rw [(resolveProperty_eq_ok _ _ _ _ _).mpr hlayered', Except.ok.injEq] at hok
      rw [hv, hw, hok]

/-- A property that has the value of its layers is no mismatch. -/
theorem Resolved.not_isMismatch {p : Dictionary Json}
    (hp : Resolved entries arguments environment p) {name : String} {default : Json}
    (hdefault : defaultOf entries name = some default) (o : Override) :
    ¬ IsMismatch arguments environment name default o := by
  rcases (hp name).2 default hdefault with ⟨v, -, hlayered⟩
  exact (exists_resolveEntry_iff arguments environment (name, default)).mp
    ⟨(name, v), (resolveEntry_eq_ok _ _ _ _).mpr ⟨rfl, hlayered⟩⟩ o

/-- Where the file repeats no name, the arguments are checked first, then the
    properties are resolved, and then they are read. -/
theorem resolve_of_nodup (hnodup : (entries.map Prod.fst).Nodup) :
    Config.resolve entries arguments environment =
      (readArguments (builtIn.overlaid entries) arguments >>= fun _ =>
        resolveAll entries arguments environment >>= fun l =>
          Config.ofProperties (Dictionary.ofList l)) := by
  have hrepeat : firstRepeat? [] (entries.map Prod.fst) = none :=
    (firstRepeat?_eq_none _ _).mpr ⟨hnodup, fun n _ => List.not_mem_nil⟩
  unfold Config.resolve
  rw [hrepeat]
  cases hread : readArguments (builtIn.overlaid entries) arguments with
  | error e => simp only [hread, bind, Except.bind]
  | ok l =>
      rcases (readArguments_eq_ok entries arguments hnodup l).mp hread with ⟨-, rfl⟩
      simp only [hread, bind, Except.bind]
      rfl

/-- A name that the file repeats is reported before anything else. -/
theorem resolve_of_not_nodup (hnodup : ¬ (entries.map Prod.fst).Nodup) (e : ConfigError) :
    Config.resolve entries arguments environment = .error e ↔
      ∃ name, firstRepeat? [] (entries.map Prod.fst) = some name ∧
        e = .duplicateProperty name := by
  cases hrepeat : firstRepeat? [] (entries.map Prod.fst) with
  | none => exact absurd ((firstRepeat?_eq_none _ _).mp hrepeat).1 hnodup
  | some name =>
      unfold Config.resolve
      rw [hrepeat]
      simp only [Option.some.injEq, exists_eq_left']
      exact ⟨fun h => (Except.error.inj h).symm, fun h => h ▸ rfl⟩

/-- A configuration that is refused is at fault. -/
theorem fault_of_resolve (e : ConfigError)
    (h : Config.resolve entries arguments environment = .error e) :
    Fault entries arguments environment e := by
  by_cases hnodup : (entries.map Prod.fst).Nodup
  · rw [resolve_of_nodup hnodup, bind_eq_error] at h
    rcases h with h | ⟨l, hl, h⟩
    · rcases (readArguments_eq_error _ _ hnodup e).mp h with
        ⟨before, argument, after, hsplit, hbefore, hargument, rfl⟩
      exact .unsupported before after argument hnodup hsplit hbefore hargument
    · have hsupported := ((readArguments_eq_ok _ _ hnodup l).mp hl).1
      rcases (bind_eq_error _ _ _).mp h with h | ⟨resolved, hresolved, h⟩
      · rcases (resolveAll_eq_error _ _ _ hnodup e).mp h with
          ⟨name, text, default, o, hdefault, ho, hleast, htext, rfl⟩
        exact .mismatched name text default o hnodup hsupported hdefault ho hleast htext
      · exact .refused _ e hnodup hsupported (resolved_of_resolveAll _ _ _ hnodup _ hresolved)
          ((ofProperties_eq_error _ e).mp h)
  · rcases (resolve_of_not_nodup hnodup e).mp h with ⟨name, hrepeat, rfl⟩
    rcases (firstRepeat?_eq_some _ _ _).mp hrepeat with
      ⟨before, after, hsplit, hmem, hbefore, -⟩
    exact .repeated before after name hsplit (hmem.resolve_left List.not_mem_nil) hbefore

/-- A configuration at fault is refused for it. -/
theorem resolve_of_fault (e : ConfigError) (h : Fault entries arguments environment e) :
    Config.resolve entries arguments environment = .error e := by
  -- Each fault says that the stages before its own have nothing to refuse.
  cases h with
  | repeated before after name hsplit hmem hbefore =>
      have hrepeat : firstRepeat? [] (entries.map Prod.fst) = some name :=
        (firstRepeat?_eq_some _ _ _).mpr
          ⟨before, after, hsplit, Or.inr hmem, hbefore, fun n _ => List.not_mem_nil⟩
      refine (resolve_of_not_nodup (fun hnodup => ?_) _).mpr ⟨name, hrepeat, rfl⟩
      rw [(firstRepeat?_eq_none _ _).mpr ⟨hnodup, fun n _ => List.not_mem_nil⟩] at hrepeat
      exact absurd hrepeat (by simp only [reduceCtorEq, not_false_eq_true])
  | unsupported before after argument hnodup hsplit hbefore hargument =>
      rw [resolve_of_nodup hnodup, bind_eq_error]
      exact Or.inl ((readArguments_eq_error _ _ hnodup _).mpr
        ⟨before, argument, after, hsplit, hbefore, hargument, rfl⟩)
  | mismatched name text default o hnodup hsupported hdefault ho hleast htext =>
      rw [resolve_of_nodup hnodup, bind_eq_error]
      refine Or.inr ⟨_, (readArguments_eq_ok _ _ hnodup _).mpr ⟨hsupported, rfl⟩, ?_⟩
      rw [bind_eq_error]
      exact Or.inl ((resolveAll_eq_error _ _ _ hnodup _).mpr
        ⟨name, text, default, o, hdefault, ho, hleast, htext, rfl⟩)
  | refused properties _ hnodup hsupported hproperties hoffence =>
      rw [resolve_of_nodup hnodup, bind_eq_error]
      refine Or.inr ⟨_, (readArguments_eq_ok _ _ hnodup _).mpr ⟨hsupported, rfl⟩, ?_⟩
      rw [bind_eq_error]
      rcases ok_or_error (resolveAll entries arguments environment) with ⟨l, hl⟩ | ⟨e', he'⟩
      · have hunique := hproperties.unique (resolved_of_resolveAll _ _ _ hnodup _ hl)
        exact Or.inr ⟨l, hl, (ofProperties_eq_error _ e).mpr (hunique ▸ hoffence)⟩
      · rcases (resolveAll_eq_error _ _ _ hnodup e').mp he' with
          ⟨name, -, default, o, hdefault, ho, -⟩
        exact absurd ho (hproperties.not_isMismatch hdefault o)

/-- A configuration was read from properties that have the values of their
    layers. -/
theorem resolved_of_resolve (c : Config)
    (h : Config.resolve entries arguments environment = .ok c) :
    ∃ properties, Resolved entries arguments environment properties ∧
      Config.ofProperties properties = .ok c := by
  by_cases hnodup : (entries.map Prod.fst).Nodup
  · rw [resolve_of_nodup hnodup, bind_eq_ok] at h
    rcases h with ⟨-, -, h⟩
    rcases (bind_eq_ok _ _ _).mp h with ⟨l, hl, h⟩
    exact ⟨_, resolved_of_resolveAll _ _ _ hnodup _ hl, h⟩
  · have hrepeat : firstRepeat? [] (entries.map Prod.fst) ≠ none := fun hnone =>
      hnodup ((firstRepeat?_eq_none _ _).mp hnone).1
    rcases Option.ne_none_iff_exists'.mp hrepeat with ⟨name, hname⟩
    rw [(resolve_of_not_nodup hnodup _).mpr ⟨name, hname, rfl⟩] at h
    exact absurd h (by simp only [reduceCtorEq, not_false_eq_true])

/-- The properties are those of the file and those that are built in. -/
theorem Resolved.mem_names {p : Dictionary Json}
    (hp : Resolved entries arguments environment p) (name : String) :
    name ∈ p.names ↔ name ∈ entries.map Prod.fst ∨ name ∈ builtIn.names := by
  have hdefault : (∃ default, defaultOf entries name = some default) ↔
      name ∈ entries.map Prod.fst ∨ name ∈ builtIn.names := by
    unfold defaultOf
    rw [Dictionary.mem_names, ← Option.isSome_iff_exists, Option.isSome_or, Bool.or_eq_true,
      List.lookup_isSome_iff, Option.isSome_iff_exists, List.mem_map]
    refine or_congr_left (exists_congr fun entry => and_congr_right fun _ => ?_)
    rw [beq_iff_eq, eq_comm]
  rw [← hdefault, Dictionary.mem_names]
  cases hname : defaultOf entries name with
  | none => simp only [(hp name).1 hname, reduceCtorEq, exists_false]
  | some default =>
      rcases (hp name).2 default hname with ⟨v, hv, -⟩
      simp only [hv, Option.some.injEq, exists_eq']

end

end Resolve

namespace Sample

/-- A file that declares one property of its own. -/
def entries : List (String × Json) :=
  [(Property.dryRun, .bool false), (Property.organization, .string "org"),
    (Property.repository, .string "repo"), (Property.proxies, .object []),
    (Property.teamLabels, .object []), ("TITLE", .string "none"), (Property.workers, .int 2)]

/-- Arguments of every form: an empty text, a flag, and two for one name. -/
def arguments : List String :=
  ["WORKERS=", "DRY_RUN", "GITHUB_REPO=first", "GITHUB_REPO=a=b"]

/-- An environment with a variable that counts and one that does not. -/
def exported : String → Option String := fun name =>
  if name = Property.workers then some "3"
  else if name = Property.organization then some "" else none

theorem resolve_entries :
    ∃ c, Config.resolve entries arguments exported = .ok c ∧ c.dryRun = true ∧
      c.organization = "org" ∧ c.repository = "a=b" ∧ c.workers = 3 := by
  have h : (match Config.resolve entries arguments exported with
      | .ok c => some (c.dryRun, c.organization, c.repository, c.workers)
      | .error _ => none) = some (true, "org", "a=b", 3) := by
    decide +kernel
  cases hresolve : Config.resolve entries arguments exported with
  | error e => simp only [hresolve, reduceCtorEq] at h
  | ok c =>
      simp only [hresolve, Option.some.injEq, Prod.mk.injEq] at h
      exact ⟨c, rfl, h⟩

end Sample

open Resolve in
/-- A configuration is refused exactly for the first fault: a name that the
    file repeats, an argument for no property, an override of the wrong kind,
    or what reading the properties finds. -/
theorem resolve_eq_error (entries : List (String × Json)) (arguments : List String)
    (environment : String → Option String) (e : ConfigError) :
    Config.resolve entries arguments environment = .error e ↔
      Fault entries arguments environment e :=
  ⟨fault_of_resolve e, resolve_of_fault e⟩

open Resolve in
/-- What a configuration resolves to: its properties are those of the file and
    those built in, each has the value of its layers, which is of its kind, and
    the configuration says what they hold. -/
theorem resolve_layered (entries : List (String × Json)) (arguments : List String)
    (environment : String → Option String) (c : Config)
    (h : Config.resolve entries arguments environment = .ok c) :
    (∀ name, name ∈ c.properties.names ↔
      name ∈ entries.map Prod.fst ∨ name ∈ builtIn.names) ∧
    (∀ name default, defaultOf entries name = some default →
      ∃ v, c.properties.get? name = some v ∧ Layered arguments environment name default v ∧
        Kind.of v = Kind.of default) ∧
    c.ReadOff ∧ 1 ≤ c.workers ∧ ∃ ch ∈ c.repository.toList, Text.isBlank ch = false := by
  rcases resolved_of_resolve c h with ⟨properties, hresolved, hread⟩
  rcases readOff_of_ofProperties properties c hread with ⟨rfl, hreadOff, hworkers, hnamed⟩
  exact ⟨hresolved.mem_names, fun name => (hresolved name).2, hreadOff, hworkers, hnamed⟩

open Resolve Sample in
/-- All three layers decide about a property here. -/
theorem resolve_layered_entries :
    ∃ c, Config.resolve entries arguments exported = .ok c ∧
      (∀ name, name ∈ c.properties.names ↔
        name ∈ entries.map Prod.fst ∨ name ∈ builtIn.names) ∧
      (∀ name default, defaultOf entries name = some default →
        ∃ v, c.properties.get? name = some v ∧ Layered arguments exported name default v ∧
          Kind.of v = Kind.of default) ∧
      c.ReadOff ∧ 1 ≤ c.workers ∧ ∃ ch ∈ c.repository.toList, Text.isBlank ch = false := by
  rcases resolve_entries with ⟨c, h, -⟩
  exact ⟨c, h, resolve_layered entries arguments exported c h⟩

end PullTriage
