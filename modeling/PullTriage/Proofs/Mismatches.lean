import PullTriage.Proofs.FileValues

/-!
# Values of the Wrong Kind

A configuration may be refused because something in it is not of the kind that
is expected of it. What that is depends on where it is found. An override has
to be of the kind of its property, which is the kind of the default. The
properties that are read have to be of the kinds that a run expects, and so do
the parts of objects and arrays. `Misfit` lists these with what is reported of
each, and asks that the kind really is another one. A text that would be a
whole number in a file counts as one when it is an override.

That is the whole truth but for whole numbers of `2 ^ 63` and more. A file can
hold them, and they are whole numbers there, but neither an override nor the
number of workers is read as one. `Oversized` lists these two cases.

## Main definitions

* `Resolve.IsOf`: An override is of a kind.
* `Resolve.Misfit`: Something in a configuration is of the wrong kind.
* `Resolve.Oversized`: A whole number that is not read as one.

## Theorems

* `Resolve.misfit_or_oversized_of_isMismatch`: Overrides that are refused.
* `Resolve.misfit_or_oversized_of_offence`: Properties that are refused.
* `mismatch_real_or_oversized`: What is reported as being of the wrong kind,
  and which whole numbers an override can be.
* `integer_refused_as_mismatch`: A whole number of a file is refused for not
  being one.
-/

namespace PullTriage

namespace Resolve

/-- The override is of the kind: it stands for a value of it, or it would be a
    whole number in a file. -/
def IsOf (kind : Kind) (o : Override) : Prop :=
  (∃ v, Means kind o v ∧ Kind.of v = kind) ∨
    (kind = .integer ∧ ∃ s n, o = .text s ∧ InFile s (.int n))

section

variable (entries : List (String × Json)) (arguments : List String)
  (environment : String → Option String)

/-- Something in a configuration is not of the kind that is expected, and how
    that is reported: the override that decides about a property, a property
    that is read, or a part of one. -/
inductive Misfit : String → Kind → String → Prop
  | override (name : String) (default : Json) (o : Override) (text : String)
      (hdefault : defaultOf entries name = some default)
      (hcounts : Counts arguments environment name o) (h : ¬ IsOf (Kind.of default) o)
      (htext : Shown (Kind.of default) o text) : Misfit name (Kind.of default) text
  | property (properties : Dictionary Json) (name : String) (kind : Kind) (v : Json)
      (hproperties : Resolved entries arguments environment properties)
      (hdemand : (name, kind) ∈ Property.demands) (hv : properties.get? name = some v)
      (h : Kind.of v ≠ kind) : Misfit name kind (v.asString?.getD v.compact)
  | member (properties : Dictionary Json) (name key : String) (members : List (String × Json))
      (v : Json) (hproperties : Resolved entries arguments environment properties)
      (hmembers : properties.get? name = some (.object members)) (hv : (key, v) ∈ members)
      (h : Kind.of v ≠ .string) :
      Misfit (name ++ "." ++ key) .string (v.asString?.getD v.compact)
  | item (properties : Dictionary Json) (name : String) (items : List Json) (v : Json)
      (hproperties : Resolved entries arguments environment properties)
      (hitems : properties.get? name = some (.array items)) (hv : v ∈ items)
      (h : Kind.of v ≠ .string) : Misfit name .string (v.asString?.getD v.compact)

/-- A whole number of `2 ^ 63` or more that is expected to be one, and how it is
    reported: an override as it is written, and the number of workers. -/
inductive Oversized : String → String → Prop
  | override (name : String) (default : Json) (text : String) (n : Int)
      (hdefault : defaultOf entries name = some default) (hkind : Kind.of default = .integer)
      (hcounts : Counts arguments environment name (.text text)) (htext : InFile text (.int n))
      (hn : Nat.pow 2 63 ≤ n) : Oversized name text
  | workers (properties : Dictionary Json) (n : Int)
      (hproperties : Resolved entries arguments environment properties)
      (hv : properties.get? Property.workers = some (.int n)) (hn : Nat.pow 2 63 ≤ n) :
      Oversized Property.workers (Json.compact (.int n))

variable {entries arguments environment}

/-- A whole number of a file is the same one as an override, unless it is too
    large for it. -/
theorem means_int_iff {text : String} {n : Int} (htext : InFile text (.int n)) (v : Json) :
    Means .integer (.text text) v ↔ n < Nat.pow 2 63 ∧ v = .int n := by
  have hread : Kind.read? .integer text = if n < Nat.pow 2 63 then some (.int n) else none := by
    rw [Kind.read?, Literal.readInt?_of_inFile htext]
    split
    · rfl
    · rfl
  constructor
  · intro h
    cases h with
    | text _ _ h =>
        rw [hread] at h
        split at h
        · next hn => exact ⟨hn, (Option.some.inj h).symm⟩
        · exact absurd h (by simp only [reduceCtorEq, not_false_eq_true])
  · rintro ⟨hn, rfl⟩
    exact .text text _ (hread.trans (if_pos hn))

/-- An override is refused because it is of the wrong kind, or for a whole
    number that is too large. -/
theorem misfit_or_oversized_of_isMismatch {name text : String} {default : Json} {o : Override}
    (hdefault : defaultOf entries name = some default)
    (h : IsMismatch arguments environment name default o) (htext : Shown (Kind.of default) o text) :
    Misfit entries arguments environment name (Kind.of default) text ∨
      Kind.of default = .integer ∧ Oversized entries arguments environment name text := by
  by_cases hof : IsOf (Kind.of default) o
  · rcases hof with ⟨v, hmeans, hv⟩ | ⟨hkind, s, n, rfl, hfile⟩
    · exact absurd hv (h.2 v hmeans)
    · -- A number that is small enough would be the value of the override.
      have hn : ¬ n < Nat.pow 2 63 := by
        intro hn
        have hmeans := (means_int_iff hfile _).mpr ⟨hn, rfl⟩
        rw [← hkind] at hmeans
        exact h.2 _ hmeans hkind.symm
      have hshown : Shown .integer (.text s) text := hkind ▸ htext
      cases hshown with
      | value _ v hmeans => exact absurd ((means_int_iff hfile v).mp hmeans).1 hn
      | raw _ _ =>
          exact Or.inr ⟨hkind,
            .override name default text n hdefault hkind h.1 hfile (Int.not_lt.mp hn)⟩
  · exact Or.inl (.override name default o text hdefault h.1 hof htext)

/-- The only whole number that is read is the number of workers. -/
theorem eq_workers_of_demand {name : String} (h : (name, Kind.integer) ∈ Property.demands) :
    name = Property.workers := by
  simpa only [Property.demands, List.mem_cons, Prod.mk.injEq, reduceCtorEq, and_false, and_true,
    false_or, or_false, List.not_mem_nil] using h

/-- A property that is read is refused because it or a part of it is of the
    wrong kind, or for too large a number of workers. -/
theorem misfit_or_oversized_of_offence {properties : Dictionary Json} {property name text : String}
    {demanded kind : Kind} (hproperties : Resolved entries arguments environment properties)
    (hdemand : (property, demanded) ∈ Property.demands)
    (h : Offence properties property demanded (.typeMismatch name kind text)) :
    Misfit entries arguments environment name kind text ∨
      kind = .integer ∧ Oversized entries arguments environment name text := by
  generalize he : ConfigError.typeMismatch name kind text = e at h
  cases h with
  | missing _ => simp only [reduceCtorEq] at he
  | wrongKind v hv hkind =>
      rw [Typed.mismatch, ConfigError.typeMismatch.injEq] at he
      rcases he with ⟨rfl, rfl, rfl⟩
      by_cases hof : Kind.of v = kind
      · -- A value of the kind is refused for its size alone.
        have hlarge : ∃ n, v = .int n ∧ ¬ n < Nat.pow 2 63 := by
          by_contra hc
          refine hkind ⟨hof, fun n hn => ?_⟩
          by_contra hle
          exact hc ⟨n, hn, hle⟩
        rcases hlarge with ⟨n, rfl, hn⟩
        obtain rfl : kind = .integer := hof.symm
        obtain rfl := eq_workers_of_demand hdemand
        exact Or.inr ⟨rfl, .workers properties n hproperties hv (Int.not_lt.mp hn)⟩
      · exact Or.inl (.property properties name kind v hproperties hdemand hv hof)
  | unusable v _ hv _ hmisuse =>
      cases hmisuse with
      | member before after key w _ hw =>
          rw [Typed.mismatch, ConfigError.typeMismatch.injEq] at he
          rcases he with ⟨rfl, rfl, rfl⟩
          -- Every object that is read takes texts, whatever else it takes.
          have hstring : Kind.of w ≠ .string := by
            intro hc
            refine hw ?_
            rw [hc, Property.memberKinds]
            split <;> simp only [List.mem_cons, true_or, or_true]
          exact Or.inl (.member properties property key _ w hproperties hv
            (List.mem_append_right before List.mem_cons_self) hstring)
      | item before after w _ hw =>
          rw [Typed.mismatch, ConfigError.typeMismatch.injEq] at he
          rcases he with ⟨rfl, rfl, rfl⟩
          exact Or.inl (.item properties name _ w hproperties hv
            (List.mem_append_right before List.mem_cons_self) hw)
      | _ => simp only [reduceCtorEq] at he

/-- The first offence is an offence of one of the properties. -/
theorem exists_offence {properties : Dictionary Json} {demands : List (String × Kind)}
    {e : ConfigError} (h : FirstOffence properties demands e) :
    ∃ d ∈ demands, Offence properties d.1 d.2 e := by
  induction demands with
  | nil => exact absurd h id
  | cons d rest ih =>
      rcases h with h | ⟨-, h⟩
      · exact ⟨d, List.mem_cons_self, h⟩
      · rcases ih h with ⟨d', hd', h'⟩
        exact ⟨d', List.mem_cons_of_mem d hd', h'⟩

/-- If one of the properties has an offence there is a first one. -/
theorem exists_firstOffence {properties : Dictionary Json} {demands : List (String × Kind)}
    {d : String × Kind} {e : ConfigError} (hd : d ∈ demands)
    (h : Offence properties d.1 d.2 e) : ∃ e, FirstOffence properties demands e := by
  induction demands with
  | nil => exact absurd hd List.not_mem_nil
  | cons first rest ih =>
      by_cases hfirst : ∃ e, Offence properties first.1 first.2 e
      · rcases hfirst with ⟨e, he⟩
        exact ⟨e, Or.inl he⟩
      · rcases List.mem_cons.mp hd with rfl | hd
        · exact absurd ⟨e, h⟩ hfirst
        · rcases ih hd with ⟨e, he⟩
          exact ⟨e, Or.inr ⟨fun e' he' => hfirst ⟨e', he'⟩, he⟩⟩

theorem misfit_or_oversized {name text : String} {kind : Kind}
    (h : Config.resolve entries arguments environment = .error (.typeMismatch name kind text)) :
    Misfit entries arguments environment name kind text ∨
      kind = .integer ∧ Oversized entries arguments environment name text := by
  generalize he : ConfigError.typeMismatch name kind text = e at h
  cases fault_of_resolve e h with
  | repeated _ _ _ _ _ _ => simp only [reduceCtorEq] at he
  | unsupported _ _ _ _ _ _ _ => simp only [reduceCtorEq] at he
  | mismatched name text default o _ _ hdefault ho _ htext =>
      rw [ConfigError.typeMismatch.injEq] at he
      rcases he with ⟨rfl, rfl, rfl⟩
      exact misfit_or_oversized_of_isMismatch hdefault ho htext
  | refused properties _ _ _ hproperties hoffence =>
      rcases exists_offence hoffence with ⟨⟨property, demanded⟩, hdemand, hoffence⟩
      exact misfit_or_oversized_of_offence hproperties hdemand (he ▸ hoffence)

theorem Counts.unique {name : String} {o o' : Override}
    (h : Counts arguments environment name o) (h' : Counts arguments environment name o') :
    o = o' := by
  rw [counts_iff] at h h'
  exact Option.some.inj (h.symm.trans h')

/-- A whole number that is overridden with one, or not at all, is no misfit. -/
theorem not_misfit_of_isOf {name : String} {default : Json}
    (hdefault : defaultOf entries name = some default) (hkind : Kind.of default = .integer)
    (hof : ∀ o, Counts arguments environment name o → IsOf .integer o) (text : String) :
    ¬ Misfit entries arguments environment name .integer text := by
  intro h
  generalize hexpected : Kind.integer = kind at h
  cases h with
  | override _ default' o' _ hdefault' hcounts' hof' _ =>
      rw [← hexpected] at hof'
      exact hof' (hof o' hcounts')
  | property properties _ _ v hproperties _ hv hne =>
      rcases (hproperties name).2 default hdefault with ⟨v', hv', -, hv''⟩
      rw [hv, Option.some.injEq] at hv'
      exact hne (by rw [hv', hv'', hkind, hexpected])
  | member _ _ _ _ _ _ _ _ _ => simp only [reduceCtorEq] at hexpected
  | item _ _ _ _ _ _ _ _ => simp only [reduceCtorEq] at hexpected

/-- Nor is it too large if it is small enough for an override. -/
theorem not_oversized_of_means {name text : String} {default : Json} {n : Int}
    (hdefault : defaultOf entries name = some default)
    (hcounts : Counts arguments environment name (.text text)) (htext : InFile text (.int n))
    (hn : n < Nat.pow 2 63) (hmeans : Means (Kind.of default) (.text text) (.int n))
    (shown : String) : ¬ Oversized entries arguments environment name shown := by
  intro h
  cases h with
  | override _ _ _ n' _ _ hcounts' htext' hn' =>
      obtain rfl := Override.text.inj (hcounts.unique hcounts')
      obtain rfl := Json.int.inj (htext.unique htext')
      exact Int.not_lt.mpr hn' hn
  | workers properties n' hproperties hv hn' =>
      rcases (hproperties Property.workers).2 default hdefault with ⟨v, hv', hlayered, -⟩
      rw [hv', Option.some.injEq] at hv
      obtain rfl := Json.int.inj (hv.symm.trans (hlayered.unique (.override _ _ hcounts hmeans)))
      exact Int.not_lt.mpr hn' hn

/-- A whole number that is too large is always refused. -/
theorem resolve_ne_ok_of_oversized {name text : String}
    (h : Oversized entries arguments environment name text) (c : Config) :
    Config.resolve entries arguments environment ≠ .ok c := by
  intro hc
  rcases resolved_of_resolve c hc with ⟨properties, hresolved, hread⟩
  cases h with
  | override _ default _ n hdefault hkind hcounts htext hn =>
      refine hresolved.not_isMismatch hdefault (.text text) ⟨hcounts, fun v hmeans => ?_⟩
      rw [hkind] at hmeans
      exact absurd ((means_int_iff htext v).mp hmeans).1 (Int.not_lt.mpr hn)
  | workers properties' n hproperties hv hn =>
      rw [hproperties.unique hresolved] at hv
      have hoffence : Offence properties Property.workers .integer _ :=
        .wrongKind (.int n) hv fun hfits => Int.not_lt.mpr hn (hfits.2 n rfl)
      have hdemand : (Property.workers, Kind.integer) ∈ Property.demands := by decide
      rcases exists_firstOffence hdemand hoffence with ⟨e, he⟩
      rw [(ofProperties_eq_error properties e).mpr he] at hread
      exact absurd hread (by simp only [reduceCtorEq, not_false_eq_true])

end

end Resolve

open Resolve in
/-- What is reported to be of the wrong kind is of another kind than the
    expected one, or it is a whole number of `2 ^ 63` or more, which is never
    accepted where a whole number is expected. An override of a whole number
    can be every smaller one that a file could hold. -/
theorem mismatch_real_or_oversized (entries : List (String × Json)) (arguments : List String)
    (environment : String → Option String) :
    (∀ name kind text,
      Config.resolve entries arguments environment = .error (.typeMismatch name kind text) →
      Misfit entries arguments environment name kind text ∨
        kind = .integer ∧ Oversized entries arguments environment name text) ∧
    (∀ name text, Oversized entries arguments environment name text →
      ∀ c, Config.resolve entries arguments environment ≠ .ok c) ∧
    ∀ name default text n, defaultOf entries name = some default → Kind.of default = .integer →
      Counts arguments environment name (.text text) → InFile text (.int n) →
      n < Nat.pow 2 63 →
      Layered arguments environment name default (.int n) ∧
        ∀ shown, Config.resolve entries arguments environment
          ≠ .error (.typeMismatch name .integer shown) := by
  refine ⟨fun name kind text h => misfit_or_oversized h,
    fun name text h => resolve_ne_ok_of_oversized h, ?_⟩
  intro name default text n hdefault hkind hcounts htext hn
  have hmeans : Means (Kind.of default) (.text text) (.int n) := by
    rw [hkind]
    exact (means_int_iff htext _).mpr ⟨hn, rfl⟩
  refine ⟨.override _ _ hcounts hmeans, fun shown h => ?_⟩
  -- A refusal would have to be for one of the two reasons.
  rcases misfit_or_oversized h with h | ⟨-, h⟩
  · refine not_misfit_of_isOf hdefault hkind (fun o ho => ?_) shown h
    rw [ho.unique hcounts]
    exact Or.inl ⟨.int n, hkind ▸ hmeans, rfl⟩
  · exact not_oversized_of_means hdefault hcounts htext hn hmeans shown h

namespace Sample

/-- A file with a whole number that needs all 64 bits. -/
def serialEntries : List (String × Json) :=
  entries ++ [("SERIAL", .int 9223372036854775808)]

theorem inFile_serial : InFile "9223372036854775808" (.int 9223372036854775808) :=
  inFile_int (by decide +kernel) (by decide) (by decide)

theorem counts_serial (text : String) (h : Resolve.splitArgument ("SERIAL=" ++ text)
    = ("SERIAL", .text text)) (hne : text ≠ "") :
    Resolve.Counts ["SERIAL=" ++ text] (fun _ => none) "SERIAL" (.text text) :=
  .argument text ⟨[], _, [], rfl, (Resolve.says_iff _ _ _).mpr h,
    fun _ hlater => absurd hlater List.not_mem_nil⟩ hne

end Sample

open Resolve Sample in
/-- A text that is no whole number, one that is too large for an override, and
    the largest one that is not. -/
theorem mismatch_real_or_oversized_serial :
    Config.resolve serialEntries ["SERIAL=x"] (fun _ => none)
        = .error (.typeMismatch "SERIAL" .integer "x") ∧
      (Misfit serialEntries ["SERIAL=x"] (fun _ => none) "SERIAL" .integer "x" ∨
        Oversized serialEntries ["SERIAL=x"] (fun _ => none) "SERIAL" "x") ∧
      Oversized serialEntries ["SERIAL=9223372036854775808"] (fun _ => none) "SERIAL"
        "9223372036854775808" ∧
      (∀ c, Config.resolve serialEntries ["SERIAL=9223372036854775808"] (fun _ => none) ≠ .ok c) ∧
      Layered ["SERIAL=9223372036854775807"] (fun _ => none) "SERIAL" (.int 9223372036854775808)
        (.int 9223372036854775807) := by
  have hx : Config.resolve serialEntries ["SERIAL=x"] (fun _ => none)
      = .error (.typeMismatch "SERIAL" .integer "x") := rfl
  have hdefault : defaultOf serialEntries "SERIAL" = some (.int 9223372036854775808) := rfl
  have hlarge : Oversized serialEntries ["SERIAL=9223372036854775808"] (fun _ => none) "SERIAL"
      "9223372036854775808" :=
    .override _ _ _ _ hdefault rfl
      (counts_serial "9223372036854775808" (by decide +kernel) (by decide)) inFile_serial
      (by decide)
  have hlargest : InFile "9223372036854775807" (.int 9223372036854775807) :=
    inFile_int (by decide +kernel) (by decide) (by decide)
  have hcounts := counts_serial "9223372036854775807" (by decide +kernel) (by decide)
  have hsmall := (mismatch_real_or_oversized serialEntries ["SERIAL=9223372036854775807"]
    (fun _ => none)).2.2 _ _ _ _ hdefault rfl hcounts hlargest (by decide)
  have hmisfit := (mismatch_real_or_oversized serialEntries ["SERIAL=x"]
    (fun _ => none)).1 _ _ _ hx
  have hrefused := (mismatch_real_or_oversized serialEntries ["SERIAL=9223372036854775808"]
    (fun _ => none)).2.1 _ _ hlarge
  exact ⟨hx, hmisfit.imp_right And.right, hlarge, hrefused, hsmall.1⟩

open Resolve Sample in
/-- A whole number of a file is refused for not being a whole number, if it
    overrides itself or is the number of workers. -/
theorem integer_refused_as_mismatch :
    InFile "9223372036854775808" (.int 9223372036854775808) ∧
      Config.resolve serialEntries ["SERIAL=9223372036854775808"] (fun _ => none)
        = .error (.typeMismatch "SERIAL" .integer "9223372036854775808") ∧
      ¬ Misfit serialEntries ["SERIAL=9223372036854775808"] (fun _ => none) "SERIAL" .integer
        "9223372036854775808" ∧
      Config.resolve (entries.dropLast ++ [(Property.workers, .int 9223372036854775808)]) []
          (fun _ => none)
        = .error (.typeMismatch Property.workers .integer "9223372036854775808") ∧
      ¬ Misfit (entries.dropLast ++ [(Property.workers, .int 9223372036854775808)]) []
        (fun _ => none) Property.workers .integer "9223372036854775808" := by
  refine ⟨inFile_serial, rfl, ?_, rfl, ?_⟩
  · have hdefault : defaultOf serialEntries "SERIAL" = some (.int 9223372036854775808) := rfl
    have hcounts := counts_serial "9223372036854775808" (by decide +kernel) (by decide)
    refine not_misfit_of_isOf hdefault rfl (fun o ho => ?_) _
    rw [ho.unique hcounts]
    exact Or.inr ⟨rfl, _, _, rfl, inFile_serial⟩
  · have hdefault : defaultOf (entries.dropLast ++
        [(Property.workers, .int 9223372036854775808)]) Property.workers
          = some (.int 9223372036854775808) := rfl
    have hnone : counting ((overridesOf []).get? Property.workers) none = none := rfl
    refine not_misfit_of_isOf hdefault rfl (fun o ho => ?_) _
    rw [counts_iff, hnone] at ho
    exact absurd ho (by simp only [reduceCtorEq, not_false_eq_true])

end PullTriage
