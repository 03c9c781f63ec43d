import PullTriage.Config.Typed
import PullTriage.Proofs.Dictionaries
import PullTriage.Proofs.FirstErrors
import PullTriage.Proofs.Trimming

/-!
# What the Properties Have to Be

Ten properties are read into a configuration, in a fixed order. Each of them
has to be there and of its kind, the parts of an object or an array have to be
strings (or null, for a proxy), and the repository, the strategy and the
number of workers have to be usable. `Offence` lists the ways in which one of
them can fail that, each with its error. They exclude each other, and reading
a property fails exactly by one of them. So reading all of them ends in the
offence of the first property that has one.

What is read is what the properties hold: a configuration and its properties
say the same.

## Main definitions

* `Property.demands`: The properties in the order of reading, by kind.
* `Kind.Fits`: Whether a value is of a kind, as it is read.
* `Misuse`: What can be wrong with a value of the right kind.
* `Offence`: What can be wrong with a property.
* `FirstOffence`: What is wrong with the first property that is not right.
* `Config.ReadOff`: A configuration says what its properties hold.

## Theorems

* `Typed.read_eq_error`, `Typed.read_eq_ok`: A property read in steps.
* `ofProperties_eq_error`: The properties are refused by the first offence.
* `readOff_of_ofProperties`: What is read is what the properties hold.
-/

namespace PullTriage

/-- The properties that are read, in that order, each with its kind. -/
def Property.demands : List (String × Kind) :=
  [(repository, .string), (strategy, .string), (workers, .integer), (dryRun, .bool),
    (organization, .string), (proxies, .object), (teamLabels, .object), (emailDomains, .array),
    (companies, .array), (labelsMembers, .bool)]

/-- The kinds that the members of an object may be of: those of the proxies
    may be null. -/
def Property.memberKinds (name : String) : List Kind :=
  if name = proxies then [.null, .string] else [.string]

/-- Whether a value is of a kind, as it is read. A whole number has to fit into
    64 bits with its sign. -/
def Kind.Fits (kind : Kind) (v : Json) : Prop :=
  Kind.of v = kind ∧ ∀ n, v = .int n → n < Nat.pow 2 63

/-- What can be wrong with the value of a property that is of the right kind:
    a part of it that is no string, or a value that cannot be used. -/
inductive Misuse (name : String) : Json → ConfigError → Prop
  | member (before after : List (String × Json)) (key : String) (v : Json)
      (hbefore : ∀ m ∈ before, Kind.of m.2 ∈ Property.memberKinds name)
      (hv : Kind.of v ∉ Property.memberKinds name) :
      Misuse name (.object (before ++ (key, v) :: after))
        (Typed.mismatch (name ++ "." ++ key) .string v)
  | item (before after : List Json) (v : Json) (hbefore : ∀ item ∈ before, Kind.of item = .string)
      (hv : Kind.of v ≠ .string) :
      Misuse name (.array (before ++ v :: after)) (Typed.mismatch name .string v)
  | blankRepository (text : String) (hname : name = Property.repository)
      (hblank : ∀ c ∈ text.toList, Text.isBlank c = true) :
      Misuse name (.string text) (.invalidValue name .blankRepository)
  | unknownStrategy (word : String) (hname : name = Property.strategy)
      (hword : ∀ strategy : Strategy, strategy.text ≠ Strategy.normal word) :
      Misuse name (.string word) (.invalidValue name (.unknownStrategy word))
  | tooFewWorkers (n : Int) (hname : name = Property.workers) (hn : n ≤ 0) :
      Misuse name (.int n) (.invalidValue name (.tooFewWorkers n))

/-- What can be wrong with a property that has to be of a kind. -/
inductive Offence (properties : Dictionary Json) (name : String) (kind : Kind) :
    ConfigError → Prop
  | missing (h : properties.get? name = none) :
      Offence properties name kind (.missingProperty name)
  | wrongKind (v : Json) (h : properties.get? name = some v) (hkind : ¬ kind.Fits v) :
      Offence properties name kind (Typed.mismatch name kind v)
  | unusable (v : Json) (e : ConfigError) (h : properties.get? name = some v)
      (hkind : kind.Fits v) (hmisuse : Misuse name v e) : Offence properties name kind e

/-- What is wrong with the first property of a list that is not right. -/
def FirstOffence (properties : Dictionary Json) : List (String × Kind) → ConfigError → Prop
  | [], _ => False
  | (name, kind) :: rest, e =>
    Offence properties name kind e ∨
      (∀ e', ¬ Offence properties name kind e') ∧ FirstOffence properties rest e

/-- A configuration says what its properties hold. -/
structure Config.ReadOff (c : Config) : Prop where
  dryRun : c.properties.get? Property.dryRun = some (.bool c.dryRun)
  organization : c.properties.get? Property.organization = some (.string c.organization)
  repository : c.properties.get? Property.repository = some (.string c.repository)
  proxies : ∃ urls : List (String × Option String), c.proxies = Dictionary.ofList urls ∧
    c.properties.get? Property.proxies
      = some (.object (urls.map fun u => (u.1, u.2.elim .null .string)))
  teamLabels : ∃ labels : List (String × String), c.teamLabels = Dictionary.ofList labels ∧
    c.properties.get? Property.teamLabels
      = some (.object (labels.map fun l => (l.1, .string l.2)))
  strategy : ∃ word, c.properties.get? Property.strategy = some (.string word) ∧
    Strategy.normal word = c.strategy.text
  policy : ∃ domains companies : List String,
    c.properties.get? Property.emailDomains = some (.array (domains.map .string)) ∧
    c.properties.get? Property.companies = some (.array (companies.map .string)) ∧
    c.policy = AffiliationPolicy.ofEntries domains companies
  labelsMembers : c.properties.get? Property.labelsMembers = some (.bool c.labelsMembers)
  workers : c.properties.get? Property.workers = some (.int c.workers)

namespace Json

theorem asBool?_eq_some (v : Json) (b : Bool) : v.asBool? = some b ↔ v = .bool b := by
  cases v <;> simp only [asBool?, reduceCtorEq, Option.some.injEq, bool.injEq]

theorem asString?_eq_some (v : Json) (s : String) : v.asString? = some s ↔ v = .string s := by
  cases v <;> simp only [asString?, reduceCtorEq, Option.some.injEq, string.injEq]

theorem asInt?_eq_some (v : Json) (n : Int) :
    v.asInt? = some n ↔ v = .int n ∧ n < Nat.pow 2 63 := by
  cases v with
  | int m =>
      rw [asInt?, int.injEq]
      by_cases h : m < Nat.pow 2 63
      · rw [if_pos h, Option.some.injEq]
        exact ⟨fun heq => ⟨heq, heq ▸ h⟩, fun heq => heq.1⟩
      · rw [if_neg h]
        simp only [reduceCtorEq, false_iff, not_and]
        exact fun heq hn => h (heq ▸ hn)
  | _ => simp only [asInt?, reduceCtorEq, false_and]

theorem asBool?_eq_none (v : Json) : v.asBool? = none ↔ ¬ Kind.bool.Fits v := by
  cases v <;> simp [asBool?, Kind.Fits, Kind.of]

theorem asString?_eq_none (v : Json) : v.asString? = none ↔ ¬ Kind.string.Fits v := by
  cases v <;> simp [asString?, Kind.Fits, Kind.of]

theorem asInt?_eq_none (v : Json) : v.asInt? = none ↔ ¬ Kind.integer.Fits v := by
  cases v with
  | int n =>
      simp only [asInt?, Kind.Fits, Kind.of, int.injEq, true_and, ite_eq_right_iff, reduceCtorEq,
        imp_false, forall_eq']
  | _ => simp only [asInt?, Kind.Fits, Kind.of, reduceCtorEq, false_and, not_false_eq_true]

end Json

namespace Typed

open Json

theorem members?_eq_some (v : Json) (members : List (String × Json)) :
    members? v = some members ↔ v = .object members := by
  cases v <;> simp only [members?, reduceCtorEq, Option.some.injEq, object.injEq]

theorem members?_eq_none (v : Json) : members? v = none ↔ ¬ Kind.object.Fits v := by
  cases v <;> simp [members?, Kind.Fits, Kind.of]

theorem items?_eq_some (v : Json) (items : List Json) :
    items? v = some items ↔ v = .array items := by
  cases v <;> simp only [items?, reduceCtorEq, Option.some.injEq, array.injEq]

theorem items?_eq_none (v : Json) : items? v = none ↔ ¬ Kind.array.Fits v := by
  cases v <;> simp [items?, Kind.Fits, Kind.of]

theorem stringOrNull?_eq_some (v : Json) (url : Option String) :
    stringOrNull? v = some url ↔ v = url.elim .null .string := by
  cases v <;> cases url <;> simp [stringOrNull?]

section

variable {α β : Type} (properties : Dictionary Json) (name : String) (kind : Kind)

theorem find_eq_ok (v : Json) : find properties name = .ok v ↔ properties.get? name = some v := by
  unfold find
  cases properties.get? name with
  | none => simp only [reduceCtorEq]
  | some w => simp only [Except.ok.injEq, Option.some.injEq]

theorem find_eq_error (e : ConfigError) :
    find properties name = .error e ↔ properties.get? name = none ∧ e = .missingProperty name := by
  unfold find
  cases properties.get? name with
  | none => simp only [Except.error.injEq, true_and, eq_comm]
  | some w => simp only [reduceCtorEq, false_and]

theorem view_eq_ok (look : Json → Option α) (v : Json) (a : α) :
    view name kind look v = .ok a ↔ look v = some a := by
  unfold view
  cases look v with
  | none => simp only [reduceCtorEq]
  | some b => simp only [Except.ok.injEq, Option.some.injEq]

theorem view_eq_error (look : Json → Option α) (v : Json) (e : ConfigError) :
    view name kind look v = .error e ↔ look v = none ∧ e = mismatch name kind v := by
  unfold view
  cases look v with
  | none => simp only [Except.error.injEq, true_and, eq_comm]
  | some b => simp only [reduceCtorEq, false_and]

/-- A property that is looked at before the next step is refused if it is
    absent or of another kind, or by that step. -/
theorem read_eq_error (look : Json → Option α) (next : α → Except ConfigError β)
    (hlook : ∀ v, look v = none ↔ ¬ kind.Fits v)
    (hnext : ∀ v a e, look v = some a → (next a = .error e ↔ Misuse name v e))
    (e : ConfigError) :
    (find properties name >>= view name kind look >>= next) = .error e ↔
      Offence properties name kind e := by
  rw [bind_eq_error, bind_eq_error, find_eq_error]
  simp only [bind_eq_ok, find_eq_ok, view_eq_ok, view_eq_error]
  constructor
  · rintro ((⟨h, rfl⟩ | ⟨v, h, hv, rfl⟩) | ⟨a, ⟨v, h, hv⟩, hstep⟩)
    · exact .missing h
    · exact .wrongKind v h ((hlook v).mp hv)
    · have hfits : kind.Fits v := by
        by_contra hc
        rw [(hlook v).mpr hc] at hv
        exact absurd hv (by simp only [reduceCtorEq, not_false_eq_true])
      exact .unusable v e h hfits ((hnext v a e hv).mp hstep)
  · intro hoffence
    cases hoffence with
    | missing h => exact Or.inl (Or.inl ⟨h, rfl⟩)
    | wrongKind v h hkind => exact Or.inl (Or.inr ⟨v, h, (hlook v).mpr hkind, rfl⟩)
    | unusable v _ h hkind hmisuse =>
        cases hv : look v with
        | none => exact absurd hkind ((hlook v).mp hv)
        | some a => exact Or.inr ⟨a, ⟨v, h, hv⟩, (hnext v a e hv).mpr hmisuse⟩

/-- A property that is looked at before the next step. -/
theorem read_eq_ok (look : Json → Option α) (next : α → Except ConfigError β) (b : β) :
    (find properties name >>= view name kind look >>= next) = .ok b ↔
      ∃ v a, properties.get? name = some v ∧ look v = some a ∧ next a = .ok b := by
  simp only [bind_eq_ok, find_eq_ok, view_eq_ok]
  constructor
  · rintro ⟨a, ⟨v, hv, ha⟩, h⟩
    exact ⟨v, a, hv, ha, h⟩
  · rintro ⟨v, a, hv, ha, h⟩
    exact ⟨a, ⟨v, hv, ha⟩, h⟩

end

section

variable (properties : Dictionary Json) (name : String) (e : ConfigError)

theorem readBool_eq_error :
    readBool properties name = .error e ↔ Offence properties name .bool e := by
  rw [← read_eq_error properties name .bool asBool? pure asBool?_eq_none _ e, bind_pure]
  · rfl
  · intro v b e hv
    rw [(asBool?_eq_some v b).mp hv]
    exact ⟨fun h => absurd h (by simp only [pure, Except.pure, reduceCtorEq, not_false_eq_true]),
      fun h => by cases h⟩

/-- A string of which nothing more is asked is neither the repository nor the
    strategy. -/
theorem readString_eq_error (hrepository : name ≠ Property.repository)
    (hstrategy : name ≠ Property.strategy) :
    readString properties name = .error e ↔ Offence properties name .string e := by
  rw [← read_eq_error properties name .string asString? pure asString?_eq_none _ e, bind_pure]
  · rfl
  · intro v s e hv
    rw [(asString?_eq_some v s).mp hv]
    constructor
    · exact fun h => absurd h (by simp only [pure, Except.pure, reduceCtorEq, not_false_eq_true])
    · intro h
      cases h with
      | blankRepository _ hname _ => exact absurd hname hrepository
      | unknownStrategy _ hname _ => exact absurd hname hstrategy

theorem readRepository_eq :
    readRepository properties = (find properties Property.repository >>=
      view Property.repository .string asString? >>= fun name =>
        if (Text.trim name.toList).isEmpty then
          .error (.invalidValue Property.repository .blankRepository)
        else .ok name) := by
  rfl

theorem readStrategy_eq :
    readStrategy properties = (find properties Property.strategy >>=
      view Property.strategy .string asString? >>= fun word =>
        match Strategy.ofText? word with
        | some strategy => .ok strategy
        | none => .error (.invalidValue Property.strategy (.unknownStrategy word))) := by
  unfold readStrategy readString
  refine congrArg _ (funext fun word => ?_)
  cases Strategy.ofText? word with
  | none => rfl
  | some strategy => rfl

theorem readWorkers_eq :
    readWorkers properties = (find properties Property.workers >>=
      view Property.workers .integer asInt? >>= fun n =>
        if n ≤ 0 then .error (.invalidValue Property.workers (.tooFewWorkers n))
        else .ok n.toNat) :=
  rfl

theorem readMembers_eq {α : Type} (look : Json → Option α) :
    readMembers look properties name = (find properties name >>=
      view name .object members? >>= fun members =>
        (members.mapM fun m => view (name ++ "." ++ m.1) .string look m.2 >>= fun a =>
          .ok (m.1, a)) >>= fun entries => .ok (Dictionary.ofList entries)) := by
  rw [bind_assoc]
  rfl

theorem readStrings_eq :
    readStrings properties name = (find properties name >>=
      view name .array items? >>= fun items => items.mapM (view name .string asString?)) := by
  rw [bind_assoc]
  rfl

theorem readRepository_eq_error :
    readRepository properties = .error e ↔ Offence properties Property.repository .string e := by
  rw [readRepository_eq]
  refine read_eq_error _ _ _ _ _ asString?_eq_none (fun v s e hv => ?_) e
  rw [(asString?_eq_some v s).mp hv]
  by_cases hblank : (Text.trim s.toList).isEmpty = true
  · rw [if_pos hblank, Except.error.injEq]
    rw [Text.isEmpty_trim] at hblank
    constructor
    · rintro rfl
      exact .blankRepository s rfl hblank
    · intro h
      cases h with
      | blankRepository _ _ _ => rfl
      | unknownStrategy _ hname _ => exact absurd hname (by decide)
  · rw [if_neg hblank]
    rw [Text.isEmpty_trim] at hblank
    refine ⟨fun h => absurd h (by simp only [reduceCtorEq, not_false_eq_true]), fun h => ?_⟩
    cases h with
    | blankRepository _ _ h => exact absurd h hblank
    | unknownStrategy _ hname _ => exact absurd hname (by decide)

theorem strategy_ofText?_eq_none (word : String) :
    Strategy.ofText? word = none ↔ ∀ strategy : Strategy, strategy.text ≠ Strategy.normal word := by
  unfold Strategy.ofText?
  rw [List.find?_eq_none]
  simp only [List.mem_cons, List.not_mem_nil, or_false, beq_iff_eq, forall_eq_or_imp, forall_eq]
  exact ⟨fun h strategy => by cases strategy with
      | table => exact h.1
      | name => exact h.2.1
      | both => exact h.2.2,
    fun h => ⟨h _, h _, h _⟩⟩

theorem readStrategy_eq_error :
    readStrategy properties = .error e ↔ Offence properties Property.strategy .string e := by
  rw [readStrategy_eq]
  refine read_eq_error _ _ _ _ _ asString?_eq_none (fun v word e hv => ?_) e
  rw [(asString?_eq_some v word).mp hv]
  cases hword : Strategy.ofText? word with
  | none =>
      rw [strategy_ofText?_eq_none] at hword
      simp only [Except.error.injEq]
      constructor
      · rintro rfl
        exact .unknownStrategy word rfl hword
      · intro h
        cases h with
        | blankRepository _ hname _ => exact absurd hname (by decide)
        | unknownStrategy _ _ _ => rfl
  | some strategy =>
      simp only [reduceCtorEq, false_iff]
      intro h
      cases h with
      | blankRepository _ hname _ => exact absurd hname (by decide)
      | unknownStrategy _ _ h =>
          rw [← strategy_ofText?_eq_none, hword] at h
          exact absurd h (by simp only [reduceCtorEq, not_false_eq_true])

theorem readWorkers_eq_error :
    readWorkers properties = .error e ↔ Offence properties Property.workers .integer e := by
  rw [readWorkers_eq]
  refine read_eq_error _ _ _ _ _ asInt?_eq_none (fun v n e hv => ?_) e
  rw [((asInt?_eq_some v n).mp hv).1]
  by_cases hn : n ≤ 0
  · rw [if_pos hn, Except.error.injEq]
    constructor
    · rintro rfl
      exact .tooFewWorkers n rfl hn
    · intro h
      cases h
      rfl
  · rw [if_neg hn]
    refine ⟨fun h => absurd h (by simp only [reduceCtorEq, not_false_eq_true]), fun h => ?_⟩
    cases h with
    | tooFewWorkers _ _ h => exact absurd h hn

/-- The members of an object are looked at in turn, so the first one of the
    wrong kind is reported. -/
theorem readMembers_eq_error {α : Type} (look : Json → Option α)
    (hlook : ∀ v, look v = none ↔ Kind.of v ∉ Property.memberKinds name) :
    readMembers look properties name = .error e ↔ Offence properties name .object e := by
  have hsome : ∀ v, (∃ a, look v = some a) ↔ Kind.of v ∈ Property.memberKinds name := by
    intro v
    rw [← Option.isSome_iff_exists, ← Option.ne_none_iff_isSome, ne_eq, hlook, not_not]
  rw [readMembers_eq]
  refine read_eq_error _ _ _ _ _ members?_eq_none (fun v members e hv => ?_) e
  rw [(members?_eq_some v members).mp hv, bind_eq_error, mapM_eq_error]
  simp only [bind_eq_error, bind_eq_ok, view_eq_error, view_eq_ok, reduceCtorEq, and_false,
    exists_false, or_false]
  constructor
  · rintro ⟨before, ⟨key, w⟩, after, rfl, hbefore, hw, rfl⟩
    refine .member before after key w (fun m hm => (hsome m.2).mp ?_) ((hlook w).mp hw)
    rcases hbefore m hm with ⟨-, a, ha, -⟩
    exact ⟨a, ha⟩
  · intro h
    cases h with
    | member before after key w hbefore hw =>
        refine ⟨before, (key, w), after, rfl, fun m hm => ?_, (hlook w).mpr hw, rfl⟩
        rcases (hsome m.2).mpr (hbefore m hm) with ⟨a, ha⟩
        exact ⟨(m.1, a), a, ha, rfl⟩

theorem readStrings_eq_error :
    readStrings properties name = .error e ↔ Offence properties name .array e := by
  have hsome : ∀ v, (∃ s, asString? v = some s) ↔ Kind.of v = .string := by
    intro v
    cases v <;> simp [asString?, Kind.of]
  have hnone : ∀ v, asString? v = none ↔ Kind.of v ≠ .string := by
    intro v
    cases v <;> simp [asString?, Kind.of]
  rw [readStrings_eq]
  refine read_eq_error _ _ _ _ _ items?_eq_none (fun v items e hv => ?_) e
  rw [(items?_eq_some v items).mp hv, mapM_eq_error]
  simp only [view_eq_error, view_eq_ok]
  constructor
  · rintro ⟨before, w, after, rfl, hbefore, hw, rfl⟩
    exact .item before after w (fun x hx => (hsome x).mp (hbefore x hx)) ((hnone w).mp hw)
  · intro h
    cases h with
    | item before after w hbefore hw =>
        exact ⟨before, w, after, rfl, fun x hx => (hsome x).mpr (hbefore x hx), (hnone w).mpr hw,
          rfl⟩

theorem readBool_eq_ok (b : Bool) :
    readBool properties name = .ok b ↔ properties.get? name = some (.bool b) := by
  have hread : readBool properties name
      = (find properties name >>= view name .bool asBool? >>= pure) := by
    rw [bind_pure]
    rfl
  rw [hread, read_eq_ok]
  simp only [asBool?_eq_some, pure, Except.pure, Except.ok.injEq]
  constructor
  · rintro ⟨v, b, h, rfl, rfl⟩
    exact h
  · exact fun h => ⟨_, b, h, rfl, rfl⟩

theorem readString_eq_ok (s : String) :
    readString properties name = .ok s ↔ properties.get? name = some (.string s) := by
  have hread : readString properties name
      = (find properties name >>= view name .string asString? >>= pure) := by
    rw [bind_pure]
    rfl
  rw [hread, read_eq_ok]
  simp only [asString?_eq_some, pure, Except.pure, Except.ok.injEq]
  constructor
  · rintro ⟨v, s, h, rfl, rfl⟩
    exact h
  · exact fun h => ⟨_, s, h, rfl, rfl⟩

theorem of_readRepository (s : String) (h : readRepository properties = .ok s) :
    properties.get? Property.repository = some (.string s) ∧
      ∃ c ∈ s.toList, Text.isBlank c = false := by
  rw [readRepository_eq, read_eq_ok] at h
  rcases h with ⟨v, text, hv, htext, h⟩
  rw [asString?_eq_some] at htext
  by_cases hblank : (Text.trim text.toList).isEmpty = true
  · rw [if_pos hblank] at h
    exact absurd h (by simp only [reduceCtorEq, not_false_eq_true])
  · rw [if_neg hblank] at h
    rw [← Except.ok.inj h, hv, htext]
    refine ⟨rfl, ?_⟩
    by_contra hc
    refine hblank ((Text.isEmpty_trim _).mpr fun c hmem => ?_)
    by_contra hfalse
    exact hc ⟨c, hmem, Bool.eq_false_iff.mpr hfalse⟩

theorem of_readStrategy (strategy : Strategy) (h : readStrategy properties = .ok strategy) :
    ∃ word, properties.get? Property.strategy = some (.string word) ∧
      Strategy.normal word = strategy.text := by
  rw [readStrategy_eq, read_eq_ok] at h
  rcases h with ⟨v, word, hv, hword, h⟩
  rw [asString?_eq_some] at hword
  refine ⟨word, hword ▸ hv, ?_⟩
  cases hfound : Strategy.ofText? word with
  | none =>
      simp only [hfound, reduceCtorEq] at h
  | some found =>
      simp only [hfound, Except.ok.injEq] at h
      unfold Strategy.ofText? at hfound
      have hmatch := List.find?_some hfound
      rw [beq_iff_eq] at hmatch
      rw [← h, hmatch]

theorem of_readWorkers (n : Nat) (h : readWorkers properties = .ok n) :
    properties.get? Property.workers = some (.int n) ∧ 1 ≤ n := by
  rw [readWorkers_eq, read_eq_ok] at h
  rcases h with ⟨v, k, hv, hk, h⟩
  rcases (asInt?_eq_some v k).mp hk with ⟨hk, -⟩
  by_cases hpos : k ≤ 0
  · rw [if_pos hpos] at h
    exact absurd h (by simp only [reduceCtorEq, not_false_eq_true])
  · rw [if_neg hpos] at h
    have hn : k.toNat = n := Except.ok.inj h
    refine ⟨?_, by omega⟩
    rw [hv, hk, ← hn, Int.toNat_of_nonneg (by omega)]

/-- The members that are read are those of the object, each as `make` writes
    it. -/
theorem of_readMembers {α : Type} (look : Json → Option α) (make : α → Json)
    (hmake : ∀ v a, look v = some a ↔ v = make a) (d : Dictionary α)
    (h : readMembers look properties name = .ok d) :
    ∃ entries : List (String × α), d = Dictionary.ofList entries ∧
      properties.get? name = some (.object (entries.map fun entry => (entry.1, make entry.2))) := by
  rw [readMembers_eq, read_eq_ok] at h
  rcases h with ⟨v, members, hv, hmembers, h⟩
  rcases (bind_eq_ok _ _ _).mp h with ⟨entries, hentries, h⟩
  rw [members?_eq_some] at hmembers
  rw [mapM_eq_ok] at hentries
  refine ⟨entries, (Except.ok.inj h).symm, ?_⟩
  rw [hv, hmembers]
  congr
  rw [← List.forall₂_eq_eq_eq, List.forall₂_map_right_iff]
  refine hentries.imp fun m entry hentry => ?_
  rcases (bind_eq_ok _ _ _).mp hentry with ⟨a, ha, hentry⟩
  rw [view_eq_ok, hmake] at ha
  rw [← Except.ok.inj hentry, ← ha]

theorem of_readStrings (l : List String) (h : readStrings properties name = .ok l) :
    properties.get? name = some (.array (l.map .string)) := by
  rw [readStrings_eq, read_eq_ok] at h
  rcases h with ⟨v, items, hv, hitems, h⟩
  rw [items?_eq_some] at hitems
  rw [mapM_eq_ok] at h
  rw [hv, hitems]
  congr
  rw [← List.forall₂_eq_eq_eq, List.forall₂_map_right_iff]
  exact h.imp fun item s hs => (asString?_eq_some _ _).mp ((view_eq_ok _ _ _ _ _).mp hs)

end

/-- Reading a list of properties ends in the offence of the first of them, or
    else as reading the rest does. -/
theorem bind_eq_firstOffence {α β : Type} (properties : Dictionary Json) (name : String)
    (kind : Kind) (rest : List (String × Kind)) (r : Except ConfigError α)
    (next : α → Except ConfigError β) (e : ConfigError)
    (hr : ∀ e, r = .error e ↔ Offence properties name kind e)
    (hnext : ∀ a, next a = .error e ↔ FirstOffence properties rest e) :
    (r >>= next) = .error e ↔ FirstOffence properties ((name, kind) :: rest) e := by
  rw [bind_eq_error, FirstOffence, ← hr]
  refine or_congr_right ?_
  constructor
  · rintro ⟨a, ha, h⟩
    refine ⟨fun e' he' => ?_, (hnext a).mp h⟩
    rw [← hr, ha] at he'
    exact absurd he' (by simp only [reduceCtorEq, not_false_eq_true])
  · rintro ⟨hright, h⟩
    rcases ok_or_error r with ⟨a, ha⟩ | ⟨e', he'⟩
    · exact ⟨a, ha, (hnext a).mpr h⟩
    · exact absurd ((hr e').mp he') (hright e')

end Typed

open Typed in
/-- The properties are refused by the offence of the first of them that has
    one, and only then. -/
theorem ofProperties_eq_error (properties : Dictionary Json) (e : ConfigError) :
    Config.ofProperties properties = .error e ↔
      FirstOffence properties Property.demands e := by
  have hproxies : ∀ v, stringOrNull? v = none ↔
      Kind.of v ∉ Property.memberKinds Property.proxies := by
    intro v
    cases v <;> simp [stringOrNull?, Kind.of, Property.memberKinds]
  have hlabels : ∀ v, Json.asString? v = none ↔
      Kind.of v ∉ Property.memberKinds Property.teamLabels := by
    intro v
    have hne : Property.teamLabels ≠ Property.proxies := by decide
    cases v <;> simp [Json.asString?, Kind.of, Property.memberKinds, hne]
  unfold Config.ofProperties Property.demands
  refine bind_eq_firstOffence _ _ _ _ _ _ _ (readRepository_eq_error _) fun repository => ?_
  refine bind_eq_firstOffence _ _ _ _ _ _ _ (readStrategy_eq_error _) fun strategy => ?_
  refine bind_eq_firstOffence _ _ _ _ _ _ _ (readWorkers_eq_error _) fun workers => ?_
  refine bind_eq_firstOffence _ _ _ _ _ _ _ (readBool_eq_error _ _) fun dryRun => ?_
  refine bind_eq_firstOffence _ _ _ _ _ _ _
    (fun e => readString_eq_error _ _ e (by decide) (by decide)) fun organization => ?_
  refine bind_eq_firstOffence _ _ _ _ _ _ _
    (fun e => readMembers_eq_error _ _ e _ hproxies) fun proxies => ?_
  refine bind_eq_firstOffence _ _ _ _ _ _ _
    (fun e => readMembers_eq_error _ _ e _ hlabels) fun labels => ?_
  refine bind_eq_firstOffence _ _ _ _ _ _ _ (readStrings_eq_error _ _) fun domains => ?_
  refine bind_eq_firstOffence _ _ _ _ _ _ _ (readStrings_eq_error _ _) fun companies => ?_
  refine bind_eq_firstOffence _ _ _ _ _ _ _ (readBool_eq_error _ _) fun labelsMembers => ?_
  simp only [pure, Except.pure, reduceCtorEq, FirstOffence]

open Typed in
/-- A configuration says what the properties hold that it was read from, its
    repository has a name, and it has a worker. -/
theorem readOff_of_ofProperties (properties : Dictionary Json) (c : Config)
    (h : Config.ofProperties properties = .ok c) :
    c.properties = properties ∧ c.ReadOff ∧ 1 ≤ c.workers ∧
      ∃ ch ∈ c.repository.toList, Text.isBlank ch = false := by
  unfold Config.ofProperties at h
  rcases (bind_eq_ok _ _ _).mp h with ⟨repository, hrepository, h⟩
  rcases (bind_eq_ok _ _ _).mp h with ⟨strategy, hstrategy, h⟩
  rcases (bind_eq_ok _ _ _).mp h with ⟨workers, hworkers, h⟩
  rcases (bind_eq_ok _ _ _).mp h with ⟨dryRun, hdryRun, h⟩
  rcases (bind_eq_ok _ _ _).mp h with ⟨organization, horganization, h⟩
  rcases (bind_eq_ok _ _ _).mp h with ⟨proxies, hproxies, h⟩
  rcases (bind_eq_ok _ _ _).mp h with ⟨labels, hlabels, h⟩
  rcases (bind_eq_ok _ _ _).mp h with ⟨domains, hdomains, h⟩
  rcases (bind_eq_ok _ _ _).mp h with ⟨companies, hcompanies, h⟩
  rcases (bind_eq_ok _ _ _).mp h with ⟨labelsMembers, hlabelsMembers, h⟩
  rw [← Except.ok.inj h]
  have hnamed := of_readRepository _ _ hrepository
  have hcount := of_readWorkers _ _ hworkers
  refine ⟨rfl, ?_, hcount.2, hnamed.2⟩
  exact {
    dryRun := (readBool_eq_ok _ _ _).mp hdryRun
    organization := (readString_eq_ok _ _ _).mp horganization
    repository := hnamed.1
    proxies := of_readMembers _ _ _ _ stringOrNull?_eq_some _ hproxies
    teamLabels := of_readMembers _ _ _ _ Json.asString?_eq_some _ hlabels
    strategy := of_readStrategy _ _ hstrategy
    policy := ⟨domains, companies, of_readStrings _ _ _ hdomains,
      of_readStrings _ _ _ hcompanies, rfl⟩
    labelsMembers := (readBool_eq_ok _ _ _).mp hlabelsMembers
    workers := hcount.1 }

end PullTriage
