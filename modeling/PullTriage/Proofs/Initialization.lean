import Mathlib.Data.List.Induction
import PullTriage.Proofs.Layers
import PullTriage.Proofs.Loading

/-!
# Initialized Once

A program is initialized by the first call that succeeds at it, whatever calls
come before and after. Two things are shared between calls: the configuration
of the program, which is written once, and the environment, which every
successful load writes to and every resolution reads. So what a call resolves
its file to may depend on the exports of the calls before it, but whether it
is resolved at all depends on the configuration alone.

`LoadCall.Step` says once what a call can do, one constructor for each of the
five ways in which it can end. What holds over sequences of calls follows from
it by induction.

An export replaces lines of the environment. It is told from outside by what
is looked up afterwards, and by the lines of other variables, which stay as
they were and in their order (`Environment.Sets`).

## Main definitions

* `Environment.Sets`: An environment with variables set to their values.
* `LoadCall.Step`: What a call can do.
* `Setup.FirstSuccess`: What the first call returns that initializes a program.

## Theorems

* `Environment.valueIn?_eq_some`: A line gives a value to its name.
* `Environment.sets_exporting`: Exporting sets the variables and no others.
* `LoadCall.step_run`: A call does one of the things that it can.
* `Setup.config_after`: A configuration stays.
* `Setup.config_eq_some_iff`: The configuration is that of the first success.
* `initialized_once`: What calls in any order do.
-/

namespace PullTriage

namespace Environment

theorem toList_line (name value : String) :
    (line name value).toList = (name.toList ++ ['=']) ++ value.toList := by
  rw [line, String.toList_append, String.toList_append]
  rfl

/-- A line gives a value to a name if it is the line of that variable. -/
theorem valueIn?_eq_some (name l value : String) :
    valueIn? name l = some value ↔ l = line name value := by
  unfold valueIn?
  simp only [List.isPrefixOf_iff_prefix]
  constructor
  · intro h
    split_ifs at h with hlead
    rcases hlead with ⟨rest, hrest⟩
    rw [Option.some.injEq, ← hrest, List.drop_left] at h
    rw [← h, ← String.toList_inj, toList_line, ← hrest, String.toList_ofList]
  · rintro rfl
    rw [toList_line, if_pos (List.prefix_append _ _), List.drop_left, String.ofList_toList]

theorem isSome_valueIn? (name l : String) :
    (valueIn? name l).isSome = true ↔ ∃ value, l = line name value := by
  simp only [Option.isSome_iff_exists, valueIn?_eq_some]

/-- A line is that of one variable only, since names have no equals sign. -/
theorem valueIn?_line_of_ne (name other value : String) (hname : '=' ∉ name.toList)
    (hother : '=' ∉ other.toList) (hne : name ≠ other) :
    valueIn? name (line other value) = none := by
  have hsplit : ∀ n v : String, '=' ∉ n.toList →
      Text.splitAtFirst '=' (line n v).toList = some (n.toList, v.toList) := by
    intro n v hn
    refine (Text.splitAtFirst_eq_some _ _ _ _).mpr ⟨?_, hn⟩
    rw [toList_line, List.append_assoc]
    rfl
  rw [Option.eq_none_iff_forall_ne_some]
  intro v hv
  -- The name ends at the first equals sign of the line.
  have hboth := hsplit other value hother
  rw [(valueIn?_eq_some _ _ _).mp hv, hsplit name v hname, Option.some.injEq, Prod.mk.injEq]
    at hboth
  exact hne (String.toList_inj.mp hboth.1)

theorem isExportable_iff (name value : String) :
    isExportable name value = true ↔
      name ≠ "" ∧ (∀ c ∈ name.toList, c ≠ '=' ∧ c.toNat ≠ 0) ∧
        ∀ c ∈ value.toList, c.toNat ≠ 0 := by
  simp only [isExportable, Bool.and_eq_true, decide_eq_true_eq, List.all_eq_true, and_assoc]

theorem not_mem_of_isExportable (name value : String) (h : isExportable name value = true) :
    '=' ∉ name.toList :=
  fun hmem => (((isExportable_iff _ _).mp h).2.1 '=' hmem).1 rfl

/-- The lines that are not of the variable stay as they are. -/
theorem filter_insertLine (name value : String) (p : String → Bool)
    (hp : ∀ v, p (line name v) = false) (lines : List String) :
    (insertLine name value lines).filter p = lines.filter p := by
  -- Neither the new line passes nor the one that it replaces.
  have hline : ∀ v (rest : List String), (line name v :: rest).filter p = rest.filter p :=
    fun v rest => List.filter_cons_of_neg (by rw [hp]; exact Bool.false_ne_true)
  induction lines with
  | nil => rw [insertLine, hline]
  | cons l rest ih =>
      rw [insertLine]
      by_cases hl : (valueIn? name l).isSome = true
      · rcases (isSome_valueIn? name l).mp hl with ⟨v, rfl⟩
        rw [if_pos hl, hline, hline]
      · rw [if_neg hl, List.filter_cons, List.filter_cons, ih]

/-- The variable is found with its value. -/
theorem findSome?_insertLine (name value : String) (lines : List String) :
    (insertLine name value lines).findSome? (valueIn? name) = some value := by
  have hown : valueIn? name (line name value) = some value :=
    (valueIn?_eq_some name _ value).mpr rfl
  induction lines with
  | nil => rw [insertLine, List.findSome?_cons, hown]
  | cons l rest ih =>
      rw [insertLine]
      cases hl : valueIn? name l with
      | some v => rw [Option.isSome_some, if_pos rfl, List.findSome?_cons, hown]
      | none => rw [Option.isSome_none, if_neg Bool.false_ne_true, List.findSome?_cons, hl, ih]

/-- What is looked up depends on the lines of the variable alone. -/
theorem lookup_eq_of_filter (e e' : Environment) (name : String)
    (h : e'.lines.filter (fun l => (valueIn? name l).isSome)
      = e.lines.filter fun l => (valueIn? name l).isSome) : e'.lookup name = e.lookup name := by
  have hlines : ∀ lines : List String, lines.findSome? (valueIn? name)
      = (lines.filter fun l => (valueIn? name l).isSome).findSome? (valueIn? name) := by
    intro lines
    induction lines with
    | nil => rfl
    | cons l rest ih =>
        rw [List.filter_cons, List.findSome?_cons]
        cases hl : valueIn? name l with
        | some v => rw [Option.isSome_some, if_pos rfl, List.findSome?_cons, hl]
        | none => rw [Option.isSome_none, if_neg Bool.false_ne_true, ih]
  unfold lookup
  rw [hlines e'.lines, hlines e.lines, h]

/-- The lines of other variables stay as they were. -/
theorem filter_exporting (exports : List (String × String)) (e : Environment) (p : String → Bool)
    (hp : ∀ x ∈ exports, ∀ v, p (line x.1 v) = false) :
    (e.exporting exports).lines.filter p = e.lines.filter p := by
  induction exports generalizing e with
  | nil => rfl
  | cons x rest ih =>
      rcases List.forall_mem_cons.mp hp with ⟨hx, hrest⟩
      have hnext : e.exporting (x :: rest) = (e.insert x.1 x.2).exporting rest := rfl
      rw [hnext, ih _ hrest]
      exact filter_insertLine x.1 x.2 p hx e.lines

/-- Variables of other names are found as they were. -/
theorem lookup_exporting_of_ne (exports : List (String × String)) (e : Environment)
    (hexport : ∀ x ∈ exports, isExportable x.1 x.2 = true) (name : String)
    (hname : '=' ∉ name.toList) (hne : ∀ x ∈ exports, name ≠ x.1) :
    (e.exporting exports).lookup name = e.lookup name := by
  refine lookup_eq_of_filter _ _ name (filter_exporting exports e _ fun x hx v => ?_)
  have hother := not_mem_of_isExportable _ _ (hexport x hx)
  rw [valueIn?_line_of_ne name x.1 v hname hother (hne x hx)]
  rfl

/-- Of variables with different names each is found with its value. -/
theorem lookup_exporting (exports : List (String × String)) (e : Environment)
    (hnames : (exports.map Prod.fst).Nodup)
    (hexport : ∀ x ∈ exports, isExportable x.1 x.2 = true) (x : String × String)
    (hx : x ∈ exports) : (e.exporting exports).lookup x.1 = some x.2 := by
  rcases List.append_of_mem hx with ⟨before, after, rfl⟩
  rw [List.map_append, List.map_cons, List.nodup_middle, List.nodup_cons, ← List.map_append]
    at hnames
  have hsplit : e.exporting (before ++ x :: after)
      = ((e.exporting before).insert x.1 x.2).exporting after := by
    unfold exporting
    rw [List.foldl_append, List.foldl_cons]
  have hname := not_mem_of_isExportable _ _ (hexport x hx)
  -- Later exports are of other names.
  rw [hsplit, lookup_exporting_of_ne after _
    (fun y hy => hexport y (List.mem_append_right _ (List.mem_cons_of_mem _ hy))) x.1 hname
    (fun y hy heq => hnames.1 (heq ▸ List.mem_map_of_mem (List.mem_append_right _ hy)))]
  rw [lookup, if_neg ((isExportable_iff _ _).mp (hexport x hx)).1]
  exact findSome?_insertLine x.1 x.2 _

/-- The environment `e'` is `e` with the variables set that have a value. The
    lines of all others stay as they were and in their order. -/
structure Sets (values : Dictionary (Option String)) (e e' : Environment) : Prop where
  set (name value : String) (h : values.get? name = some (some value)) :
    e'.lookup name = some value
  kept (name : String) (hname : '=' ∉ name.toList)
    (h : ∀ value, values.get? name ≠ some (some value)) : e'.lookup name = e.lookup name
  others (p : String → Bool)
    (hp : ∀ name value v, values.get? name = some (some value) → p (line name v) = false) :
    e'.lines.filter p = e.lines.filter p

end Environment

theorem Config.mem_exports (c : Config) (name value : String) :
    (name, value) ∈ c.exports ↔ c.proxies.get? name = some (some value) := by
  rw [← Dictionary.mem_entries, exports, List.mem_filterMap]
  constructor
  · rintro ⟨⟨n, url⟩, hmem, h⟩
    rcases Option.map_eq_some_iff.mp h with ⟨v, rfl, heq⟩
    rw [Prod.mk.injEq] at heq
    rwa [← heq.1, ← heq.2]
  · intro h
    exact ⟨_, h, rfl⟩

theorem Config.nodup_exports (c : Config) : (c.exports.map Prod.fst).Nodup := by
  refine List.Nodup.sublist ?_ c.proxies.nodup_names
  unfold exports Dictionary.names
  induction c.proxies.entries with
  | nil => exact List.Sublist.slnil
  | cons entry rest ih =>
      rcases entry with ⟨name, _ | url⟩
      · exact ih.cons _
      · exact ih.cons_cons _

/-- Exporting the proxy variables sets those that have a value, and no
    others. -/
theorem Environment.sets_exporting (c : Config) (e : Environment)
    (hexport : ∀ x ∈ c.exports, isExportable x.1 x.2 = true) :
    Sets c.proxies e (e.exporting c.exports) where
  set name value h :=
    lookup_exporting c.exports e c.nodup_exports hexport (name, value) ((c.mem_exports _ _).mpr h)
  kept name hname h :=
    lookup_exporting_of_ne c.exports e hexport name hname fun x hx heq =>
      h x.2 ((c.mem_exports _ _).mp (heq ▸ hx))
  others p hp :=
    filter_exporting c.exports e p fun x hx v => hp x.1 x.2 v ((c.mem_exports _ _).mp hx)

namespace LoadCall

/-- What a call can do: what it returns, and the program after it. It may
    return the configuration of the program. Otherwise it loads one, whether or
    not that one is to last. -/
inductive Step (call : LoadCall) (s : Setup) : Except LoadFault Config → Setup → Prop
  | remembered (c : Config) (hlasting : call.isLasting = true) (h : s.config = some c) :
      Step call s (.ok c) s
  | refused (e : ConfigError) (hfresh : s.config = none ∨ call.isLasting = false)
      (h : call.resolve s = .error e) : Step call s (.error (.config e)) s
  | broken (c : Config) (first rest : List (String × String)) (v : String × String)
      (hfresh : s.config = none ∨ call.isLasting = false) (h : call.resolve s = .ok c)
      (hexports : c.exports = first ++ v :: rest)
      (hv : Environment.isExportable v.1 v.2 = false) :
      Step call s (.error .broken) { s with environment := s.environment.exporting first }
  | loaded (c : Config) (hlasting : call.isLasting = false) (h : call.resolve s = .ok c)
      (hexport : ∀ v ∈ c.exports, Environment.isExportable v.1 v.2 = true) :
      Step call s (.ok c) { s with environment := s.environment.exporting c.exports }
  | initialized (c : Config) (hlasting : call.isLasting = true) (hnone : s.config = none)
      (h : call.resolve s = .ok c)
      (hexport : ∀ v ∈ c.exports, Environment.isExportable v.1 v.2 = true) :
      Step call s (.ok c)
        { environment := s.environment.exporting c.exports, config := some c }

/-- A call does one of the things that it can. -/
theorem step_run (call : LoadCall) (s : Setup) :
    call.Step s (call.run s).1 (call.run s).2 := by
  unfold run Setup.initialized
  -- Only a call that is to last looks at the configuration of the program. Both
  -- kinds load in the same three ways.
  cases hlasting : call.isLasting with
  | false =>
      rw [if_neg Bool.false_ne_true]
      rcases Setup.load_cases call s with ⟨e, hresolve, hend⟩ | ⟨c, hresolve, hexport, hend⟩ |
        ⟨c, first, v, rest, hresolve, hexports, -, hv, hend⟩
      · rw [hend]
        exact .refused e (Or.inr hlasting) hresolve
      · rw [hend]
        exact .loaded c hlasting hresolve hexport
      · rw [hend]
        exact .broken c first rest v (Or.inr hlasting) hresolve hexports hv
  | true =>
      rw [if_pos rfl]
      cases hconfig : s.config with
      | some c => exact .remembered c hlasting hconfig
      | none =>
          rcases Setup.load_cases call s with ⟨e, hresolve, hend⟩ | ⟨c, hresolve, hexport, hend⟩ |
            ⟨c, first, v, rest, hresolve, hexports, -, hv, hend⟩
          · simp only [hend]
            exact .refused e (Or.inl hconfig) hresolve
          · simp only [hend]
            exact .initialized c hlasting hconfig hresolve hexport
          · simp only [hend]
            exact .broken c first rest v (Or.inl hconfig) hresolve hexports hv

section

variable (call : LoadCall) (s : Setup)

/-- A configuration stays whatever is called. -/
theorem config_run (c : Config) (h : s.config = some c) : (call.run s).2.config = some c := by
  have hstep := call.step_run s
  generalize (call.run s).1 = r, (call.run s).2 = s' at hstep
  cases hstep with
  | remembered c' hlasting hc => exact h
  | refused e hfresh hresolve => exact h
  | broken c' first rest v hfresh hresolve hexports hv => exact h
  | loaded c' hlasting hresolve hexport => exact h
  | initialized c' hlasting hnone hresolve hexport =>
      rw [hnone] at h
      cases h

/-- A call that is to last leaves the configuration that it returns. -/
theorem config_of_success (c : Config) (hlasting : call.isLasting = true)
    (h : (call.run s).1 = .ok c) : (call.run s).2.config = some c := by
  have hstep := call.step_run s
  generalize (call.run s).1 = r, (call.run s).2 = s' at hstep h
  cases hstep with
  | remembered c' _ hc => exact hc.trans (congrArg some (Except.ok.inj h))
  | refused e hfresh hresolve => cases h
  | broken c' first rest v hfresh hresolve hexports hv =>
      cases h
  | loaded c' hnot hresolve hexport =>
      rw [hnot] at hlasting
      exact absurd hlasting Bool.false_ne_true
  | initialized c' _ hnone hresolve hexport => exact congrArg some (Except.ok.inj h)

/-- A call that is not to last, or fails, leaves the configuration as it
    was. -/
theorem config_of_failure
    (h : call.isLasting = false ∨ ∃ fault, (call.run s).1 = .error fault) :
    (call.run s).2.config = s.config := by
  have hstep := call.step_run s
  generalize (call.run s).1 = r, (call.run s).2 = s' at hstep h
  cases hstep with
  | remembered c hlasting hc => rfl
  | refused e hfresh hresolve => rfl
  | broken c first rest v hfresh hresolve hexports hv => rfl
  | loaded c hlasting hresolve hexport => rfl
  | initialized c hlasting hnone hresolve hexport =>
      rcases h with h | ⟨fault, h⟩
      · rw [h] at hlasting
        exact absurd hlasting Bool.false_ne_true
      · cases h

/-- A call that finds no configuration to return succeeds if its file resolves
    and all exports can exist. -/
theorem succeeds_iff (hfresh : s.config = none ∨ call.isLasting = false) (c : Config) :
    (call.run s).1 = .ok c ↔ call.resolve s = .ok c ∧
      ∀ v ∈ c.exports, Environment.isExportable v.1 v.2 = true := by
  have hstep := call.step_run s
  generalize (call.run s).1 = r, (call.run s).2 = s' at hstep
  cases hstep with
  | remembered c' hlasting hc =>
      rw [hlasting, hc] at hfresh
      exact absurd hfresh (by simp only [reduceCtorEq, or_self, not_false_eq_true])
  | refused e _ hresolve => simp only [hresolve, reduceCtorEq, false_and]
  | broken c' first rest v _ hresolve hexports hv =>
      simp only [hresolve, reduceCtorEq, Except.ok.injEq, false_iff, not_and, not_forall]
      rintro rfl
      -- The exports broke off at one that is among those of the configuration.
      refine ⟨v, ?_, ne_true_of_eq_false hv⟩
      rw [hexports]
      exact List.mem_append_right _ List.mem_cons_self
  | loaded c' hlasting hresolve hexport =>
      rw [hresolve, Except.ok.injEq, Except.ok.injEq]
      exact ⟨fun h => ⟨h, h ▸ hexport⟩, fun h => h.1⟩
  | initialized c' hlasting hnone hresolve hexport =>
      rw [hresolve, Except.ok.injEq, Except.ok.injEq]
      exact ⟨fun h => ⟨h, h ▸ hexport⟩, fun h => h.1⟩

/-- A call that loads successfully sets the proxy variables. -/
theorem sets_of_success (hfresh : s.config = none ∨ call.isLasting = false) (c : Config)
    (h : (call.run s).1 = .ok c) :
    Environment.Sets c.proxies s.environment (call.run s).2.environment := by
  have hstep := call.step_run s
  generalize (call.run s).1 = r, (call.run s).2 = s' at hstep h
  cases hstep with
  | remembered c' hlasting hc =>
      rw [hlasting, hc] at hfresh
      exact absurd hfresh (by simp only [reduceCtorEq, or_self, not_false_eq_true])
  | refused e _ hresolve => cases h
  | broken c' first rest v _ hresolve hexports hv =>
      cases h
  | loaded c' hlasting hresolve hexport =>
      rw [← Except.ok.inj h]
      exact Environment.sets_exporting c' s.environment hexport
  | initialized c' hlasting hnone hresolve hexport =>
      rw [← Except.ok.inj h]
      exact Environment.sets_exporting c' s.environment hexport

end

end LoadCall

namespace Setup

/-- The first call of a sequence that is to last and succeeds returns `c`. -/
def FirstSuccess (start : Setup) (calls : List LoadCall) (c : Config) : Prop :=
  ∃ before call after, calls = before ++ call :: after ∧ call.isLasting = true ∧
    (call.run (start.after before)).1 = .ok c ∧
    ∀ first earlier rest, before = first ++ earlier :: rest → earlier.isLasting = true →
      ∃ fault, (earlier.run (start.after first)).1 = .error fault

theorem after_concat (start : Setup) (calls : List LoadCall) (call : LoadCall) :
    start.after (calls ++ [call]) = (call.run (start.after calls)).2 := by
  unfold after
  rw [List.foldl_append, List.foldl_cons, List.foldl_nil]

/-- A configuration stays whatever calls come. -/
theorem config_after (s : Setup) (calls : List LoadCall) (c : Config) (h : s.config = some c) :
    (s.after calls).config = some c := by
  induction calls generalizing s with
  | nil => exact h
  | cons call rest ih => exact ih _ (call.config_run s c h)

/-- The configuration that a call leaves which is to last is still there after
    all later calls. -/
theorem config_after_success (start : Setup) (before after : List LoadCall) (call : LoadCall)
    (c : Config) (hlasting : call.isLasting = true)
    (h : (call.run (start.after before)).1 = .ok c) :
    (start.after (before ++ call :: after)).config = some c := by
  have hsplit : start.after (before ++ call :: after)
      = ((call.run (start.after before)).2).after after := by
    unfold Setup.after
    rw [List.foldl_append, List.foldl_cons]
  rw [hsplit]
  exact config_after _ after c (call.config_of_success _ c hlasting h)

/-- The configuration of a program is what the first success returned. -/
theorem config_eq_some_iff (start : Setup) (hstart : start.config = none)
    (calls : List LoadCall) (c : Config) :
    (start.after calls).config = some c ↔ start.FirstSuccess calls c := by
  constructor
  · intro h
    -- The induction goes from the last call back. That one is the first success
    -- only if there was no configuration before it.
    induction calls using List.reverseRecOn with
    | nil =>
        rw [show start.after [] = start from rfl, hstart] at h
        cases h
    | append_singleton calls call ih =>
        by_cases hnew : call.isLasting = true ∧ ∃ c', (call.run (start.after calls)).1 = .ok c'
        · rcases hnew with ⟨hlasting, c', hc'⟩
          rw [after_concat, call.config_of_success _ c' hlasting hc', Option.some.injEq] at h
          cases hbefore : (start.after calls).config with
          | none =>
              refine ⟨calls, call, [], rfl, hlasting, h ▸ hc', ?_⟩
              intro first earlier rest hcalls he
              -- An earlier success would have left its configuration.
              cases hrun : (earlier.run (start.after first)).1 with
              | error fault => exact ⟨fault, rfl⟩
              | ok d =>
                  rw [hcalls, config_after_success start first rest earlier d he hrun] at hbefore
                  cases hbefore
          | some d =>
              have hkept := call.config_run _ d hbefore
              rw [call.config_of_success _ c' hlasting hc', Option.some.injEq, h] at hkept
              rcases ih (hbefore.trans (congrArg some hkept.symm)) with
                ⟨before, first, after, rfl, hfirst⟩
              exact ⟨before, first, after ++ [call], by rw [List.append_assoc]; rfl, hfirst⟩
        · -- Nothing has changed, so the first success was before.
          have hfailed : call.isLasting = false ∨
              ∃ fault, (call.run (start.after calls)).1 = .error fault := by
            cases hlasting : call.isLasting with
            | false => exact Or.inl rfl
            | true =>
                cases hrun : (call.run (start.after calls)).1 with
                | error fault => exact Or.inr ⟨fault, rfl⟩
                | ok c' => exact absurd ⟨hlasting, c', hrun⟩ hnew
          rw [after_concat, call.config_of_failure _ hfailed] at h
          rcases ih h with ⟨before, first, after, rfl, hfirst⟩
          exact ⟨before, first, after ++ [call], by rw [List.append_assoc]; rfl, hfirst⟩
  · rintro ⟨before, call, after, rfl, hlasting, hcall, -⟩
    exact config_after_success start before after call c hlasting hcall

end Setup

/-- What calls in any order do. The configuration of a program is that of the
    first call which is to last and succeeds, and stays. Such a call later on
    returns it and does nothing else. All other calls depend on nothing but the
    file and the environment, and those that fail leave the configuration as it
    was, none included. A call that loads successfully sets the proxy variables
    that have a value. -/
theorem initialized_once (environment : Environment) (earlier later : List LoadCall)
    (call : LoadCall) :
    let start : Setup := { environment }
    let s := start.after earlier
    (∀ c, s.config = some c ↔ start.FirstSuccess earlier c) ∧
    (∀ c, s.config = some c → (s.after later).config = some c) ∧
    (∀ c, s.config = some c → call.isLasting = true → call.run s = (.ok c, s)) ∧
    (call.isLasting = false ∨ (∃ fault, (call.run s).1 = .error fault) →
      (call.run s).2.config = s.config) ∧
    (s.config = none ∨ call.isLasting = false →
      ∀ c, (call.run s).1 = .ok c ↔ call.resolve s = .ok c ∧
        ∀ v ∈ c.exports, Environment.isExportable v.1 v.2 = true) ∧
    (s.config = none ∨ call.isLasting = false →
      ∀ c, (call.run s).1 = .ok c →
        Environment.Sets c.proxies s.environment (call.run s).2.environment) := by
  intro start s
  refine ⟨start.config_eq_some_iff rfl earlier, s.config_after later, ?_,
    call.config_of_failure s, ?_, ?_⟩
  · intro c hc hlasting
    unfold LoadCall.run Setup.initialized
    rw [if_pos hlasting, hc]
  · intro hfresh c
    exact call.succeeds_iff s hfresh c
  · intro hfresh c h
    exact call.sets_of_success s hfresh c h

namespace Sample

/-- A call that initializes a program, with a proxy variable that has a value
    and one that is null. -/
def proxyCall : LoadCall where
  isLasting := true
  read := fun _ => .ok ("\x7b\"DRY_RUN\":false,\"GITHUB_ORGANIZATION\":\"org\"," ++
    "\"GITHUB_REPO\":\"repo\",\"PROXIES\":\x7b\"A\":\"1\",\"B\":null\x7d," ++
    "\"TEAM_TO_LABEL\":\x7b\x7d\x7d")
  path := "config.json"
  arguments := ["WORKERS=3"]

theorem proxyCall_run :
    ∃ c, (proxyCall.run (Setup.after { environment := ⟨["B=2"]⟩ } [missingCall])).1 = .ok c ∧
      c.workers = 3 := by
  have h : (match (proxyCall.run (Setup.after { environment := ⟨["B=2"]⟩ } [missingCall])).1 with
      | .ok c => some c.workers
      | .error _ => none) = some 3 := by
    decide +kernel
  cases hrun : (proxyCall.run (Setup.after { environment := ⟨["B=2"]⟩ } [missingCall])).1 with
  | error fault => simp only [hrun, reduceCtorEq] at h
  | ok c =>
      simp only [hrun, Option.some.injEq] at h
      exact ⟨c, rfl, h⟩

end Sample

/-- A program that cannot be initialized at first, then is, and then is asked
    to be initialized from a file that does not exist. -/
theorem initialized_once_missing_file :
    ∃ c : Config, c.workers = 3 ∧
      Setup.FirstSuccess { environment := ⟨["B=2"]⟩ } [Sample.missingCall, Sample.proxyCall] c ∧
      Environment.Sets c.proxies
        (Setup.after { environment := ⟨["B=2"]⟩ } [Sample.missingCall]).environment
        (Setup.after { environment := ⟨["B=2"]⟩ }
          [Sample.missingCall, Sample.proxyCall]).environment ∧
      Sample.missingCall.run
          (Setup.after { environment := ⟨["B=2"]⟩ } [Sample.missingCall, Sample.proxyCall])
        = (.ok c, Setup.after { environment := ⟨["B=2"]⟩ }
            [Sample.missingCall, Sample.proxyCall]) := by
  rcases Sample.proxyCall_run with ⟨c, hc, hworkers⟩
  have hfresh : (Setup.after { environment := ⟨["B=2"]⟩ } [Sample.missingCall]).config = none :=
    rfl
  have hconfig : (Setup.after { environment := ⟨["B=2"]⟩ }
      [Sample.missingCall, Sample.proxyCall]).config = some c :=
    Setup.config_after_success _ [Sample.missingCall] [] Sample.proxyCall c rfl hc
  rcases initialized_once ⟨["B=2"]⟩ [Sample.missingCall, Sample.proxyCall] [] Sample.missingCall
    with ⟨hfirst, -, hremembered, -⟩
  rcases initialized_once ⟨["B=2"]⟩ [Sample.missingCall] [] Sample.proxyCall with
    ⟨-, -, -, -, -, hsets⟩
  refine ⟨c, hworkers, (hfirst c).mp hconfig, ?_, hremembered c hconfig rfl⟩
  -- The missing file has left the environment of the start to the second call.
  have hset := hsets (Or.inl hfresh) c hc
  rw [← Setup.after_concat] at hset
  exact hset

end PullTriage
