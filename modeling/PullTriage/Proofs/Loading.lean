import PullTriage.Config.Setup

/-!
# Calls That Load a Configuration

What a call does to the environment when it does not return a configuration.
Reading, parsing and resolving have no effect, so an error in the
configuration leaves everything as it was. The export of the proxy variables
comes last, and a variable that cannot exist breaks the program off in the
middle of it: the variables before it are exported and those after it are
not. So a load is not all or nothing, and `exportAll_cases` says how far it
got.

## Main definitions

* `Environment.exporting`: An environment after exports that succeeded.
* `LoadCall`: A call that loads a configuration, for good or not.
* `LoadCall.run`: What it returns and what it does.
* `Setup.after`: A program after a sequence of calls.

## Theorems

* `Environment.exportAll_cases`: How far an export of several variables gets.
* `Setup.load_cases`: The three ways in which loading can end.
* `LoadCall.run_cases`: A call that fails has loaded.
* `failed_load_effect`: A failed call has no effect, or is broken off in the
  middle of its exports.
* `load_not_atomic`: A call that fails and has exported a variable.
-/

namespace PullTriage

namespace Environment

/-- The environment after exporting variables that can exist. -/
def exporting (e : Environment) (exports : List (String × String)) : Environment :=
  exports.foldl (fun e v => e.insert v.1 v.2) e

/-- Variables are exported up to the first one that cannot exist. -/
theorem exportAll_cases (exports : List (String × String)) (e : Environment) :
    ((∀ v ∈ exports, isExportable v.1 v.2 = true) ∧
      exportAll exports e = (true, e.exporting exports)) ∨
    ∃ first v rest, exports = first ++ v :: rest ∧
      (∀ w ∈ first, isExportable w.1 w.2 = true) ∧ isExportable v.1 v.2 = false ∧
      exportAll exports e = (false, e.exporting first) := by
  induction exports generalizing e with
  | nil => exact Or.inl ⟨fun v hv => absurd hv List.not_mem_nil, rfl⟩
  | cons v rest ih =>
      cases hv : isExportable v.1 v.2 with
      | false =>
          refine Or.inr ⟨[], v, rest, rfl, fun w hw => absurd hw List.not_mem_nil, hv, ?_⟩
          rw [exportAll, hv, if_neg Bool.false_ne_true]
          rfl
      | true =>
          have hnext : exportAll (v :: rest) e = exportAll rest (e.insert v.1 v.2) := by
            rw [exportAll, hv, if_pos rfl]
          rcases ih (e.insert v.1 v.2) with ⟨hall, h⟩ | ⟨first, w, more, hrest, hfirst, hw, h⟩
          · exact Or.inl ⟨List.forall_mem_cons.mpr ⟨hv, hall⟩, hnext.trans h⟩
          · refine Or.inr ⟨v :: first, w, more, ?_, ?_, hw, hnext.trans h⟩
            · rw [hrest, List.cons_append]
            · exact List.forall_mem_cons.mpr ⟨hv, hfirst⟩

end Environment

/-- A call that loads a configuration. The files may be different ones at each
    call. -/
structure LoadCall where
  /-- Whether the configuration is to be that of the program for good. -/
  isLasting : Bool
  /-- How files are read at the time. -/
  read : Reading
  /-- The path of the configuration file. -/
  path : String
  /-- The arguments of the command line. -/
  arguments : List String

/-- What the call returns, and the program after it. -/
def LoadCall.run (call : LoadCall) (s : Setup) : Except LoadFault Config × Setup :=
  if call.isLasting then s.initialized call.read call.path call.arguments
  else s.load call.read call.path call.arguments

/-- What the call resolves its file to. -/
def LoadCall.resolve (call : LoadCall) (s : Setup) : Except ConfigError Config :=
  Setup.resolveFile call.read call.path call.arguments s.environment

namespace Setup

/-- The program after a sequence of calls, whatever they return. -/
def after (s : Setup) (calls : List LoadCall) : Setup :=
  calls.foldl (fun s call => (call.run s).2) s

/-- Loading ends in an error without any effect, or with the configuration and
    all of its exports, or it is broken off in the middle of them. -/
theorem load_cases (call : LoadCall) (s : Setup) :
    (∃ e, call.resolve s = .error e ∧
      s.load call.read call.path call.arguments = (.error (.config e), s)) ∨
    (∃ c, call.resolve s = .ok c ∧
      (∀ v ∈ c.exports, Environment.isExportable v.1 v.2 = true) ∧
      s.load call.read call.path call.arguments
        = (.ok c, { s with environment := s.environment.exporting c.exports })) ∨
    ∃ c first v rest, call.resolve s = .ok c ∧ c.exports = first ++ v :: rest ∧
      (∀ w ∈ first, Environment.isExportable w.1 w.2 = true) ∧
      Environment.isExportable v.1 v.2 = false ∧
      s.load call.read call.path call.arguments
        = (.error .broken, { s with environment := s.environment.exporting first }) := by
  unfold load LoadCall.resolve
  cases resolveFile call.read call.path call.arguments s.environment with
  | error e => exact Or.inl ⟨e, rfl, rfl⟩
  | ok c =>
      right
      rcases Environment.exportAll_cases c.exports s.environment with
        ⟨hall, h⟩ | ⟨first, v, rest, hexports, hfirst, hv, h⟩
      · refine Or.inl ⟨c, rfl, hall, ?_⟩
        simp only [h]
      · refine Or.inr ⟨c, first, v, rest, rfl, hexports, hfirst, hv, ?_⟩
        simp only [h]

end Setup

/-- A call that fails has loaded, whether or not its configuration was to
    last. -/
theorem LoadCall.run_cases (call : LoadCall) (s : Setup) :
    (∃ c, (call.run s).1 = .ok c) ∨
      call.run s = s.load call.read call.path call.arguments := by
  unfold run Setup.initialized
  by_cases hlasting : call.isLasting = true
  · rw [if_pos hlasting]
    cases s.config with
    | some c => exact Or.inl ⟨c, rfl⟩
    | none =>
        rcases s.load call.read call.path call.arguments with ⟨f | c, s'⟩
        · exact Or.inr rfl
        · exact Or.inl ⟨c, rfl⟩
  · rw [if_neg hlasting]
    exact Or.inr rfl

/-- A call that returns no configuration leaves the program as it was, with
    one exception: if some variables are exported before one that cannot exist,
    they stay exported. This is so after any calls. -/
theorem failed_load_effect (start : Setup) (earlier : List LoadCall) (call : LoadCall)
    (fault : LoadFault) (h : (call.run (start.after earlier)).1 = .error fault) :
    (call.run (start.after earlier)).2 = start.after earlier ∨
      ∃ c first v rest, fault = .broken ∧ call.resolve (start.after earlier) = .ok c ∧
        c.exports = first ++ v :: rest ∧ first ≠ [] ∧
        (∀ w ∈ first, Environment.isExportable w.1 w.2 = true) ∧
        Environment.isExportable v.1 v.2 = false ∧
        (call.run (start.after earlier)).2 = { start.after earlier with
          environment := (start.after earlier).environment.exporting first } := by
  generalize start.after earlier = s at h ⊢
  rcases call.run_cases s with ⟨c, hc⟩ | hload
  · rw [hc] at h
    exact absurd h (by simp only [reduceCtorEq, not_false_eq_true])
  · rw [hload] at h ⊢
    rcases Setup.load_cases call s with ⟨e, -, hend⟩ | ⟨c, -, -, hend⟩ |
      ⟨c, first, v, rest, hresolve, hexports, hfirst, hv, hend⟩
    · rw [hend]
      exact Or.inl rfl
    · rw [hend] at h
      exact absurd h (by simp only [reduceCtorEq, not_false_eq_true])
    · rw [hend] at h ⊢
      by_cases hnil : first = []
      · left
        rw [hnil]
        rfl
      · exact Or.inr ⟨c, first, v, rest, (Except.error.inj h).symm, hresolve, hexports, hnil,
          hfirst, hv, rfl⟩

namespace Sample

/-- A configuration with two proxy variables, of which the second cannot
    exist. -/
def brokenCall : LoadCall where
  isLasting := false
  read := fun _ => .ok ("\x7b\"DRY_RUN\":false,\"GITHUB_ORGANIZATION\":\"org\",\"GITHUB_REPO\":\"repo\"," ++
    "\"PROXIES\":\x7b\"A\":\"1\",\"B=\":\"2\"\x7d,\"TEAM_TO_LABEL\":\x7b\x7d\x7d")
  path := "config.json"
  arguments := []

/-- A call that finds no file. -/
def missingCall : LoadCall where
  isLasting := true
  read := fun _ => .error .missing
  path := "config.json"
  arguments := []

theorem brokenCall_run :
    (brokenCall.run (Setup.after { environment := {} } [missingCall])).1 = .error .broken ∧
      (brokenCall.run (Setup.after { environment := {} } [missingCall])).2.environment
        = ⟨["A=1"]⟩ := by
  have h : (match brokenCall.run (Setup.after { environment := {} } [missingCall]) with
      | (.error fault, s) => some (fault, s.environment)
      | (.ok _, _) => none) = some (.broken, ⟨["A=1"]⟩) := by
    decide +kernel
  rcases hrun : brokenCall.run (Setup.after { environment := {} } [missingCall]) with
    ⟨fault | c, s⟩
  · simp only [hrun, Option.some.injEq, Prod.mk.injEq] at h
    exact ⟨congrArg Except.error h.1, h.2⟩
  · simp only [hrun, reduceCtorEq] at h

end Sample

/-- A program that is broken off at its second call. -/
theorem failed_load_effect_broken :
    let s := Setup.after { environment := {} } [Sample.missingCall]
    (Sample.brokenCall.run s).1 = .error .broken ∧
      ((Sample.brokenCall.run s).2 = s ∨
        ∃ c first v rest, Sample.brokenCall.resolve s = .ok c ∧
          c.exports = first ++ v :: rest ∧ first ≠ [] ∧
          (∀ w ∈ first, Environment.isExportable w.1 w.2 = true) ∧
          Environment.isExportable v.1 v.2 = false ∧
          (Sample.brokenCall.run s).2
            = { s with environment := s.environment.exporting first }) := by
  refine ⟨Sample.brokenCall_run.1, ?_⟩
  rcases failed_load_effect _ _ _ _ Sample.brokenCall_run.1 with h | ⟨c, first, v, rest, -, h⟩
  · exact Or.inl h
  · exact Or.inr ⟨c, first, v, rest, h⟩

/-- A call that returns no configuration can change the environment: the first
    proxy variable is exported, the second is not. -/
theorem load_not_atomic :
    ∃ (s : Setup) (call : LoadCall), (call.run s).1 = .error .broken ∧
      s.environment.lookup "A" = none ∧ (call.run s).2.environment.lookup "A" = some "1" := by
  refine ⟨Setup.after { environment := {} } [Sample.missingCall], Sample.brokenCall,
    Sample.brokenCall_run.1, by decide +kernel, ?_⟩
  rw [Sample.brokenCall_run.2]
  decide +kernel

end PullTriage
