import PullTriage.Cli.Program
import PullTriage.Proofs.Fetching
import PullTriage.Proofs.Loading
import PullTriage.Proofs.Quiet
import PullTriage.Proofs.Resolution
import PullTriage.Proofs.Summaries

/-!
# How the Program Ends

The exit code says whether the program could begin, not how it went on. It is
zero exactly if the configuration loads and the selection is fetched, and no
visit has a say in it: what fails from there on fails for one pull request and
is reported as its outcome.

Whatever can make the exit code another one comes before the first visit, and
so before the first command that writes. Up to there a program is quiet, and a
dry run is quiet to its end.

A program that ends well has printed a block for each pull request that was
fetched, in their order, and then the summary, whose total is the number of
the blocks.

## Main definitions

* `Command.Loads`: The configuration loads.
* `Command.session`: The session that a run begins with.
* `Outcome.Names`: A text about a pull request names it.
* `Transcript.Reports`: What was printed are the blocks and their summary.

## Theorems

* `Run.map_pull_visitAll`: Every visit has its outcome, whatever fails.
* `Outcome.names_text`: The block of an outcome names its pull request.
* `Command.perform_cases`: A program loads its configuration, or it ends there.
* `Command.performWith_cases`: A loaded program fetches its selection, or it
  ends there.
* `exit_code_and_effects`: How the program ends, and what it has done by then.
-/

namespace PullTriage

namespace Run

variable {σ : Type} [GitHub σ]

/-- The outcome of a visit is about the pull request that was visited. -/
theorem pull_visit (rules : Rules) (cutoff : Option Instant) (p : Pull) (s : σ) :
    (visit rules cutoff p s).1.pull = p := by
  unfold visit
  by_cases hold : isOld cutoff p = true
  · rw [if_pos hold]
    rfl
  · rw [if_neg hold]
    rcases hprocess : process rules p s with ⟨f | r, s'⟩
    · rfl
    · -- A report is made by the last step, from the pull request itself.
      have hok : (process rules p s).1 = .ok r := congrArg Prod.fst hprocess
      rcases (Call.andThen_eq_ok_iff _ _ s r).mp hok with ⟨found, -, hdecided⟩
      rcases (Call.andThen_eq_ok_iff _ _ _ r).mp hdecided with ⟨effect, -, hanswer⟩
      rw [Call.answer, Except.ok.injEq] at hanswer
      rw [← hanswer]
      rfl

/-- Every pull request has its outcome, in their order, whatever fails. -/
theorem map_pull_visitFrom (rules : Rules) (cutoff : Option Instant) (free : List Nat)
    (pulls : List Pull) (s : σ) :
    (visitFrom rules cutoff free pulls s).1.map Outcome.pull = pulls := by
  induction pulls generalizing free s with
  | nil => rfl
  | cons p rest ih =>
      have hfirst := pull_visit rules cutoff p (Timeline.atTime (free.headD (Timeline.clock s)) s)
      simp only [visitFrom, List.map_cons]
      rw [hfirst, ih]

theorem map_pull_visitAll (rules : Rules) (cutoff : Option Instant) (pulls : List Pull) (s : σ) :
    (visitAll rules cutoff pulls s).1.map Outcome.pull = pulls :=
  map_pull_visitFrom rules cutoff _ pulls s

end Run

namespace Outcome

/-- A text about a pull request begins with its number and its title, behind
    the word for what became of it. -/
def Names (p : Pull) (text : String) : Prop :=
  ∃ word ∈ ["", "IGNORE: ", "FAILED: "], ∃ rest, text = word ++ p.text ++ rest

theorem names_text (o : Outcome) : Names o.pull o.text := by
  cases o with
  | ignored p =>
      refine ⟨"IGNORE: ", by decide, " - Created: " ++ p.createdAt.display, ?_⟩
      simp only [text, pull, String.append_assoc]
  | failed p f =>
      refine ⟨"FAILED: ", by decide, " - " ++ f.text, ?_⟩
      simp only [text, pull, String.append_assoc]
  | processed r =>
      have hrest : ∃ rest, r.text = r.pull.text ++ rest := by
        unfold Report.text
        simp only [String.append_assoc]
        exact ⟨_, rfl⟩
      rcases hrest with ⟨rest, hrest⟩
      exact ⟨"", by decide, rest, by rw [text, hrest, String.empty_append]; rfl⟩

end Outcome

namespace Cli

/-- The notices that come before the first outcome. -/
def Notice.IsOpening : Notice → Prop
  | .proxy _ _ | .dryRun | .count _ _ | .window _ => True
  | .outcome _ | .summary _ => False

/-- What was printed are some lines about the run, a block for each of the
    pull requests, and the summary of the blocks. -/
structure Transcript.Reports (t : Transcript) (pulls : List Pull) (outcomes : List Outcome) :
    Prop where
  /-- There is an outcome for each pull request, in their order. -/
  pulls : outcomes.map Outcome.pull = pulls
  /-- Each block is about the pull request of its outcome. -/
  names : ∀ o ∈ outcomes, Outcome.Names o.pull o.text
  /-- The total is the number of the blocks, and is shown as such. -/
  total : (Summary.ofOutcomes outcomes).total = outcomes.length
  shown : ∃ rest, (Summary.ofOutcomes outcomes).text
    = "Processed " ++ toString (Summary.ofOutcomes outcomes).processed ++ " of " ++
      toString outcomes.length ++ " PRs (ignored: " ++ rest
  /-- The blocks and the summary are at the end of what was printed. -/
  text : ∃ opening : List Notice, (∀ n ∈ opening, n.IsOpening) ∧
    t.text = String.join (opening.map Notice.text) ++
      String.join (outcomes.map fun o => "\n" ++ o.text ++ "\n") ++
      "\n" ++ (Summary.ofOutcomes outcomes).text ++ "\n"

/-- A transcript that says the outcomes one by one, and then their summary. -/
theorem Transcript.reports_of_outcomes (opening : List Notice)
    (hopening : ∀ n ∈ opening, n.IsOpening) (outcomes : List Outcome)
    (started : List (List String)) (ending : Ending) :
    Transcript.Reports
      { notices := opening ++ outcomes.map .outcome ++ [.summary (Summary.ofOutcomes outcomes)]
        started, ending }
      (outcomes.map Outcome.pull) outcomes := by
  have htotal : (Summary.ofOutcomes outcomes).total = outcomes.length := by
    rw [Summary.ofOutcomes_eq]
    exact Nat.zero_add _
  refine ⟨rfl, fun o _ => o.names_text, htotal, ?_, opening, hopening, ?_⟩
  · unfold Summary.text
    rw [htotal]
    simp only [String.append_assoc]
    exact ⟨_, rfl⟩
  · have hblocks : (outcomes.map Notice.outcome).map Notice.text
        = outcomes.map fun o => "\n" ++ o.text ++ "\n" := List.map_map
    have hsummary : ∀ s : Summary, String.join ([Notice.summary s].map Notice.text)
        = "\n" ++ s.text ++ "\n" := by
      intro s
      rw [List.map_singleton, String.join_cons, String.join_nil, String.append_empty]
      rfl
    rw [Transcript.text, List.map_append, List.map_append, String.join_append,
      String.join_append, hblocks, hsummary]
    simp only [String.append_assoc]

namespace Command

/-- The configuration loads: it is resolved without an error, and all proxy
    variables can be exported. -/
structure Loads (c : Command) (w : Surroundings) (config : Config) : Prop where
  resolve : Setup.resolveFile w.read c.configFile c.overrides w.environment = .ok config
  exportable : ∀ v ∈ config.exports, Environment.isExportable v.1 v.2 = true

/-- There is at most one configuration that loads. -/
theorem Loads.unique {c : Command} {w : Surroundings} {config config' : Config}
    (h : c.Loads w config) (h' : c.Loads w config') : config = config' := by
  have heq := h.resolve
  rw [h'.resolve, Except.ok.injEq] at heq
  exact heq.symm

/-- The session that a run begins with. -/
def session (config : Config) (w : Surroundings) : Gh.Session :=
  { owner := config.organization, repository := config.repository, script := w.script }

/-- A program loads its configuration and goes on, or it ends in a failure
    without a command. -/
theorem perform_cases (c : Command) (w : Surroundings) :
    (∃ config, c.Loads w config ∧ c.perform w = c.performWith config w.script w.now) ∨
      (∀ config, ¬ c.Loads w config) ∧ (c.perform w).ending.code ≠ 0 ∧
        (c.perform w).started = [] := by
  -- Nothing was loaded before, so the call is the first one of its setup.
  let start : Setup := { environment := w.environment }
  rcases Setup.load_cases ⟨true, w.read, c.configFile, c.overrides⟩ start with
    ⟨e, hresolve, hload⟩ | ⟨config, hresolve, hexports, hload⟩ |
    ⟨config, first, v, rest, hresolve, hexports, -, hv, hload⟩
  · have hperform : c.perform w
        = { ending := .failure ("Invalid configuration in " ++ c.configFile) e.messages } := by
      unfold perform Setup.initialized
      simp only [start] at hload
      simp only [hload]
    refine Or.inr ⟨?_, ?_, ?_⟩
    · intro config hconfig
      have heq := hresolve.symm.trans hconfig.resolve
      simp only [reduceCtorEq] at heq
    · rw [hperform]
      exact Nat.one_ne_zero
    · rw [hperform]
  · refine Or.inl ⟨config, ⟨hresolve, hexports⟩, ?_⟩
    unfold perform Setup.initialized
    simp only [start] at hload
    simp only [hload]
  · have hperform : c.perform w = { ending := .broken } := by
      unfold perform Setup.initialized
      simp only [start] at hload
      simp only [hload]
    refine Or.inr ⟨?_, ?_, ?_⟩
    · -- The configuration is resolved, but one of its variables cannot be exported.
      intro config' hconfig
      have heq := hresolve.symm.trans hconfig.resolve
      rw [Except.ok.injEq] at heq
      have hmem : v ∈ config'.exports := by
        rw [← heq, hexports]
        exact List.mem_append_right _ List.mem_cons_self
      have htrue := hconfig.exportable v hmem
      rw [hv] at htrue
      exact Bool.false_ne_true htrue
    · rw [hperform]
      decide
    · rw [hperform]

/-- What is said before the first outcome. -/
theorem isOpening_of_mem (c : Command) (config : Config) (now : Instant) (pulls : List Pull) :
    ∀ n ∈ opening config ++ countOf pulls c.selection ++
      ((c.newer.map now.createdAfter).map Notice.window).toList, n.IsOpening := by
  intro n hn
  rcases List.mem_append.mp hn with hn | hn
  · rcases List.mem_append.mp hn with hn | hn
    · rcases List.mem_append.mp hn with hn | hn
      · rcases List.mem_map.mp hn with ⟨v, -, rfl⟩
        exact trivial
      · split at hn
        · rw [List.mem_singleton.mp hn]
          exact trivial
        · exact absurd hn List.not_mem_nil
    · unfold countOf at hn
      split at hn
      · rw [List.mem_singleton.mp hn]
        exact trivial
      · exact absurd hn List.not_mem_nil
  · rw [Option.map_map, Option.toList_map] at hn
    rcases List.mem_map.mp hn with ⟨minutes, -, rfl⟩
    exact trivial

/-- A loaded program fetches its selection and reports on all of it, or it
    ends in a failure. It writes nothing before it has fetched its selection,
    and nothing at all in a dry run. -/
theorem performWith_cases (c : Command) (config : Config) (w : Surroundings) :
    let t := c.performWith config w.script w.now
    (∃ pulls s', Run.collect c.selection (session config w) = (.ok pulls, s') ∧
      t.ending.code = 0 ∧
      let run := Run.visitAll (Rules.ofConfig config) (c.newer.map w.now.createdAfter) pulls s'
      t.started = run.2.history ∧ t.Reports pulls run.1) ∨
    ∃ f s', Run.collect c.selection (session config w) = (.error f, s') ∧
      t.ending.code ≠ 0 ∧ t.started = s'.history := by
  intro t
  rcases hcollect : Run.collect c.selection (session config w) with ⟨f | pulls, s'⟩
  · right
    have ht : t = { notices := opening config, started := s'.history, ending := .ofFailure f } := by
      simp only [t, performWith]
      unfold session at hcollect
      rw [hcollect]
    refine ⟨f, s', rfl, ?_, ?_⟩
    · rw [ht]
      exact Nat.one_ne_zero
    · rw [ht]
  · left
    rcases hvisits : Run.visitAll (Rules.ofConfig config) (c.newer.map w.now.createdAfter) pulls s'
      with ⟨outcomes, s''⟩
    have ht : t = { notices := opening config ++ countOf pulls c.selection ++
                      ((c.newer.map w.now.createdAfter).map Notice.window).toList ++
                      outcomes.map .outcome ++ [.summary (Summary.ofOutcomes outcomes)]
                    started := s''.history
                    ending := .success } := by
      simp only [t, performWith]
      unfold session at hcollect
      simp only [hcollect, hvisits]
    refine ⟨pulls, s', rfl, ?_, ?_, ?_⟩
    · rw [ht]
      rfl
    · rw [ht, hvisits]
    · have hpulls : outcomes.map Outcome.pull = pulls := by
        have hall := Run.map_pull_visitAll (Rules.ofConfig config)
          (c.newer.map w.now.createdAfter) pulls s'
        rwa [hvisits] at hall
      have hreports := Transcript.reports_of_outcomes _ (isOpening_of_mem c config w.now pulls)
        outcomes s''.history .success
      rw [hpulls] at hreports
      rw [ht, hvisits]
      exact hreports

/-- A program that does not fetch its selection has written nothing, and one
    that makes a dry run writes nothing. -/
theorem performWith_silent (c : Command) (config : Config) (w : Surroundings)
    (h : (c.performWith config w.script w.now).ending.code ≠ 0 ∨ config.dryRun = true) :
    ∀ line ∈ (c.performWith config w.script w.now).started, ¬ Gh.IsPost line := by
  have hcollect := Gh.Session.quiet_collect c.selection (session config w)
  rcases c.performWith_cases config w with ⟨pulls, s', hpulls, hcode, hstarted, -⟩ |
    ⟨f, s', hfault, -, hstarted⟩
  · rcases h with h | hdry
    · exact absurd hcode h
    -- The selection was fetched, so only the dry run keeps the visits from writing.
    · rw [hpulls] at hcollect
      rw [hstarted]
      exact (hcollect.trans
        (Gh.Session.visitFrom_silent (Rules.ofConfig config) hdry _ _ pulls s')).history rfl
  · rw [hfault] at hcollect
    rw [hstarted]
    exact hcollect.history rfl

/-- The resolved property of a loaded configuration is what the run goes by. -/
theorem Loads.dryRun_eq {c : Command} {w : Surroundings} {config : Config} (h : c.Loads w config)
    (hdry : config.properties.get? Property.dryRun = some (.bool true)) :
    config.dryRun = true := by
  have hresolve := h.resolve
  unfold Setup.resolveFile at hresolve
  split at hresolve
  · simp only [reduceCtorEq] at hresolve
  · split at hresolve
    · simp only [reduceCtorEq] at hresolve
    · rcases Resolve.resolved_of_resolve config hresolve with ⟨p, -, hread⟩
      rcases readOff_of_ofProperties p config hread with ⟨-, hreadOff, -⟩
      rw [hreadOff.dryRun, Option.some.injEq, Json.bool.injEq] at hdry
      exact hdry

/-- A loaded program ends well exactly if it fetches its selection. -/
theorem performWith_code_iff (c : Command) (config : Config) (w : Surroundings) :
    (c.performWith config w.script w.now).ending.code = 0 ↔
      ∃ pulls, (session config w).Fetches c.selection pulls := by
  simp only [← Gh.Session.collect_eq_ok_iff]
  rcases c.performWith_cases config w with ⟨pulls, s', hpulls, hcode, -⟩ |
    ⟨f, s', hfault, hcode, -⟩
  · exact ⟨fun _ => ⟨pulls, congrArg Prod.fst hpulls⟩, fun _ => hcode⟩
  · refine ⟨fun h => absurd h hcode, fun h => ?_⟩
    rcases h with ⟨pulls, hpulls⟩
    rw [hfault] at hpulls
    simp only [reduceCtorEq] at hpulls

/-- A loaded program reports on what it has fetched. -/
theorem performWith_reports (c : Command) (config : Config) (w : Surroundings)
    (pulls : List Pull) (h : (session config w).Fetches c.selection pulls) :
    ∃ s', Run.collect c.selection (session config w) = (.ok pulls, s') ∧
      (c.performWith config w.script w.now).Reports pulls
        (Run.visitAll (Rules.ofConfig config) (c.newer.map w.now.createdAfter) pulls s').1 := by
  have hfetched := (Gh.Session.collect_eq_ok_iff _ _ _).mpr h
  rcases c.performWith_cases config w with ⟨pulls', s', hpulls, -, -, hreports⟩ |
    ⟨f, s', hfault, -⟩
  · rw [hpulls, Except.ok.injEq] at hfetched
    rw [hfetched] at hpulls hreports
    exact ⟨s', hpulls, hreports⟩
  · rw [hfault] at hfetched
    simp only [reduceCtorEq] at hfetched

end Command

end Cli

open Cli in
/-- How the program ends, and what it has done by then, for all arguments that
    ask for a run. The exit code is zero if the configuration loads and the
    selection is fetched, and only then. With another exit code nothing was
    written, and in a dry run nothing is written with any. With exit code zero
    the output ends in a block for each pull request that was fetched and in
    the summary of the blocks. -/
theorem exit_code_and_effects (arguments : List String) (exported : Option String)
    (w : Surroundings) (c : Command) (hc : Command.ofArguments arguments exported = .ok c) :
    ∃ t, (Command.ofArguments arguments exported).map (fun c => c.perform w) = .ok t ∧
      (t.ending.code = 0 ↔ ∃ config pulls, c.Loads w config ∧
        (Command.session config w).Fetches c.selection pulls) ∧
      (t.ending.code ≠ 0 → ∀ line ∈ t.started, ¬ Gh.IsPost line) ∧
      (∀ config, c.Loads w config →
        config.properties.get? Property.dryRun = some (.bool true) →
        ∀ line ∈ t.started, ¬ Gh.IsPost line) ∧
      ∀ config pulls, c.Loads w config →
        (Command.session config w).Fetches c.selection pulls →
        ∃ s', Run.collect c.selection (Command.session config w) = (.ok pulls, s') ∧
          t.Reports pulls (Run.visitAll (Rules.ofConfig config)
            (c.newer.map w.now.createdAfter) pulls s').1 := by
  refine ⟨c.perform w, by rw [hc, Except.map], ?_⟩
  rcases c.perform_cases w with ⟨config, hloads, hperform⟩ | ⟨hnone, hcode, hstarted⟩
  · rw [hperform]
    refine ⟨?_, ?_, ?_, ?_⟩
    · rw [c.performWith_code_iff config w]
      constructor
      · intro h
        rcases h with ⟨pulls, hpulls⟩
        exact ⟨config, pulls, hloads, hpulls⟩
      · intro h
        rcases h with ⟨config', pulls, hloads', hpulls⟩
        exact ⟨pulls, hloads'.unique hloads ▸ hpulls⟩
    · intro hcode
      exact c.performWith_silent config w (Or.inl hcode)
    · intro config' hloads' hdry
      rw [hloads'.unique hloads] at hdry
      exact c.performWith_silent config w (Or.inr (hloads.dryRun_eq hdry))
    · intro config' pulls hloads' hpulls
      rw [hloads'.unique hloads] at hpulls ⊢
      exact c.performWith_reports config w pulls hpulls
  · -- No command was started, and there is no configuration to speak of.
    have hsilent : ∀ line ∈ (c.perform w).started, ¬ Gh.IsPost line := by
      intro line hline
      rw [hstarted] at hline
      exact absurd hline List.not_mem_nil
    refine ⟨⟨fun h => absurd h hcode, fun h => ?_⟩, fun _ => hsilent, fun _ _ _ => hsilent, ?_⟩
    · rcases h with ⟨config, -, hloads, -⟩
      exact absurd hloads (hnone config)
    · intro config _ hloads _
      exact absurd hloads (hnone config)

namespace Sample

/-- A run on all open pull requests. -/
def openedRun : Cli.Command where
  configFile := "config.json"
  selection := .all .opened
  newer := none
  overrides := ["WORKERS=2"]

/-- A client program that lists one pull request, and is gone from then on. -/
def lister (arguments : List String) : Gh.Reply :=
  match arguments with
  | ["repos/org/repo/pulls?state=open&per_page=100", "--paginate"] =>
    .ends ⟨0, Utf8.encode ("[\x7b\"number\":7,\"user\":\x7b\"login\":\"dev\"\x7d," ++
      "\"created_at\":\"2024-05-06T07:08:09Z\"\x7d]").toList, []⟩ 20
  | _ => .absent

/-- A configuration that loads, and that client program. -/
def surroundings : Cli.Surroundings where
  read := fun _ => .ok ("\x7b\"DRY_RUN\":false,\"GITHUB_ORGANIZATION\":\"org\"," ++
    "\"GITHUB_REPO\":\"repo\",\"PROXIES\":\x7b\x7d,\"TEAM_TO_LABEL\":\x7b\x7d\x7d")
  environment := {}
  script := .table lister
  now := .earliest

end Sample

open Cli in
/-- The only pull request fails, and the program ends well and reports it. -/
theorem exit_code_and_effects_failing :
    Command.ofArguments ["WORKERS=2"] none = .ok Sample.openedRun ∧
      ∃ t, (Command.ofArguments ["WORKERS=2"] none).map (fun c => c.perform Sample.surroundings)
          = .ok t ∧
        t.text = "\nPRs count (open): 1\n\nFAILED: PR #7 \"\" - Failed to fetch user dev: " ++
          "Failed to execute gh api: No such file or directory (os error 2)\n\n" ++
          "Processed 0 of 1 PRs (ignored: 0, labeled: 0, failed: 1)\n\n" ++
          "Non org user with affiliated email or company:\n\n" ++
          "Non org user with NO affiliated email or company:\n\n" ∧
        t.ending.code = 0 ∧ ∃ config pulls outcomes,
          Sample.openedRun.Loads Sample.surroundings config ∧
          (Command.session config Sample.surroundings).Fetches (.all .opened) pulls ∧
          t.Reports pulls outcomes := by
  have hc : Command.ofArguments ["WORKERS=2"] none = .ok Sample.openedRun := by decide +kernel
  have hcode : (Sample.openedRun.perform Sample.surroundings).ending.code = 0 := by decide +kernel
  refine ⟨hc, ?_⟩
  rcases exit_code_and_effects ["WORKERS=2"] none Sample.surroundings Sample.openedRun hc with
    ⟨t, ht, hiff, -, -, hreports⟩
  have hperform : t = Sample.openedRun.perform Sample.surroundings := by
    rw [hc, Except.map, Except.ok.injEq] at ht
    exact ht.symm
  have hzero : t.ending.code = 0 := hperform ▸ hcode
  -- That the configuration loads and the listing is fetched follows from the exit code.
  rcases hiff.mp hzero with ⟨config, pulls, hloads, hpulls⟩
  rcases hreports config pulls hloads hpulls with ⟨s', -, hblocks⟩
  refine ⟨t, ht, ?_, hzero, config, pulls, _, hloads, hpulls, hblocks⟩
  rw [hperform]
  decide +kernel

end PullTriage
