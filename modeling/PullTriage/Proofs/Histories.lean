import Mathlib.Data.List.Nodup
import PullTriage.Proofs.Memory

/-!
# Histories of Passes

A repository is labelled by one pass after another. A pass may cover the open
pull requests, the closed ones or a single one, leave out what is too old, and
have any of its calls fail. Nothing is agreed between passes: each of them
goes by the labels that it finds.

What a pass may do to a repository is `Grown`: pull requests, members and
users stay, and the writes get longer by labels that are desired and were
absent, none of them twice. It holds of one pass because a visit writes its
plan or nothing, and of two passes in turn because what the first has written
is present for the second. So it holds of every history.

A pass that visits a pull request without a failure leaves nothing desired
absent there, and after that there is nothing left to write.

## Main definitions

* `Pass`: A run with the calls that fail in it.
* `Memory.afterPass`, `Memory.after`: The repository after passes.
* `Grown`: What passes may do to a repository.
* `Pass.Settles`: A pass visits a pull request and no call of the visit fails.

## Theorems

* `labelPairs_nodup`: Writes of distinct numbers write no label twice.
* `grown_recording`: The outcomes of a pass let a repository grow.
* `grown_afterPass`: A pass lets a repository grow.
* `Grown.trans`: Growing twice is growing.
* `grown_after`: A history lets a repository grow.
* `Grown.not_written`: Nothing is left to write where all labels are present.
* `desired_present_of_settles`: A pull request that was visited has its labels.
* `labels_of_settles`: The labels of a pull request that was visited.
* `labels_converge`: Labels converge over every history.
-/

namespace PullTriage

/-- One pass over a repository: a run with the calls that fail in it. -/
structure Pass where
  /-- Which pull requests it goes over. -/
  selection : Selection
  /-- The instant after which pull requests are recent. -/
  cutoff : Option Instant
  /-- The calls that fail. -/
  faults : Faults

namespace Memory

/-- The repository as a pass meets it, with the failures of the pass. -/
def facing (m : Memory) (pass : Pass) : Memory :=
  { m with faults := pass.faults }

/-- The repository after a pass. -/
def afterPass (rules : Rules) (m : Memory) (pass : Pass) : Memory :=
  (Run.run rules pass.selection pass.cutoff (m.facing pass)).2

/-- The repository after the passes of a history. -/
def after (rules : Rules) (m : Memory) (history : List Pass) : Memory :=
  history.foldl (afterPass rules) m

/-- All pull requests, as they were at first. -/
def listed (m : Memory) : List Pull :=
  m.opened ++ m.closed

theorem after_append (rules : Rules) (m : Memory) (history later : List Pass) :
    m.after rules (history ++ later) = (m.after rules history).after rules later :=
  List.foldl_append

end Memory

/-- Writes to distinct numbers, none of which repeats a label, write no label
    twice. -/
theorem labelPairs_nodup (writes : List (Nat × List String))
    (hnumbers : (writes.map Prod.fst).Nodup) (hlabels : ∀ w ∈ writes, w.2.Nodup) :
    (labelPairs writes).Nodup := by
  refine List.nodup_flatMap.mpr ⟨fun w hw => ?_, ?_⟩
  · exact (hlabels w hw).map (fun a b hab => (Prod.mk.inj hab).2)
  · refine (List.pairwise_map.mp hnumbers).imp (fun {v w} hne => ?_)
    intro x hv hw
    rcases List.mem_map.mp hv with ⟨a, -, rfl⟩
    rcases List.mem_map.mp hw with ⟨b, -, hb⟩
    exact hne (Prod.mk.inj hb).1.symm

/-- What passes may do to a repository: the writes get longer, by labels that
    are desired and were absent, and by no label twice. -/
structure Grown (rules : Rules) (m m' : Memory) : Prop where
  opened : m'.opened = m.opened
  closed : m'.closed = m.closed
  members : m'.members = m.members
  identities : m'.identities = m.identities
  grew : ∃ added, m'.writes = m.writes ++ added ∧ (labelPairs added).Nodup ∧
    (∀ w ∈ added, w.2 ≠ [] ∧ ∃ p ∈ m.listed, p.number = w.1) ∧
    ∀ p ∈ m.listed, ∀ x, (p.number, x) ∈ labelPairs added →
      x ∈ m.desired rules p ∧ x ∉ (m.current p).labels

namespace Grown

theorem refl (rules : Rules) (m : Memory) : Grown rules m m where
  opened := rfl
  closed := rfl
  members := rfl
  identities := rfl
  grew := by
    refine ⟨[], (List.append_nil _).symm, List.nodup_nil, fun w hw => ?_, fun p _ x hx => ?_⟩
    · exact absurd hw List.not_mem_nil
    · exact absurd hx List.not_mem_nil

theorem listed_eq {rules : Rules} {m m' : Memory} (h : Grown rules m m') :
    m'.listed = m.listed := by
  unfold Memory.listed
  rw [h.opened, h.closed]

theorem desired_eq {rules : Rules} {m m' : Memory} (h : Grown rules m m') (p : Pull) :
    m'.desired rules p = m.desired rules p := by
  unfold Memory.desired Memory.author Memory.profile
  rw [h.members, h.identities]

/-- Growing twice is growing. What is absent the second time was not written
    the first time. -/
theorem trans {rules : Rules} {m m' m'' : Memory} (h : Grown rules m m')
    (h' : Grown rules m' m'') : Grown rules m m'' where
  opened := h'.opened.trans h.opened
  closed := h'.closed.trans h.closed
  members := h'.members.trans h.members
  identities := h'.identities.trans h.identities
  grew := by
    rcases h.grew with ⟨first, hw, hnodup, hnumber, hlabel⟩
    rcases h'.grew with ⟨second, hw', hnodup', hnumber', hlabel'⟩
    rw [h.listed_eq] at hnumber' hlabel'
    -- What the first has written is present for the second.
    have hcurrent : ∀ p x, x ∈ (m'.current p).labels ↔
        x ∈ (m.current p).labels ∨ (p.number, x) ∈ labelPairs first := by
      intro p x
      rw [Memory.mem_current, Memory.mem_current, hw, labelPairs_append, List.mem_append, or_assoc]
    refine ⟨first ++ second, by rw [hw', hw, List.append_assoc], ?_, ?_, ?_⟩
    · rw [labelPairs_append]
      refine hnodup.append hnodup' (fun pair hfirst hsecond => ?_)
      rcases pair with ⟨number, x⟩
      rcases (mem_labelPairs second number x).mp hsecond with ⟨w, hmem, rfl, -⟩
      rcases (hnumber' w hmem).2 with ⟨p, hp, hpw⟩
      rw [← hpw] at hfirst hsecond
      exact (hlabel' p hp x hsecond).2 ((hcurrent p x).mpr (Or.inr hfirst))
    · intro w hmem
      rcases List.mem_append.mp hmem with hmem | hmem
      · exact hnumber w hmem
      · exact hnumber' w hmem
    · intro p hp x hx
      rw [labelPairs_append, List.mem_append] at hx
      rcases hx with hx | hx
      · exact hlabel p hp x hx
      · rcases hlabel' p hp x hx with ⟨hdesired, habsent⟩
        exact ⟨h.desired_eq p ▸ hdesired, fun hc => habsent ((hcurrent p x).mpr (Or.inl hc))⟩

theorem labels_subset {rules : Rules} {m m' : Memory} (h : Grown rules m m') (p : Pull)
    (x : String) (hx : x ∈ (m.current p).labels) : x ∈ (m'.current p).labels := by
  rcases h.grew with ⟨added, hw, -⟩
  rw [Memory.mem_current, hw, labelPairs_append, List.mem_append, ← or_assoc]
  exact Or.inl ((Memory.mem_current m p x).mp hx)

theorem labels_bounded {rules : Rules} {m m' : Memory} (h : Grown rules m m') (p : Pull)
    (hp : p ∈ m.listed) (x : String) (hx : x ∈ (m'.current p).labels) :
    x ∈ (m.current p).labels ∨ x ∈ m.desired rules p := by
  rcases h.grew with ⟨added, hw, -, -, hlabel⟩
  rw [Memory.mem_current, hw, labelPairs_append, List.mem_append, ← or_assoc,
    ← Memory.mem_current] at hx
  exact hx.imp id (fun hpair => (hlabel p hp x hpair).1)

/-- Where all desired labels are present, nothing is left to write. -/
theorem not_written {rules : Rules} {m m' : Memory} (h : Grown rules m m') (p : Pull)
    (hp : p ∈ m.listed) (hpresent : ∀ x ∈ m.desired rules p, x ∈ (m.current p).labels) :
    ∃ more, m'.writes = m.writes ++ more ∧ ∀ w ∈ more, w.1 ≠ p.number := by
  rcases h.grew with ⟨more, hw, -, hnumber, hlabel⟩
  refine ⟨more, hw, fun w hmem hwp => ?_⟩
  -- A write to `p` would bring a label that is desired and absent.
  rcases List.exists_mem_of_ne_nil w.2 (hnumber w hmem).1 with ⟨x, hx⟩
  have hpair : (p.number, x) ∈ labelPairs more :=
    (mem_labelPairs _ _ _).mpr ⟨w, hmem, hwp, hx⟩
  rcases hlabel p hp x hpair with ⟨hdesired, habsent⟩
  exact habsent (hpresent x hdesired)

end Grown

/-- The outcomes of a pass let a repository grow. A visit writes its plan or
    nothing, and the numbers of the visits are distinct. -/
theorem grown_recording (rules : Rules) (cutoff : Option Instant) (m : Memory)
    (hdistinct : (m.listed.map Pull.number).Nodup) (visited : List Pull)
    (hvisited : visited.Sublist m.listed) :
    Grown rules m
      (m.recording ((visited.map m.current).map (m.answers.outcome rules cutoff))) where
  opened := rfl
  closed := rfl
  members := rfl
  identities := rfl
  grew := by
    -- Every write is the plan of a visit.
    have hwrite : ∀ w ∈ ((visited.map m.current).map (m.answers.outcome rules cutoff)).filterMap
        Outcome.write?, ∃ p ∈ visited, w = (p.number, m.planned rules (m.current p)) ∧
          m.planned rules (m.current p) ≠ [] := by
      intro w hw
      rcases List.mem_filterMap.mp hw with ⟨o, ho, how⟩
      rcases List.mem_map.mp ho with ⟨q, hq, rfl⟩
      rcases List.mem_map.mp hq with ⟨p, hp, rfl⟩
      rcases (m.write?_outcome rules cutoff _ w).mp how with ⟨-, -, hplan, -, -, rfl⟩
      exact ⟨p, hp, rfl, hplan⟩
    refine ⟨_, rfl, labelPairs_nodup _ ?_ ?_, ?_, ?_⟩
    · refine (numbers_write?_sublist _).nodup ?_
      have hnumbers : ((visited.map m.current).map (m.answers.outcome rules cutoff)).map
          (fun o => o.pull.number) = visited.map Pull.number := by
        rw [List.map_map, List.map_map]
        refine List.map_congr_left (fun p _ => ?_)
        have hpull := m.answers.pull_outcome rules cutoff (m.current p)
        exact (congrArg Pull.number hpull).trans rfl
      rw [hnumbers]
      exact (hvisited.map Pull.number).nodup hdistinct
    · intro w hw
      rcases hwrite w hw with ⟨p, -, rfl, -⟩
      exact Run.nodup_decide rules _ _ _
    · intro w hw
      rcases hwrite w hw with ⟨p, hp, rfl, hplan⟩
      exact ⟨hplan, p, hvisited.subset hp, rfl⟩
    · intro p hp x hx
      rcases (mem_labelPairs _ _ _).mp hx with ⟨w, hw, hnumber, hxw⟩
      rcases hwrite w hw with ⟨q, hq, rfl, -⟩
      -- Distinct numbers: the pull request that was visited is this one.
      have hqp : q = p := List.inj_on_of_nodup_map hdistinct (hvisited.subset hq) hp hnumber
      rw [← hqp]
      exact (m.mem_planned rules (m.current q) x).mp hxw

/-- A pass lets a repository grow. -/
theorem grown_afterPass (rules : Rules) (m : Memory)
    (hdistinct : (m.listed.map Pull.number).Nodup) (pass : Pass) :
    Grown rules m (m.afterPass rules pass) := by
  unfold Memory.afterPass
  cases hc : (Run.collect pass.selection (m.facing pass)).1 with
  | error f =>
      rw [Memory.run_error _ _ _ _ f hc]
      exact ⟨rfl, rfl, rfl, rfl, (Grown.refl rules m).grew⟩
  | ok pulls =>
      rw [Memory.run_ok _ _ _ _ pulls hc]
      have hselected := Memory.selected_of_collect _ _ _ hc
      rcases Memory.selected_sublist _ _ _ hselected with ⟨visited, hvisited, rfl⟩
      have h := grown_recording rules pass.cutoff (m.facing pass) hdistinct visited hvisited
      exact ⟨h.opened, h.closed, h.members, h.identities, h.grew⟩

theorem grown_after (rules : Rules) (m : Memory)
    (hdistinct : (m.listed.map Pull.number).Nodup) (history : List Pass) :
    Grown rules m (m.after rules history) := by
  induction history generalizing m with
  | nil => exact Grown.refl rules m
  | cons pass rest ih =>
      have hpass := grown_afterPass rules m hdistinct pass
      exact hpass.trans (ih (m.afterPass rules pass) (hpass.listed_eq ▸ hdistinct))

/-- The pass visits the pull request outside of its cutoff, and none of the
    calls that the visit makes fails. -/
structure Pass.Settles (rules : Rules) (pass : Pass) (m : Memory) (p : Pull) : Prop where
  covered : ∃ pulls, (Run.collect pass.selection (m.facing pass)).1 = .ok pulls ∧
    m.current p ∈ pulls
  recent : Run.isOld pass.cutoff p = false
  identity : pass.faults.identity p.author = none
  isMember : pass.faults.isMember p.author = none
  teams : pass.faults.teams p.number = none
  addLabels : m.planned rules (m.current p) ≠ [] → pass.faults.addLabels p.number = none

/-- After a visit without a failure all desired labels are present: those that
    were absent are written. -/
theorem desired_present_of_settles (rules : Rules) (hwrites : rules.dryRun = false) (m : Memory)
    (pass : Pass) (p : Pull) (h : pass.Settles rules m p) (x : String)
    (hx : x ∈ m.desired rules p) : x ∈ ((m.afterPass rules pass).current p).labels := by
  rcases h.covered with ⟨pulls, hcollect, hmem⟩
  have hafter : m.afterPass rules pass = (m.facing pass).recording
      (pulls.map ((m.facing pass).answers.outcome rules pass.cutoff)) := by
    unfold Memory.afterPass
    rw [Memory.run_ok _ _ _ _ pulls hcollect]
  rw [hafter, Memory.mem_current_recording]
  by_cases hpresent : x ∈ (m.current p).labels
  · exact Or.inl hpresent
  · right
    have hplanned : x ∈ m.planned rules (m.current p) :=
      (m.mem_planned rules (m.current p) x).mpr ⟨hx, hpresent⟩
    have hplan : m.planned rules (m.current p) ≠ [] := List.ne_nil_of_mem hplanned
    -- No lookup fails and the labels are not refused, so the plan is written.
    have hlook : (m.facing pass).faults.lookUp? (m.current p) = none := by
      change (pass.faults.identity p.author).or
        ((pass.faults.isMember p.author).or (pass.faults.teams p.number)) = none
      rw [h.identity, h.isMember, h.teams]
      rfl
    have hwrite : ((m.facing pass).answers.outcome rules pass.cutoff (m.current p)).write?
        = some (p.number, m.planned rules (m.current p)) :=
      ((m.facing pass).write?_outcome rules pass.cutoff (m.current p) _).mpr
        ⟨h.recent, hlook, hplan, hwrites, h.addLabels hplan, rfl⟩
    rw [mem_labelPairs]
    exact ⟨_, List.mem_filterMap.mpr ⟨_, List.mem_map_of_mem hmem, hwrite⟩, rfl, hplanned⟩

/-- The labels of a pull request that a pass settles: those of the start and
    the desired ones. -/
theorem labels_of_settles (rules : Rules) (hwrites : rules.dryRun = false) (m : Memory)
    (hdistinct : (m.listed.map Pull.number).Nodup) (history : List Pass) (pass : Pass) (p : Pull)
    (hp : p ∈ m.listed) (h : pass.Settles rules (m.after rules history) p) :
    ((m.after rules (history ++ [pass])).current p).labels
      = (m.current p).labels.insertAll (m.desired rules p) := by
  have hgrown := grown_after rules m hdistinct
  refine OrderedSet.ext_of_mem _ _ (fun x => ?_)
  rw [OrderedSet.mem_insertAll]
  -- Labels are bounded by the desired ones, and those are all present now.
  refine ⟨(hgrown _).labels_bounded p hp x, fun hx => ?_⟩
  rcases hx with hx | hx
  · exact (hgrown _).labels_subset p x hx
  · rw [Memory.after_append]
    refine desired_present_of_settles _ hwrites _ pass p h x ?_
    rw [(hgrown history).desired_eq]
    exact hx

/-- Labels converge over every history of passes. They are never lost, they
    only get closer to the desired ones, and no label is written twice. Once a
    pass has visited a pull request without a failure, its labels are those of
    the start and the desired ones, and no later pass writes to it. -/
theorem labels_converge (config : Config) (hwrites : config.dryRun = false) (m : Memory)
    (hdistinct : ((m.opened ++ m.closed).map Pull.number).Nodup) (history : List Pass) :
    (∃ added, (m.after (Rules.ofConfig config) history).writes = m.writes ++ added ∧
      (labelPairs added).Nodup) ∧
    ∀ p ∈ m.opened ++ m.closed,
      (∀ x ∈ (m.current p).labels,
        x ∈ ((m.after (Rules.ofConfig config) history).current p).labels) ∧
      (∀ x ∈ ((m.after (Rules.ofConfig config) history).current p).labels,
        x ∈ (m.current p).labels ∨ x ∈ m.desired (Rules.ofConfig config) p) ∧
      (∀ later : List Pass, ∀ x ∈ ((m.after (Rules.ofConfig config) history).current p).labels,
        x ∈ ((m.after (Rules.ofConfig config) (history ++ later)).current p).labels) ∧
      ∀ pass : Pass,
        pass.Settles (Rules.ofConfig config) (m.after (Rules.ofConfig config) history) p →
        ((m.after (Rules.ofConfig config) (history ++ [pass])).current p).labels
          = (m.current p).labels.insertAll (m.desired (Rules.ofConfig config) p) ∧
        ∀ later : List Pass, ∃ more,
          (m.after (Rules.ofConfig config) (history ++ [pass] ++ later)).writes
            = (m.after (Rules.ofConfig config) (history ++ [pass])).writes ++ more ∧
          ∀ w ∈ more, w.1 ≠ p.number := by
  have hgrown := grown_after (Rules.ofConfig config) m hdistinct
  have hdistinct' : ∀ history : List Pass,
      ((m.after (Rules.ofConfig config) history).listed.map Pull.number).Nodup :=
    fun history => (hgrown history).listed_eq ▸ hdistinct
  have hlater : ∀ history later : List Pass, Grown (Rules.ofConfig config)
      (m.after (Rules.ofConfig config) history)
      (m.after (Rules.ofConfig config) (history ++ later)) := by
    intro history later
    rw [Memory.after_append]
    exact grown_after _ _ (hdistinct' history) later
  refine ⟨?_, fun p hp => ⟨?_, ?_, ?_, ?_⟩⟩
  · rcases (hgrown history).grew with ⟨added, hw, hnodup, -⟩
    exact ⟨added, hw, hnodup⟩
  · exact (hgrown history).labels_subset p
  · exact (hgrown history).labels_bounded p hp
  · exact fun later => (hlater history later).labels_subset p
  · intro pass hsettles
    have hlabels := labels_of_settles (Rules.ofConfig config) hwrites m hdistinct history pass p hp
      hsettles
    refine ⟨hlabels, fun later => ?_⟩
    refine (hlater (history ++ [pass]) later).not_written p ((hgrown _).listed_eq ▸ hp) ?_
    intro x hx
    rw [(hgrown _).desired_eq] at hx
    rw [hlabels, OrderedSet.mem_insertAll]
    exact Or.inr hx

/-- A pass whose lookup of the teams fails, and a pass without a failure that
    settles the pull request for good. -/
theorem labels_converge_after_failure :
    let broken : Pass := ⟨.single 1, none, { teams := fun _ => some ⟨.badAnswer, []⟩ }⟩
    let clean : Pass := ⟨.all .opened, none, {}⟩
    let m := Sample.memory.after (Rules.ofConfig Sample.config) ([broken] ++ [clean])
    Sample.config.dryRun = false ∧
      ((Sample.memory.opened ++ Sample.memory.closed).map Pull.number).Nodup ∧
      clean.Settles (Rules.ofConfig Sample.config)
        (Sample.memory.after (Rules.ofConfig Sample.config) [broken]) Sample.pull ∧
      (m.current Sample.pull).labels = .ofList ["ExternalPR", "bug", "category: GPU"] ∧
      ∀ later : List Pass, ∃ more,
        (Sample.memory.after (Rules.ofConfig Sample.config)
          ([broken] ++ [clean] ++ later)).writes = m.writes ++ more ∧ ∀ w ∈ more, w.1 ≠ 1 := by
  intro broken clean m
  have hdistinct : ((Sample.memory.opened ++ Sample.memory.closed).map Pull.number).Nodup := by
    decide
  have hsettles : clean.Settles (Rules.ofConfig Sample.config)
      (Sample.memory.after (Rules.ofConfig Sample.config) [broken]) Sample.pull :=
    ⟨⟨_, rfl, List.mem_singleton_self _⟩, rfl, rfl, rfl, rfl, fun _ => rfl⟩
  have h := ((labels_converge Sample.config rfl Sample.memory hdistinct [broken]).2 Sample.pull
    List.mem_cons_self).2.2.2 clean hsettles
  exact ⟨rfl, hdistinct, hsettles, h.1.trans (by decide +kernel), h.2⟩

end PullTriage
