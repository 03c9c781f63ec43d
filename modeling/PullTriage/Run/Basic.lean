import PullTriage.GitHub.Basic
import PullTriage.Instant.Window
import PullTriage.Run.Rules
import PullTriage.Run.Summary

/-!
# Runs

A run goes over the pull requests of a selection, one number or all of a
state, and visits each of them: it looks up the author, the membership and
the teams at the same time, decides on the labels, and writes what is
missing. Of several lookups that fail the one that fails first is reported.

Several workers make the visits, which they take up in the order of the
selection. Outcomes are reported in that order too. A worker whose visit is
over waits until it is reported, and then takes up the next visit.

Only the selection itself can make a run fail. A failure during a visit is
the outcome of that visit, and the run goes on.

## Main definitions

* `Selection`: Which pull requests a run goes over.
* `lookUp`: Looks up what a decision depends on.
* `apply`: Writes a plan, unless it is empty or only to be shown.
* `process`: Decides on a pull request and writes its labels.
* `visit`: The outcome of one pull request.
* `visitFrom`: The outcomes of a list of pull requests, given when the workers
  are free.
* `visitAll`: The outcomes of a list of pull requests.
* `collect`: The pull requests of a selection.
* `run`: The outcomes and the summary of a selection.
-/

namespace PullTriage

/-- Which pull requests a run goes over. -/
inductive Selection where
  /-- The one of a number. -/
  | single (number : Nat)
  /-- All in a state. -/
  | all (state : PullState)
deriving DecidableEq, Repr

namespace Run

variable {σ : Type} [GitHub σ]

/-- Looks up what a decision about a pull request depends on: its author,
    whether the author is a member, and the teams. -/
def lookUp (p : Pull) : Call σ (Identity × Bool × OrderedSet String) :=
  Timeline.both (GitHub.identity p.author)
    (Timeline.both (GitHub.isMember p.author) (GitHub.teams p))

/-- Writes the labels of a plan to a pull request, unless there are none or
    they are only to be shown. -/
def apply (dryRun : Bool) (number : Nat) (labels : List String) : Call σ Effect :=
  if labels.isEmpty then Call.answer .unchanged
  else if dryRun then Call.answer .previewed
  else (GitHub.addLabels number labels).andThen fun _ => Call.answer .written

/-- The decision about a pull request, given what was looked up. -/
def decide (rules : Rules) (p : Pull) (identity : Identity) (teams : OrderedSet String) :
    Classification × List String :=
  let classification := rules.classifier.classify identity p.labels
  (classification,
    plan p.labels classification.pending (rules.teams.categories p.labels teams.toList))

/-- Looks up what is needed about a pull request, decides on its labels and
    writes them. -/
def process (rules : Rules) (p : Pull) : Call σ Report :=
  (lookUp p).andThen fun (identity, isMember, teams) =>
    let identity := { identity with isMember }
    let (classification, toAdd) := decide rules p identity teams
    (apply rules.dryRun p.number toAdd).andThen fun effect =>
      Call.answer { pull := p, identity, classification, toAdd, effect }

/-- Whether a pull request is too old, given the instant after which pull
    requests are recent. -/
def isOld (cutoff : Option Instant) (p : Pull) : Bool :=
  cutoff.any fun after => p.createdAt ≤ after

/-- The outcome of one pull request. -/
def visit (rules : Rules) (cutoff : Option Instant) (p : Pull) (s : σ) : Outcome × σ :=
  if isOld cutoff p then (.ignored p, s)
  else
    match process rules p s with
    | (.ok r, s') => (.processed r, s')
    | (.error f, s') => (.failed p f, s')

/-- The outcomes of a list of pull requests, given the times at which the
    workers are free, in the order in which they take up visits. A worker is
    free again when its visit and all before it are over. -/
def visitFrom (rules : Rules) (cutoff : Option Instant) :
    List Nat → List Pull → σ → List Outcome × σ
  | free, [], s => ([], Timeline.atTime (free.getLastD (Timeline.clock s)) s)
  | free, p :: rest, s =>
    let (outcome, s') :=
      visit rules cutoff p (Timeline.atTime (free.headD (Timeline.clock s)) s)
    let reported := max (free.getLastD 0) (Timeline.clock s')
    let (outcomes, s'') := visitFrom rules cutoff (free.drop 1 ++ [reported]) rest s'
    (outcome :: outcomes, s'')

/-- The outcomes of a list of pull requests, in order. All workers are free at
    first, and there need not be more of them than visits. -/
def visitAll (rules : Rules) (cutoff : Option Instant) (pulls : List Pull) (s : σ) :
    List Outcome × σ :=
  visitFrom rules cutoff (List.replicate (min rules.workers pulls.length) (Timeline.clock s))
    pulls s

/-- The pull requests of a selection. -/
def collect : Selection → Call σ (List Pull)
  | .single number => (GitHub.get number).andThen fun p => Call.answer [p]
  | .all state => GitHub.list state

/-- The outcomes of a selection and their summary. -/
def run (rules : Rules) (selection : Selection) (cutoff : Option Instant) :
    Call σ (List Outcome × Summary) := fun s =>
  match collect selection s with
  | (.ok pulls, s') =>
    let (outcomes, s'') := visitAll rules cutoff pulls s'
    (.ok (outcomes, Summary.ofOutcomes outcomes), s'')
  | (.error f, s') => (.error f, s')

end Run

end PullTriage
