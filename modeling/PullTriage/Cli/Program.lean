import PullTriage.Cli.Options
import PullTriage.Config.Setup
import PullTriage.Gh.Client
import PullTriage.Run.Basic

/-!
# The Program

What the program does from the command line to its exit code. It loads the
configuration, asks for the pull requests of the selection, visits them, and
says what it does along the way. Everything that it depends on is given to
it, and everything that it does is in what it returns: the lines that it
prints, the commands that it started, and how it ended.

## Main definitions

* `Surroundings`: What the program depends on.
* `Notice`: What the program says.
* `Ending`: How the program ended.
* `Transcript`: What the program did.
* `Command.perform`: Performs a run that is asked for.
-/

namespace PullTriage

namespace Cli

/-- What the program depends on. -/
structure Surroundings where
  /-- How files are read. -/
  read : Reading
  /-- The variables of the program. -/
  environment : Environment
  /-- Where the replies of the client program come from. -/
  script : Gh.Script
  /-- The time. -/
  now : Instant

/-- What the program says. -/
inductive Notice where
  /-- A proxy variable was exported. -/
  | proxy (name : String) (url : String)
  /-- Labels are not going to be written. -/
  | dryRun
  /-- How many pull requests are in the selected state. -/
  | count (state : PullState) (n : Nat)
  /-- Only pull requests that were opened after the instant are looked at. -/
  | window (after : Instant)
  /-- What became of a pull request. -/
  | outcome (o : Outcome)
  /-- The totals. -/
  | summary (s : Summary)

/-- The notice as it is printed. -/
def Notice.text : Notice → String
  | proxy name url => "Set proxy: " ++ name ++ "=" ++ url ++ "\n"
  | dryRun => "Dry run: labels will be reported, not written\n"
  | count state n => "\nPRs count (" ++ state.text ++ "): " ++ toString n ++ "\n"
  | window after => "PRs created after: " ++ after.display ++ "\n"
  | outcome o => "\n" ++ o.text ++ "\n"
  | summary s => "\n" ++ s.text ++ "\n"

/-- How the program ended. -/
inductive Ending where
  /-- It did what was asked. -/
  | success
  /-- It failed, with a message for each cause, the outermost first. -/
  | failure (message : String) (causes : List String)
  /-- It was broken off at a variable that cannot be exported. -/
  | broken
deriving DecidableEq, Repr

namespace Ending

/-- The exit code. -/
def code : Ending → Nat
  | success => 0
  | failure _ _ => 1
  | broken => 101

/-- A cause behind its number, if it has one. The lines after the first are
    indented as far as the text of the first. -/
def causeText (number : Option Nat) (cause : String) : String :=
  let lead := match number with
    | some n => String.ofList (List.replicate (5 - (Nat.toDigits 10 n).length) ' ') ++
        toString n ++ ": "
    | none => "    "
  let indent := String.ofList (List.replicate lead.length ' ')
  lead ++ Text.joined ("\n" ++ indent) ((Text.fields '\n' cause.toList).map String.ofList)

/-- The causes of a failure, each on a line of its own, numbered if there are
    several. -/
def causesText : List String → String
  | [] => ""
  | [cause] => "\n\nCaused by:\n" ++ causeText none cause
  | causes =>
    "\n\nCaused by:\n" ++
      Text.joined "\n" (causes.zipIdx.map fun (cause, n) => causeText (some n) cause)

/-- What is said about the ending. The sentence about a program that is broken
    off stands for a report that names a place in the text of the program and is
    not modelled. -/
def text : Ending → String
  | success => ""
  | failure message causes => "Error: " ++ message ++ causesText causes ++ "\n"
  | broken => "Error: a proxy variable cannot be exported\n"

/-- The ending at a failure of a call. -/
def ofFailure (f : Failure) : Ending :=
  failure f.outermost.message (f.inner.map Cause.message)

end Ending

/-- What the program did. -/
structure Transcript where
  /-- What it said, in order. -/
  notices : List Notice := []
  /-- The commands that it started, in order. -/
  started : List (List String) := []
  /-- How it ended. -/
  ending : Ending

/-- The notices as the program printed them. Its log goes to the same output,
    between them: a warning for each command that is retried, each pull request
    with several type labels and each one that failed, and more about the steps
    of the run if that is asked for. The lines of the log carry the time of day
    and are left out. -/
def Transcript.text (t : Transcript) : String :=
  String.join (t.notices.map Notice.text)

namespace Command

/-- What is said of a configuration once it is loaded. -/
def opening (config : Config) : List Notice :=
  config.exports.map (fun (name, url) => .proxy name url) ++
    if config.dryRun then [.dryRun] else []

/-- What is said of a selection once its pull requests are known. -/
def countOf (pulls : List Pull) : Selection → List Notice
  | .all state => [.count state pulls.length]
  | .single _ => []

/-- Performs a run with a configuration. The pattern for the names of teams is
    made from the name of the repository before anything is asked, and one that
    is too large would be refused as an invalid value. There is no such ending
    here: the name is escaped, so nothing but its size counts, and it would have
    to be hundreds of kilobytes long, where the names of repositories have a
    hundred characters at most. -/
def performWith (c : Command) (config : Config) (script : Gh.Script) (now : Instant) :
    Transcript :=
  let session : Gh.Session :=
    { owner := config.organization, repository := config.repository, script }
  match Run.collect c.selection session with
  | (.error f, session) =>
    { notices := opening config, started := session.history, ending := .ofFailure f }
  | (.ok pulls, session) =>
    let cutoff := c.newer.map now.createdAfter
    let (outcomes, session) := Run.visitAll (Rules.ofConfig config) cutoff pulls session
    { notices := opening config ++ countOf pulls c.selection ++
        (cutoff.map Notice.window).toList ++ outcomes.map .outcome ++
        [.summary (Summary.ofOutcomes outcomes)]
      started := session.history
      ending := .success }

/-- Performs a run that is asked for. -/
def perform (c : Command) (w : Surroundings) : Transcript :=
  match ({ environment := w.environment } : Setup).initialized w.read c.configFile c.overrides with
  | (.ok config, _) => c.performWith config w.script w.now
  | (.error (.config e), _) =>
    { ending := .failure ("Invalid configuration in " ++ c.configFile) e.messages }
  | (.error .broken, _) => { ending := .broken }

end Command

/-- The name and the version of the program. -/
def versionText : String :=
  "org-control 0.1.0\n"

/-- How the program is used. The options are those of the program, but the
    words about them and their layout are not modelled. -/
def usageText : String :=
  "Check GitHub PRs and set labels by type and category\n\n" ++
  "Usage: org-control [OPTIONS] [NAME[=VALUE]]...\n\n" ++
  "Options:\n" ++
  "      --cfg-file <PATH>     Path to the JSON configuration file\n" ++
  "      --pr <NUMBER>         Process only the pull request with this number\n" ++
  "      --pr-state <STATE>    State of the pull requests to process, open or closed\n" ++
  "      --newer <MINUTES>     Process only pull requests created in the last MINUTES\n" ++
  "  -v, --verbose             Enable verbose logging\n" ++
  "  -h, --help                Print help\n" ++
  "  -V, --version             Print version\n"

end Cli

end PullTriage
