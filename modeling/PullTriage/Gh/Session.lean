import PullTriage.Gh.Log
import PullTriage.Gh.Reply
import PullTriage.GitHub.Basic
import PullTriage.Identity.Basic

/-!
# Sessions with the Client Program

A session is a sequence of runs of the client program: where the replies come
from, the time that has passed, the command lines that were started, and what
has been learned of users, who are not asked about again.

A command is run up to three times. After a reply that is inconclusive the
session waits, two seconds after the first and four after the second, and
runs the same command again. The last reply decides, whatever it is.

## Main definitions

* `Script`: Where the replies come from.
* `Session`: The state of a session.
* `Session.start`: Runs the program once.
* `Session.runWith`: Runs a command with pauses between attempts.
* `Session.run`: Runs a command with the usual pauses.
* `Session.known?`: What has been learned of a user.
* `Session.history`: The command lines that were started.
-/

namespace PullTriage

namespace Gh

/-- Where the replies of the client program come from. -/
inductive Script where
  /-- The replies in the order in which they are given. When they are used up
      the program is gone. -/
  | queue (replies : List Reply)
  /-- A reply for each command. -/
  | table (reply : List String → Reply)

/-- The reply to a command, and what is left of the script. -/
def Script.next (script : Script) (command : List String) : Reply × Script :=
  match script with
  | queue [] => (.absent, queue [])
  | queue (r :: rest) => (r, queue rest)
  | table reply => (reply command, table reply)

/-- The state of a session with the client program. -/
structure Session where
  /-- The owner of the repository, and the organization of its members. -/
  owner : String
  /-- The name of the repository. -/
  repository : String
  /-- Where the replies come from. -/
  script : Script
  /-- The milliseconds that have passed. -/
  clock : Nat := 0
  /-- The command lines that were started. -/
  started : List (Event (List String)) := []
  /-- What has been learned of users, with the login that was asked for. -/
  learned : List (Event (String × Identity)) := []

namespace Session

/-- Lets time pass. -/
def wait (s : Session) (milliseconds : Nat) : Session :=
  { s with clock := s.clock + milliseconds }

/-- Starts the client program with the given arguments and takes a reply. -/
def start (s : Session) (arguments : List String) : Reply × Session :=
  let (reply, script) := s.script.next arguments
  (reply, { s with script, started := s.started ++ [⟨s.clock, ["gh", "api"] ++ arguments⟩] })

/-- The endpoint of a command, its first argument. -/
def endpoint (arguments : List String) : String :=
  arguments.headD ""

/-- What is learned from one run of the program. -/
inductive Attempt where
  /-- The program could not be started. -/
  | noStart
  /-- The program was given up at the deadline. -/
  | late
  /-- The program ended in time. -/
  | ended (output : Output)

/-- Runs the program once and waits for it, but no longer than the
    deadline. -/
def attempt (s : Session) (arguments : List String) : Attempt × Session :=
  match s.start arguments with
  | (.absent, s) => (.noStart, s)
  | (.hangs, s) => (.late, s.wait deadline)
  | (.ends output delay, s) =>
    if delay ≤ deadline then (.ended output, s.wait delay) else (.late, s.wait deadline)

/-- Runs a command, and again after each of the pauses as long as the reply is
    inconclusive. -/
def runWith (arguments : List String) : List Nat → Call Session Output
  | pauses, s =>
    match s.attempt arguments with
    | (.noStart, s) => (.error ⟨.start, [.noProgram]⟩, s)
    | (.late, s) =>
      match pauses with
      | [] => (.error ⟨.timedOut (endpoint arguments), []⟩, s)
      | pause :: rest => runWith arguments rest (s.wait pause)
    | (.ended output, s) =>
      if output.isSuccess || !output.isTransient then (.ok output, s)
      else
        match pauses with
        | [] => (.ok output, s)
        | pause :: rest => runWith arguments rest (s.wait pause)
  termination_by structural pauses => pauses

/-- The pauses between attempts, in milliseconds. -/
def pauses : List Nat := [2000, 4000]

/-- Runs a command with the usual pauses. -/
def run (arguments : List String) : Call Session Output :=
  runWith arguments pauses

/-- What has been learned of a user by now. -/
def known? (s : Session) (login : String) : Option Identity :=
  (s.learned.find? fun e => e.what.1 = login && e.time ≤ s.clock).map fun e => e.what.2

/-- The session after learning of a user. -/
def learn (s : Session) (login : String) (i : Identity) : Session :=
  { s with learned := s.learned ++ [⟨s.clock, login, i⟩] }

/-- The command lines that were started, in the order of time. -/
def history (s : Session) : List (List String) :=
  Event.inOrder s.started

end Session

end Gh

end PullTriage
