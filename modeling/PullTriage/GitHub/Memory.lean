import PullTriage.Dictionary
import PullTriage.GitHub.Basic

/-!
# A Repository in Memory

GitHub as a value: the open and the closed pull requests, the members of the
organization, and what is known of its users. Writes are kept in their order,
and the labels of a pull request are those it had and those that were written
to its number since.

Any call can be made to fail, by whom or what it asks about. Failures are
part of the state, so a run under failures is an ordinary run.

An answer from memory takes no time. Of two calls that begin at the same time
the first is therefore over when the second begins.

## Main definitions

* `Faults`: The calls that fail.
* `Memory`: A repository in memory.
* `Memory.current`: A pull request with the labels written to it.
-/

namespace PullTriage

/-- The calls that fail, and how. -/
structure Faults where
  /-- Failures of the list of pull requests in a state. -/
  list : PullState → Option Failure := fun _ => none
  /-- Failures of the pull request of a number. -/
  get : Nat → Option Failure := fun _ => none
  /-- Failures of the teams of a pull request, by its number. -/
  teams : Nat → Option Failure := fun _ => none
  /-- Failures of the membership of a user. -/
  isMember : String → Option Failure := fun _ => none
  /-- Failures of what is known of a user. -/
  identity : String → Option Failure := fun _ => none
  /-- Failures of writing to the pull request of a number. -/
  addLabels : Nat → Option Failure := fun _ => none

/-- A repository in memory. -/
structure Memory where
  /-- The open pull requests as they were at first, in the order of the
      list. -/
  opened : List Pull
  /-- The closed pull requests as they were at first, in the order of the
      list. -/
  closed : List Pull
  /-- The members of the organization. -/
  members : List String
  /-- What is known of users, by login. -/
  identities : Dictionary Identity
  /-- The numbers and labels that were written, in order. -/
  writes : List (Nat × List String) := []
  /-- The calls that fail. -/
  faults : Faults := {}

namespace Memory

/-- The labels written to a number, in order. -/
def labelsWritten (m : Memory) (number : Nat) : List String :=
  (m.writes.filter fun w => w.1 = number).flatMap Prod.snd

/-- The pull request with the labels written to its number. -/
def current (m : Memory) (p : Pull) : Pull :=
  { p with labels := p.labels.insertAll (m.labelsWritten p.number) }

/-- The pull requests in a state, with the labels written to them. -/
def pulls (m : Memory) : PullState → List Pull
  | .opened => m.opened.map m.current
  | .closed => m.closed.map m.current

/-- The answer `a` unless the call is one that fails. -/
def guarded {α : Type} (fault : Option Failure) (a : α) : Except Failure α :=
  match fault with
  | some f => .error f
  | none => .ok a

/-- The pull request of a number, the open ones first. -/
def find (m : Memory) (number : Nat) : Except Failure Pull :=
  match (m.pulls .opened ++ m.pulls .closed).find? fun p => p.number = number with
  | some p => .ok p
  | none => .error ⟨.noPull number, []⟩

/-- What is known of a user, which may be the login alone. -/
def profile (m : Memory) (login : String) : Identity :=
  (m.identities.get? login).getD { login }

end Memory

instance : Timeline Memory where
  clock _ := 0
  atTime _ m := m
  both c d := c.andThen fun a => d.andThen fun b => Call.answer (a, b)

instance : GitHub Memory where
  list state m := (Memory.guarded (m.faults.list state) (m.pulls state), m)
  get number m :=
    match m.faults.get number with
    | some f => (.error f, m)
    | none => (m.find number, m)
  teams p m := (Memory.guarded (m.faults.teams p.number) p.teams, m)
  isMember login m := (Memory.guarded (m.faults.isMember login) (login ∈ m.members : Bool), m)
  identity login m := (Memory.guarded (m.faults.identity login) (m.profile login), m)
  addLabels number labels m :=
    match m.faults.addLabels number with
    | some f => (.error f, m)
    | none => (.ok (), { m with writes := m.writes ++ [(number, labels)] })

end PullTriage
