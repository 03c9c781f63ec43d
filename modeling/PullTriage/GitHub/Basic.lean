import PullTriage.Failure
import PullTriage.Identity.Basic
import PullTriage.Pull.Basic

/-!
# GitHub

The six things that a run asks of GitHub. Each is a step on a state, which
may fail and whose state goes on either way, so what a run does can be
compared between different ways of answering: a repository in memory, and a
client program that is run once for every question.

Answers take time, and a run does not wait for one before it asks for the
next. The steps on a state are still worked out one after the other. A
`Timeline` makes them overlap: its clock can be put to the time at which the
next step begins, which may lie before the end of the last one.

## Main definitions

* `Call`: A step on a state that may fail.
* `Call.within`: A call whose failure is seen from what was attempted.
* `Timeline`: States on which calls can overlap.
* `GitHub`: States that answer the six questions.
-/

namespace PullTriage

/-- A step on a state that may fail. The state goes on in either case. -/
abbrev Call (σ : Type) (α : Type) : Type :=
  σ → Except Failure α × σ

namespace Call

variable {σ α β : Type}

/-- The call that answers without a step. -/
def answer (a : α) : Call σ α :=
  fun s => (.ok a, s)

/-- One call after another, the second depending on the answer to the
    first. -/
def andThen (c : Call σ α) (next : α → Call σ β) : Call σ β := fun s =>
  match c s with
  | (.ok a, s') => next a s'
  | (.error f, s') => (.error f, s')

/-- The call with its failure as the inner cause of another. -/
def within (cause : Cause) (c : Call σ α) : Call σ α := fun s =>
  match c s with
  | (.ok a, s') => (.ok a, s')
  | (.error f, s') => (.error (f.within cause), s')

end Call

/-- States on which calls can overlap. -/
class Timeline (σ : Type) where
  /-- The milliseconds that have passed. -/
  clock : σ → Nat
  /-- The state with its clock put to a time. -/
  atTime : Nat → σ → σ
  /-- Two calls that begin at the same time. If one of them fails the other
      is not waited for. -/
  both {α β : Type} : Call σ α → Call σ β → Call σ (α × β)

/-- States that answer what a run asks of GitHub. -/
class GitHub (σ : Type) extends Timeline σ where
  /-- All pull requests in a state. -/
  list : PullState → Call σ (List Pull)
  /-- The pull request of a number. -/
  get : Nat → Call σ Pull
  /-- The teams that are asked to review a pull request. -/
  teams : Pull → Call σ (OrderedSet String)
  /-- Whether a user is a member of the organization. -/
  isMember : String → Call σ Bool
  /-- What is known of a user. -/
  identity : String → Call σ Identity
  /-- Adds labels to the pull request of a number. -/
  addLabels : Nat → List String → Call σ Unit

end PullTriage
