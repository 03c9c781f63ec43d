import PullTriage.Instant.Reader
import PullTriage.Json.Printer
import PullTriage.Json.Record
import PullTriage.Pull.Basic
import PullTriage.TypeLabel

/-!
# Pull Requests in Data

A pull request as a JSON record. The title, the labels and the teams may be
absent; labels and teams are arrays in any order and with any repetitions,
and are written in ascending order.

A pull request state and a type label are written as their names.

## Main definitions

* `Pull.ofTree?`: The pull request that a record describes.
* `Pull.print`: The record of a pull request.
* `PullState.ofTree?`, `TypeLabel.ofTree?`: The state and the type label that
  a JSON text names.
-/

namespace PullTriage

open Json

/-- The instant that a JSON string names. -/
def Instant.ofTree? (t : Tree) : Option Instant := do
  let s ← t.text?
  Instant.ofString? s

/-- The state that a JSON text names. -/
def PullState.ofTree? (t : Tree) : Option PullState := do
  let s ← t.word?
  PullState.ofText? s

/-- The type label that a JSON text names. -/
def TypeLabel.ofTree? (t : Tree) : Option TypeLabel := do
  let s ← t.word?
  TypeLabel.ofName? s

namespace Pull

/-- The set of the strings in a JSON array. -/
def setOfTree? (t : Tree) : Option (OrderedSet String) :=
  (t.list? Tree.text?).map OrderedSet.ofList

/-- The pull request that a record describes. -/
def ofTree? (t : Tree) : Option Pull := do
  let [number, title, author, createdAt, labels, teams] ←
    t.slots? ["number", "title", "author", "created_at", "labels", "requested_teams"] | none
  let number ← required Tree.natural? number
  let title ← orElse "" Tree.text? title
  let author ← required Tree.text? author
  let createdAt ← required Instant.ofTree? createdAt
  let labels ← orElse ∅ setOfTree? labels
  let teams ← orElse ∅ setOfTree? teams
  pure { number, title, author, createdAt, labels, teams }

/-- A set of strings as a JSON array. -/
def printSet (s : OrderedSet String) : List Char :=
  Json.print (.array (s.toList.map .string))

/-- The record of a pull request, its fields in order. -/
def print (p : Pull) : List Char :=
  "\x7b\"number\":".toList ++ printInt p.number ++ ",\"title\":".toList ++ printString p.title ++
    ",\"author\":".toList ++ printString p.author ++ ",\"created_at\":".toList ++
    printString p.createdAt.stamp ++ ",\"labels\":".toList ++ printSet p.labels ++
    ",\"requested_teams\":".toList ++ printSet p.teams ++ ['\x7d']

end Pull

end PullTriage
