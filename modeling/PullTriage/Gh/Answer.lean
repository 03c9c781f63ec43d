import PullTriage.Gh.Reply
import PullTriage.Identity.Basic
import PullTriage.Json.Record
import PullTriage.Pull.Record

/-!
# Answers of GitHub

The JSON records in which GitHub answers, of which only the members that
matter are read. A pull request names its author, its labels and its teams by
records of their own; a user may have an empty address or company, which is
none.

A list is answered in pages, each an array, one after the other without
anything between them.

## Main definitions

* `pullOfTree?`: The pull request in an answer.
* `reviewsOfTree?`: The teams in an answer about review requests.
* `userOfTree?`: The user in an answer.
* `one?`: What is read from an answer that is one value.
* `pages?`: What is read from an answer in pages.
-/

namespace PullTriage

namespace Gh

open Json

/-- The one member of interest in a record. -/
def memberOfTree? (name : String) (t : Tree) : Option String := do
  let [value] ← t.slots? [name] | none
  required Tree.text? value

/-- The set of the names in an array of records. -/
def namesOfTree? (t : Tree) : Option (OrderedSet String) :=
  (t.list? (memberOfTree? "name")).map OrderedSet.ofList

/-- The pull request in an answer. -/
def pullOfTree? (t : Tree) : Option Pull := do
  let [number, title, user, createdAt, labels, teams] ←
    t.slots? ["number", "title", "user", "created_at", "labels", "requested_teams"] | none
  let number ← required Tree.natural? number
  let title ← orElse "" Tree.text? title
  let author ← required (memberOfTree? "login") user
  let createdAt ← required Instant.ofTree? createdAt
  let labels ← orElse ∅ namesOfTree? labels
  let teams ← orElse ∅ namesOfTree? teams
  pure { number, title, author, createdAt, labels, teams }

/-- The teams in an answer about review requests. -/
def reviewsOfTree? (t : Tree) : Option (OrderedSet String) := do
  let [teams] ← t.slots? ["teams"] | none
  orElse ∅ namesOfTree? teams

/-- A text that is not empty. -/
def nonempty? (s : Option String) : Option String :=
  s.filter fun text => text ≠ ""

/-- The user in an answer. -/
def userOfTree? (t : Tree) : Option Identity := do
  let [login, email, company] ← t.slots? ["login", "email", "company"] | none
  let login ← required Tree.text? login
  let email ← orElse none (Tree.maybe? Tree.text?) email
  let company ← orElse none (Tree.maybe? Tree.text?) company
  pure { login, email := nonempty? email, company := nonempty? company }

/-- What is read from an output that is one value. -/
def one? {α : Type} (read : Tree → Option α) (bytes : List UInt8) : Option α := do
  let t ← Tree.ofSource? (Utf8.decode bytes)
  read t

/-- What is read from an output that consists of pages. -/
def pages? {α : Type} (read : Tree → Option α) (bytes : List UInt8) : Option (List α) := do
  let ts ← Tree.allOfSource? (Utf8.decode bytes)
  let pages ← ts.mapM (Tree.list? read)
  pure pages.flatten

end Gh

end PullTriage
