import PullTriage.Identity.Basic
import PullTriage.Json.Record
import PullTriage.Json.Printer

/-!
# Authors in Data

An author as a JSON record. Only the login has to be present.

## Main definitions

* `Identity.ofTree?`: The author that a record describes.
* `Identity.print`: The record of an author.
-/

namespace PullTriage

namespace Identity

open Json

/-- The author that a record describes. -/
def ofTree? (t : Tree) : Option Identity := do
  let [login, email, company, isMember] ← t.slots? ["login", "email", "company", "org_member"]
    | none
  let login ← required Tree.text? login
  let email ← orElse none (Tree.maybe? Tree.text?) email
  let company ← orElse none (Tree.maybe? Tree.text?) company
  let isMember ← orElse false Tree.flag? isMember
  pure { login, email, company, isMember }

/-- A text that may be absent, as a JSON text. -/
def printOptional : Option String → List Char
  | none => Json.print .null
  | some s => printString s

/-- The record of an author, its fields in order. -/
def print (i : Identity) : List Char :=
  "\x7b\"login\":".toList ++ printString i.login ++ ",\"email\":".toList ++
    printOptional i.email ++ ",\"company\":".toList ++ printOptional i.company ++
    ",\"org_member\":".toList ++ Json.print (.bool i.isMember) ++ ['\x7d']

end Identity

end PullTriage
