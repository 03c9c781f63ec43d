import PullTriage.Json.Reader

/-!
# Records in JSON

A record is an object with members of known names, or an array of its fields
in order. Members of other names are skipped, and so is whatever they hold; a
known name that occurs twice is an error. In an array the last fields may be
absent, and no more than all of them may be present.

`slots?` brings both forms to the same thing, the trees at the fields in
order with `none` for those that are absent. What an absent field means is
the record's affair.

## Main definitions

* `Tree.slots?`: The trees at the fields of a record.
* `Tree.text?`, `Tree.natural?`, `Tree.flag?`: Trees of one kind.
* `Tree.maybe?`: A tree that may be null.
* `Tree.list?`: A tree that is an array of one kind.
* `Tree.word?`: A tree that names one of a few variants.
* `required`, `orElse`: Fields that must be present, or need not be.
-/

namespace PullTriage

namespace Json

namespace Tree

/-- The string that the tree is. -/
def text? : Tree → Option String
  | .string r => r.text?
  | _ => none

/-- The natural number that the tree is. It fits into 64 bits, since a larger
    one would not be a whole number. -/
def natural? : Tree → Option Nat
  | .number n =>
    match n.toJson? with
    | some (.int k) => if 0 ≤ k then some k.toNat else none
    | _ => none
  | _ => none

/-- The truth value that the tree is. -/
def flag? : Tree → Option Bool
  | .bool b => some b
  | _ => none

/-- Nothing for null, and otherwise what `read` finds. -/
def maybe? {α : Type} (read : Tree → Option α) : Tree → Option (Option α)
  | .null => some none
  | t => (read t).map some

/-- What `read` finds at each item of an array. -/
def list? {α : Type} (read : Tree → Option α) : Tree → Option (List α)
  | .array items => items.mapM read
  | _ => none

/-- The name of a variant that holds nothing, written as a string or as an
    object whose one member of that name is null. -/
def word? : Tree → Option String
  | .string r => r.text?
  | .object [(key, .null)] => key.text?
  | _ => none

/-- The trees at the fields of the given names, in that order. -/
def slots? (names : List String) : Tree → Option (List (Option Tree))
  | .object members => do
    let entries ← members.mapM fun (key, t) => key.text?.map fun name => (name, t)
    if names.any fun name => 1 < (entries.filter fun entry => entry.1 == name).length then none
    else some (names.map fun name => entries.lookup name)
  | .array items =>
    if names.length < items.length then none
    else some (items.map some ++ List.replicate (names.length - items.length) none)
  | _ => none

end Tree

/-- A field that has to be present. -/
def required {α : Type} (read : Tree → Option α) : Option Tree → Option α
  | some t => read t
  | none => none

/-- A field that has a default. -/
def orElse {α : Type} (default : α) (read : Tree → Option α) : Option Tree → Option α
  | some t => read t
  | none => some default

end Json

end PullTriage
