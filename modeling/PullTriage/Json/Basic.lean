import PullTriage.Decimal.Binary64

/-!
# JSON Values

The values that a configuration can hold. Numbers are whole numbers or
floating point numbers, and which of the two a number is depends on how it is
written, so they are two constructors. An object is a list of members in
ascending order of their names, each name once; `insertMember` keeps it so
and lets a repeated name take its last value.

## Main definitions

* `Json`: A JSON value.
* `insertMember`: Adds a member to an object or replaces its value.
* `Json.asString?`, `Json.asBool?`, `Json.asInt?`: Typed views of a value.
-/

namespace PullTriage

/-- A JSON value. -/
inductive Json where
  /-- The null value. -/
  | null
  /-- A truth value. -/
  | bool (b : Bool)
  /-- A whole number. -/
  | int (n : Int)
  /-- A floating point number. -/
  | float (x : Binary64)
  /-- A string. -/
  | string (s : String)
  /-- An array. -/
  | array (items : List Json)
  /-- An object, its members in ascending order of their names. -/
  | object (members : List (String × Json))

namespace Json

/-- The members with `name` at its place in the order, holding `value` instead
    of what it held before. -/
def insertMember {β : Type} (name : String) (value : β) :
    List (String × β) → List (String × β)
  | [] => [(name, value)]
  | (other, held) :: rest =>
    match compare name other with
    | .lt => (name, value) :: (other, held) :: rest
    | .eq => (name, value) :: rest
    | .gt => (other, held) :: insertMember name value rest

/-- The string, if the value is one. -/
def asString? : Json → Option String
  | string s => some s
  | _ => none

/-- The truth value, if the value is one. -/
def asBool? : Json → Option Bool
  | bool b => some b
  | _ => none

/-- The whole number, if the value is one that fits into 64 bits with a
    sign. -/
def asInt? : Json → Option Int
  | int n => if n < Nat.pow 2 63 then some n else none
  | _ => none

end Json

end PullTriage
