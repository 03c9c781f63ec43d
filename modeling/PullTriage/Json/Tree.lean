import PullTriage.Json.Basic
import PullTriage.Decimal.Reading

/-!
# JSON Text as a Tree

What a JSON text says before anyone asks what it means. A `Tree` keeps the
members of an object in their order and with their repetitions, the digits of
a number as they are written, and in a string the places where no character
stands: bytes that are not well-formed, or half of a surrogate pair.

All of that is lost in a `Json` value, and some of it is an error there: a
number out of range, a damaged string, more than 127 levels of nesting. It is
an error only where the value is wanted. A record skips the members that it
does not know, whatever they hold, so reading the text comes first and
`Tree.toJson?` second.

## Main definitions

* `Raw`: The contents of a string, damaged places included.
* `Numeral`: A number as it is written.
* `Tree`: A JSON text.
* `Numeral.toJson?`: The value of a number.
* `Tree.toJson?`: The value of a tree.
-/

namespace PullTriage

namespace Json

/-- The contents of a string. `none` is a place where no character stands. -/
abbrev Raw := List (Option Char)

/-- The string, if a character stands at every place. -/
def Raw.text? (r : Raw) : Option String :=
  (r.mapM id).map String.ofList

/-- A number as it is written. -/
structure Numeral where
  /-- Whether a minus sign precedes it. -/
  negative : Bool
  /-- The digits before the point. -/
  whole : List Char
  /-- The digits after the point, if there is one. -/
  fraction : Option (List Char)
  /-- Whether the exponent is negative, and its digits, if there is one. -/
  exponent : Option (Bool × List Char)
deriving DecidableEq, Repr

/-- A JSON text, with nothing in it judged. -/
inductive Tree where
  /-- The word for null. -/
  | null
  /-- One of the two truth values. -/
  | bool (b : Bool)
  /-- A number. -/
  | number (n : Numeral)
  /-- A string. -/
  | string (r : Raw)
  /-- An array. -/
  | array (items : List Tree)
  /-- An object, its members in the order of the text. -/
  | object (members : List (Raw × Tree))

/-- The most levels of arrays and objects that a value may have. -/
def nestingLimit : Nat := 127

namespace Numeral

/-- Appends digits to `m` as long as the result fits into 64 bits, and returns
    what is left from the first digit that does not. -/
def fitting (m : Nat) : List Char → Nat × List Char
  | [] => (m, [])
  | d :: rest =>
    let next := 10 * m + (d.toNat - '0'.toNat)
    if next < Nat.pow 2 64 then fitting next rest else (m, d :: rest)

/-- The power of ten that the exponent stands for. -/
def exponentValue (n : Numeral) : Int :=
  match n.exponent with
  | none => 0
  | some (true, digits) => -(Nat.ofDigitChars 10 digits 0 : Nat)
  | some (false, digits) => Nat.ofDigitChars 10 digits 0

/-- The floating point number of a numeral, or `none` if it is out of range.
    Digits past the first 64 bits count by their places only. -/
def toBinary64? (n : Numeral) : Option Binary64 :=
  let (m, more) := fitting 0 n.whole
  let fraction := n.fraction.getD []
  let (m', unread) := fitting m fraction
  let power : Int := (more.length : Int) - (fraction.length - unread.length) + n.exponentValue
  (Decimal.scaled? m' power).map (Binary64.ofMagnitude n.negative)

/-- The value of a numeral. A number without point and exponent is whole if it
    lies between `-2 ^ 63` and `2 ^ 64 - 1`; minus zero and every other number
    is a floating point number. -/
def toJson? (n : Numeral) : Option Json :=
  let m := Nat.ofDigitChars 10 n.whole 0
  if n.fraction.isNone && n.exponent.isNone
      && (if n.negative then 0 < m && m ≤ Nat.pow 2 63 else m < Nat.pow 2 64) then
    some (.int (if n.negative then -(m : Int) else m))
  else n.toBinary64?.map .float

end Numeral

namespace Tree

mutual

/-- The value of a tree with at most `limit` levels of nesting. -/
def toJsonWithin? (limit : Nat) : Tree → Option Json
  | .null => some .null
  | .bool b => some (.bool b)
  | .number n => n.toJson?
  | .string r => r.text?.map .string
  | .array items =>
    if limit = 0 then none else (itemsToJson? (limit - 1) items).map .array
  | .object members =>
    if limit = 0 then none else (membersToJson? (limit - 1) members).map fun entries =>
      .object (entries.foldl (fun sorted (name, value) => insertMember name value sorted) [])

/-- The values of the items of an array. -/
def itemsToJson? (limit : Nat) : List Tree → Option (List Json)
  | [] => some []
  | t :: rest => do
    let value ← toJsonWithin? limit t
    let values ← itemsToJson? limit rest
    pure (value :: values)

/-- The names and values of the members of an object, in their order and with
    their repetitions. -/
def membersToJson? (limit : Nat) : List (Raw × Tree) → Option (List (String × Json))
  | [] => some []
  | (key, t) :: rest => do
    let name ← key.text?
    let value ← toJsonWithin? limit t
    let entries ← membersToJson? limit rest
    pure ((name, value) :: entries)

end

/-- The value of a tree, if everything in it has one. -/
def toJson? (t : Tree) : Option Json :=
  t.toJsonWithin? nestingLimit

end Tree

end Json

end PullTriage
