import PullTriage.Config.Kind
import PullTriage.Decimal.Reading
import PullTriage.Json.Reader
import PullTriage.Text.Blank

/-!
# Override Texts

An override is text, on the command line or in the environment, and is read
as a value of the kind that its property has. White space around it does not
matter.

Null and the truth values are words. A whole number has to fit into 64 bits
with its sign. A floating point number may lack digits on one side of its
point, and has to be finite. A string is taken as it is, without one pair of
quotes around it. Arrays and objects are JSON texts; such a text may turn out
to be a value of another kind, which is for the caller to refuse.

## Main definitions

* `readInt?`: A whole number with an optional sign.
* `readFloat?`: A floating point number.
* `unquoted`: A text without the quotes around it.
* `Kind.read?`: A value of a kind.
-/

namespace PullTriage

namespace Literal

/-- Splits off a sign: whether it is a minus, and the text without it. -/
def splitSign : List Char → Bool × List Char
  | '-' :: rest => (true, rest)
  | '+' :: rest => (false, rest)
  | l => (false, l)

/-- The natural number that a text of digits alone spells. -/
def readDigits? (l : List Char) : Option Nat :=
  if l.isEmpty || !l.all Char.isDigit then none else some (Nat.ofDigitChars 10 l 0)

/-- The whole number of 64 bits that a text with an optional sign spells. -/
def readInt? (l : List Char) : Option Int :=
  let (negative, digits) := splitSign l
  (readDigits? digits).bind fun n =>
    if negative then (if n ≤ Nat.pow 2 63 then some (-(n : Int)) else none)
    else if n < Nat.pow 2 63 then some n
    else none

/-- The power of ten behind the letter of an exponent, zero if nothing is
    there. -/
def readExponent? : List Char → Option Int
  | [] => some 0
  | c :: rest =>
    if c = 'e' ∨ c = 'E' then
      let (negative, digits) := splitSign rest
      (readDigits? digits).map fun n => if negative then -(n : Int) else n
    else none

/-- The finite floating point number that a text with an optional sign
    spells. It is the one nearest to the decimal. -/
def readFloat? (l : List Char) : Option Binary64 :=
  let (negative, body) := splitSign l
  let whole := body.takeWhile Char.isDigit
  let (fraction, rest) := match body.dropWhile Char.isDigit with
    | '.' :: more => (more.takeWhile Char.isDigit, more.dropWhile Char.isDigit)
    | other => ([], other)
  let digits := whole ++ fraction
  if digits.isEmpty then none
  else
    (readExponent? rest).bind fun power =>
      (Decimal.nearest? (Nat.ofDigitChars 10 digits 0) (power - fraction.length)).map
        (Binary64.ofMagnitude negative)

/-- The text without the character `quote` at both ends, if it is there. -/
def unquotedBy? (quote : Char) (l : List Char) : Option (List Char) :=
  match l with
  | c :: rest => if c = quote ∧ rest.getLast? = some quote then some rest.dropLast else none
  | [] => none

/-- The text without one pair of double quotes around it, or else without one
    pair of single quotes. -/
def unquoted (l : List Char) : List Char :=
  ((unquotedBy? '"' l).or (unquotedBy? (Char.ofNat 39) l)).getD l

/-- Whether the text is a word, up to the case of plain letters. -/
def isWord (word : String) (l : List Char) : Bool :=
  l.map Char.toLower == word.toList

end Literal

open Literal in
/-- The value of the kind that the text spells. -/
def Kind.read? (kind : Kind) (text : String) : Option Json :=
  let l := Text.trim text.toList
  match kind with
  | .null => if l = "null".toList ∨ l = "None".toList then some .null else none
  | .bool =>
    if isWord "true" l then some (.bool true)
    else if isWord "false" l then some (.bool false)
    else none
  | .integer => (readInt? l).map .int
  | .float => (readFloat? l).map .float
  | .string => some (.string (String.ofList (unquoted l)))
  | .array | .object => Json.ofString? (String.ofList l)

end PullTriage
