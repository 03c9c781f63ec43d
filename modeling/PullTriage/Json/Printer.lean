import PullTriage.Json.Basic
import PullTriage.Decimal.Shortest

/-!
# Printing JSON

The compact text of a value: no white space, the members of an object in
their order, and in strings an escape only where the grammar asks for one.
Five control characters have a letter of their own, the others are spelled by
their code point.

## Main definitions

* `printString`: A string as a JSON text.
* `print`: A value as a JSON text.
* `Json.compact`: The same as a string.
-/

namespace PullTriage

namespace Json

/-- The digit of a number below 16. -/
def hexDigit (n : Nat) : Char :=
  Nat.digitChar n

/-- A character as it stands in a JSON string. -/
def printChar (c : Char) : List Char :=
  if c = '"' then ['\\', '"']
  else if c = '\\' then ['\\', '\\']
  else if c = '\n' then ['\\', 'n']
  else if c = '\r' then ['\\', 'r']
  else if c = '\t' then ['\\', 't']
  else if c.toNat = 8 then ['\\', 'b']
  else if c.toNat = 12 then ['\\', 'f']
  else if c.toNat < 32 then
    ['\\', 'u', '0', '0', hexDigit (c.toNat / 16), hexDigit (c.toNat % 16)]
  else [c]

/-- A string as a JSON text. -/
def printString (s : String) : List Char :=
  '"' :: (s.toList.flatMap printChar ++ ['"'])

/-- A whole number as a JSON text. -/
def printInt (n : Int) : List Char :=
  if n < 0 then '-' :: Nat.toDigits 10 n.natAbs else Nat.toDigits 10 n.natAbs

mutual

/-- A value as a compact JSON text. -/
def print : Json → List Char
  | .null => ['n', 'u', 'l', 'l']
  | .bool true => ['t', 'r', 'u', 'e']
  | .bool false => ['f', 'a', 'l', 's', 'e']
  | .int n => printInt n
  | .float x => Decimal.compact x
  | .string s => printString s
  | .array items => '[' :: printItems items
  | .object members => '\x7b' :: printMembers members

/-- The items of an array up to its closing bracket. -/
def printItems : List Json → List Char
  | [] => [']']
  | [v] => print v ++ [']']
  | v :: w :: rest => print v ++ ',' :: printItems (w :: rest)

/-- The members of an object up to its closing brace. -/
def printMembers : List (String × Json) → List Char
  | [] => ['\x7d']
  | [(name, v)] => printString name ++ ':' :: (print v ++ ['\x7d'])
  | (name, v) :: m :: rest =>
    printString name ++ ':' :: (print v ++ ',' :: printMembers (m :: rest))

end

/-- The compact JSON text of a value. -/
def compact (v : Json) : String :=
  String.ofList v.print

end Json

end PullTriage
