import PullTriage.Json.Basic

/-!
# Kinds of Properties

The kind of a property is the kind of its default value, and an override has
to be of the same kind. Whole numbers and floating point numbers are
different kinds.

## Main definitions

* `Kind`: The kinds of values.
* `Kind.of`: The kind of a value.
* `Kind.name`: The name of a kind in messages.
-/

namespace PullTriage

/-- The kinds of values. -/
inductive Kind where
  /-- Null. -/
  | null
  /-- A truth value. -/
  | bool
  /-- A whole number. -/
  | integer
  /-- A floating point number. -/
  | float
  /-- A string. -/
  | string
  /-- An array. -/
  | array
  /-- An object. -/
  | object
deriving DecidableEq, Repr

namespace Kind

/-- The kind of a value. -/
def of : Json → Kind
  | .null => null
  | .bool _ => bool
  | .int _ => integer
  | .float _ => float
  | .string _ => string
  | .array _ => array
  | .object _ => object

/-- The name of the kind. -/
def name : Kind → String
  | null => "null"
  | bool => "bool"
  | integer => "integer"
  | float => "float"
  | string => "string"
  | array => "array"
  | object => "object"

end Kind

end PullTriage
