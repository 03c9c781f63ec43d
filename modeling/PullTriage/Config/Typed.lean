import PullTriage.Config.Basic
import PullTriage.Config.Error
import PullTriage.Json.Printer

/-!
# Reading the Properties

The step from properties by name to a configuration. Each property that the
run reads has to be there and of its kind, and three of them have values that
are of the right kind but unusable. The properties are read in a fixed order,
so the first fault in that order is the one reported.

## Main definitions

* `mismatch`: The error about a value of the wrong kind.
* `readBool`, `readInt`, `readString`, `readTable`, `readProxies`,
  `readStrings`: Read one property.
* `Config.ofProperties`: The configuration of the properties.
-/

namespace PullTriage

namespace Typed

/-- The error about a value that is not of the expected kind. A string is
    shown by its contents and any other value by its JSON text. -/
def mismatch (name : String) (expected : Kind) (value : Json) : ConfigError :=
  .typeMismatch name expected (value.asString?.getD value.compact)

/-- The value of a property that has to be there. -/
def find (properties : Dictionary Json) (name : String) : Except ConfigError Json :=
  match properties.get? name with
  | some value => .ok value
  | none => .error (.missingProperty name)

/-- What a view finds in a value, or the error that it is of another kind. -/
def view {α : Type} (name : String) (expected : Kind) (look : Json → Option α) (value : Json) :
    Except ConfigError α :=
  match look value with
  | some a => .ok a
  | none => .error (mismatch name expected value)

/-- The truth value of a property. -/
def readBool (properties : Dictionary Json) (name : String) : Except ConfigError Bool := do
  view name .bool Json.asBool? (← find properties name)

/-- The whole number of a property. -/
def readInt (properties : Dictionary Json) (name : String) : Except ConfigError Int := do
  view name .integer Json.asInt? (← find properties name)

/-- The string of a property. -/
def readString (properties : Dictionary Json) (name : String) : Except ConfigError String := do
  view name .string Json.asString? (← find properties name)

/-- The members of an object. -/
def members? : Json → Option (List (String × Json))
  | .object members => some members
  | _ => none

/-- The items of an array. -/
def items? : Json → Option (List Json)
  | .array items => some items
  | _ => none

/-- A string, or nothing for null. -/
def stringOrNull? : Json → Option (Option String)
  | .null => some none
  | .string s => some (some s)
  | _ => none

/-- The members of the object at a property as `look` sees them. A member of
    the wrong kind is named by the property and its own name. -/
def readMembers {α : Type} (look : Json → Option α) (properties : Dictionary Json)
    (name : String) : Except ConfigError (Dictionary α) := do
  let members ← view name .object members? (← find properties name)
  let entries ← members.mapM fun (key, value) => do
    let a ← view (name ++ "." ++ key) .string look value
    pure (key, a)
  pure (Dictionary.ofList entries)

/-- The strings in the array at a property. An item of the wrong kind is named
    by the property. -/
def readStrings (properties : Dictionary Json) (name : String) :
    Except ConfigError (List String) := do
  let items ← view name .array items? (← find properties name)
  items.mapM (view name .string Json.asString?)

/-- The name of the repository, which must not be blank. -/
def readRepository (properties : Dictionary Json) : Except ConfigError String := do
  let name ← readString properties Property.repository
  if (Text.trim name.toList).isEmpty then
    throw (.invalidValue Property.repository .blankRepository)
  pure name

/-- The strategy that the property names. -/
def readStrategy (properties : Dictionary Json) : Except ConfigError Strategy := do
  let word ← readString properties Property.strategy
  match Strategy.ofText? word with
  | some strategy => pure strategy
  | none => throw (.invalidValue Property.strategy (.unknownStrategy word))

/-- The number of workers, which has to be positive. -/
def readWorkers (properties : Dictionary Json) : Except ConfigError Nat := do
  let n ← readInt properties Property.workers
  if n ≤ 0 then throw (.invalidValue Property.workers (.tooFewWorkers n))
  pure n.toNat

end Typed

open Typed in
/-- The configuration of the properties. -/
def Config.ofProperties (properties : Dictionary Json) : Except ConfigError Config := do
  let repository ← readRepository properties
  let strategy ← readStrategy properties
  let workers ← readWorkers properties
  let dryRun ← readBool properties Property.dryRun
  let organization ← readString properties Property.organization
  let proxies ← readMembers stringOrNull? properties Property.proxies
  let teamLabels ← readMembers Json.asString? properties Property.teamLabels
  let domains ← readStrings properties Property.emailDomains
  let companies ← readStrings properties Property.companies
  let labelsMembers ← readBool properties Property.labelsMembers
  pure { properties, dryRun, organization, repository, proxies, teamLabels, strategy,
         policy := AffiliationPolicy.ofEntries domains companies, labelsMembers, workers }

end PullTriage
