import PullTriage.Config.Entries
import PullTriage.Config.Literal
import PullTriage.Config.Typed
import PullTriage.Text.Search

/-!
# Resolving a Configuration

A property takes its value from the first of three layers that has one: an
argument on the command line, the environment variable of the same name, and
the file, where what is built in counts as part of the file.

The value in the file is the default, and its kind is the kind of the
property. Text from the upper two layers is read as a value of that kind, or
else stands for itself as a string; if what results is not of the kind, the
property is in error. An argument without a value stands for true, and one
with an empty value for none at all, as does an empty variable. Of several
arguments for one property the last one counts.

Errors are found in a fixed order: a repeated property in the file, an
argument for a property that does not exist, properties of the wrong kind in
the order of their names, and then whatever reading the properties finds.

## Main definitions

* `firstRepeat?`: The first name that occurred before.
* `Override`: What an argument gives its property.
* `readArguments`: The overrides of the command line.
* `overridden`: The value of a property in the upper two layers.
* `resolveProperty`: The value of a property.
* `Config.resolve`: The configuration of a file, arguments and environment.
-/

namespace PullTriage

namespace Resolve

/-- The first name in the list that occurs earlier in it or in `seen`. -/
def firstRepeat? (seen : List String) : List String → Option String
  | [] => none
  | name :: rest => if name ∈ seen then some name else firstRepeat? (name :: seen) rest

/-- What an argument gives its property. -/
inductive Override where
  /-- The argument is the bare name. -/
  | flag
  /-- The argument has this text behind its equals sign. -/
  | text (s : String)
deriving DecidableEq, Repr

/-- The name and the override in an argument. -/
def splitArgument (argument : String) : String × Override :=
  match Text.splitAtFirst '=' argument.toList with
  | some (name, text) => (String.ofList name, .text (String.ofList text))
  | none => (argument, .flag)

/-- The overrides in the arguments, in order. Each has to be for a property
    that exists. -/
def readArguments (defaults : Dictionary Json) (arguments : List String) :
    Except ConfigError (List (String × Override)) :=
  arguments.mapM fun argument =>
    let (name, override) := splitArgument argument
    if defaults.contains name then .ok (name, override)
    else .error (.unsupportedArgument argument)

/-- The text as a value of the kind of the default, or else as a string. -/
def coerce (default : Json) (text : String) : Json :=
  ((Kind.of default).read? text).getD (.string text)

/-- The value that the upper two layers give a property, if they do. -/
def overridden (override : Option Override) (exported : Option String) (default : Json) :
    Option Json :=
  let fromEnvironment := (exported.filter fun s => s ≠ "").map (coerce default)
  match override with
  | some .flag => some (.bool true)
  | some (.text s) => if s = "" then fromEnvironment else some (coerce default s)
  | none => fromEnvironment

/-- The value of a property. -/
def resolveProperty (overrides : Dictionary Override) (environment : String → Option String)
    (name : String) (default : Json) : Except ConfigError Json :=
  match overridden (overrides.get? name) (environment name) default with
  | none => .ok default
  | some value =>
    if Kind.of value = Kind.of default then .ok value
    else .error (Typed.mismatch name (Kind.of default) value)

end Resolve

open Resolve in
/-- The configuration of the entries of a file, the arguments of the command
    line and the environment. -/
def Config.resolve (entries : List (String × Json)) (arguments : List String)
    (environment : String → Option String) : Except ConfigError Config := do
  if let some name := firstRepeat? [] (entries.map Prod.fst) then
    throw (.duplicateProperty name)
  let defaults := builtIn.overlaid entries
  let overrides := Dictionary.ofList (← readArguments defaults arguments)
  let properties ← defaults.entries.mapM fun (name, default) => do
    let value ← resolveProperty overrides environment name default
    pure (name, value)
  Config.ofProperties (Dictionary.ofList properties)

end PullTriage
