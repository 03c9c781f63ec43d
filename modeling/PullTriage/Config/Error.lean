import PullTriage.Config.Kind
import PullTriage.TeamRules
import PullTriage.Text.Quoted

/-!
# Configuration Errors

Why a configuration could not be loaded, by cause. The wording is in
`ConfigError.message` and the functions that it calls.

The words of the JSON reader about a text that is no JSON are not part of any
message; a mark stands in their place. A JSON text that is no object is named
by what it is instead.

## Main definitions

* `ReadFault`: Why a file could not be read.
* `RootFault`: What is wrong with the text of a configuration file.
* `ValueFault`: What is wrong with a value of the right kind.
* `ConfigError`: Why a configuration could not be loaded.
* `ConfigError.message`: What is said about it.
-/

namespace PullTriage

/-- Why a file could not be read as text. -/
inductive ReadFault where
  /-- There is no such file. -/
  | missing
  /-- The path names a directory. -/
  | directory
  /-- The path goes through something that is no directory. -/
  | notDirectory
  /-- The path is too long, or a name in it is. -/
  | nameTooLong
  /-- The path holds a null character. -/
  | nullInPath
  /-- The bytes are not well-formed UTF-8. -/
  | notText
deriving DecidableEq, Repr

/-- What is said about the fault. -/
def ReadFault.message : ReadFault → String
  | missing => "No such file or directory (os error 2)"
  | directory => "Is a directory (os error 21)"
  | notDirectory => "Not a directory (os error 20)"
  | nameTooLong => "File name too long (os error 36)"
  | nullInPath => "file name contained an unexpected NUL byte"
  | notText => "stream did not contain valid UTF-8"

/-- What is wrong with the text of a configuration file. -/
inductive RootFault where
  /-- The text is no JSON, or a value in it is none. -/
  | unreadable
  /-- The text begins with a value that is no object, which is described. -/
  | notObject (found : String)
deriving DecidableEq, Repr

/-- What is said about the fault. -/
def RootFault.message : RootFault → String
  | unreadable => "<json>"
  | notObject found =>
    "invalid type: " ++ found ++ ", expected a JSON object of configuration properties"

/-- What is wrong with a value of the right kind. -/
inductive ValueFault where
  /-- The name of the repository is blank. -/
  | blankRepository
  /-- The word names no strategy. -/
  | unknownStrategy (word : String)
  /-- The number of workers is not positive. -/
  | tooFewWorkers (n : Int)
deriving DecidableEq, Repr

/-- What is said about the fault. -/
def ValueFault.message : ValueFault → String
  | blankRepository => "repository name must not be empty"
  | unknownStrategy word => Strategy.unknownMessage word
  | tooFewWorkers n => "expected a positive worker count, got " ++ toString n

/-- Why a configuration could not be loaded. -/
inductive ConfigError where
  /-- The file could not be read. -/
  | unreadable (path : String) (fault : ReadFault)
  /-- The text of the file is not an object of properties. -/
  | malformed (path : String) (fault : RootFault)
  /-- An argument overrides a property that does not exist. -/
  | unsupportedArgument (argument : String)
  /-- A value is not of the kind that it has to be. -/
  | typeMismatch (name : String) (expected : Kind) (found : String)
  /-- A property occurs twice in the file. -/
  | duplicateProperty (name : String)
  /-- A property is absent. -/
  | missingProperty (name : String)
  /-- A value is of the right kind but unusable. -/
  | invalidValue (name : String) (fault : ValueFault)
deriving DecidableEq, Repr

/-- What is said about the error. -/
def ConfigError.message : ConfigError → String
  | unreadable path fault =>
    "Failed to load configuration from " ++ path ++ ": " ++ fault.message
  | malformed path fault => "Malformed configuration in " ++ path ++ ": " ++ fault.message
  | unsupportedArgument argument => "Unsupported argument: " ++ argument
  | typeMismatch name expected found =>
    "Type of " ++ name ++ " parameter must be " ++ expected.name ++ ", got " ++ Text.quoted found
  | duplicateProperty name => "Duplicate property: " ++ name
  | missingProperty name => "Missing required property: " ++ name
  | invalidValue name fault => "Invalid value for " ++ name ++ ": " ++ fault.message

/-- What is said about the error and its cause, the outermost first. Only an
    unreadable file has a cause of its own. -/
def ConfigError.messages : ConfigError → List String
  | unreadable path fault => [(unreadable path fault).message, fault.message]
  | e => [e.message]

end PullTriage
