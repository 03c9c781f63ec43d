import PullTriage.Config.Literal
import PullTriage.Pull.Basic
import PullTriage.Run.Basic
import PullTriage.Text.Search

/-!
# The Command Line

The arguments of the program: options, which begin with a hyphen, and
overrides of properties, which are all other words. An option that takes a
value has it behind an equals sign or in the next word, which must not look
like an option itself. Two hyphens alone end the options.

The words are read from left to right and the first mistake ends the reading:
an option that does not exist, a value that is missing, malformed or not
wanted, or an option that was given before. So do the options that ask for a
text and not for a run, and what follows them is not looked at.

The path of the configuration can also be in the environment. It is looked for
there only if the arguments do not give it.

## Main definitions

* `Setting`: The options that take a value.
* `Switch`: The options that take none.
* `Word`: What a word of the command line looks like.
* `Options`: What the arguments say.
* `Options.readWords`: Reads the arguments.
* `Command`: A run that is asked for.
* `Command.ofArguments`: The run that the arguments ask for.
-/

namespace PullTriage

namespace Cli

/-- The options that take a value. -/
inductive Setting where
  /-- The path of the configuration. -/
  | configFile
  /-- The number of the one pull request to go over. -/
  | number
  /-- The state of the pull requests to go over. -/
  | state
  /-- The minutes within which pull requests are recent. -/
  | newer
deriving DecidableEq, Repr

namespace Setting

/-- The name of the option. -/
def name : Setting → String
  | configFile => "cfg-file"
  | number => "pr"
  | state => "pr-state"
  | newer => "newer"

/-- The option of a name. -/
def ofName? (s : String) : Option Setting :=
  [configFile, number, state, newer].find? fun option => option.name == s

end Setting

/-- The options that take no value. -/
inductive Switch where
  /-- Asks for more log lines. -/
  | verbose
  /-- Asks for the version. -/
  | version
  /-- Asks for the usage. -/
  | help
deriving DecidableEq, Repr

namespace Switch

/-- The options that take no value, in order. -/
def all : List Switch := [verbose, version, help]

/-- The name of the option. -/
def name : Switch → String
  | verbose => "verbose"
  | version => "version"
  | help => "help"

/-- The letter of the option. -/
def letter : Switch → Char
  | verbose => 'v'
  | version => 'V'
  | help => 'h'

/-- The option of a name. -/
def ofName? (s : String) : Option Switch :=
  all.find? fun option => option.name == s

/-- The option of a letter. -/
def ofLetter? (c : Char) : Option Switch :=
  all.find? fun option => option.letter == c

end Switch

/-- What a word of the command line looks like. -/
inductive Word where
  /-- Two hyphens alone. -/
  | ending
  /-- Two hyphens, a name, and a value if there is an equals sign. -/
  | long (name : String) (value : Option String)
  /-- A hyphen and letters. -/
  | short (letters : List Char)
  /-- No option. A hyphen alone is none. -/
  | plain (text : String)
deriving DecidableEq, Repr

/-- What the word looks like. -/
def Word.of (s : String) : Word :=
  match s.toList with
  | ['-', '-'] => .ending
  | '-' :: '-' :: rest =>
    match Text.splitAtFirst '=' rest with
    | some (name, value) => .long (String.ofList name) (some (String.ofList value))
    | none => .long (String.ofList rest) none
  | '-' :: c :: rest => .short (c :: rest)
  | _ => .plain s

/-- Why no run is asked for. -/
inductive Stop where
  /-- The arguments are in error. -/
  | misuse
  /-- The version is asked for. -/
  | version
  /-- The usage is asked for. -/
  | help
deriving DecidableEq, Repr

/-- What the arguments say. -/
structure Options where
  /-- The path of the configuration. -/
  configFile : Option String := none
  /-- The number of the one pull request to go over. -/
  number : Option Nat := none
  /-- The state of the pull requests to go over. -/
  state : Option PullState := none
  /-- The minutes within which pull requests are recent. -/
  newer : Option Nat := none
  /-- Whether more log lines are asked for. -/
  isVerbose : Bool := false
  /-- The overrides of properties, in order. -/
  overrides : List String := []
deriving DecidableEq, Repr

/-- The number of at most 64 bits that a text of digits spells, which may have
    a plus sign in front. -/
def readCount? (s : String) : Option Nat :=
  let digits := match s.toList with
    | '+' :: rest => rest
    | l => l
  (Literal.readDigits? digits).filter fun n => n < Nat.pow 2 64

/-- The path that a text is, which has at least one character. -/
def readPath? (s : String) : Option String :=
  if s = "" then none else some s

/-- What was read for an option that has no value so far. -/
def once {α : Type} (former read : Option α) : Except Stop (Option α) :=
  match former, read with
  | none, some a => .ok (some a)
  | _, _ => .error .misuse

namespace Options

/-- Gives an option its value. -/
def store (o : Options) (value : String) : Setting → Except Stop Options
  | .configFile => (once o.configFile (readPath? value)).map fun configFile => { o with configFile }
  | .number => (once o.number (readCount? value)).map fun number => { o with number }
  | .state => (once o.state (PullState.ofText? value)).map fun state => { o with state }
  | .newer => (once o.newer (readCount? value)).map fun newer => { o with newer }

/-- Turns on an option that takes no value. -/
def turnOn (o : Options) : Switch → Except Stop Options
  | .verbose => if o.isVerbose then .error .misuse else .ok { o with isVerbose := true }
  | .version => .error .version
  | .help => .error .help

/-- Turns on the options of some letters. -/
def turnOnAll (o : Options) : List Char → Except Stop Options
  | [] => .ok o
  | c :: rest =>
    match Switch.ofLetter? c with
    | none => .error .misuse
    | some option =>
      match o.turnOn option with
      | .ok o => o.turnOnAll rest
      | .error stop => .error stop

/-- Reads the arguments. If an option was the word before, its value is
    still `due`. -/
def readWords (o : Options) (due : Option Setting) : List String → Except Stop Options
  | [] => if due.isSome then .error .misuse else .ok o
  | s :: rest =>
    match due, Word.of s with
    | some option, .plain value =>
      match o.store value option with
      | .ok o => readWords o none rest
      | .error stop => .error stop
    | some _, _ => .error .misuse
    | none, .plain text => readWords { o with overrides := o.overrides ++ [text] } none rest
    | none, .ending => .ok { o with overrides := o.overrides ++ rest }
    | none, .short letters =>
      match o.turnOnAll letters with
      | .ok o => readWords o none rest
      | .error stop => .error stop
    | none, .long name (some value) =>
      match Setting.ofName? name with
      | none => .error .misuse
      | some option =>
        match o.store value option with
        | .ok o => readWords o none rest
        | .error stop => .error stop
    | none, .long name none =>
      match Setting.ofName? name, Switch.ofName? name with
      | some option, _ => readWords o (some option) rest
      | none, none => .error .misuse
      | none, some option =>
        match o.turnOn option with
        | .ok o => readWords o none rest
        | .error stop => .error stop

end Options

/-- A run that is asked for. -/
structure Command where
  /-- The path of the configuration. -/
  configFile : String
  /-- The pull requests to go over. -/
  selection : Selection
  /-- The minutes within which pull requests are recent. -/
  newer : Option Nat
  /-- The overrides of properties, in order. -/
  overrides : List String
deriving DecidableEq, Repr

namespace Command

/-- The variable that can hold the path of the configuration. -/
def configVariable : String := "ORG_CONTROL_CONFIG"

/-- The path of the configuration if nothing gives one. -/
def usualConfigFile : String := "config.json"

/-- The path of the configuration: the one in the arguments, or the one in the
    environment, which must not be empty, or the usual one. -/
def chooseConfigFile (given exported : Option String) : Except Stop String :=
  match given, exported with
  | some path, _ => .ok path
  | none, none => .ok usualConfigFile
  | none, some path => if path = "" then .error .misuse else .ok path

/-- The run that the arguments ask for. A number decides over a state. -/
def ofArguments (arguments : List String) (exported : Option String) : Except Stop Command := do
  let o ← Options.readWords {} none arguments
  let configFile ← chooseConfigFile o.configFile exported
  let selection := match o.number with
    | some number => Selection.single number
    | none => Selection.all (o.state.getD .opened)
  pure { configFile, selection, newer := o.newer, overrides := o.overrides }

end Command

end Cli

end PullTriage
