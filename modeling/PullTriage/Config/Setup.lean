import PullTriage.Config.Environment
import PullTriage.Config.Resolve

/-!
# Setting Up a Run

Loading a configuration reads a file, resolves it against the arguments and
the environment, and exports the proxy variables into the environment. The
variables are exported one by one in ascending order of their names. If one
of them cannot be exported the program is broken off, and the variables
before that one have been exported already.

A program has at most one configuration for good, the first that it was
initialized with successfully. Initializing it again returns that one.

## Main definitions

* `Reading`: How files are read.
* `Setup`: The environment and the configuration of a program.
* `Setup.load`: Loads a configuration.
* `Setup.initialized`: Loads the configuration of the program once.
-/

namespace PullTriage

/-- How files are read: the text of the file at a path, or why there is none. -/
abbrev Reading := String → Except ReadFault String

/-- Why a program has not loaded a configuration. -/
inductive LoadFault where
  /-- The configuration is in error. -/
  | config (e : ConfigError)
  /-- A variable cannot exist, and the program was broken off. -/
  | broken
deriving DecidableEq, Repr

/-- The environment and the configuration of a program. -/
structure Setup where
  /-- The variables of the program. -/
  environment : Environment
  /-- The configuration, once there is one. -/
  config : Option Config := none

namespace Setup

/-- Reads and resolves a configuration without any effect. -/
def resolveFile (read : Reading) (path : String) (arguments : List String) (e : Environment) :
    Except ConfigError Config :=
  match read path with
  | .error fault => .error (.unreadable path fault)
  | .ok text =>
    match parseEntries path text with
    | .error err => .error err
    | .ok entries => Config.resolve entries arguments e.lookup

/-- Loads a configuration and exports its proxy variables. -/
def load (read : Reading) (path : String) (arguments : List String) (s : Setup) :
    Except LoadFault Config × Setup :=
  match resolveFile read path arguments s.environment with
  | .error err => (.error (.config err), s)
  | .ok c =>
    match Environment.exportAll c.exports s.environment with
    | (true, environment) => (.ok c, { s with environment })
    | (false, environment) => (.error .broken, { s with environment })

/-- Loads the configuration of the program, unless it has one. -/
def initialized (read : Reading) (path : String) (arguments : List String) (s : Setup) :
    Except LoadFault Config × Setup :=
  match s.config with
  | some c => (.ok c, s)
  | none =>
    match s.load read path arguments with
    | (.ok c, s') => (.ok c, { s' with config := some c })
    | (.error fault, s') => (.error fault, s')

end Setup

end PullTriage
