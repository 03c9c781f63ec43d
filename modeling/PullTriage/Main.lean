import PullTriage.Cli.Program
import PullTriage.Config.Entries
import PullTriage.Gh.Routes
import Std.Time.DateTime.Timestamp

/-!
# Running the Program

The outermost layer: it gets the arguments, the variables, the file of the
configuration and the time, has the run performed, and prints what was said.

Other programs are not started from here. The replies of the client program
are taken from a recording, whose path is in a variable. Without a recording
there is no client program.

## Main definitions

* `main`: Runs the program.
-/

namespace PullTriage

namespace Cli

/-- The variable that holds the path of the recorded replies. -/
def repliesVariable : String := "ORG_CONTROL_REPLIES"

/-- Why a file could not be read. Two faults are errors of one kind, and the
    code of a path that names a directory is 21. -/
def faultOf : IO.Error → ReadFault
  | .inappropriateType _ code _ => if code = 21 then .directory else .notDirectory
  | .invalidArgument .. => .nameTooLong
  | _ => .missing

/-- The text of the file at a path, or why there is none. -/
def readFile (path : String) : IO (Except ReadFault String) := do
  try
    let bytes ← IO.FS.readBinFile path
    match Utf8.text? bytes.toList with
    | some l => pure (.ok (String.ofList l))
    | none => pure (.error .notText)
  catch e => pure (.error (faultOf e))

/-- The properties that the variables of the program can give values to. -/
def propertyNames (path : String) (content : Except ReadFault String) : List String :=
  let entries := (content.toOption.bind fun text => (parseEntries path text).toOption).getD []
  builtIn.names ++ entries.map Prod.fst

/-- The variables of the given names. -/
def environmentOf (names : List String) : IO Environment := do
  let entries ← names.filterMapM fun name => do
    let value ← IO.getEnv name
    pure (value.map fun value => (name, value))
  pure (Environment.ofList entries)

/-- The script of the recorded replies. -/
def recordedScript : IO Gh.Script := do
  match ← IO.getEnv repliesVariable with
  | none => pure (.queue [])
  | some path =>
    match ← readFile path with
    | .ok text => pure (((Gh.Routes.ofString? text).map Gh.Routes.script).getD (.queue []))
    | .error _ => pure (.queue [])

/-- The time. -/
def currentInstant : IO Instant := do
  let t ← Std.Time.Timestamp.now
  pure ((Instant.ofParts? t.val.second.val t.val.nano.val.toNat).getD .earliest)

/-- Performs a command and prints what it says. -/
def performAndPrint (command : Command) : IO UInt32 := do
  let content ← readFile command.configFile
  let environment ← environmentOf (propertyNames command.configFile content)
  let transcript := command.perform
    { read := fun _ => content, environment, script := ← recordedScript
      now := ← currentInstant }
  IO.print transcript.text
  IO.eprint transcript.ending.text
  pure transcript.ending.code.toUInt32

end Cli

end PullTriage

open PullTriage Cli in
/-- Runs the program. -/
def main (arguments : List String) : IO UInt32 := do
  match Command.ofArguments arguments (← IO.getEnv Command.configVariable) with
  | .ok command => performAndPrint command
  | .error .version => IO.print versionText; pure 0
  | .error .help => IO.print usageText; pure 0
  | .error .misuse => IO.eprint usageText; pure 2
