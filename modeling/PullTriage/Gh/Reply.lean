import PullTriage.Text.Blank
import PullTriage.Text.Lowercase
import PullTriage.Text.Search
import PullTriage.Text.Utf8

/-!
# Replies of the Client Program

GitHub is reached through a client program, `gh`, which is run once for each
question. What one run of it amounts to is a `Reply`: it ends with a code and
two outputs after some time, or it never ends, or it does not start.

A reply is inconclusive if nothing is learned from it and asking again may
help: it takes longer than the deadline, or it ends in an error that looks
like a passing one.

## Main definitions

* `Output`: How a run of the program ended.
* `Reply`: What a run of the program amounts to.
* `Output.isTransient`: Whether an error looks like a passing one.
* `Output.reason`: The error output as it is reported.
-/

namespace PullTriage

namespace Gh

/-- How a run of the client program ended. -/
structure Output where
  /-- The code, zero for success. -/
  code : Int
  /-- What it printed. -/
  stdout : List UInt8
  /-- What it printed as an error. -/
  stderr : List UInt8
deriving DecidableEq, Repr

/-- What one run of the client program amounts to. -/
inductive Reply where
  /-- It ends after the given milliseconds. -/
  | ends (output : Output) (delay : Nat)
  /-- It never ends. -/
  | hangs
  /-- It does not start. -/
  | absent
deriving DecidableEq, Repr

/-- The milliseconds after which a run of the program is given up. -/
def deadline : Nat := 60000

namespace Output

/-- Whether the run was a success. -/
def isSuccess (o : Output) : Bool :=
  o.code = 0

/-- The error output as text. -/
def errorText (o : Output) : List Char :=
  Utf8.lossy o.stderr

/-- The error output as it is reported. -/
def reason (o : Output) : String :=
  String.ofList (Text.trim o.errorText)

/-- The phrases that mark a passing error, in lowercase: errors of the server,
    too many requests, and a network that gave way. -/
def transientMarkers : List String :=
  ["http 500", "http 502", "http 503", "http 504", "secondary rate limit", "connection reset",
    "timeout", "timed out"]

/-- Whether the error output holds the mark of a passing error, in letters of
    any case. -/
def isTransient (o : Output) : Bool :=
  let text := Text.lower o.errorText
  transientMarkers.any fun marker => Text.holds marker.toList text

end Output

end Gh

end PullTriage
