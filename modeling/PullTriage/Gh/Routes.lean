import PullTriage.Dictionary
import PullTriage.Gh.Session
import PullTriage.Json.Record

/-!
# Replies by Endpoint

A table that gives the client program one reply for each endpoint, whatever
else stands on the command line. At an endpoint that the table does not have,
the program ends with the error that there is no such page.

A table can be recorded as a JSON object, its members named by endpoints. A
reply is a record of a code and two outputs, all of which may be absent.

## Main definitions

* `Routes`: Replies by endpoint.
* `Routes.script`: The script that answers from the table.
* `Routes.ofString?`: The table that a text records.
-/

namespace PullTriage

namespace Gh

/-- The replies of the client program by endpoint. -/
abbrev Routes := Dictionary Reply

namespace Routes

/-- The reply that there is no such page. -/
def notFound : Reply :=
  .ends ⟨1, [], Utf8.encode "gh: Not Found (HTTP 404)".toList⟩ 0

/-- The reply to a command. -/
def reply (routes : Routes) (arguments : List String) : Reply :=
  (routes.get? (Session.endpoint arguments)).getD notFound

/-- The script that answers from the table. -/
def script (routes : Routes) : Script :=
  .table routes.reply

open Json in
/-- The reply that a record describes. -/
def replyOfTree? (t : Tree) : Option Reply := do
  let [code, stdout, stderr] ← t.slots? ["code", "stdout", "stderr"] | none
  let code ← orElse 0 Tree.natural? code
  let stdout ← orElse "" Tree.text? stdout
  let stderr ← orElse "" Tree.text? stderr
  pure (.ends ⟨code, Utf8.encode stdout.toList, Utf8.encode stderr.toList⟩ 0)

/-- The table that a text records. -/
def ofString? (s : String) : Option Routes := do
  let .object members ← Json.Tree.ofSource? (Json.Source.ofString s) | none
  let entries ← members.mapM fun (key, t) => do
    let endpoint ← key.text?
    let reply ← replyOfTree? t
    pure (endpoint, reply)
  pure (Dictionary.ofList entries)

end Routes

end Gh

end PullTriage
