import PullTriage.Config.Error
import PullTriage.Decimal.Shortest
import PullTriage.Json.Printer
import PullTriage.Json.Reader

/-!
# Entries of a Configuration File

A configuration file is one JSON object. Its members are kept in the order of
the file and with their repetitions, since a property that occurs twice is an
error, and which occurrence is meant is nobody's guess.

A file that begins with a value of another kind is refused by naming that
value. An array is named as soon as it begins.

## Main definitions

* `describe?`: The description of a value that is no object.
* `parseEntries`: The names and values in a configuration file.
-/

namespace PullTriage

namespace Entries

open Json

/-- The description of a value that is no object, if it is a value. -/
def describe? : Tree → Option String
  | .null => some "null"
  | .bool b => some ("boolean `" ++ (if b then "true" else "false") ++ "`")
  | .number n =>
    match n.toJson? with
    | some (.int k) => some ("integer `" ++ toString k ++ "`")
    | some (.float x) => some ("floating point `" ++ String.ofList (Decimal.compact x) ++ "`")
    | _ => none
  | .string r => r.text?.map fun s => "string " ++ Text.quoted s
  | _ => none

/-- The fault of a text that begins with something other than a brace. -/
def rootFault (s : Source) : RootFault :=
  match s with
  | some '[' :: _ => .notObject "sequence"
  | _ =>
    match (readFirst s).bind fun (t, _) => describe? t with
    | some found => .notObject found
    | none => .unreadable

end Entries

open Entries Json in
/-- The names and values in the text of a configuration file, in order and
    with repetitions. -/
def parseEntries (path text : String) : Except ConfigError (List (String × Json)) :=
  let s := skipBlank (Source.ofString text)
  match s with
  | some '\x7b' :: _ =>
    match Tree.ofSource? s with
    | some (.object members) =>
      match Tree.membersToJson? (nestingLimit - 1) members with
      | some entries => .ok entries
      | none => .error (.malformed path .unreadable)
    | _ => .error (.malformed path .unreadable)
  | _ => .error (.malformed path (rootFault s))

end PullTriage
