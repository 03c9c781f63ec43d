/-!
# Environment Variables

The variables of a program are a list of lines, each a name, an equals sign
and a value. A name is looked up by what the lines begin with. So a name that
holds an equals sign itself can be found in two ways, as a name of its own
and across the equals sign of a shorter name, and an empty name is never
found.

Exporting a variable replaces the first line of its name. A name that is
empty or holds an equals sign, and a name or a value that holds a null
character, cannot be exported.

## Main definitions

* `Environment`: The variables of a program.
* `Environment.ofList`: The variables with the given names and values.
* `Environment.lookup`: The value of a variable.
* `Environment.insert`: The environment after exporting a variable.
* `Environment.exportAll`: The environment after exporting several.
-/

namespace PullTriage

/-- The variables of a program. -/
structure Environment where
  /-- The lines that hold a name, an equals sign and a value each. -/
  lines : List String := []
deriving DecidableEq, Repr

namespace Environment

/-- The line of a variable. -/
def line (name value : String) : String :=
  name ++ "=" ++ value

/-- The variables with the given names and values. -/
def ofList (entries : List (String × String)) : Environment :=
  ⟨entries.map fun (name, value) => line name value⟩

/-- The value that a line gives to a name, if it is a line of that name. -/
def valueIn? (name line : String) : Option String :=
  let lead := name.toList ++ ['=']
  if lead.isPrefixOf line.toList then some (String.ofList (line.toList.drop lead.length)) else none

/-- The value of a variable, from the first line of its name. -/
def lookup (e : Environment) (name : String) : Option String :=
  if name = "" then none else e.lines.findSome? (valueIn? name)

/-- Whether a variable of the given name and value can exist. -/
def isExportable (name value : String) : Bool :=
  name ≠ "" && name.toList.all (fun c => c ≠ '=' && c.toNat ≠ 0) &&
    value.toList.all fun c => c.toNat ≠ 0

/-- The lines with one for the given variable, in the place of the first line
    of its name or at the end. -/
def insertLine (name value : String) : List String → List String
  | [] => [line name value]
  | l :: rest =>
    if (valueIn? name l).isSome then line name value :: rest
    else l :: insertLine name value rest

/-- The environment after exporting a variable. -/
def insert (e : Environment) (name value : String) : Environment :=
  ⟨insertLine name value e.lines⟩

/-- The environment after exporting variables in order, and whether all of
    them could be exported. -/
def exportAll : List (String × String) → Environment → Bool × Environment
  | [], e => (true, e)
  | (name, value) :: rest, e =>
    if isExportable name value then exportAll rest (e.insert name value) else (false, e)

end Environment

end PullTriage
