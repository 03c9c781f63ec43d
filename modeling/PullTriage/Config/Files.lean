import PullTriage.Config.Error
import PullTriage.Dictionary
import PullTriage.Text.Search
import PullTriage.Text.Utf8

/-!
# Files of a Directory

The files that a configuration can be read from, as a value: their contents
by their paths in the working directory. The directories are those that the
paths of the files go through.

A path is followed name by name. Empty names and single dots stay where they
are, two dots go back, and every name but the last has to lead into a
directory. A path can lead out of the working directory, from the root or
upwards. At the root only the directories that every system has and the null
device, an empty file, are known. Of the directories above the working one
nothing is known, so any name in them finds nothing.

## Main definitions

* `Files`: The contents of files by path.
* `Place`: What is found at a path.
* `Files.place`: What is found below the working directory.
* `Files.systemPlace`: What is found below the root.
* `Files.find`: Where a path leads.
* `Files.read`: The text of the file at a path.
-/

namespace PullTriage

/-- The contents of files by their paths in the working directory. -/
abbrev Files := Dictionary (List UInt8)

/-- What is found at a path. -/
inductive Place where
  /-- A file with its contents. -/
  | file (content : List UInt8)
  /-- A directory. -/
  | directory
  /-- Nothing. -/
  | nothing
deriving DecidableEq, Repr

namespace Files

/-- The most bytes that a name may have. -/
def nameLimit : Nat := 255

/-- The most bytes that a path may have. -/
def pathLimit : Nat := 4095

/-- What is found at the place of the given names below the working
    directory. -/
def place (files : Files) (names : List String) : Place :=
  let path := Text.joined "/" names
  match files.get? path with
  | some content => .file content
  | none =>
    if names.isEmpty || files.names.any fun name => (path ++ "/").toList.isPrefixOf name.toList then
      .directory
    else .nothing

/-- The directories that the root of every system has. -/
def systemDirectories : List String :=
  ["bin", "boot", "dev", "etc", "home", "lib", "media", "mnt", "opt", "proc", "root", "run", "sbin",
    "srv", "sys", "tmp", "usr", "var"]

/-- What is found at the place of the given names below the root. -/
def systemPlace : List String → Place
  | [] => .directory
  | [name] => if systemDirectories.contains name then .directory else .nothing
  | ["dev", "null"] => .file []
  | _ => .nothing

/-- Where the names of a path lead from a directory of which nothing is
    known. -/
def followUnknown (names : List String) : Except ReadFault Place :=
  match names.find? fun name => name ∉ ["", ".", ".."] with
  | none => .ok .directory
  | some name => .error (if nameLimit < name.utf8ByteSize then .nameTooLong else .missing)

/-- Where the names of a path lead from the place of the names `here`, given
    what is found below the directory that they start from. Above the root is
    the root. -/
def follow (place : List String → Place) (isRoot : Bool) :
    List String → List String → Except ReadFault Place
  | here, [] => .ok (place here)
  | here, name :: rest =>
    match place here with
    | .file _ => .error .notDirectory
    | .nothing => .error .missing
    | .directory =>
      if name = "" ∨ name = "." then follow place isRoot here rest
      else if name = ".." then
        if here.isEmpty && !isRoot then followUnknown rest
        else follow place isRoot here.dropLast rest
      else if nameLimit < name.utf8ByteSize then .error .nameTooLong
      else follow place isRoot (here ++ [name]) rest

/-- The names in a path. -/
def namesOf (path : String) : List String :=
  (Text.fields '/' path.toList).map String.ofList

/-- Where a path leads. -/
def find (files : Files) (path : String) : Except ReadFault Place :=
  if path.toList.any fun c => c.toNat = 0 then .error .nullInPath
  else if pathLimit < path.utf8ByteSize then .error .nameTooLong
  else
    match namesOf path with
    | [""] => .error .missing
    | "" :: names => follow systemPlace true [] names
    | names => follow files.place false [] names

/-- The text of the file at a path. -/
def read (files : Files) (path : String) : Except ReadFault String :=
  match files.find path with
  | .error fault => .error fault
  | .ok .directory => .error .directory
  | .ok .nothing => .error .missing
  | .ok (.file content) =>
    match Utf8.text? content with
    | some l => .ok (String.ofList l)
    | none => .error .notText

end Files

end PullTriage
