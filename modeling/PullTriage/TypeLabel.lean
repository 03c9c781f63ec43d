/-!
# Type Labels

Every pull request carries at most one label that says what kind of author it
has: a member of the organization, an outsider who is affiliated with it, or
any other outsider. A fourth label marks a pull request with several of them.

The labels have a fixed order, in which they are listed wherever several
occur.

## Main definitions

* `TypeLabel`: The four type labels.
* `TypeLabel.label`: The text of a type label.
* `TypeLabel.ofLabel?`: The type label that a text is.
* `TypeLabel.name`: The name of a type label in data.
-/

namespace PullTriage

/-- A label that says what kind of author a pull request has. -/
inductive TypeLabel where
  /-- The author is an outsider with no sign of affiliation. -/
  | external
  /-- The author is an outsider with an affiliated address or company. -/
  | affiliated
  /-- The author is a member of the organization. -/
  | member
  /-- The pull request carries several type labels. -/
  | conflict
deriving DecidableEq, Repr

namespace TypeLabel

/-- All type labels in their order. -/
def all : List TypeLabel := [external, affiliated, member, conflict]

/-- The text of the label. -/
def label : TypeLabel → String
  | external => "ExternalPR"
  | affiliated => "ExternalIntelPR"
  | member => "OpenvinoPR"
  | conflict => "BadPR"

/-- The name of the type label in data. -/
def name : TypeLabel → String
  | external => "External"
  | affiliated => "AffiliatedExternal"
  | member => "OrgMember"
  | conflict => "Conflict"

/-- The type label with the given text, if there is one. -/
def ofLabel? (s : String) : Option TypeLabel :=
  all.find? fun t => t.label == s

/-- The type label with the given name, if there is one. -/
def ofName? (s : String) : Option TypeLabel :=
  all.find? fun t => t.name == s

/-- What is said of a text that should be a type label and is none. -/
def unknownMessage (s : String) : String :=
  "'" ++ s ++ "' is not a PR type label"

end TypeLabel

end PullTriage
