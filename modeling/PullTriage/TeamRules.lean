import PullTriage.Category
import PullTriage.Dictionary
import PullTriage.OrderedSet
import PullTriage.Text.Lowercase
import PullTriage.Text.Search

/-!
# Labels of Reviewer Teams

Each team that is asked for a review can stand for a category label. The
label comes from a table, or from the name of the team: the maintainers of a
part of a repository are named after the repository and the part, and teams
of administrators stand for continuous integration. A strategy says which of
the two is asked, and in the last case the table has the first word.

In a name such as `repo-docs-maintainers` the category is what stands between
the repository and the last occurrence of the ending. It has at least one
character, it does not run over a line end, and more text may follow the
ending. A blank category is none.

## Main definitions

* `Strategy`: Where the label of a team comes from.
* `Strategy.ofText?`: The strategy that a setting names.
* `TeamRules`: The repository, the table and the strategy.
* `TeamRules.byName`: The label by the name of a team.
* `TeamRules.byTable`: The label by the table.
* `TeamRules.label`: The label by the strategy.
* `TeamRules.categories`: The labels of teams that a pull request lacks.
-/

namespace PullTriage

/-- Where the label of a team comes from. -/
inductive Strategy where
  /-- From the table only. -/
  | table
  /-- From the name only. -/
  | name
  /-- From the table, or else from the name. -/
  | both
deriving DecidableEq, Repr

namespace Strategy

/-- The word for the strategy. -/
def text : Strategy → String
  | table => "map"
  | name => "pattern"
  | both => "both"

/-- The word for a strategy in normal form: trimmed and in lowercase. -/
def normal (s : String) : String :=
  String.ofList (Text.lower (Text.trim s.toList))

/-- The strategy that a word names, up to case and white space around it. -/
def ofText? (s : String) : Option Strategy :=
  [table, name, both].find? fun strategy => strategy.text == normal s

/-- What is said of a word that names no strategy. -/
def unknownMessage (s : String) : String :=
  "unknown strategy '" ++ normal s ++ "', use: map, pattern, both"

end Strategy

/-- What the labels of teams depend on. -/
structure TeamRules where
  /-- The repository, whose name the teams of maintainers begin with. -/
  repository : String
  /-- The labels of teams by table. -/
  table : Dictionary String
  /-- Which of the two ways is taken. -/
  strategy : Strategy

namespace TeamRules

/-- The longest text without a line end that `marker` follows, if there is
    one. -/
def beforeLast (marker : List Char) : List Char → Option (List Char)
  | [] => if marker.isEmpty then some [] else none
  | c :: rest =>
    let here := if marker.isPrefixOf (c :: rest) then some [] else none
    if c = '\n' then here
    else ((beforeLast marker rest).map (c :: ·)).or here

/-- The category in the name of a team of maintainers. -/
def categoryOf? (repository team : List Char) : Option (List Char) :=
  let lead := repository ++ ['-']
  if lead.isPrefixOf team then
    (beforeLast "-maintainers".toList (team.drop lead.length)).filter fun g => !g.isEmpty
  else none

/-- The label by the name of the team. -/
def byName (rules : TeamRules) (team : String) : Option String :=
  if Text.holds "admins".toList team.toList then some (categoryLabel "ci")
  else
    ((categoryOf? rules.repository.toList team.toList).map Text.trim).bind fun category =>
      if category.isEmpty then none else some (categoryLabel (String.ofList category))

/-- The label by the table. An empty label is none. -/
def byTable (rules : TeamRules) (team : String) : Option String :=
  (rules.table.get? team).filter fun label => label ≠ ""

/-- The label of the team by the strategy. -/
def label (rules : TeamRules) (team : String) : Option String :=
  match rules.strategy with
  | .table => rules.byTable team
  | .name => rules.byName team
  | .both => (rules.byTable team).or (rules.byName team)

/-- The members of a list that are not in the set, each once and in the order
    of their first occurrence. -/
def missing (present : OrderedSet String) (l : List String) : List String :=
  (l.foldl (fun (kept : List String) label =>
    if label ∈ present ∨ label ∈ kept then kept else label :: kept) []).reverse

/-- The labels of the teams that the pull request lacks, in the order of the
    teams. -/
def categories (rules : TeamRules) (present : OrderedSet String) (teams : List String) :
    List String :=
  missing present (teams.filterMap rules.label)

end TeamRules

end PullTriage
