import PullTriage.Affiliation
import PullTriage.Dictionary
import PullTriage.TeamRules

/-!
# Configurations

A resolved configuration: the properties by name as they were resolved, and
what the run reads off them. Five properties have a value built in and need
not occur in the file.

## Main definitions

* `Property`: The names of the properties that the run reads.
* `builtIn`: The properties with a value built in.
* `Config`: A resolved configuration.
* `Config.exports`: The proxy variables that have a value.
-/

namespace PullTriage

namespace Property

/-- Whether labels are only reported. -/
def dryRun : String := "DRY_RUN"

/-- The organization that the repository belongs to. -/
def organization : String := "GITHUB_ORGANIZATION"

/-- The repository. -/
def repository : String := "GITHUB_REPO"

/-- Proxy variables to export, null for none. -/
def proxies : String := "PROXIES"

/-- The labels of teams. -/
def teamLabels : String := "TEAM_TO_LABEL"

/-- Where the labels of teams come from. -/
def strategy : String := "TEAM_LABEL_STRATEGY"

/-- The domains of affiliated addresses. -/
def emailDomains : String := "AFFILIATED_EMAIL_DOMAINS"

/-- The names of affiliated companies. -/
def companies : String := "AFFILIATED_COMPANIES"

/-- Whether members of the organization get their type label. -/
def labelsMembers : String := "LABEL_ORG_MEMBER_PRS"

/-- How many pull requests are worked on at once. -/
def workers : String := "WORKERS"

end Property

/-- The properties that the file may omit, with their values. -/
def builtIn : Dictionary Json :=
  Dictionary.ofList [
    (Property.strategy, .string "map"),
    (Property.emailDomains, .array [.string "intel.com"]),
    (Property.companies, .array [.string "intel"]),
    (Property.labelsMembers, .bool true),
    (Property.workers, .int 1)]

/-- A resolved configuration. -/
structure Config where
  /-- All properties as they were resolved. -/
  properties : Dictionary Json
  /-- Whether labels are only reported. -/
  dryRun : Bool
  /-- The organization. -/
  organization : String
  /-- The repository. -/
  repository : String
  /-- The proxy variables, with nothing for those that are null. -/
  proxies : Dictionary (Option String)
  /-- The labels of teams by table. -/
  teamLabels : Dictionary String
  /-- Where the labels of teams come from. -/
  strategy : Strategy
  /-- The signs of affiliation. -/
  policy : AffiliationPolicy
  /-- Whether members of the organization get their type label. -/
  labelsMembers : Bool
  /-- How many pull requests are worked on at once. -/
  workers : Nat

/-- The proxy variables that have a value, in ascending order. -/
def Config.exports (c : Config) : List (String × String) :=
  c.proxies.entries.filterMap fun (name, url) => url.map fun value => (name, value)

end PullTriage
