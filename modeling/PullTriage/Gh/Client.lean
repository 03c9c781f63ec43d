import PullTriage.Gh.Answer
import PullTriage.Gh.Overlap

/-!
# GitHub through the Client Program

The six questions of a run as commands of the client program. A reading
command is the endpoint alone, a list also asks for all pages, and a write
gives one field for each label.

Membership is answered by how the command ends: success for a member, and the
error that there is no such page for everybody else.

## Main definitions

* `pullsEndpoint`, `pullEndpoint`, `reviewsEndpoint`, `labelsEndpoint`,
  `memberEndpoint`, `userEndpoint`: Where each question is asked.
* `addCommand`: The command that adds labels.
* `membership`: What the end of a membership command says.
* `Session.identity`: What is known of a user, asked for once.
-/

namespace PullTriage

namespace Gh

namespace Session

variable (s : Session)

/-- The path of the repository. -/
def repositoryPath : String :=
  "repos/" ++ s.owner ++ "/" ++ s.repository

/-- Where the pull requests in a state are listed. -/
def pullsEndpoint (state : PullState) : String :=
  s.repositoryPath ++ "/pulls?state=" ++ state.text ++ "&per_page=100"

/-- Where a pull request is found. -/
def pullEndpoint (number : Nat) : String :=
  s.repositoryPath ++ "/pulls/" ++ toString number

/-- Where the review requests of a pull request are found. -/
def reviewsEndpoint (number : Nat) : String :=
  s.pullEndpoint number ++ "/requested_reviewers"

/-- Where labels are added to a pull request. -/
def labelsEndpoint (number : Nat) : String :=
  s.repositoryPath ++ "/issues/" ++ toString number ++ "/labels"

/-- Where the membership of a user is found. -/
def memberEndpoint (login : String) : String :=
  "orgs/" ++ s.owner ++ "/members/" ++ login

/-- Where a user is found. -/
def userEndpoint (login : String) : String :=
  "users/" ++ login

/-- The arguments of the command that adds labels. -/
def addCommand (number : Nat) (labels : List String) : List String :=
  [s.labelsEndpoint number, "--method", "POST"] ++
    labels.flatMap fun label => ["-f", "labels[]=" ++ label]

end Session

/-- The output of a successful run, or the failure of the command. -/
def succeeded (endpoint : String) (o : Output) : Except Failure Output :=
  if o.isSuccess then .ok o else .error ⟨.callFailed endpoint o.reason, []⟩

/-- What the end of a membership command says. -/
def membership (o : Output) : Except Failure Bool :=
  if o.isSuccess then .ok true
  else if Text.holds "HTTP 404".toList o.errorText then .ok false
  else .error ⟨.memberCallFailed o.reason, []⟩

/-- What `read` finds in a value, or the failure that it finds nothing. -/
def understood {α : Type} (cause : Cause) (a : Option α) : Except Failure α :=
  match a with
  | some a => .ok a
  | none => .error ⟨cause, [.json]⟩

namespace Session

/-- The call whose answer is already determined. -/
def settled {α : Type} (e : Except Failure α) : Call Session α :=
  fun s => (e, s)

/-- Asks for one value at an endpoint. -/
def ask {α : Type} (read : Json.Tree → Option α) (endpoint : String) : Call Session α :=
  (run [endpoint]).andThen fun o =>
    (settled (succeeded endpoint o)).andThen fun o =>
      settled (understood .badAnswer (one? read o.stdout))

/-- The pull requests in a state, from all pages. -/
def list (state : PullState) : Call Session (List Pull) := fun s =>
  let endpoint := s.pullsEndpoint state
  ((run [endpoint, "--paginate"]).andThen fun o =>
    (settled (succeeded endpoint o)).andThen fun o =>
      settled (understood .badPages (pages? pullOfTree? o.stdout))) s

/-- The pull request of a number. -/
def get (number : Nat) : Call Session Pull := fun s =>
  (ask pullOfTree? (s.pullEndpoint number)).within (.fetchPull number) s

/-- The teams that are asked to review a pull request. -/
def teams (p : Pull) : Call Session (OrderedSet String) := fun s =>
  (ask reviewsOfTree? (s.reviewsEndpoint p.number)).within (.fetchReviews p.number) s

/-- Whether a user is a member of the organization. -/
def isMember (login : String) : Call Session Bool := fun s =>
  ((run [s.memberEndpoint login, "--silent"]).andThen fun o =>
    (settled (membership o)).within (.checkMember login)) s

/-- What is known of a user. An answer is remembered by the login that was
    asked for, a failure is not. -/
def identity (login : String) : Call Session Identity := fun s =>
  match s.known? login with
  | some i => (.ok i, s)
  | none =>
    match (ask userOfTree? (userEndpoint login)).within (.fetchUser login) s with
    | (.ok i, s') => (.ok i, s'.learn login i)
    | (.error f, s') => (.error f, s')

/-- Adds labels to the pull request of a number. -/
def addLabels (number : Nat) (labels : List String) : Call Session Unit := fun s =>
  ((run (s.addCommand number labels)).andThen fun o =>
    ((settled (succeeded (s.labelsEndpoint number) o)).within (.addLabels number)).andThen fun _ =>
      Call.answer ()) s

end Session

instance : GitHub Session where
  list := Session.list
  get := Session.get
  teams := Session.teams
  isMember := Session.isMember
  identity := Session.identity
  addLabels := Session.addLabels

end Gh

end PullTriage
