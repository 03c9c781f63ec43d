import PullTriage.Text.Search

/-!
# Failures of GitHub Calls

Why a call failed, as a chain of causes from what was attempted down to what
went wrong. The wording of each cause is in `Cause.message`; a failure is
shown as the messages of its chain.

## Main definitions

* `Cause`: One link of a chain.
* `Failure`: A chain of causes.
* `Failure.within`: A failure seen from what was attempted.
* `Failure.text`: The messages of a failure.
* `Failure.ofMessages?`: The failure that consists of given messages.
-/

namespace PullTriage

/-- One link in the chain of causes of a failure. -/
inductive Cause where
  /-- A pull request could not be fetched. -/
  | fetchPull (number : Nat)
  /-- The review requests of a pull request could not be fetched. -/
  | fetchReviews (number : Nat)
  /-- Labels could not be added to a pull request. -/
  | addLabels (number : Nat)
  /-- The membership of a user could not be checked. -/
  | checkMember (login : String)
  /-- A user could not be fetched. -/
  | fetchUser (login : String)
  /-- The client program could not be run. -/
  | start
  /-- The operating system has no such program. -/
  | noProgram
  /-- A call did not answer in time. -/
  | timedOut (endpoint : String)
  /-- A call ended with an error. -/
  | callFailed (endpoint : String) (reason : String)
  /-- The call about a membership ended with an error. -/
  | memberCallFailed (reason : String)
  /-- The answer to a call is not what it should be. -/
  | badAnswer
  /-- The pages of an answer are not what they should be. -/
  | badPages
  /-- The JSON reader found fault with a text. -/
  | json
  /-- There is no pull request of that number. -/
  | noPull (number : Nat)
  /-- Any other cause, in its own words. -/
  | reported (message : String)
deriving DecidableEq, Repr

/-- What is said about the cause. -/
def Cause.message : Cause → String
  | fetchPull number => "Failed to fetch PR #" ++ toString number
  | fetchReviews number => "Failed to fetch review requests for PR #" ++ toString number
  | addLabels number => "Failed to add labels to PR #" ++ toString number
  | checkMember login => "Failed to check organization membership of " ++ login
  | fetchUser login => "Failed to fetch user " ++ login
  | start => "Failed to execute gh api"
  | noProgram => "No such file or directory (os error 2)"
  | timedOut endpoint => "gh api " ++ endpoint ++ " timed out after 60s"
  | callFailed endpoint reason => "gh api " ++ endpoint ++ " failed: " ++ reason
  | memberCallFailed reason => "gh api failed: " ++ reason
  | badAnswer => "Failed to parse gh api response"
  | badPages => "Failed to parse paginated gh api response"
  | json => "<json>"
  | noPull number => "PR #" ++ toString number ++ " not found"
  | reported message => message

/-- A chain of causes, the outermost first. -/
structure Failure where
  /-- What failed in the end. -/
  outermost : Cause
  /-- What led to it, down to the root. -/
  inner : List Cause := []
deriving DecidableEq, Repr

namespace Failure

/-- All causes, the outermost first. -/
def causes (f : Failure) : List Cause :=
  f.outermost :: f.inner

/-- The failure as the cause of another. -/
def within (c : Cause) (f : Failure) : Failure :=
  ⟨c, f.causes⟩

/-- The messages of the chain. -/
def messages (f : Failure) : List String :=
  f.causes.map Cause.message

/-- The messages of the chain on one line. -/
def text (f : Failure) : String :=
  Text.joined ": " f.messages

/-- The failure that consists of the given messages. Without any message
    there is nothing that failed. -/
def ofMessages? : List String → Option Failure
  | [] => none
  | m :: rest => some ⟨.reported m, rest.map .reported⟩

end Failure

end PullTriage
