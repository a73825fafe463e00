import ReleasePage.Issues.Walk
import ReleasePage.Web.Address

/-!
# Release notes

The release notes of a milestone list its closed issues under two headings, one
for each of two labels.
-/

namespace ReleasePage.Issues

open ReleasePage.Web (Client FetchError Request)

/-- Release notes. -/
structure Notes where
  /-- The issues about new features. -/
  enhancements : List Issue
  /-- The issues about bugs. -/
  bugfixes : List Issue
  deriving Repr, DecidableEq

/-- The label of issues about new features. -/
def enhancementLabel : String := "enhancement"

/-- The label of issues about bugs. -/
def bugLabel : String := "bug"

/-- The line of an issue. -/
def issueLine (issue : Issue) : String :=
  "* (#" ++ Nat.repr issue.number ++ ") " ++ issue.title ++ "\n"

/-- Release notes as text. -/
def Notes.text (notes : Notes) : String :=
  "Enhancements:\n" ++ String.join (notes.enhancements.map issueLine) ++
    "\nBugfixes:\n" ++ String.join (notes.bugfixes.map issueLine)

/-- A repository at a hosting service. -/
structure Repository where
  /-- The base of the addresses. -/
  base : String
  /-- The owner of the repository. -/
  owner : String
  /-- The name of the repository. -/
  name : String
  deriving Repr, DecidableEq

/-- The address of the closed issues of a repository with a label. -/
def Repository.issuesUrl (repository : Repository) (label : String) : String :=
  Web.closedIssuesUrl repository.base repository.owner repository.name label

/-- The collection of release notes. -/
structure Collection where
  /-- The notes, or why they could not be collected. -/
  result : Except FetchError Notes
  /-- All requests that were made. -/
  requests : List Request
  /-- Address and number of issues of each page that could be read. -/
  pages : List (String × Nat)

/-- Collects the release notes of a milestone, new features first. -/
def collect (client : Client) (repository : Repository) (milestone : String) : Collection :=
  let first := walk client [] (repository.issuesUrl enhancementLabel) milestone
  match first.result with
  | .error error => ⟨.error error, first.requests, first.pages⟩
  | .ok enhancements =>
    let second := walk client first.requests (repository.issuesUrl bugLabel) milestone
    ⟨second.result.map fun bugfixes => ⟨enhancements, bugfixes⟩, second.requests,
      first.pages ++ second.pages⟩

end ReleasePage.Issues
