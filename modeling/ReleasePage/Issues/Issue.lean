import ReleasePage.Json.Record

/-!
# Issues

Issues as the hosting service lists them.
-/

namespace ReleasePage

open ReleasePage.Json (Record)

/-- A milestone of a repository. -/
structure Milestone where
  /-- The title of the milestone. -/
  title : String
  deriving Repr, DecidableEq

/-- An issue of a repository. -/
structure Issue where
  /-- The number of the issue. -/
  number : Nat
  /-- The title of the issue. -/
  title : String
  /-- The milestone that the issue belongs to, if any. -/
  milestone : Option Milestone
  deriving Repr, DecidableEq

/-- The issue belongs to the milestone with this title. -/
def Issue.inMilestone (title : String) (issue : Issue) : Bool :=
  match issue.milestone with
  | some milestone => milestone.title == title
  | none => false

/-- The fields of a milestone. -/
def Milestone.record : Record Milestone where
  title := "Milestone"
  types := [String]
  fields := .cons (.required "title" Json.text) .nil
  build := fun (title, _) => ⟨title⟩

/-- The fields of an issue. -/
def Issue.record : Record Issue where
  title := "Issue"
  types := [Nat, String, Option Milestone]
  fields := .cons (.required "number" Json.word64) <| .cons (.required "title" Json.text) <|
    .cons (.optional "milestone" Milestone.record.decoder) .nil
  build := fun (number, title, milestone, _) => ⟨number, title, milestone⟩

/-- Reads a page of issues. -/
def Issue.parsePage (input : Text.Bytes) : Except Json.Fault (List Issue) :=
  Json.decode (Json.list Issue.record.decoder) input

end ReleasePage
