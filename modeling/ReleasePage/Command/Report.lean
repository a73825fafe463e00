import ReleasePage.Text.Pieces
import ReleasePage.Web.FetchError

/-!
# Error reports

A report has a headline and the causes below it, each of which explains the one
before. A single cause is indented, several ones are numbered.
-/

namespace ReleasePage

/-- The message of an error and its causes: what the volume said comes below the
operation. -/
def Files.FileError.chain (error : FileError) : List String := [error.message, error.reason]

/-- The message of an error and its causes: what the reader said comes below the
activity. -/
def ReleaseError.chain (error : ReleaseError) : List String :=
  match error with
  | .malformed fault => [error.message, fault.message]
  | .badDate _ fault => [error.message, fault.message]
  | _ => [error.message]

/-- The message of an error and its causes. -/
def Web.FetchError.chain (error : FetchError) : List String :=
  match error with
  | .release inner => inner.chain
  | .files inner => inner.chain
  | .decode _ fault => [error.message, fault.message]
  | _ => [error.message]

namespace Command

/-- Why a command failed. -/
structure Report where
  /-- What failed. -/
  headline : String
  /-- Why, each text explaining the one before. -/
  causes : List String
  deriving Repr, DecidableEq

namespace Report

/-- The report of messages that explain each other. -/
def ofChain : List String → Report
  | [] => ⟨"", []⟩
  | headline :: causes => ⟨headline, causes⟩

/-- A text with every line after the first one indented. -/
def indented (indent : String) (text : String) : String :=
  Text.joined ("\n" ++ indent)
    ((Text.pieces (· == '\n') text.toList).map String.ofList)

/-- Blanks in front of a text, up to a width. -/
def aligned (width : Nat) (text : String) : String :=
  String.ofList (List.replicate (width - text.length) ' ') ++ text

/-- The lines of numbered causes, from a number on. -/
def numbered : Nat → List String → List String
  | _, [] => []
  | n, cause :: rest =>
    (aligned 5 (Nat.repr n) ++ ": " ++ indented "       " cause) :: numbered (n + 1) rest

/-- The lines of the causes. -/
def causeLines : List String → List String
  | [cause] => ["    " ++ indented "    " cause]
  | causes => numbered 0 causes

/-- The text of a report. -/
def text (report : Report) : String :=
  "Error: " ++ report.headline ++
    (if report.causes.isEmpty then ""
     else "\n\nCaused by:\n" ++ Text.joined "\n" (causeLines report.causes)) ++ "\n"

end Report

end Command

end ReleasePage
