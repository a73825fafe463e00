import ReleasePage.Text.Case
import ReleasePage.Text.Pieces
import ReleasePage.Web.Url.Percent

/-!
# Paths of addresses

A path is a row of steps between slashes. In its requested form it has no dot
steps: one dot stays where it is, and two dots go back one step, though never out
of a drive. In the path of a file a drive at the start is written with a colon, and
only one slash is left in front. Tabulators and line ends are no part of an address,
but in the path of a file one of them separates a drive from what follows it.
-/

namespace ReleasePage.Web

/-- A step that stays where it is. -/
def isSingleDot (step : String) : Bool :=
  [".", "%2e"].contains (String.ofList (Text.asciiLower step.toList))

/-- A step that goes back. -/
def isDoubleDot (step : String) : Bool :=
  ["..", ".%2e", "%2e.", "%2e%2e"].contains (String.ofList (Text.asciiLower step.toList))

/-- A letter and a colon or a bar, which name a drive. -/
def isDrive (step : String) : Bool :=
  match step.toList with
  | [letter, mark] => letter.isAlpha && (mark == ':' || mark == '|')
  | _ => false

/-- A drive with its colon. -/
def driveText (drive : String) : String := String.ofList (drive.toList.take 1) ++ ":"

/-- The steps in reverse that are left after one that goes back. A drive is never
left. -/
def stepBack : List String → List String
  | [] => []
  | step :: rest => if isDrive step then step :: rest else rest

/-- The steps in reverse that are left after a dot step; nothing for other steps. A
dot step at the end leaves an empty step. -/
def afterDots? (done : List String) (isLast : Bool) (step : String) : Option (List String) :=
  let ending := if isLast then [""] else []
  if isDoubleDot step then some (ending ++ stepBack done)
  else if isSingleDot step then some (ending ++ done)
  else none

/-- The steps without dot steps, after those in `done`, which are in reverse. -/
def plainSteps (done : List String) : List String → List String
  | [] => done.reverse
  | step :: rest => plainSteps ((afterDots? done rest.isEmpty step).getD (step :: done)) rest

/-- A slash in either direction. -/
def isSlash (c : Char) : Bool := c == '/' || c == '\\'

/-- The text of a step, with nothing in it that may not stand there. -/
def stepText (step : List Char) : String := percentEncoded pathReserved step

/-- A path in its requested form, its steps separated as `cut` says. -/
def normalPath (cut : Char → Bool) (path : List Char) : String :=
  let body := if path.head?.any cut then path.drop 1 else path
  "/" ++ Text.joined "/" (plainSteps [] ((Text.pieces cut body).map stepText))

/-! ## Files -/

/-- A tabulator or a line end. -/
def isBreak (c : Char) : Bool := c == '\t' || c == '\n' || c == '\r'

/-- A text without tabulators and line ends. -/
def withoutBreaks (text : List Char) : List Char := text.filter (!isBreak ·)

/-- What is left of a text after some characters other than tabulators and line
ends. -/
def dropVisible : (count : Nat) → List Char → List Char
  | 0, text => text
  | _, [] => []
  | count + 1, c :: rest => dropVisible (if isBreak c then count + 1 else count) rest

/-- The steps of the path of a file. -/
structure FileSteps where
  /-- The steps in reverse. -/
  done : List String
  /-- The first step was given as a drive and nothing else. -/
  onDrive : Bool
  deriving Repr, DecidableEq

/-- Splits a step after a drive with a colon, if a tabulator or a line end and
something else follow. -/
def splitDrive? (step : List Char) : Option (String × String) :=
  let letter := String.ofList (withoutBreaks (step.takeWhile (· != ':')))
  match step.dropWhile (· != ':') with
  | _ :: mark :: rest =>
    let text := stepText (withoutBreaks rest)
    if isDrive (letter ++ ":") && isBreak mark && text != "" then some (letter ++ ":", text)
    else none
  | _ => none

/-- One more step, which is no dot step. -/
def FileSteps.push (steps : FileSteps) (step : List Char) : FileSteps :=
  let text := stepText (withoutBreaks step)
  if !steps.done.isEmpty then { steps with done := text :: steps.done }
  else
    match splitDrive? step with
    | some (drive, text) => { steps with done := [text, drive] }
    | none => if isDrive text then ⟨[driveText text], true⟩ else { steps with done := [text] }

/-- More steps. -/
def FileSteps.append (steps : FileSteps) : List (List Char) → FileSteps
  | [] => steps
  | step :: rest =>
    match afterDots? steps.done rest.isEmpty (stepText (withoutBreaks step)) with
    | some done => FileSteps.append { steps with done := done } rest
    | none => (steps.push step).append rest

/-- The steps of a path. -/
def FileSteps.ofText (path : List Char) : FileSteps :=
  FileSteps.append ⟨[], false⟩ (Text.pieces isSlash path)

/-- The path of a file, with one slash in front. -/
def FileSteps.text (steps : FileSteps) : String :=
  "/" ++ String.ofList ((Text.joined "/" steps.done.reverse).toList.dropWhile (· == '/'))

end ReleasePage.Web
