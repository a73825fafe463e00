import ReleasePage.Settings.Value
import ReleasePage.Time.Civil

/-!
# Dates and times in TOML documents

A moment is a date, a time of day, or both with or without an offset. Settings
do not use moments; they are recognised so that a document with one is accepted,
and a moment counts as a table.
-/

namespace ReleasePage.Settings.Toml

/-- Reads a number of exactly `count` decimal digits within bounds. -/
def readFixed (count low high : Nat) (input : List Char) : Option (Nat × List Char) :=
  let digits := input.take count
  if digits.length = count ∧ digits.all Char.isDigit then
    let n := digits.foldl (fun n c => 10 * n + (c.toNat - 48)) 0
    if low ≤ n ∧ n ≤ high then some (n, input.drop count) else none
  else none

/-- What is left after an expected character. -/
def expect (expected : Char) : List Char → Option (List Char)
  | [] => none
  | c :: rest => if c = expected then some rest else none

/-- What is left after a date that exists. -/
def readDate (input : List Char) : Option (List Char) := do
  let (year, rest) ← readFixed 4 0 9999 input
  let rest ← expect '-' rest
  let (month, rest) ← readFixed 2 1 12 rest
  let rest ← expect '-' rest
  let (_, rest) ← readFixed 2 1 (Time.monthLength year month) rest
  return rest

/-- What is left after the fraction of a second, if there is one. -/
def skipFraction : List Char → List Char
  | '.' :: c :: rest => if c.isDigit then rest.dropWhile Char.isDigit else '.' :: c :: rest
  | input => input

/-- What is left after a time of day. -/
def readTime (input : List Char) : Option (List Char) := do
  let (_, rest) ← readFixed 2 0 23 input
  let rest ← expect ':' rest
  let (_, rest) ← readFixed 2 0 59 rest
  let rest ← expect ':' rest
  let (_, rest) ← readFixed 2 0 60 rest
  return skipFraction rest

/-- What is left after the hours and minutes of an offset. -/
def readOffsetBody (input : List Char) : Option (List Char) := do
  let (_, rest) ← readFixed 2 0 23 input
  let rest ← expect ':' rest
  let (_, rest) ← readFixed 2 0 59 rest
  return rest

/-- What is left after an offset, or everything if there is none. -/
def skipOffset : List Char → List Char
  | [] => []
  | c :: rest =>
    if c == 'Z' || c == 'z' then rest
    else if c == '+' || c == '-' then (readOffsetBody rest).getD (c :: rest)
    else c :: rest

/-- What is left after a time and an offset that follow a date, or everything if
there are none. -/
def skipTime : List Char → List Char
  | [] => []
  | c :: rest =>
    if c == 'T' || c == 't' || c == ' ' then ((readTime rest).map skipOffset).getD (c :: rest)
    else c :: rest

/-- What is left after a moment, if one starts here. -/
def skipMoment (input : List Char) : Option (List Char) :=
  match readDate input with
  | some rest => some (skipTime rest)
  | none => readTime input

/-- Reads a moment, if one starts here: a table that holds its text. -/
def readMoment (input : List Char) : Option (Value × List Char) :=
  (skipMoment input).map fun rest =>
    let text := String.ofList (input.take (input.length - rest.length))
    (.table [("moment", .text text)], rest)

end ReleasePage.Settings.Toml
