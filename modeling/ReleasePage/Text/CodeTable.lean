import ReleasePage.Text.CodePoint
import ReleasePage.Text.Pieces

/-!
# Tables of code points

A large table is written in lines of entries with blanks between them. An entry
gives a code point in hexadecimal, or the first and the last one of a run with a
hyphen between them, and after a slash how far apart the code points of the run
are, if it is not one. After a greater-than sign follow the numbers that the table
holds for them, separated by commas.
-/

namespace ReleasePage.Text

/-- A run of code points and what a table says of them. -/
structure CodeRun where
  /-- The first code point. -/
  first : Nat
  /-- The last code point. -/
  last : Nat
  /-- How far apart the code points are. -/
  step : Nat
  /-- The numbers that the table holds for them. -/
  values : List Nat
  deriving Repr, DecidableEq

/-- A code point belongs to a run. -/
def CodeRun.covers (run : CodeRun) (n : Nat) : Bool :=
  run.first ≤ n && n ≤ run.last && (n - run.first) % run.step == 0

/-- The hexadecimal numbers between the signs of a kind. -/
def hexNumbers (sign : Char) (text : List Char) : List Nat :=
  (pieces (· == sign) text).map fun digits => (hexNumber? digits).getD 0

/-- Splits a text at the first sign of a kind. -/
def splitAtSign (sign : Char) (text : List Char) : List Char × List Char :=
  (text.takeWhile (· != sign), (text.dropWhile (· != sign)).drop 1)

/-- The run of an entry. -/
def CodeRun.ofEntry (entry : List Char) : CodeRun :=
  let (run, values) := splitAtSign '>' entry
  let (points, step) := splitAtSign '/' run
  let ends := hexNumbers '-' points
  ⟨ends.head?.getD 0, ends.getLast?.getD 0, if step.isEmpty then 1 else (hexNumber? step).getD 1,
    if values.isEmpty then [] else hexNumbers ',' values⟩

/-- A table of code points. -/
abbrev CodeTable := List CodeRun

/-- The table that lines of entries give. -/
def CodeTable.ofLines (lines : Array String) : CodeTable :=
  lines.toList.flatMap fun line => (pieces (· == ' ') line.toList).map CodeRun.ofEntry

/-- What a table says of a code point. -/
def CodeTable.find? (table : CodeTable) (n : Nat) : Option CodeRun :=
  List.find? (·.covers n) table

/-- A code point is in a table. -/
def CodeTable.contains (table : CodeTable) (n : Nat) : Bool := (table.find? n).isSome

end ReleasePage.Text
