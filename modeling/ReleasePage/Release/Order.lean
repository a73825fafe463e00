import ReleasePage.Text.Bytes
import ReleasePage.Text.Case

/-!
# Natural order

Labels are ordered the way people read them: without regard to case, and with
runs of digits compared by their value, so that `CentOS 7` comes before
`CentOS 10`. Texts that are equal in this sense are ordered by their bytes, so
that only equal texts compare as equal.
-/

namespace ReleasePage

namespace NaturalOrder

/-- An ASCII digit. -/
def isDigit (c : Char) : Bool := '0' ≤ c && c ≤ '9'

/-- A run of digits without the zeros in front. -/
def significant (run : List Char) : List Char := run.dropWhile (· == '0')

/-- Two runs of digits by their value: of the significant digits the longer run
is the greater number, and runs of one length compare digit by digit. -/
def compareRuns (a b : List Char) : Ordering :=
  let a := significant a
  let b := significant b
  (compare a.length b.length).then (compare a b)

/-- Two sequences of characters, runs of digits by value and all other
characters by code point. A proper beginning is the smaller one. -/
def compareChars : List Char → List Char → Ordering
  | [], [] => .eq
  | [], _ :: _ => .lt
  | _ :: _, [] => .gt
  | c :: x, d :: y =>
    if isDigit c && isDigit d then
      (compareRuns (c :: x.takeWhile isDigit) (d :: y.takeWhile isDigit)).then
        (compareChars (x.dropWhile isDigit) (y.dropWhile isDigit))
    else if c = d then compareChars x y
    else compare c d
termination_by x => x.length
decreasing_by
  · exact Nat.lt_succ_of_le (List.dropWhile_sublist isDigit).length_le
  · simp

/-- The natural order of two texts, with a given way to fold the case of a
character. -/
def compareFolded (fold : Char → List Char) (a b : String) : Ordering :=
  (compareChars (a.toList.flatMap fold) (b.toList.flatMap fold)).then (Text.compareBytes a b)

end NaturalOrder

/-- The natural order of two texts. -/
def naturalCompare (a b : String) : Ordering := NaturalOrder.compareFolded Text.lowercase a b

/-- Texts in natural order, equal ones in the order they came. -/
def naturalSort (texts : List String) : List String :=
  texts.mergeSort fun a b => (naturalCompare a b).isLE

end ReleasePage
