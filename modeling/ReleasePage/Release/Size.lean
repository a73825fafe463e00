import ReleasePage.Number.Rounding

/-!
# Sizes

Sizes are shown in binary megabytes with two decimals. The number of bytes is
first rounded to a double, and the exact quotient is then rounded once more.
-/

namespace ReleasePage

/-- The number of bytes in a binary megabyte. -/
def megabyte : Nat := 1048576

/-- A size in hundredths of a megabyte. -/
def sizeHundredths (size : Nat) : Nat := Number.roundDiv (100 * Number.round53 size) megabyte

/-- A size in megabytes, such as `3.78 MB`. -/
def sizeText (size : Nat) : String :=
  let h := sizeHundredths size
  Nat.repr (h / 100) ++ "." ++ Number.padded 2 (h % 100) ++ " MB"

end ReleasePage
