import ReleasePage.Number.Power

/-!
# Rounding quotients

Quotients of natural numbers are rounded to the nearest integer, and a half
goes to the even neighbour. The same rule, applied at 53 binary digits, turns a
natural number into the nearest double.
-/

namespace ReleasePage.Number

/-- `n / d` rounded to the nearest integer, a half going to the even
neighbour. -/
def roundDiv (n d : Nat) : Nat :=
  let quotient := n / d
  let twice := 2 * (n % d)
  if twice < d then quotient
  else if d < twice then quotient + 1
  else quotient + quotient % 2

/-- The nearest number with at most 53 significant binary digits, a half going
to the neighbour whose last digit is even. -/
def round53 (n : Nat) : Nat :=
  if n < twoTo 53 then n
  else
    let unit := twoTo (Nat.log2 n - 52)
    roundDiv n unit * unit

/-- A number in decimal digits, with zeros in front up to `width` digits. -/
def padded (width n : Nat) : String :=
  let digits := Nat.repr n
  String.ofList (List.replicate (width - digits.length) '0') ++ digits

end ReleasePage.Number
