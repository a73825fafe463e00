import ReleasePage.Number.Rounding

/-!
# Doubles as exact numbers

A finite double is a sign, a mantissa below `2 ^ 53` and a power of two. All
arithmetic here is exact arithmetic on fractions of natural numbers followed by
one rounding to the nearest double.
-/

namespace ReleasePage.Number

/-- A double-precision number. -/
inductive Double where
  /-- `mantissa * 2 ^ exponent`, negated if `negative`. -/
  | finite (negative : Bool) (mantissa : Nat) (exponent : Int)
  /-- One of the two infinities. -/
  | infinite (negative : Bool)
  /-- The value of an undefined operation. -/
  | notANumber
  deriving Repr, DecidableEq

namespace Double

/-- The exponent of the smallest positive double. -/
def minExponent : Int := -1074

/-- The greatest exponent of a finite double with a 53-digit mantissa. -/
def maxExponent : Int := 971

/-- Zero with a sign. -/
def zero (negative : Bool) : Double := .finite negative 0 minExponent

/-- The fraction `num / den` divided by `2 ^ e`, as a fraction. -/
def unscale (num den : Nat) (e : Int) : Nat × Nat :=
  if 0 ≤ e then (num, den * twoTo e.toNat) else (num * twoTo (-e).toNat, den)

/-- The power of two at which `num / den` has a mantissa of 53 binary digits,
but no less than that of the smallest double. -/
def exponentFor (num den : Nat) : Int :=
  let guess : Int := (Nat.log2 num : Int) - Nat.log2 den - 52
  let scaled := unscale num den (guess + 52)
  max (if scaled.1 < scaled.2 then guess - 1 else guess) minExponent

/-- The double nearest to `num / den`, a half going to the even mantissa and
everything from halfway beyond the greatest double to infinity. -/
def ofRatio (negative : Bool) (num den : Nat) : Double :=
  if num = 0 then zero negative
  else
    let e := exponentFor num den
    let scaled := unscale num den e
    let m := roundDiv scaled.1 scaled.2
    let e' := if m = twoTo 53 then e + 1 else e
    let m' := if m = twoTo 53 then twoTo 52 else m
    if maxExponent < e' then .infinite negative else .finite negative m' e'

/-- The magnitude of a finite double as a fraction; zero for all others. -/
def ratio : Double → Nat × Nat
  | .finite _ m e => if 0 ≤ e then (m * twoTo e.toNat, 1) else (m, twoTo (-e).toNat)
  | _ => (0, 1)

/-- The number is negative, or is a negative zero. -/
def isNegative : Double → Bool
  | .finite negative _ _ => negative
  | .infinite negative => negative
  | .notANumber => false

/-- The number is a zero of either sign. -/
def isZero : Double → Bool
  | .finite _ m _ => m == 0
  | _ => false

/-- The same magnitude with a given sign. -/
def withSign (negative : Bool) : Double → Double
  | .finite _ m e => .finite negative m e
  | .infinite _ => .infinite negative
  | .notANumber => .notANumber

/-- The double nearest to `10 ^ k`. -/
def tenPow (k : Nat) : Double := ofRatio false (tenTo k) 1

/-- The rounded product of two finite doubles. -/
def times (x y : Double) : Double :=
  ofRatio (x.isNegative != y.isNegative) (x.ratio.1 * y.ratio.1) (x.ratio.2 * y.ratio.2)

/-- The rounded quotient of two finite doubles, the second one not zero. -/
def quotient (x y : Double) : Double :=
  ofRatio (x.isNegative != y.isNegative) (x.ratio.1 * y.ratio.2) (x.ratio.2 * y.ratio.1)

/-- The double nearest to `digits * 10 ^ power`. Far outside the range of
doubles the answer is infinity or zero without building the power of ten. -/
def ofDecimal (negative : Bool) (digits : Nat) (power : Int) : Double :=
  let size : Int := power + (Nat.repr digits).length
  if digits = 0 then zero negative
  else if 400 < size then .infinite negative
  else if size < -400 then zero negative
  else if 0 ≤ power then ofRatio negative (digits * tenTo power.toNat) 1
  else ofRatio negative digits (tenTo (-power).toNat)

end Double

end ReleasePage.Number
