/-!
# Powers of two and ten

Powers as functions of their exponent, and the bounds of machine words.
-/

namespace ReleasePage.Number

/-- Two to the power of `n`. -/
def twoTo (n : Nat) : Nat := Nat.pow 2 n

/-- Ten to the power of `n`. -/
def tenTo (n : Nat) : Nat := Nat.pow 10 n

/-- The number of words of 32 bits. -/
def words32 : Nat := twoTo 32

/-- The number of words of 64 bits. -/
def words64 : Nat := twoTo 64

/-- The least signed integer of 64 bits. -/
def minSigned64 : Int := -(twoTo 63 : Nat)

/-- The greatest signed integer of 64 bits. -/
def maxSigned64 : Int := (twoTo 63 - 1 : Nat)

/-- An integer fits into 64 bits with a sign. -/
def isSigned64 (n : Int) : Bool := minSigned64 ≤ n && n ≤ maxSigned64

end ReleasePage.Number
