import Mathlib
import ReleasePage.Number.Rounding

/-!
# Numbers in decimal digits

A number written with zeros in front consists of digits, denotes that number and has
the asked length unless the number needs more digits.
-/

namespace ReleasePage.Number

/-- The value of a number in decimal digits with zeros in front. -/
theorem ofDigitChars_padded (width n : Nat) :
    Nat.ofDigitChars 10 (padded width n).toList 0 = n := by
  simp only [padded, String.toList_append, String.toList_ofList, Nat.toList_repr,
    Nat.ofDigitChars_append, Nat.ofDigitChars_replicate_zero, Nat.mul_zero,
    Nat.ofDigitChars_ten_toDigits]

/-- Numbers in decimal digits are different for different numbers. -/
theorem padded_injective (width : Nat) : Function.Injective (padded width) := by
  intro a b h
  rw [← ofDigitChars_padded width a, h, ofDigitChars_padded]

/-- A number in decimal digits consists of digits. -/
theorem isDigit_of_mem_padded {width n : Nat} {c : Char}
    (h : c ∈ (padded width n).toList) : c.isDigit = true := by
  simp only [padded, String.toList_append, String.toList_ofList, Nat.toList_repr,
    List.mem_append, List.mem_replicate] at h
  rcases h with ⟨-, rfl⟩ | h
  · rfl
  · exact Nat.isDigit_of_mem_toDigits (by decide) (by decide) h

/-- A number that needs no more digits is filled up to the asked length. -/
theorem length_padded {width n : Nat} (hw : 0 < width) (hn : n < 10 ^ width) :
    (padded width n).toList.length = width := by
  have hl : (Nat.repr n).length ≤ width := (Nat.length_repr_le_iff hw).mpr hn
  simp only [padded, String.toList_append, String.toList_ofList, List.length_append,
    List.length_replicate, String.length_toList]
  omega

/-- Further digits shift a number by their count. -/
theorem ofDigitChars_eq_add (digits : List Char) (value : Nat) :
    Nat.ofDigitChars 10 digits value = value * 10 ^ digits.length +
      Nat.ofDigitChars 10 digits 0 := by
  induction digits generalizing value with
  | nil => rw [Nat.ofDigitChars_nil, Nat.ofDigitChars_nil, List.length_nil, pow_zero, mul_one,
      add_zero]
  | cons c digits ih =>
    rw [Nat.ofDigitChars_cons, Nat.ofDigitChars_cons, ih, ih (10 * 0 + _), List.length_cons]
    ring

end ReleasePage.Number
