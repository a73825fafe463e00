import Mathlib
import ReleasePage.Release.Size
import ReleasePage.Proofs.Number.Digits
import ReleasePage.Proofs.Number.Rounding

/-!
# Shown sizes are faithful

A shown size is read back as a number of hundredths. Although two roundings lie
between a size and its text, this number is the nearest one as long as the size is
below `2 ^ 53`, it never falls while sizes of 64 bits grow, and the size that a text
shows has that text again.
-/

namespace ReleasePage

open ReleasePage.Number (Nearest NearestEven gap round53 roundDiv twoTo words64)

/-- The hundredths of a megabyte that a text shows: digits, a point, two more digits
and the unit. -/
def shownHundredths? (text : String) : Option Nat :=
  let whole := text.toList.takeWhile Char.isDigit
  match text.toList.dropWhile Char.isDigit with
  | ['.', tenths, hundredths, ' ', 'M', 'B'] =>
    if whole ≠ [] ∧ tenths.isDigit ∧ hundredths.isDigit then
      some (Nat.ofDigitChars 10 (whole ++ [tenths, hundredths]) 0)
    else none
  | _ => none

/-- What a size shows is its number of hundredths. -/
theorem shownHundredths?_sizeText (size : Nat) :
    shownHundredths? (sizeText size) = some (sizeHundredths size) := by
  have hlen : (Number.padded 2 (sizeHundredths size % 100)).toList.length = 2 :=
    Number.length_padded (by decide) (Nat.mod_lt _ (by decide))
  have hpart := Number.ofDigitChars_padded 2 (sizeHundredths size % 100)
  obtain ⟨a, b, hab⟩ := List.length_eq_two.mp hlen
  have ha : a.isDigit = true := Number.isDigit_of_mem_padded (hab ▸ List.mem_cons_self)
  have hb : b.isDigit = true :=
    Number.isDigit_of_mem_padded (hab ▸ List.mem_cons_of_mem a List.mem_cons_self)
  have hwhole : ∀ c ∈ Nat.toDigits 10 (sizeHundredths size / 100), c.isDigit = true :=
    fun c hc => Nat.isDigit_of_mem_toDigits (by decide) (by decide) hc
  have htext : (sizeText size).toList =
      Nat.toDigits 10 (sizeHundredths size / 100) ++ ['.', a, b, ' ', 'M', 'B'] := by
    simp only [sizeText, String.toList_append, hab, Nat.toList_repr, List.append_assoc]
    rfl
  have htake : (sizeText size).toList.takeWhile Char.isDigit =
      Nat.toDigits 10 (sizeHundredths size / 100) := by
    rw [htext, List.takeWhile_append_of_pos hwhole, List.takeWhile_cons_of_neg (by decide),
      List.append_nil]
  have hdrop : (sizeText size).toList.dropWhile Char.isDigit = ['.', a, b, ' ', 'M', 'B'] := by
    rw [htext, List.dropWhile_append_of_pos hwhole, List.dropWhile_cons_of_neg (by decide)]
  have hvalue : Nat.ofDigitChars 10 (Nat.toDigits 10 (sizeHundredths size / 100) ++ [a, b]) 0 =
      sizeHundredths size := by
    rw [Nat.ofDigitChars_append, Nat.ofDigitChars_ten_toDigits, Number.ofDigitChars_eq_add, ← hab,
      hpart, hlen]
    exact Nat.div_add_mod' (sizeHundredths size) 100
  simp only [shownHundredths?, htake, hdrop, hvalue]
  exact if_pos ⟨Nat.toDigits_ne_nil, ha, hb⟩

/-- Larger sizes show no fewer hundredths. -/
theorem sizeHundredths_mono {a b : Nat} (h : a ≤ b) : sizeHundredths a ≤ sizeHundredths b :=
  Number.roundDiv_mono (Nat.mul_le_mul_left 100 (Number.round53_mono h)) megabyte

/-- The double of a size of 64 bits differs from it by at most 1024 bytes, and may be
one more than any such size. -/
theorem round53_of_word {size : Nat} (h : size < words64) :
    round53 size ≤ words64 ∧ |(round53 size : Int) - size| ≤ 1024 := by
  rcases Nat.lt_or_ge size (twoTo 53) with hlow | hhigh
  · rw [Number.round53_of_lt hlow, sub_self, abs_zero]
    exact ⟨h.le, by decide⟩
  · have hpos : size ≠ 0 := by
      have h53 := Number.twoTo_pos 53
      omega
    have hlog : Nat.log2 size < 64 := (Nat.log2_lt hpos).mpr h
    have herror := Number.abs_round53_sub hhigh
    have hunit : twoTo (Nat.log2 size - 52) ≤ twoTo 11 := Number.twoTo_le (by omega)
    have h11 : twoTo 11 = 2048 := rfl
    refine ⟨(Number.round53_between hhigh).2.trans (Number.twoTo_le (by omega)), ?_⟩
    omega

/-- The hundredths of a size of 64 bits are at most those of `2 ^ 64`. -/
theorem sizeHundredths_mul_le {size : Nat} (h : size < words64) :
    sizeHundredths size * megabyte ≤ 100 * words64 := by
  have hle := Number.roundDiv_mono (Nat.mul_le_mul_left 100 (round53_of_word h).1) megabyte
  have htop : 100 * words64 = 1759218604441600 * megabyte := rfl
  rw [htop, Number.roundDiv_mul _ (by decide)] at hle
  rw [htop]
  exact Nat.mul_le_mul_right _ hle

/-- A number of hundredths lies next to exactly one whole number of bytes, since a
hundredth of a megabyte has no half of a byte as a multiple. -/
theorem nearest_bytes (h m : Nat) :
    Nearest m (h * megabyte) 100 ↔ m = roundDiv (h * megabyte) 100 := by
  have hhalf := (Number.gap_roundDiv (h * megabyte) (by decide : 0 < 100)).1
  have hdivides : (4 : Int) ∣ roundDiv (h * megabyte) 100 * (100 : Nat) - (h * megabyte : Nat) := by
    refine dvd_sub (Dvd.dvd.mul_left (by decide) _) ?_
    exact_mod_cast Dvd.dvd.mul_left (by decide : 4 ∣ megabyte) h
  have hgap : (4 : Int) ∣ gap (roundDiv (h * megabyte) 100) (h * megabyte) 100 :=
    (dvd_abs _ _).mpr hdivides
  exact Number.nearest_iff_of_gap_lt (by omega) m

/-- The size that the hundredths of a size stand for has these hundredths again. -/
theorem sizeHundredths_again {size : Nat} (h : size < words64) :
    sizeHundredths (min (words64 - 1) (roundDiv (sizeHundredths size * megabyte) 100)) =
      sizeHundredths size := by
  have hmax := sizeHundredths_mul_le h
  have hnear := (Number.gap_roundDiv (sizeHundredths size * megabyte) (by decide : 0 < 100)).1
  generalize sizeHundredths size = shown at hmax hnear ⊢
  generalize hn : roundDiv (shown * megabyte) 100 = n at hnear ⊢
  have hwords : words64 = 18446744073709551616 := rfl
  have hmega : megabyte = 1048576 := rfl
  obtain ⟨-, hdouble⟩ := round53_of_word (show min (words64 - 1) n < words64 by omega)
  -- the limit takes away one byte at most, and the double 1024
  have hn' := abs_le.mp (show |(n : Int) * (100 : Nat) - (shown * megabyte : Nat)| ≤ 50 by
    change gap n (shown * megabyte) 100 ≤ 50
    omega)
  have hd' := abs_le.mp hdouble
  have hgap : 2 * gap shown (100 * round53 (min (words64 - 1) n)) megabyte < megabyte := by
    have hbound : |(shown : Int) * megabyte - (100 * round53 (min (words64 - 1) n) : Nat)| ≤
        102600 := by
      rw [abs_le]
      push_cast at hn' ⊢
      omega
    change |(shown : Int) * megabyte - _| ≤ 102600 at hbound
    rw [gap]
    omega
  have hround := (Number.nearestEven_roundDiv (100 * round53 (min (words64 - 1) n))
    (by decide : 0 < megabyte)).nearest
  exact (Number.nearest_iff_of_gap_lt hgap _).mp hround

/-- The text of a size of 64 bits shows hundredths of a megabyte. Below `2 ^ 53` bytes
these are the nearest ones, a half going to the even neighbour. They never fall while
the size grows, and the nearest whole number of bytes (or else the greatest size) has
the same text. -/
theorem sizeText_is_faithful :
    (∀ size < words64, ∃ shown, shownHundredths? (sizeText size) = some shown ∧
      (size < twoTo 53 → NearestEven shown (100 * size) megabyte) ∧
      ∃ bytes, (∀ m, Nearest m (shown * megabyte) 100 ↔ m = bytes) ∧
        sizeText (min (words64 - 1) bytes) = sizeText size) ∧
    ∀ a b, a ≤ b → b < words64 → ∃ less more, shownHundredths? (sizeText a) = some less ∧
      shownHundredths? (sizeText b) = some more ∧ less ≤ more := by
  refine ⟨fun size h => ⟨sizeHundredths size, shownHundredths?_sizeText size, fun hsmall => ?_, ?_⟩,
    fun a b h _ => ?_⟩
  · rw [sizeHundredths, Number.round53_of_lt hsmall]
    exact Number.nearestEven_roundDiv _ (by decide)
  · refine ⟨roundDiv (sizeHundredths size * megabyte) 100, nearest_bytes _, ?_⟩
    rw [sizeText, sizeHundredths_again h]
    rfl
  · exact ⟨_, _, shownHundredths?_sizeText a, shownHundredths?_sizeText b, sizeHundredths_mono h⟩

/-- Three eighths of a megabyte are a tie between two texts, and the greatest size of 64
bits is rounded up to a size that does not exist. -/
theorem sizeText_is_faithful_sample :
    (∃ shown, shownHundredths? (sizeText 393216) = some shown ∧
      NearestEven shown (100 * 393216) megabyte) ∧
    (∃ shown bytes, shownHundredths? (sizeText (words64 - 1)) = some shown ∧
      (∀ m, Nearest m (shown * megabyte) 100 ↔ m = bytes) ∧
        sizeText (min (words64 - 1) bytes) = sizeText (words64 - 1)) ∧
    ∃ less more, shownHundredths? (sizeText 393216) = some less ∧
      shownHundredths? (sizeText (words64 - 1)) = some more ∧ less ≤ more := by
  obtain ⟨shown, hs, heven, -⟩ := sizeText_is_faithful.1 393216 (by decide)
  obtain ⟨top, ht, -, bytes, hb, hagain⟩ := sizeText_is_faithful.1 (words64 - 1) (by decide)
  exact ⟨⟨shown, hs, heven (by decide)⟩, ⟨top, bytes, ht, hb, hagain⟩,
    sizeText_is_faithful.2 393216 (words64 - 1) (by decide) (by decide)⟩

/-- The tie goes to the even neighbour. -/
example : sizeText 393216 = "0.38 MB" ∧ sizeText (words64 - 1) = "17592186044416.00 MB" := by
  decide +kernel

end ReleasePage
