import Mathlib
import ReleasePage.Number.Rounding

/-!
# Rounding is faithful and monotone

A rounded quotient is the integer nearest to it, and a half goes to the even
neighbour. Nearness is said of all integers, without the division that finds the
nearest one. Rounding to 53 binary digits never turns two numbers around, and is off by
at most half of the last digit that is kept.
-/

namespace ReleasePage.Number

/-- The distance between the integer `k` and the quotient `n / d`, in `d`-th parts. -/
def gap (k : Int) (n d : Nat) : Int := |k * d - n|

/-- No integer is nearer to the quotient `n / d`. -/
def Nearest (q n d : Nat) : Prop := ∀ k : Int, gap q n d ≤ gap k n d

/-- No integer is nearer to the quotient `n / d`, and if another one is as near, then
the chosen one is even. -/
structure NearestEven (q n d : Nat) : Prop where
  /-- No integer is nearer. -/
  nearest : Nearest q n d
  /-- A half goes to the even neighbour. -/
  even : ∀ k : Int, k ≠ q → gap k n d = gap q n d → Even q

/-- The rounded quotient is at most a half away, and at a half it is even. -/
theorem gap_roundDiv (n : Nat) {d : Nat} (hd : 0 < d) :
    2 * gap (roundDiv n d) n d ≤ d ∧ (2 * gap (roundDiv n d) n d = d → Even (roundDiv n d)) := by
  have hsplit := Nat.div_add_mod' n d
  have hr := Nat.mod_lt n hd
  have hgap : gap (roundDiv n d) n d = |(roundDiv n d : Int) * d - (n / d * d + n % d : Nat)| := by
    rw [hsplit]
    rfl
  rw [hgap]
  unfold roundDiv
  dsimp only
  split_ifs with hlow hhigh
  · have he : ((n / d : Nat) : Int) * d - (n / d * d + n % d : Nat) = -(n % d : Nat) := by
      push_cast
      ring
    rw [he, abs_neg, Nat.abs_cast]
    omega
  · have he : ((n / d + 1 : Nat) : Int) * d - (n / d * d + n % d : Nat) = (d - n % d : Nat) := by
      rw [Nat.cast_sub hr.le]
      push_cast
      ring
    rw [he, Nat.abs_cast]
    omega
  · have hhalf : 2 * (n % d) = d := by omega
    rcases Nat.mod_two_eq_zero_or_one (n / d) with h0 | h1
    · have he : ((n / d : Nat) : Int) * d - (n / d * d + n % d : Nat) = -(n % d : Nat) := by
        push_cast
        ring
      rw [h0, add_zero, he, abs_neg, Nat.abs_cast]
      exact ⟨by omega, fun _ => Nat.even_iff.mpr h0⟩
    · have he : ((n / d + 1 : Nat) : Int) * d - (n / d * d + n % d : Nat) =
          (d - n % d : Nat) := by
        rw [Nat.cast_sub hr.le]
        push_cast
        ring
      rw [h1, he, Nat.abs_cast]
      exact ⟨by omega, fun _ => Nat.even_iff.mpr (by omega)⟩

/-- Different integers are at least one apart, so what is near to one is far from the
other. -/
theorem le_gap_add_gap {q : Nat} {k : Int} (h : k ≠ q) (n d : Nat) :
    (d : Int) ≤ gap k n d + gap q n d := by
  have hone : (1 : Int) ≤ |k - q| := Int.one_le_abs (sub_ne_zero.mpr h)
  have hprod : |k - q| * d = |(k * d - n) - (q * d - n)| := by
    rw [← Nat.abs_cast d, ← abs_mul, Nat.abs_cast]
    congr 1
    ring
  have hle : (d : Int) ≤ |k - q| * d := by nlinarith
  calc (d : Int) ≤ |(k * d - n) - (q * d - n)| := hprod ▸ hle
    _ ≤ gap k n d + gap q n d := abs_sub _ _

/-- An integer that is less than a half away is the only nearest one. -/
theorem nearest_iff_of_gap_lt {q n d : Nat} (h : 2 * gap q n d < d) (m : Nat) :
    Nearest m n d ↔ m = q := by
  constructor
  · intro hm
    by_contra hne
    have hsum := le_gap_add_gap (q := q) (k := m) (by exact_mod_cast hne) n d
    have hle := hm q
    omega
  · rintro rfl k
    rcases eq_or_ne k m with rfl | hne
    · exact le_rfl
    · have hsum := le_gap_add_gap hne n d
      omega

/-- The rounded quotient is the nearest integer, a half going to the even neighbour. -/
theorem nearestEven_roundDiv (n : Nat) {d : Nat} (hd : 0 < d) :
    NearestEven (roundDiv n d) n d := by
  obtain ⟨hhalf, heven⟩ := gap_roundDiv n hd
  refine ⟨fun k => ?_, fun k hne heq => heven ?_⟩
  · rcases eq_or_ne k (roundDiv n d) with rfl | hne
    · exact le_rfl
    · have hsum := le_gap_add_gap hne n d
      omega
  · have hsum := le_gap_add_gap hne n d
    omega

/-- Rounding keeps whole quotients. -/
theorem roundDiv_mul (q : Nat) {d : Nat} (hd : 0 < d) : roundDiv (q * d) d = q := by
  unfold roundDiv
  dsimp only
  rw [Nat.mul_mod_left, if_pos (by omega), Nat.mul_div_cancel q hd]

/-- Rounding keeps the order of quotients. -/
theorem roundDiv_mono {a b : Nat} (h : a ≤ b) (d : Nat) : roundDiv a d ≤ roundDiv b d := by
  have hq : a / d ≤ b / d := Nat.div_le_div_right h
  have hnext : ∀ n : Nat, n / d ≤ roundDiv n d ∧ roundDiv n d ≤ n / d + 1 := by
    intro n
    unfold roundDiv
    dsimp only
    split_ifs <;> omega
  rcases hq.lt_or_eq with hlt | heq
  · exact (hnext a).2.trans ((Nat.succ_le_of_lt hlt).trans (hnext b).1)
  · -- with one quotient the remainders decide
    have ha := Nat.div_add_mod' a d
    have hb := Nat.div_add_mod' b d
    rw [heq] at ha
    have hr : a % d ≤ b % d := by omega
    unfold roundDiv
    dsimp only
    rw [heq]
    split_ifs <;> omega

/-- Powers of two are positive. -/
theorem twoTo_pos (n : Nat) : 0 < twoTo n := Nat.pow_pos (by decide)

/-- The next power of two. -/
theorem twoTo_succ (n : Nat) : twoTo (n + 1) = 2 * twoTo n := by
  change 2 ^ (n + 1) = 2 * 2 ^ n
  ring

/-- Exponents add up. -/
theorem twoTo_add (m n : Nat) : twoTo (m + n) = twoTo m * twoTo n := pow_add 2 m n

/-- Powers of two grow with their exponent. -/
theorem twoTo_le {m n : Nat} (h : m ≤ n) : twoTo m ≤ twoTo n :=
  Nat.pow_le_pow_right (by decide) h

/-- The power of two at the first digit of a number that has more than 53, as a
multiple of the last digit that is kept. -/
theorem twoTo_log2 {n : Nat} (hn : twoTo 53 ≤ n) :
    twoTo (Nat.log2 n) = twoTo 52 * twoTo (Nat.log2 n - 52) ∧
      twoTo (Nat.log2 n) ≤ n ∧ n ≤ twoTo 53 * twoTo (Nat.log2 n - 52) := by
  have hpos : n ≠ 0 := by
    have h := twoTo_pos 53
    omega
  have hlog : 53 ≤ Nat.log2 n := (Nat.le_log2 hpos).mpr hn
  have hsplit : Nat.log2 n = 52 + (Nat.log2 n - 52) := by omega
  have heq : twoTo (Nat.log2 n) = twoTo 52 * twoTo (Nat.log2 n - 52) := by
    rw [← twoTo_add, ← hsplit]
  have hlt : n < twoTo (Nat.log2 n + 1) := Nat.lt_log2_self
  have h53 : twoTo 53 = 2 * twoTo 52 := twoTo_succ 52
  refine ⟨heq, Nat.log2_self_le hpos, ?_⟩
  rw [twoTo_succ, heq, ← mul_assoc, ← h53] at hlt
  exact hlt.le

/-- A number of at most 53 digits is kept. -/
theorem round53_of_lt {n : Nat} (hn : n < twoTo 53) : round53 n = n := if_pos hn

/-- A longer number is rounded at its fifty-third digit. -/
theorem round53_of_le {n : Nat} (hn : twoTo 53 ≤ n) :
    round53 n = roundDiv n (twoTo (Nat.log2 n - 52)) * twoTo (Nat.log2 n - 52) :=
  if_neg hn.not_gt

/-- A longer number stays between the powers of two around it. -/
theorem round53_between {n : Nat} (hn : twoTo 53 ≤ n) :
    twoTo (Nat.log2 n) ≤ round53 n ∧ round53 n ≤ twoTo (Nat.log2 n + 1) := by
  obtain ⟨heq, hlow, hhigh⟩ := twoTo_log2 hn
  have hunit := twoTo_pos (Nat.log2 n - 52)
  have h53 : twoTo 53 = 2 * twoTo 52 := twoTo_succ 52
  rw [round53_of_le hn, twoTo_succ, heq, ← mul_assoc, ← h53]
  rw [heq] at hlow
  have hlow' := roundDiv_mono hlow (twoTo (Nat.log2 n - 52))
  have hhigh' := roundDiv_mono hhigh (twoTo (Nat.log2 n - 52))
  rw [roundDiv_mul _ hunit] at hlow' hhigh'
  exact ⟨Nat.mul_le_mul_right _ hlow', Nat.mul_le_mul_right _ hhigh'⟩

/-- Rounding to 53 digits keeps the order of numbers. -/
theorem round53_mono {a b : Nat} (h : a ≤ b) : round53 a ≤ round53 b := by
  rcases Nat.lt_or_ge b (twoTo 53) with hb | hb
  · rw [round53_of_lt (h.trans_lt hb), round53_of_lt hb]
    exact h
  · have hpos : b ≠ 0 := by
      have h53 := twoTo_pos 53
      omega
    rcases Nat.lt_or_ge a (twoTo 53) with ha | ha
    · have hlog : 53 ≤ Nat.log2 b := (Nat.le_log2 hpos).mpr hb
      rw [round53_of_lt ha]
      exact ha.le.trans ((twoTo_le hlog).trans (round53_between hb).1)
    · have hlog : Nat.log2 a ≤ Nat.log2 b :=
        (Nat.le_log2 hpos).mpr ((twoTo_log2 ha).2.1.trans h)
      rcases hlog.lt_or_eq with hlt | heq
      · exact (round53_between ha).2.trans ((twoTo_le hlt).trans (round53_between hb).1)
      · rw [round53_of_le ha, round53_of_le hb, heq]
        exact Nat.mul_le_mul_right _ (roundDiv_mono h _)

/-- Rounding to 53 digits is off by at most half of the last digit kept. -/
theorem abs_round53_sub {n : Nat} (hn : twoTo 53 ≤ n) :
    2 * |(round53 n : Int) - n| ≤ twoTo (Nat.log2 n - 52) := by
  have h := (gap_roundDiv n (twoTo_pos (Nat.log2 n - 52))).1
  rw [round53_of_le hn]
  push_cast
  exact h

end ReleasePage.Number
