import Mathlib
import ReleasePage.Proofs.Utf8
import ReleasePage.Release.Order

/-!
# The natural order is a total order

A text is read as a sequence of tokens: a longest run of digits is a number and
every other character stands for itself. The natural order compares the tokens of
two texts lexicographically and breaks ties by their bytes. Both parts are
transitive and oriented, and bytes determine a text, so the whole is a total
order whatever is done about case.
-/

namespace ReleasePage

namespace NaturalOrder

/-- One unit of comparison. -/
inductive Token where
  /-- A longest run of digits, by its value. -/
  | number (value : Nat)
  /-- A character outside every run of digits. -/
  | letter (c : Char) (plain : isDigit c = false)
  deriving DecidableEq

/-- Numbers compare by value and characters by code point. A number stands
where the digits stand among the characters. -/
def Token.order : Token → Token → Ordering
  | .number m, .number n => compare m n
  | .number _, .letter d _ => compare '0' d
  | .letter c _, .number _ => compare c '0'
  | .letter c _, .letter d _ => compare c d

/-- The value of a digit. -/
def digitValue (c : Char) : Nat := c.toNat - 48

/-- The number that a run of digits denotes. -/
def runValue : List Char → Nat
  | [] => 0
  | c :: x => digitValue c * 10 ^ x.length + runValue x

/-- The tokens of a sequence of characters. -/
def tokens : List Char → List Token
  | [] => []
  | c :: x =>
    if h : isDigit c = true then
      .number (runValue (c :: x.takeWhile isDigit)) :: tokens (x.dropWhile isDigit)
    else .letter c (Bool.not_eq_true _ ▸ h) :: tokens x
termination_by x => x.length
decreasing_by
  · exact Nat.lt_succ_of_le (List.dropWhile_sublist isDigit).length_le
  · simp

/-- A character is a digit exactly if its code point is between those of zero and
nine. -/
theorem isDigit_iff (c : Char) : isDigit c = true ↔ 48 ≤ c.toNat ∧ c.toNat ≤ 57 := by
  simp only [isDigit, Bool.and_eq_true, decide_eq_true_eq, Char.le_def, UInt32.le_iff_toNat_le]
  rfl

/-- Characters compare by their code points. -/
theorem compare_char (c d : Char) : compare c d = compare c.toNat d.toNat := by
  change compareOfLessAndEq c d = compareOfLessAndEq c.toNat d.toNat
  simp only [compareOfLessAndEq, Char.lt_def, UInt32.lt_iff_toNat_lt, ← Char.toNat_inj]
  rfl

/-- The digits are consecutive, so all of them stand on the same side of a
character that is no digit. -/
theorem compare_digit_left {c d : Char} (hc : isDigit c = true) (hd : isDigit d = false) :
    compare c d = compare '0' d := by
  have hn : ¬(48 ≤ d.toNat ∧ d.toNat ≤ 57) := by
    rw [← isDigit_iff, hd]
    decide
  have hz : '0'.toNat = 48 := rfl
  rw [isDigit_iff] at hc
  rw [compare_char, compare_char, Nat.compare_eq_ite_lt, Nat.compare_eq_ite_lt, hz]
  rcases Nat.lt_or_ge d.toNat 48 with hlow | hhigh
  · have hlt : d.toNat < c.toNat := by omega
    rw [if_neg hlt.not_gt, if_pos hlt, if_neg hlow.not_gt, if_pos hlow]
  · have hlt : c.toNat < d.toNat := by omega
    have hz' : 48 < d.toNat := by omega
    rw [if_pos hlt, if_pos hz']

/-- The mirror image of `compare_digit_left`. -/
theorem compare_digit_right {c d : Char} (hc : isDigit c = false) (hd : isDigit d = true) :
    compare c d = compare c '0' := by
  rw [Std.OrientedOrd.eq_swap (a := c), Std.OrientedOrd.eq_swap (a := c) (b := '0'),
    compare_digit_left hd hc]

/-- Tokens compare the same way in both directions. -/
theorem Token.order_swap (s t : Token) : s.order t = (t.order s).swap := by
  cases s <;> cases t <;> exact Std.OrientedOrd.eq_swap

/-- A character that is no digit is not the digit zero. -/
theorem ne_zero_of_plain {c : Char} (hc : isDigit c = false) : c ≠ '0' := by
  rintro rfl
  exact absurd hc (by decide)

/-- Tokens of which neither comes after the next do not go down between the first
and the last. -/
theorem Token.order_trans {s t u : Token} (hst : (s.order t).isLE = true)
    (htu : (t.order u).isLE = true) : (s.order u).isLE = true := by
  cases s with
  | number m =>
    cases t with
    | number n =>
      cases u with
      | number k => exact Std.TransOrd.isLE_trans hst htu
      | letter e he => exact htu
    | letter d hd =>
      cases u with
      | number k => exact absurd (Std.LawfulEqOrd.eq_of_compare
          (Std.OrientedCmp.isLE_antisymm htu hst)) (ne_zero_of_plain hd)
      | letter e he => exact Std.TransOrd.isLE_trans hst htu
  | letter c hc =>
    cases t with
    | number n =>
      cases u with
      | number k => exact hst
      | letter e he => exact Std.TransOrd.isLE_trans hst htu
    | letter d hd =>
      cases u with
      | number k => exact Std.TransOrd.isLE_trans hst htu
      | letter e he => exact Std.TransOrd.isLE_trans hst htu

instance : Ord Token := ⟨Token.order⟩

instance : Std.TransOrd Token where
  eq_swap := Token.order_swap _ _
  isLE_trans := Token.order_trans

/-- A run of digits is smaller than the power of ten of its length. -/
theorem runValue_lt {run : List Char} (h : ∀ c ∈ run, isDigit c = true) :
    runValue run < 10 ^ run.length := by
  induction run with
  | nil => decide
  | cons c x ih =>
    have hx := ih fun d hd => h d (List.mem_cons_of_mem c hd)
    have hc := (isDigit_iff c).mp (h c List.mem_cons_self)
    have hd : digitValue c ≤ 9 := by
      unfold digitValue
      omega
    have hm := Nat.mul_le_mul_right (10 ^ x.length) hd
    rw [runValue, List.length_cons, Nat.pow_succ]
    omega

/-- A run that does not start with a zero is at least the power of ten of its
length without the first digit. -/
theorem le_runValue_cons {c : Char} {x : List Char} (hc : isDigit c = true) (hz : c ≠ '0') :
    10 ^ x.length ≤ runValue (c :: x) := by
  have hn : c.toNat ≠ '0'.toNat := fun he => hz (Char.toNat_inj.mp he)
  have hr := (isDigit_iff c).mp hc
  have hd : 1 ≤ digitValue c := by
    change c.toNat ≠ 48 at hn
    unfold digitValue
    omega
  have hm := Nat.mul_le_mul_right (10 ^ x.length) hd
  rw [runValue]
  omega

/-- Zeros in front do not count. -/
theorem runValue_significant (run : List Char) : runValue (significant run) = runValue run := by
  induction run with
  | nil => rfl
  | cons c x ih =>
    by_cases hz : c = '0'
    · subst hz
      have hs : significant ('0' :: x) = significant x := rfl
      rw [hs, ih, runValue]
      simp only [show digitValue '0' = 0 from rfl, Nat.zero_mul, Nat.zero_add]
    · have hs : significant (c :: x) = c :: x := by
        simp only [significant, List.dropWhile_cons, beq_iff_eq, if_neg hz]
      rw [hs]

/-- The significant digits are digits of the run, and the first one is not
zero. -/
theorem significant_digits {run : List Char} (h : ∀ c ∈ run, isDigit c = true) :
    (∀ c ∈ significant run, isDigit c = true) ∧
      ∀ c x, significant run = c :: x → c ≠ '0' := by
  refine ⟨fun c hc => h c ((List.dropWhile_sublist _).subset hc), ?_⟩
  intro c x hs
  have hne : run.dropWhile (· == '0') ≠ [] := by
    change significant run ≠ []
    rw [hs]
    exact List.cons_ne_nil c x
  have hh := List.head_dropWhile_not (· == '0') hne
  have he : (run.dropWhile (· == '0')).head hne = c := by
    rw [List.head_eq_iff_head?_eq_some]
    change (significant run).head? = some c
    rw [hs, List.head?_cons]
  rw [he] at hh
  simpa only [beq_eq_false_iff_ne] using hh

/-- Runs of one length compare digit by digit as their values do. -/
theorem compare_runs_of_length_eq {a b : List Char} (hl : a.length = b.length)
    (ha : ∀ c ∈ a, isDigit c = true) (hb : ∀ c ∈ b, isDigit c = true) :
    compare a b = compare (runValue a) (runValue b) := by
  induction a generalizing b with
  | nil =>
    have hn : b = [] := List.eq_nil_of_length_eq_zero hl.symm
    subst hn
    rfl
  | cons c x ih =>
    cases b with
    | nil => exact absurd hl (Nat.succ_ne_zero _)
    | cons d y =>
      have hxy : x.length = y.length := Nat.succ.inj hl
      have hx : ∀ e ∈ x, isDigit e = true := fun e he => ha e (List.mem_cons_of_mem c he)
      have hy : ∀ e ∈ y, isDigit e = true := fun e he => hb e (List.mem_cons_of_mem d he)
      have hvx := runValue_lt hx
      have hvy := runValue_lt hy
      have hc := (isDigit_iff c).mp (ha c List.mem_cons_self)
      have hd := (isDigit_iff d).mp (hb d List.mem_cons_self)
      rw [List.compare_cons_cons, compare_char, ih hxy hx hy, runValue, runValue, hxy]
      rw [hxy] at hvx
      rcases Nat.lt_trichotomy c.toNat d.toNat with hlt | heq | hgt
      · have hv : digitValue c + 1 ≤ digitValue d := by
          unfold digitValue
          omega
        have hm := Nat.mul_le_mul_right (10 ^ y.length) hv
        rw [Nat.succ_mul] at hm
        have hs : digitValue c * 10 ^ y.length + runValue x <
            digitValue d * 10 ^ y.length + runValue y := by omega
        rw [Nat.compare_eq_lt.mpr hlt, Nat.compare_eq_lt.mpr hs]
        rfl
      · have hv : digitValue c = digitValue d := by
          unfold digitValue
          omega
        rw [heq, hv, Nat.compare_eq_eq.mpr rfl, Nat.compare_eq_ite_lt, Nat.compare_eq_ite_lt]
        simp only [Nat.add_lt_add_iff_left]
        rfl
      · have hv : digitValue d + 1 ≤ digitValue c := by
          unfold digitValue
          omega
        have hm := Nat.mul_le_mul_right (10 ^ y.length) hv
        rw [Nat.succ_mul] at hm
        have hs : digitValue d * 10 ^ y.length + runValue y <
            digitValue c * 10 ^ y.length + runValue x := by omega
        rw [Nat.compare_eq_gt.mpr hgt, Nat.compare_eq_gt.mpr hs]
        rfl

/-- Of two runs without zeros in front the shorter one is the smaller number. -/
theorem runValue_lt_of_length_lt {a b : List Char} (hl : a.length < b.length)
    (ha : ∀ c ∈ a, isDigit c = true) (hb : ∀ c ∈ b, isDigit c = true)
    (hz : ∀ c x, b = c :: x → c ≠ '0') : runValue a < runValue b := by
  cases b with
  | nil => exact absurd hl (Nat.not_lt_zero _)
  | cons d y =>
    have hlow := le_runValue_cons (x := y) (hb d List.mem_cons_self) (hz d y rfl)
    have hpow : 10 ^ a.length ≤ 10 ^ y.length :=
      Nat.pow_le_pow_right (by decide) (Nat.lt_succ_iff.mp hl)
    exact (runValue_lt ha).trans_le (hpow.trans hlow)

/-- Runs of digits compare as the numbers they denote, however long they are and
whatever zeros stand in front. -/
theorem compareRuns_eq {a b : List Char} (ha : ∀ c ∈ a, isDigit c = true)
    (hb : ∀ c ∈ b, isDigit c = true) :
    compareRuns a b = compare (runValue a) (runValue b) := by
  obtain ⟨hda, hza⟩ := significant_digits ha
  obtain ⟨hdb, hzb⟩ := significant_digits hb
  rw [← runValue_significant a, ← runValue_significant b]
  unfold compareRuns
  dsimp only
  rcases Nat.lt_trichotomy (significant a).length (significant b).length with hlt | heq | hgt
  · rw [Nat.compare_eq_lt.mpr hlt,
      Nat.compare_eq_lt.mpr (runValue_lt_of_length_lt hlt hda hdb hzb)]
    rfl
  · rw [heq, Nat.compare_eq_eq.mpr rfl, compare_runs_of_length_eq heq hda hdb]
    rfl
  · rw [Nat.compare_eq_gt.mpr hgt,
      Nat.compare_eq_gt.mpr (runValue_lt_of_length_lt hgt hdb hda hza)]
    rfl

/-- What is taken for a run of digits consists of digits. -/
theorem run_digits {c : Char} (hc : isDigit c = true) (x : List Char) :
    ∀ d ∈ c :: x.takeWhile isDigit, isDigit d = true := by
  intro d hd
  rcases List.mem_cons.mp hd with rfl | ht
  · exact hc
  · exact List.mem_takeWhile_imp ht

/-- The tokens of a sequence that starts with a digit. -/
theorem tokens_digit {c : Char} (hc : isDigit c = true) (x : List Char) :
    tokens (c :: x) =
      .number (runValue (c :: x.takeWhile isDigit)) :: tokens (x.dropWhile isDigit) := by
  rw [tokens, dif_pos hc]

/-- The tokens of a sequence that starts with another character. -/
theorem tokens_letter {c : Char} (hc : isDigit c = false) (x : List Char) :
    tokens (c :: x) = .letter c hc :: tokens x := by
  rw [tokens, dif_neg (by rw [hc]; decide)]

/-- A decided comparison stays as it is, whatever comes next. -/
theorem then_of_ne_eq {o : Ordering} (h : o ≠ .eq) (p : Ordering) : o.then p = o := by
  cases o with
  | eq => exact absurd rfl h
  | lt => rfl
  | gt => rfl

/-- Walking along two sequences of characters compares their tokens
lexicographically. -/
theorem compareChars_eq (x y : List Char) :
    compareChars x y = compare (tokens x) (tokens y) := by
  fun_induction compareChars x y with
  | case1 => simp only [tokens, List.compare_nil_nil]
  | case2 d y =>
    rw [tokens]
    cases hd : isDigit d with
    | true => rw [tokens_digit hd, List.compare_nil_cons]
    | false => rw [tokens_letter hd, List.compare_nil_cons]
  | case3 c x =>
    rw [tokens]
    cases hc : isDigit c with
    | true => rw [tokens_digit hc, List.compare_cons_nil]
    | false => rw [tokens_letter hc, List.compare_cons_nil]
  | case4 c x d y h ih =>
    rw [Bool.and_eq_true] at h
    rw [ih, tokens_digit h.1, tokens_digit h.2, List.compare_cons_cons,
      compareRuns_eq (run_digits h.1 x) (run_digits h.2 y)]
    rfl
  | case5 x c y h ih =>
    have hc : isDigit c = false := by simpa only [Bool.and_self, Bool.not_eq_true] using h
    have he : compare (Token.letter c hc) (.letter c hc) = .eq :=
      Std.ReflOrd.compare_self (a := c)
    rw [ih, tokens_letter hc, tokens_letter hc, List.compare_cons_cons, he]
    rfl
  | case6 c x d y h hne =>
    have hcd : compare c d ≠ .eq := fun he => hne (Std.LawfulEqOrd.eq_of_compare he)
    cases hc : isDigit c with
    | true =>
      have hd : isDigit d = false := by
        simpa only [hc, Bool.true_and, Bool.not_eq_true] using h
      rw [compare_digit_left hc hd] at hcd ⊢
      rw [tokens_digit hc, tokens_letter hd, List.compare_cons_cons]
      exact (then_of_ne_eq hcd _).symm
    | false =>
      cases hd : isDigit d with
      | true =>
        rw [compare_digit_right hc hd] at hcd ⊢
        rw [tokens_letter hc, tokens_digit hd, List.compare_cons_cons]
        exact (then_of_ne_eq hcd _).symm
      | false =>
        rw [tokens_letter hc, tokens_letter hd, List.compare_cons_cons]
        exact (then_of_ne_eq hcd _).symm

/-- The tokens of a text once its case has been folded. -/
def key (fold : Char → List Char) (text : String) : List Token := tokens (text.toList.flatMap fold)

/-- The natural order compares tokens first, and bytes where those agree. -/
theorem compareFolded_eq (fold : Char → List Char) :
    compareFolded fold = compareLex (compareOn (key fold)) (compareOn Text.bytes) := by
  funext a b
  rw [compareFolded, compareChars_eq]
  rfl

instance (fold : Char → List Char) : Std.TransCmp (compareFolded fold) := by
  rw [compareFolded_eq]
  infer_instance

instance (fold : Char → List Char) : Std.LawfulEqCmp (compareFolded fold) where
  compare_self {a} := by
    rw [compareFolded_eq]
    exact Std.ReflCmp.compare_self
  eq_of_compare {a b} h := by
    rw [compareFolded_eq, compareLex_eq_eq] at h
    exact Text.bytes_injective (Std.LawfulEqOrd.eq_of_compare h.2)

/-- A comparison of texts that makes them a total order: only equal texts are
equal in it, the two directions agree, and it is transitive, strictly so as soon
as one of the two steps is strict. -/
structure IsTotal (order : String → String → Ordering) : Prop where
  /-- Exactly equal texts compare as equal. -/
  eq_iff : ∀ a b, order a b = .eq ↔ a = b
  /-- Swapping the texts reverses the answer. -/
  swap : ∀ a b, order b a = (order a b).swap
  /-- Two steps that do not go down together do not go down. -/
  trans : ∀ a b c, order a b ≠ .gt → order b c ≠ .gt → order a c ≠ .gt
  /-- Two such steps go up if one of them does. -/
  strict : ∀ a b c, order a b ≠ .gt → order b c ≠ .gt →
    order a b = .lt ∨ order b c = .lt → order a c = .lt

/-- A lawful transitive comparison is a total order. -/
theorem isTotal_of_lawful (order : String → String → Ordering) [Std.TransCmp order]
    [Std.LawfulEqCmp order] : IsTotal order where
  eq_iff a b := Std.LawfulEqCmp.compare_eq_iff_eq
  swap a b := Std.OrientedCmp.eq_swap
  trans a b c hab hbc := by
    have hle := Ordering.ne_gt_iff_isLE.mp hab
    have hle' := Ordering.ne_gt_iff_isLE.mp hbc
    exact Ordering.ne_gt_iff_isLE.mpr (Std.TransCmp.isLE_trans hle hle')
  strict a b c hab hbc h := by
    rcases h with h | h
    · exact Std.TransCmp.lt_of_lt_of_isLE h (Ordering.ne_gt_iff_isLE.mp hbc)
    · exact Std.TransCmp.lt_of_isLE_of_lt (Ordering.ne_gt_iff_isLE.mp hab) h

end NaturalOrder

instance : Std.TransCmp naturalCompare :=
  inferInstanceAs (Std.TransCmp (NaturalOrder.compareFolded Text.lowercase))

instance : Std.LawfulEqCmp naturalCompare :=
  inferInstanceAs (Std.LawfulEqCmp (NaturalOrder.compareFolded Text.lowercase))

/-- The natural order is a total order on texts, and it stays one whatever
characters the case of a character is folded to. -/
theorem naturalCompare_isTotal :
    NaturalOrder.IsTotal naturalCompare ∧
      ∀ fold : Char → List Char, NaturalOrder.IsTotal (NaturalOrder.compareFolded fold) :=
  ⟨NaturalOrder.isTotal_of_lawful naturalCompare, fun fold =>
    NaturalOrder.isTotal_of_lawful (NaturalOrder.compareFolded fold)⟩

end ReleasePage
