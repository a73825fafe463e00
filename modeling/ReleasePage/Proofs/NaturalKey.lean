import Mathlib
import ReleasePage.Proofs.NaturalOrder

/-!
# What the natural order compares

The key of a text is its folded sequence of characters cut into numbers and single
characters. That a sequence is cut in this way is said here without the function that
does it, and so is the order of keys. There is exactly one key for each text, and the
natural order is the lexicographic order of keys, with bytes to break ties.
-/

namespace ReleasePage

namespace NaturalOrder

/-- The characters are cut into the tokens: every longest run of digits is the number
it denotes in decimal notation, and every other character stands for itself. -/
inductive CutInto : List Char → List Token → Prop where
  /-- No characters. -/
  | nil : CutInto [] []
  /-- A character that is no digit. -/
  | letter {c : Char} {rest : List Char} {more : List Token} (plain : isDigit c = false)
    (hr : CutInto rest more) : CutInto (c :: rest) (.letter c plain :: more)
  /-- A run of digits that no digit follows. -/
  | number {run rest : List Char} {more : List Token} (hn : run ≠ [])
    (hd : ∀ c ∈ run, isDigit c = true) (hl : ∀ c ∈ rest.head?, isDigit c = false)
    (hr : CutInto rest more) :
    CutInto (run ++ rest) (.number (Nat.ofDigitChars 10 run 0) :: more)

/-- One token comes strictly before another one. -/
inductive Token.Before : Token → Token → Prop where
  /-- The smaller number. -/
  | numbers {m n : Nat} (h : m < n) : Before (.number m) (.number n)
  /-- The character of the smaller code point. -/
  | letters {c d : Char} {hc : isDigit c = false} {hd : isDigit d = false} (h : c < d) :
    Before (.letter c hc) (.letter d hd)
  /-- A number, since every digit comes before the character. -/
  | numberFirst {m : Nat} {d : Char} {hd : isDigit d = false}
    (h : ∀ digit, isDigit digit = true → digit < d) : Before (.number m) (.letter d hd)
  /-- A character that comes before every digit. -/
  | letterFirst {c : Char} {hc : isDigit c = false} {n : Nat}
    (h : ∀ digit, isDigit digit = true → c < digit) : Before (.letter c hc) (.number n)

/-- The value of a run of digits is what it denotes in decimal notation. -/
theorem ofDigitChars_run (run : List Char) (value : Nat) :
    Nat.ofDigitChars 10 run value = value * 10 ^ run.length + runValue run := by
  induction run generalizing value with
  | nil => rw [Nat.ofDigitChars_nil, runValue, List.length_nil, pow_zero, mul_one, add_zero]
  | cons c run ih =>
    have hd : c.toNat - '0'.toNat = digitValue c := rfl
    rw [Nat.ofDigitChars_cons, ih, runValue, List.length_cons, hd]
    ring

/-- A run of digits in front of anything else is the first token. -/
theorem tokens_run {run rest : List Char} (hn : run ≠ []) (hd : ∀ c ∈ run, isDigit c = true)
    (hl : ∀ c ∈ rest.head?, isDigit c = false) :
    tokens (run ++ rest) = .number (runValue run) :: tokens rest := by
  cases run with
  | nil => exact absurd rfl hn
  | cons c run =>
    have hrun : ∀ d ∈ run, isDigit d = true := fun d hm => hd d (List.mem_cons_of_mem c hm)
    have hstop : rest.takeWhile isDigit = [] ∧ rest.dropWhile isDigit = rest := by
      cases rest with
      | nil => exact ⟨rfl, rfl⟩
      | cons d rest =>
        have hd := hl d rfl
        exact ⟨List.takeWhile_cons_of_neg (by rw [hd]; decide),
          List.dropWhile_cons_of_neg (by rw [hd]; decide)⟩
    rw [List.cons_append, tokens_digit (hd c List.mem_cons_self),
      List.takeWhile_append_of_pos hrun, List.dropWhile_append_of_pos hrun, hstop.1, hstop.2,
      List.append_nil]

/-- The tokens are one way to cut the characters. -/
theorem cutInto_tokens (chars : List Char) : CutInto chars (tokens chars) := by
  fun_induction tokens chars with
  | case1 => exact .nil
  | case2 c rest hc ih =>
    have hsplit : c :: rest = (c :: rest.takeWhile isDigit) ++ rest.dropWhile isDigit := by
      rw [List.cons_append, List.takeWhile_append_dropWhile]
    have hvalue := ofDigitChars_run (c :: rest.takeWhile isDigit) 0
    rw [zero_mul, zero_add] at hvalue
    rw [← hvalue]
    nth_rewrite 1 [hsplit]
    refine .number (List.cons_ne_nil _ _) (run_digits hc rest) (fun d hd => ?_) ih
    have hstop := List.head?_dropWhile_not isDigit rest
    rw [hd] at hstop
    simpa using hstop
  | case3 c rest hc ih => exact .letter _ ih

/-- There is only one way to cut the characters. -/
theorem CutInto.eq_tokens {chars : List Char} {cut : List Token} (h : CutInto chars cut) :
    cut = tokens chars := by
  induction h with
  | nil => rw [tokens]
  | letter plain hr ih => rw [tokens_letter plain, ih]
  | number hn hd hl hr ih =>
    rw [tokens_run hn hd hl, ih, ofDigitChars_run, zero_mul, zero_add]

/-- Characters compare as less exactly if their code points do. -/
theorem compare_char_eq_lt (c d : Char) : compare c d = .lt ↔ c < d := by
  rw [compare_char, Nat.compare_eq_lt, Char.lt_def, UInt32.lt_iff_toNat_lt]
  rfl

/-- Of a digit and another character the digit comes first exactly if all digits
do. -/
theorem compare_zero_left {d : Char} (hd : isDigit d = false) :
    compare '0' d = .lt ↔ ∀ digit, isDigit digit = true → digit < d := by
  refine ⟨fun h digit hdigit => ?_, fun h => (compare_char_eq_lt _ _).mpr (h '0' rfl)⟩
  rw [← compare_char_eq_lt, compare_digit_left hdigit hd]
  exact h

/-- The mirror image of `compare_zero_left`. -/
theorem compare_zero_right {c : Char} (hc : isDigit c = false) :
    compare c '0' = .lt ↔ ∀ digit, isDigit digit = true → c < digit := by
  refine ⟨fun h digit hdigit => ?_, fun h => (compare_char_eq_lt _ _).mpr (h '0' rfl)⟩
  rw [← compare_char_eq_lt, compare_digit_right hc hdigit]
  exact h

/-- The order of tokens as a relation. -/
theorem Token.compare_eq_lt (s t : Token) : compare s t = .lt ↔ s.Before t := by
  cases s with
  | number m =>
    cases t with
    | number n =>
      refine ⟨fun h => .numbers (Nat.compare_eq_lt.mp h), fun h => ?_⟩
      cases h with
      | numbers h => exact Nat.compare_eq_lt.mpr h
    | letter d hd =>
      refine ⟨fun h => .numberFirst ((compare_zero_left hd).mp h), fun h => ?_⟩
      cases h with
      | numberFirst h => exact (compare_zero_left hd).mpr h
  | letter c hc =>
    cases t with
    | number n =>
      refine ⟨fun h => .letterFirst ((compare_zero_right hc).mp h), fun h => ?_⟩
      cases h with
      | letterFirst h => exact (compare_zero_right hc).mpr h
    | letter d hd =>
      refine ⟨fun h => .letters ((compare_char_eq_lt c d).mp h), fun h => ?_⟩
      cases h with
      | letters h => exact (compare_char_eq_lt c d).mpr h

/-- Only equal tokens compare as equal. -/
theorem Token.eq_of_compare {s t : Token} (h : compare s t = .eq) : s = t := by
  cases s with
  | number m =>
    cases t with
    | number n => rw [Nat.compare_eq_eq.mp h]
    | letter d hd =>
      exact absurd (Std.LawfulEqOrd.eq_of_compare (a := '0') h).symm (ne_zero_of_plain hd)
  | letter c hc =>
    cases t with
    | number n =>
      exact absurd (Std.LawfulEqOrd.eq_of_compare (b := '0') h) (ne_zero_of_plain hc)
    | letter d hd =>
      obtain rfl : c = d := Std.LawfulEqOrd.eq_of_compare h
      rfl

instance : Std.LawfulEqOrd Token where
  compare_self := Std.ReflCmp.compare_self
  eq_of_compare := Token.eq_of_compare

/-- Lists compare as less exactly if they do so lexicographically. -/
theorem compare_list_eq_lt {α : Type} [Ord α] [Std.LawfulEqOrd α] {before : α → α → Prop}
    (hlt : ∀ a b : α, compare a b = .lt ↔ before a b) (x y : List α) :
    compare x y = .lt ↔ List.Lex before x y := by
  induction x generalizing y with
  | nil =>
    cases y with
    | nil =>
      rw [List.compare_nil_nil]
      exact iff_of_false (by decide) (fun h => nomatch h)
    | cons b y =>
      rw [List.compare_nil_cons]
      exact iff_of_true rfl .nil
  | cons a x ih =>
    cases y with
    | nil =>
      rw [List.compare_cons_nil]
      exact iff_of_false (by decide) (fun h => nomatch h)
    | cons b y =>
      rw [List.compare_cons_cons, Ordering.then_eq_lt, hlt, ih,
        Std.LawfulEqCmp.compare_eq_iff_eq]
      constructor
      · rintro (h | ⟨rfl, h⟩)
        · exact .rel h
        · exact .cons h
      · intro h
        cases h with
        | rel h => exact .inl h
        | cons h => exact .inr ⟨rfl, h⟩

/-- Bytes compare as less exactly if they come first in a dictionary. -/
theorem compare_bytes_eq_lt (x y : Text.Bytes) : compare x y = .lt ↔ x < y :=
  compare_list_eq_lt (fun _ _ => Std.LawfulLTCmp.eq_lt_iff_lt) x y

/-- One text comes strictly before another one exactly if its key does, or if the keys
are equal and its bytes do. -/
theorem compareFolded_eq_lt (fold : Char → List Char) (a b : String) :
    compareFolded fold a b = .lt ↔ List.Lex Token.Before (key fold a) (key fold b) ∨
      key fold a = key fold b ∧ Text.bytes a < Text.bytes b := by
  rw [compareFolded_eq, compareLex, Ordering.then_eq_lt, compareOn, compareOn,
    compare_list_eq_lt Token.compare_eq_lt, Std.LawfulEqCmp.compare_eq_iff_eq,
    compare_bytes_eq_lt]

end NaturalOrder

open NaturalOrder

/-- The natural order of two texts is the lexicographic order of their keys, a proper
beginning being the smaller one, and where the keys are equal it is the order of their
bytes. The key of a text is the only way to cut its lower-case characters. -/
theorem naturalCompare_orders_keys (a b : String) : ∃ s t : List Token,
    (∀ cut, CutInto (a.toList.flatMap Text.lowercase) cut ↔ cut = s) ∧
    (∀ cut, CutInto (b.toList.flatMap Text.lowercase) cut ↔ cut = t) ∧
    (naturalCompare a b = .lt ↔
      List.Lex Token.Before s t ∨ s = t ∧ Text.bytes a < Text.bytes b) ∧
    (naturalCompare a b = .gt ↔
      List.Lex Token.Before t s ∨ s = t ∧ Text.bytes b < Text.bytes a) ∧
    (naturalCompare a b = .eq ↔ s = t ∧ Text.bytes a = Text.bytes b) := by
  have hcut : ∀ (text : String) (cut : List Token),
      CutInto (text.toList.flatMap Text.lowercase) cut ↔ cut = key Text.lowercase text :=
    fun text cut => ⟨CutInto.eq_tokens, fun h => h ▸ cutInto_tokens _⟩
  refine ⟨key Text.lowercase a, key Text.lowercase b, hcut a, hcut b,
    compareFolded_eq_lt Text.lowercase a b, ?_, ?_⟩
  · have hswap : naturalCompare a b = .gt ↔ naturalCompare b a = .lt := Std.OrientedCmp.gt_iff_lt
    rw [hswap, eq_comm (a := key Text.lowercase a)]
    exact compareFolded_eq_lt Text.lowercase b a
  · have heq : naturalCompare a b = .eq ↔ a = b := Std.LawfulEqCmp.compare_eq_iff_eq
    rw [heq]
    exact ⟨fun h => h ▸ ⟨rfl, rfl⟩, fun h => Text.bytes_injective h.2⟩

/-- Zeros in front do not count until the bytes decide. -/
example : naturalCompare "File007" "file7" = .lt := by cbv

end ReleasePage
