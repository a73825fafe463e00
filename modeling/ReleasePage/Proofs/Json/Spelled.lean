import Mathlib
import ReleasePage.Proofs.Json.Document

/-!
# Spelled texts and numbers are read

A text is read from each of its spellings, and what follows it is left. A number
is read as an integer without sign only from the plain literal of that integer:
a minus sign, a fraction, an exponent or more than 64 bits all make it something
else. The literal `-0` is among these, since it is read as a double.
-/

namespace ReleasePage.Json

open ReleasePage.Text (Bytes)

/-- A hexadecimal digit has the value it stands for. -/
theorem HexDigit.value {b : UInt8} {n : Nat} (h : HexDigit b n) : hexValue? b = some n := by
  rcases h with ⟨hn, hb⟩ | ⟨hl, hn, hb | hb⟩
  · rw [hexValue?, if_pos (by omega), hb, Nat.add_sub_cancel_left]
  · rw [hexValue?, if_neg (by omega), if_pos (by omega), hb, Nat.add_sub_cancel_left]
  · rw [hexValue?, if_neg (by omega), if_neg (by omega), if_pos (by omega), hb,
      Nat.add_sub_cancel_left]

/-- Four hexadecimal digits are read as their number. -/
theorem HexQuad.read {digits : Bytes} {n : Nat} (h : HexQuad digits n) (rest : Bytes) :
    readQuad (digits ++ rest) = .ok (n, rest) := by
  cases h with
  | mk ha hb hc hd =>
    simp only [List.cons_append, List.nil_append, readQuad, hexQuad?, ha.value, hb.value, hc.value,
      hd.value]
    rfl

/-- The number of a character is read as that character. -/
theorem readCodePoint_numeric {c : Char} {digits : Bytes} (h : HexQuad digits c.toNat)
    (rest : Bytes) : readCodePoint (digits ++ rest) = .ok (String.utf8EncodeChar c, rest) := by
  have hv : ¬(0xD800 ≤ c.toNat ∧ c.toNat ≤ 0xDFFF) := (Text.Utf8.code_valid c).2
  have hlow : isLowSurrogate c.toNat = false := by
    simp only [isLowSurrogate, Bool.and_eq_false_iff, decide_eq_false_iff_not]
    omega
  have hhigh : isHighSurrogate c.toNat = false := by
    simp only [isHighSurrogate, Bool.and_eq_false_iff, decide_eq_false_iff_not]
    omega
  simp only [readCodePoint, h.read, hlow, hhigh, Bool.false_eq_true, if_false, Char.ofNat_toNat]

/-- Two surrogates are read as the character they stand for. -/
theorem readCodePoint_pair {c : Char} {high low : Bytes} {i j : Nat} (hi : i < 1024)
    (hj : j < 1024) (hc : c.toNat = 0x10000 + i * 1024 + j) (hh : HexQuad high (0xD800 + i))
    (hl : HexQuad low (0xDC00 + j)) (rest : Bytes) :
    readCodePoint (high ++ (numericEscape ++ low ++ rest)) =
      .ok (String.utf8EncodeChar c, rest) := by
  have hlow : isLowSurrogate (0xD800 + i) = false := by
    simp only [isLowSurrogate, Bool.and_eq_false_iff, decide_eq_false_iff_not]
    omega
  have hhigh : isHighSurrogate (0xD800 + i) = true := by
    simp only [isHighSurrogate, Bool.and_eq_true, decide_eq_true_eq]
    omega
  have hsecond : isLowSurrogate (0xDC00 + j) = true := by
    simp only [isLowSurrogate, Bool.and_eq_true, decide_eq_true_eq]
    omega
  have hread : readLowSurrogate (numericEscape ++ low ++ rest) = .ok (0xDC00 + j, rest) := by
    simp only [numericEscape, List.cons_append, List.nil_append, readLowSurrogate, ne_eq,
      not_true_eq_false, if_false, hl.read, hsecond, if_true]
  have hcode : (0xD800 + i - 0xD800) * 1024 + (0xDC00 + j - 0xDC00) + 0x10000 = c.toNat := by omega
  simp only [readCodePoint, hh.read, hlow, hhigh, hread, Bool.false_eq_true, if_false, if_true,
    hcode, Char.ofNat_toNat]

/-- A character is read from each of its spellings. -/
theorem SpellsChar.readContent {c : Char} {front : Bytes} (h : SpellsChar c front)
    (read rest : Bytes) :
    readContent read (front ++ rest) =
      Json.readContent ((String.utf8EncodeChar c).reverse ++ read) rest := by
  have hletter : ∀ tail, readEscape ('u'.toUInt8 :: tail) = readCodePoint tail := fun tail => by
    rw [readEscape, if_pos rfl]
  cases h with
  | plain hq hs hc =>
    have hu := readContent_unescaped hq hs hc read rest
    rwa [encoded_cons, encoded, List.flatMap_nil, List.append_nil] at hu
  | short h =>
    obtain ⟨-, ha, -⟩ := shortEscapes_resolve _ h
    have hs := readContent_short h read rest
    rwa [encoded_ascii_cons (by decide), encoded_ascii_cons ha] at hs
  | numeric h =>
    have hread := readCodePoint_numeric h rest
    rw [← hletter] at hread
    exact readContent_escape hread read
  | pair hi hj hc hh hl =>
    have hread := readCodePoint_pair hi hj hc hh hl rest
    rw [← hletter] at hread
    rw [List.append_assoc, List.append_assoc]
    exact readContent_escape hread read

/-- Characters are read from each of their spellings, up to the closing quote. -/
theorem SpellsChars.readContent {chars : List Char} {body : Bytes} (h : SpellsChars chars body)
    (read rest : Bytes) :
    readContent read (body ++ '"'.toUInt8 :: rest) = .ok (read.reverse ++ encoded chars, rest) := by
  induction h generalizing read with
  | nil =>
    rw [List.nil_append, Json.readContent, if_pos rfl, encoded, List.flatMap_nil, List.append_nil]
  | cons hc h ih =>
    rw [List.append_assoc, hc.readContent, ih, encoded_cons, List.reverse_append,
      List.reverse_reverse, List.append_assoc]

/-- A text is read from each of its spellings, and what follows it is left. -/
theorem SpellsText.read {value : String} {text : Bytes} (h : SpellsText value text) :
    ∃ tail, text = '"'.toUInt8 :: tail ∧
      ∀ rest, readText (tail ++ rest) = .ok (value, rest) := by
  cases h with
  | @quoted body h =>
    refine ⟨body ++ ['"'.toUInt8], rfl, fun rest => ?_⟩
    rw [List.append_assoc, List.singleton_append, readText, h.readContent]
    simp only [List.reverse_nil, List.nil_append, encoded, Text.Utf8.scan_encode,
      String.ofList_toList]

/-- The bytes of decimal digits are digits. -/
theorem isDigit_digitByte : ∀ d, isDigit (digitByte d) = true := by decide

/-- The bytes of a list of digits are digits. -/
theorem isDigit_digits (digits : List (Fin 10)) : ∀ b ∈ digits.map digitByte, isDigit b = true := by
  intro b hb
  obtain ⟨d, -, rfl⟩ := List.mem_map.mp hb
  exact isDigit_digitByte d

/-- No digit follows where another byte does. -/
theorem digitsEnd_cons {b : UInt8} (h : isDigit b = false) (rest : Bytes) :
    DigitsEnd (b :: rest) := by
  intro c after hc
  obtain ⟨rfl, -⟩ := List.cons.inj hc
  exact h

/-- An exponent starts with its letter. -/
theorem Exponent.letter (e : Exponent) (rest : Bytes) :
    ∃ b tail, e.bytes ++ rest = b :: tail ∧ isDigit b = false ∧ atPoint [b] = false ∧
      atExponent [b] = true := by
  refine ⟨_, _, rfl, ?_⟩
  cases e.capital <;> decide

namespace Decimal

variable {rest : Bytes}

/-- An exponent, or what follows a number without one, continues no digits. -/
theorem exponentBytes_digitsEnd (n : Decimal) (hr : Delimited rest) :
    DigitsEnd (n.exponentBytes ++ rest) := by
  rw [exponentBytes]
  cases n.exponent? with
  | none => exact hr.1
  | some e =>
    obtain ⟨b, tail, he, hb, -⟩ := e.letter rest
    exact he ▸ digitsEnd_cons hb tail

/-- What follows the integer part of a number continues no digits. -/
theorem fractionBytes_digitsEnd (n : Decimal) (hr : Delimited rest) :
    DigitsEnd (n.fractionBytes ++ n.exponentBytes ++ rest) := by
  rw [fractionBytes]
  cases n.fraction with
  | nil => exact n.exponentBytes_digitsEnd hr
  | cons d digits => exact digitsEnd_cons (by decide) _

/-- A point or an exponent follows the integer part of a number, unless it is an
integer. -/
theorem atPoint_or_atExponent (n : Decimal)
    (h : ¬(n.fraction = [] ∧ n.exponent? = none)) (rest : Bytes) :
    (atPoint (n.fractionBytes ++ n.exponentBytes ++ rest) ||
      atExponent (n.fractionBytes ++ n.exponentBytes ++ rest)) = true := by
  rw [fractionBytes, exponentBytes]
  cases hf : n.fraction with
  | cons d digits => rfl
  | nil =>
    cases he : n.exponent? with
    | none => exact absurd ⟨hf, he⟩ h
    | some e =>
      obtain ⟨b, tail, ht, -, -, ha⟩ := e.letter rest
      rw [List.nil_append, ht]
      exact (Bool.or_eq_true _ _).mpr (.inr ha)

end Decimal

/-- Digits that exceed the limit are not all gathered. -/
theorem gather_overflow {limit : Nat} {digits : List Char} (hd : ∀ c ∈ digits, c.isDigit = true)
    {value : Nat} (hv : value ≤ limit) (hl : limit < Nat.ofDigitChars 10 digits value)
    (count : Nat) (rest : Bytes) :
    ∃ number taken d after, gather limit value count (encoded digits ++ rest) =
      (number, taken, d :: after) ∧ isDigit d = true := by
  induction digits generalizing value count with
  | nil =>
    rw [Nat.ofDigitChars_nil] at hl
    exact absurd hl (Nat.not_lt.mpr hv)
  | cons c digits ih =>
    obtain ⟨he, hb, hval⟩ := digit_byte (hd c List.mem_cons_self)
    rw [encoded_cons, he, List.append_assoc, List.singleton_append, gather]
    by_cases hle : value * 10 + (c.toNat - 48) ≤ limit
    · have hs : 10 * value + (c.toNat - '0'.toNat) = value * 10 + (c.toNat - 48) := by
        rw [Nat.mul_comm]
        rfl
      rw [Nat.ofDigitChars_cons, hs] at hl
      simp only [hb, hval, Bool.true_and, decide_eq_true_eq, if_pos hle]
      exact ih (fun d hm => hd d (List.mem_cons_of_mem c hm)) hle hl (count + 1)
    · simp only [hb, hval, Bool.true_and, decide_eq_true_eq, if_neg hle]
      exact ⟨value, count, _, _, rfl, hb⟩

/-- An integer part of more than 64 bits is left to the readers of doubles. -/
theorem readUnsigned_overflow (negative : Bool) {n : Nat} (hn : Number.words64 ≤ n)
    (rest : Bytes) :
    ∃ significand power input, readUnsigned negative (encoded (Nat.repr n).toList ++ rest) =
      readTail negative significand power input := by
  have hall : ∀ c ∈ Nat.toDigits 10 n, c.isDigit = true := fun c hc =>
    Nat.isDigit_of_mem_toDigits (by decide) (by decide) hc
  have hval : Nat.ofDigitChars 10 (Nat.toDigits 10 n) 0 = n := Nat.ofDigitChars_ten_toDigits
  have hmax : maxSignificand + 1 = Number.words64 := rfl
  rw [Nat.toList_repr]
  obtain ⟨c, digits, hd, hc⟩ := toDigits_head (n := n) (by omega)
  rw [hd] at hall hval ⊢
  have hdig := hall c List.mem_cons_self
  have hcode := digit_code hdig
  obtain ⟨he, hb, hv⟩ := digit_byte hdig
  have hz : UInt8.ofNat c.toNat ≠ '0'.toUInt8 := byte_ne (by omega) (by decide) hc
  rw [Nat.ofDigitChars_cons, Nat.mul_zero, Nat.zero_add] at hval
  have hval' : Nat.ofDigitChars 10 digits (c.toNat - 48) = n := hval
  have hsmall : c.toNat - 48 ≤ maxSignificand := by
    have hnine : 9 ≤ maxSignificand := by decide
    omega
  obtain ⟨number, taken, d, after, hg, hdd⟩ := gather_overflow
    (fun d hm => hall d (List.mem_cons_of_mem c hm)) hsmall (by omega) 0 rest
  rw [encoded_cons, he, List.append_assoc, List.singleton_append, readUnsigned.eq_def]
  dsimp only
  rw [if_neg hz, if_pos hb, hv, hg]
  dsimp only
  rw [if_pos hdd]
  exact ⟨_, _, _, rfl⟩

/-- The result is no integer. -/
def NoInteger (result : Except Failure (Numeral × Bytes)) : Prop :=
  ∀ n rest, result ≠ .ok (.integer n, rest)

/-- A scaled number is no integer. -/
theorem noInteger_scaled (negative : Bool) (significand : Nat) (power : Int) (rest : Bytes) :
    NoInteger (scaled negative significand power rest) := by
  intro n after h
  rw [scaled] at h
  split at h <;> cases h

/-- A number with an exponent is no integer. -/
theorem noInteger_readExponent (negative : Bool) (significand : Nat) (start : Int)
    (input : Bytes) : NoInteger (readExponent negative significand start input) := by
  intro n after h
  have hs := noInteger_scaled negative significand
  rw [readExponent] at h
  dsimp only at h
  split at h
  · cases h
  · split at h
    · split at h
      · split at h
        · split at h <;> cases h
        · exact hs _ _ n after h
      · exact hs _ _ n after h
    · cases h

/-- A number that is scaled is no integer, with or without an exponent. -/
theorem noInteger_readScale (negative : Bool) (significand : Nat) (power : Int) (input : Bytes) :
    NoInteger (readScale negative significand power input) := by
  rw [readScale]
  split
  · exact noInteger_readExponent _ _ _ _
  · exact noInteger_scaled _ _ _ _

/-- A number with a fraction is no integer. -/
theorem noInteger_readFraction (negative : Bool) (significand : Nat) (power : Int)
    (input : Bytes) : NoInteger (readFraction negative significand power input) := by
  intro n after h
  rw [readFraction] at h
  dsimp only at h
  split at h
  · split at h
    · cases h
    · exact noInteger_scaled _ _ _ _ n after h
  · split at h
    · exact noInteger_readScale _ _ _ _ n after h
    · split at h
      · cases h
      · exact noInteger_readScale _ _ _ _ n after h

/-- What is left to the readers of doubles is no integer. -/
theorem noInteger_readTail (negative : Bool) (significand : Nat) (power : Int) (input : Bytes) :
    NoInteger (readTail negative significand power input) := by
  rw [readTail]
  split
  · exact noInteger_readFraction _ _ _ _
  · exact noInteger_readScale _ _ _ _

/-- Integers with a minus sign are below zero. -/
theorem readAfterInteger_negative {significand : Nat} {input rest : Bytes} {n : Int}
    (h : readAfterInteger true significand input = .ok (.integer n, rest)) : n < 0 := by
  rw [readAfterInteger] at h
  split at h
  · exact absurd h (noInteger_readTail _ _ _ _ n rest)
  · simp only [Numeral.ofInteger, if_true, Except.ok.injEq, Prod.mk.injEq] at h
    obtain ⟨h, -⟩ := h
    split at h
    · cases h
    · cases h
      omega

/-- An integer without sign is read from its own literal. -/
theorem readNumeral_ofNat {n : Nat} (hn : n < Number.words64) {rest : Bytes}
    (hr : Delimited rest) :
    readNumeral ((Decimal.ofNat n).bytes ++ rest) = .ok (.integer n, rest) := by
  obtain ⟨b, tail, he, -, hread⟩ := readNumeral_repr hn hr
  rw [Decimal.bytes_ofNat, he, hread]

/-- An integer without sign is read from no other literal. -/
theorem eq_ofNat_of_readNumeral {n : Decimal} {m : Int} {rest after : Bytes}
    (hr : Delimited rest) (h : readNumeral (n.bytes ++ rest) = .ok (.integer m, after))
    (hm : 0 ≤ m) : n = .ofNat m.toNat := by
  obtain ⟨negative, whole, fraction, exponent?⟩ := n
  let n : Decimal := ⟨negative, whole, fraction, exponent?⟩
  have hend : DigitsEnd (n.fractionBytes ++ n.exponentBytes ++ rest) :=
    n.fractionBytes_digitsEnd hr
  have hsplit : n.unsignedBytes ++ rest =
      encoded (Nat.repr whole).toList ++ (n.fractionBytes ++ n.exponentBytes ++ rest) := by
    rw [Decimal.unsignedBytes, List.append_assoc]
  have hunsigned : readUnsigned negative (n.unsignedBytes ++ rest) = .ok (.integer m, after) := by
    cases negative with
    | true => exact h
    | false =>
      obtain ⟨b, tail, he, hb, -⟩ := exists_digits_repr whole
      have hb' : b ≠ '-'.toUInt8 := fun hd => absurd (hd ▸ hb) (by decide)
      have hbytes : n.bytes ++ rest = n.unsignedBytes ++ rest := rfl
      rw [hbytes, hsplit, he, List.cons_append, readNumeral, if_neg hb'] at h
      rw [hsplit, he, List.cons_append]
      exact h
  rw [hsplit] at hunsigned
  -- A long integer part, a fraction or an exponent each lead to the readers of doubles.
  by_cases hw : whole < Number.words64
  · rw [readUnsigned_whole negative hw hend] at hunsigned
    cases negative with
    | true => exact absurd (readAfterInteger_negative hunsigned) (by omega)
    | false =>
      rw [readAfterInteger] at hunsigned
      by_cases hplain : fraction = [] ∧ exponent? = none
      · obtain ⟨rfl, rfl⟩ := hplain
        have hnone : (atPoint (n.fractionBytes ++ n.exponentBytes ++ rest) ||
            atExponent (n.fractionBytes ++ n.exponentBytes ++ rest)) = false := by
          change (atPoint rest || atExponent rest) = false
          rw [hr.2.1, hr.2.2, Bool.or_false]
        rw [hnone, if_neg (by decide)] at hunsigned
        cases hunsigned
        rfl
      · rw [if_pos (n.atPoint_or_atExponent hplain rest)] at hunsigned
        exact absurd hunsigned (noInteger_readTail _ _ _ _ m after)
  · obtain ⟨significand, power, input, ht⟩ :=
      readUnsigned_overflow negative (Nat.not_lt.mp hw)
        (n.fractionBytes ++ n.exponentBytes ++ rest)
    rw [ht] at hunsigned
    exact absurd hunsigned (noInteger_readTail _ _ _ _ m after)

end ReleasePage.Json
