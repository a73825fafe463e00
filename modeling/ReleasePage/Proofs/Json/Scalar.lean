import Mathlib
import ReleasePage.Json.Decoder
import ReleasePage.Json.Tree
import ReleasePage.Proofs.Utf8

/-!
# Texts and numbers are read back

A quoted text is read back as the text it was written from, character by
character: every escape resolves to the bytes of its character, and all other
characters stand for themselves. The decimal digits of a number that fits in 64
bits are read back as that number, provided that what follows cannot continue
it.
-/

namespace ReleasePage.Json

open ReleasePage.Text (Bytes)

/-- The bytes of a sequence of characters. -/
def encoded (chars : List Char) : Bytes := chars.flatMap String.utf8EncodeChar

/-- The bytes of a text that is given by its characters. -/
theorem bytes_ofList (chars : List Char) : Text.bytes (String.ofList chars) = encoded chars :=
  Text.bytes_ofList chars

/-- Bytes of sequences that are put together. -/
theorem encoded_append (a b : List Char) : encoded (a ++ b) = encoded a ++ encoded b :=
  List.flatMap_append

/-- The bytes of a sequence start with those of its first character. -/
theorem encoded_cons (c : Char) (chars : List Char) :
    encoded (c :: chars) = String.utf8EncodeChar c ++ encoded chars :=
  List.flatMap_cons

/-- A byte that neither ends a text nor starts an escape stands for itself. -/
theorem readContent_plain {b : UInt8} (hq : b ≠ '"'.toUInt8) (hs : b ≠ '\\'.toUInt8)
    (hc : 32 ≤ b.toNat) (read rest : Bytes) :
    readContent read (b :: rest) = readContent (b :: read) rest := by
  rw [readContent, if_neg hq, if_neg hs, if_neg (by omega)]

/-- Bytes beyond ASCII stand for themselves. -/
theorem readContent_high {high : Bytes} (h : ∀ b ∈ high, 128 ≤ b.toNat) (read rest : Bytes) :
    readContent read (high ++ rest) = readContent (high.reverse ++ read) rest := by
  induction high generalizing read with
  | nil => rfl
  | cons b high ih =>
    have hb := h b List.mem_cons_self
    have hq : b ≠ '"'.toUInt8 := by
      rintro rfl
      exact absurd hb (by decide)
    have hs : b ≠ '\\'.toUInt8 := by
      rintro rfl
      exact absurd hb (by decide)
    rw [List.cons_append, readContent_plain hq hs (by omega),
      ih (fun d hd => h d (List.mem_cons_of_mem b hd)), List.reverse_cons, List.append_assoc,
      List.singleton_append]

/-- An escape stands for the bytes it resolves to. -/
theorem readContent_escape {input out rest : Bytes} (h : readEscape input = .ok (out, rest))
    (read : Bytes) :
    readContent read ('\\'.toUInt8 :: input) = readContent (out.reverse ++ read) rest := by
  rw [readContent, if_neg (by decide), if_pos rfl]
  split
  next e he =>
    rw [h] at he
    exact absurd he (by simp only [reduceCtorEq, not_false_eq_true])
  next out' after he =>
    rw [h] at he
    obtain ⟨rfl, rfl⟩ := Prod.mk.inj (Except.ok.inj he)
    rfl

/-- A short escape resolves to its byte. -/
theorem readEscape_short {letter b : UInt8} (hu : letter ≠ 'u'.toUInt8)
    (h : shortEscape? letter = some b) (rest : Bytes) :
    readEscape (letter :: rest) = .ok ([b], rest) := by
  rw [readEscape, if_neg hu, h]

/-- The last digit of a small number in hexadecimal is read back. -/
theorem hexQuad_digit : ∀ n < 16,
    hexQuad? 48 48 48 (UInt8.ofNat (Nat.digitChar n).toNat) = some n ∧
      hexQuad? 48 48 49 (UInt8.ofNat (Nat.digitChar n).toNat) = some (16 + n) ∧
      (Nat.digitChar n).toNat < 128 := by
  decide

/-- A numeric escape of a control character resolves to its byte. -/
theorem readEscape_control {a b : UInt8} {n : Nat} (hn : n < 32)
    (h : hexQuad? 48 48 a b = some n) (rest : Bytes) :
    readEscape ('u'.toUInt8 :: 48 :: 48 :: a :: b :: rest) = .ok ([UInt8.ofNat n], rest) := by
  have hlow : isLowSurrogate n = false := by
    simp only [isLowSurrogate, Bool.and_eq_false_iff, decide_eq_false_iff_not]
    omega
  have hhigh : isHighSurrogate n = false := by
    simp only [isHighSurrogate, Bool.and_eq_false_iff, decide_eq_false_iff_not]
    omega
  have hv : (Char.ofNat n).toNat = n := by
    rw [Char.toNat_ofNat, if_pos]
    unfold Nat.isValidChar
    omega
  have he : String.utf8EncodeChar (Char.ofNat n) = [UInt8.ofNat n] := by
    rw [Text.utf8EncodeChar_ascii (by rw [hv]; omega), hv]
  rw [readEscape, if_pos rfl, readCodePoint, readQuad, h]
  simp only [hlow, hhigh, he, Bool.false_eq_true, if_false]

/-- The bytes of a character that is known by its code point. -/
theorem encoded_code {c : Char} {n : Nat} (h : c.toNat = n) (hn : n < 128) :
    String.utf8EncodeChar c = [UInt8.ofNat n] := by
  rw [Text.utf8EncodeChar_ascii (by omega), h]

/-- A control character without a short escape is read back from its numeric
escape. -/
theorem readEscape_numeric {c : Char} (h : c.toNat < 32) (rest : Bytes) :
    readEscape (encoded (if c.toNat < 16 then ['u', '0', '0', '0'] ++ Text.hexDigits c.toNat
      else ['u', '0', '0'] ++ Text.hexDigits c.toNat) ++ rest) =
        .ok (String.utf8EncodeChar c, rest) := by
  rw [encoded_code rfl (by omega : c.toNat < 128)]
  split
  next hlow =>
    obtain ⟨hq, -, ha⟩ := hexQuad_digit c.toNat hlow
    rw [Text.hexDigits, Nat.toDigits_of_lt_base hlow]
    simp only [encoded, List.cons_append, List.nil_append, List.flatMap_cons, List.flatMap_nil,
      Text.utf8EncodeChar_ascii ha]
    exact readEscape_control h hq rest
  next hhigh =>
    obtain ⟨-, hq, ha⟩ := hexQuad_digit (c.toNat - 16) (by omega)
    rw [show 16 + (c.toNat - 16) = c.toNat by omega] at hq
    have hd : Nat.toDigits 16 c.toNat = ['1', Nat.digitChar (c.toNat - 16)] := by
      have hs := Nat.toDigits_append_toDigits (b := 16) (n := 1) (d := c.toNat - 16) (by decide)
        (by decide) (by omega)
      rw [Nat.toDigits_of_lt_base (by omega : c.toNat - 16 < 16),
        show 16 * 1 + (c.toNat - 16) = c.toNat by omega] at hs
      exact hs.symm
    rw [Text.hexDigits, hd]
    simp only [encoded, List.cons_append, List.nil_append, List.flatMap_cons, List.flatMap_nil,
      Text.utf8EncodeChar_ascii ha]
    exact readEscape_control h hq rest

/-- The short escapes: the code points of the characters that have one, with the
letters that stand for them. -/
def shortEscapes : List (Nat × Char) :=
  [(34, '"'), (92, '\\'), (47, '/'), (8, 'b'), (9, 't'), (10, 'n'), (12, 'f'), (13, 'r')]

/-- Every short escape resolves to its code point. -/
theorem shortEscapes_resolve : ∀ entry ∈ shortEscapes,
    entry.1 < 128 ∧ entry.2.toNat < 128 ∧ UInt8.ofNat entry.2.toNat ≠ 'u'.toUInt8 ∧
      shortEscape? (UInt8.ofNat entry.2.toNat) = some (UInt8.ofNat entry.1) := by
  decide

/-- A character with a short escape is read back from it. -/
theorem readContent_short {c letter : Char} (h : (c.toNat, letter) ∈ shortEscapes)
    (read rest : Bytes) :
    readContent read (encoded ['\\', letter] ++ rest) =
      readContent ((String.utf8EncodeChar c).reverse ++ read) rest := by
  obtain ⟨hn, ha, hu, hb⟩ := shortEscapes_resolve _ h
  rw [encoded_code rfl hn]
  simp only [encoded, List.flatMap_cons, List.flatMap_nil, Text.utf8EncodeChar_ascii ha]
  exact readContent_escape (readEscape_short hu hb rest) read

/-- Different ASCII characters have different bytes. -/
theorem byte_ne {c d : Char} (hc : c.toNat < 128) (hd : d.toNat < 128) (h : c ≠ d) :
    UInt8.ofNat c.toNat ≠ d.toUInt8 := by
  intro he
  have hn : (UInt8.ofNat c.toNat).toNat = (UInt8.ofNat d.toNat).toNat := congrArg UInt8.toNat he
  rw [Text.Utf8.toNat_byte (by omega), Text.Utf8.toNat_byte (by omega)] at hn
  exact h (Char.toNat_inj.mp hn)

/-- A character that is not escaped stands for itself. -/
theorem readContent_unescaped {c : Char} (hq : c ≠ '"') (hs : c ≠ '\\') (hc : 32 ≤ c.toNat)
    (read rest : Bytes) :
    readContent read (encoded [c] ++ rest) =
      readContent ((String.utf8EncodeChar c).reverse ++ read) rest := by
  rw [encoded_cons]
  simp only [encoded, List.flatMap_nil, List.append_nil]
  by_cases ha : c.toNat < 128
  · have hb : (UInt8.ofNat c.toNat).toNat = c.toNat := Text.Utf8.toNat_byte (by omega)
    rw [Text.utf8EncodeChar_ascii ha]
    exact readContent_plain (byte_ne ha (by decide) hq) (byte_ne ha (by decide) hs) (by omega)
      read rest
  · exact readContent_high (fun b hb => Text.le_of_mem_utf8EncodeChar (by omega) hb) read rest

/-- A character is read back from how it is written inside a text. -/
theorem readContent_escapedChar (c : Char) (read rest : Bytes) :
    readContent read (encoded (escapedChar c) ++ rest) =
      readContent ((String.utf8EncodeChar c).reverse ++ read) rest := by
  unfold escapedChar
  split
  next h => exact readContent_short (by rw [h]; decide) read rest
  split
  next h => exact readContent_short (by rw [h]; decide) read rest
  split
  next h => exact readContent_short (by rw [h]; decide) read rest
  split
  next h => exact readContent_short (by rw [h]; decide) read rest
  split
  next h => exact readContent_short (by rw [h]; decide) read rest
  split
  next h => exact readContent_short (by rw [h]; decide) read rest
  split
  next h => exact readContent_short (by rw [h]; decide) read rest
  split
  next h =>
    have he := readEscape_numeric (c := c) (by omega) rest
    rw [if_pos h] at he
    exact readContent_escape he read
  split
  next hlow h =>
    have he := readEscape_numeric h rest
    rw [if_neg hlow] at he
    exact readContent_escape he read
  next hq hs _ _ _ _ _ _ h => exact readContent_unescaped hq hs (by omega) read rest

/-- The content of a quoted text is read up to its closing quote. -/
theorem readContent_quoted (chars : List Char) (read rest : Bytes) :
    readContent read (encoded (chars.flatMap escapedChar) ++ '"'.toUInt8 :: rest) =
      .ok (read.reverse ++ encoded chars, rest) := by
  induction chars generalizing read with
  | nil =>
    simp only [List.flatMap_nil, encoded, List.nil_append, List.append_nil]
    rw [readContent, if_pos rfl]
  | cons c chars ih =>
    rw [List.flatMap_cons, encoded_append, List.append_assoc, readContent_escapedChar, ih,
      encoded_cons, List.reverse_append, List.reverse_reverse, List.append_assoc]

/-- A quoted text is read back, and what follows it is left. -/
theorem readText_quotedText (text : String) (rest : Bytes) :
    ∃ tail, encoded (quotedText text) ++ rest = '"'.toUInt8 :: tail ∧
      readText tail = .ok (text, rest) := by
  refine ⟨encoded (text.toList.flatMap escapedChar) ++ '"'.toUInt8 :: rest, ?_, ?_⟩
  · rw [quotedText, encoded_append, List.append_assoc]
    rfl
  · rw [readText, readContent_quoted]
    simp only [List.reverse_nil, List.nil_append, encoded, Text.Utf8.scan_encode,
      String.ofList_toList]

/-- No digit follows. -/
def DigitsEnd (rest : Bytes) : Prop := ∀ b after, rest = b :: after → isDigit b = false

/-- What follows a value and cannot continue a number. -/
def Delimited (rest : Bytes) : Prop :=
  (∀ b after, rest = b :: after → isDigit b = false) ∧ atPoint rest = false ∧
    atExponent rest = false

/-- Nothing is left. -/
theorem delimited_nil : Delimited [] := by
  refine ⟨fun b after h => ?_, rfl, rfl⟩
  exact absurd h (List.cons_ne_nil b after).symm

/-- A byte that has no place in a number ends it. -/
theorem delimited_cons {b : UInt8} (h : isDigit b = false ∧ atPoint [b] = false ∧
    atExponent [b] = false) (rest : Bytes) : Delimited (b :: rest) := by
  refine ⟨fun c after hc => ?_, h.2.1, h.2.2⟩
  obtain ⟨rfl, -⟩ := List.cons.inj hc
  exact h.1

/-- The code points of decimal digits. -/
theorem digit_code {c : Char} (h : c.isDigit = true) : 48 ≤ c.toNat ∧ c.toNat ≤ 57 := by
  simp only [Char.isDigit, Bool.and_eq_true, decide_eq_true_eq, UInt32.le_iff_toNat_le] at h
  exact h

/-- A decimal digit is one byte that counts as a digit of the same value. -/
theorem digit_byte {c : Char} (h : c.isDigit = true) :
    String.utf8EncodeChar c = [UInt8.ofNat c.toNat] ∧ isDigit (UInt8.ofNat c.toNat) = true ∧
      digitValue (UInt8.ofNat c.toNat) = c.toNat - 48 := by
  have hr := digit_code h
  have hb : (UInt8.ofNat c.toNat).toNat = c.toNat := Text.Utf8.toNat_byte (by omega)
  refine ⟨Text.utf8EncodeChar_ascii (by omega), ?_, ?_⟩
  · simp only [isDigit, hb, Bool.and_eq_true, decide_eq_true_eq]
    exact hr
  · rw [digitValue, hb]

/-- Further digits never make a number smaller. -/
theorem le_ofDigitChars (digits : List Char) (value : Nat) :
    value ≤ Nat.ofDigitChars 10 digits value := by
  induction digits generalizing value with
  | nil => rw [Nat.ofDigitChars_nil]
  | cons c digits ih =>
    rw [Nat.ofDigitChars_cons]
    exact le_trans (by omega) (ih _)

/-- Digits are gathered into the number they denote, as long as it stays within
the limit and no digit follows. -/
theorem gather_digits {limit : Nat} {digits : List Char} (hd : ∀ c ∈ digits, c.isDigit = true)
    {value : Nat} (hl : Nat.ofDigitChars 10 digits value ≤ limit) {rest : Bytes}
    (hr : DigitsEnd rest) (count : Nat) :
    gather limit value count (encoded digits ++ rest) =
      (Nat.ofDigitChars 10 digits value, count + digits.length, rest) := by
  induction digits generalizing value count with
  | nil =>
    rw [Nat.ofDigitChars_nil]
    cases rest with
    | nil => rfl
    | cons b rest =>
      simp only [encoded, List.flatMap_nil, List.nil_append, gather, hr b rest rfl,
        Bool.false_and, Bool.false_eq_true, if_false, List.length_nil, Nat.add_zero]
  | cons c digits ih =>
    obtain ⟨he, hb, hv⟩ := digit_byte (hd c List.mem_cons_self)
    have hs : 10 * value + (c.toNat - '0'.toNat) = value * 10 + (c.toNat - 48) := by
      rw [Nat.mul_comm]
      rfl
    rw [Nat.ofDigitChars_cons, hs] at hl ⊢
    have hle := (le_ofDigitChars digits _).trans hl
    have ht := ih (fun d hd' => hd d (List.mem_cons_of_mem c hd')) hl (count + 1)
    rw [encoded_cons, he, List.append_assoc, List.singleton_append, gather]
    simp only [hb, hv, Bool.true_and, decide_eq_true_eq, if_pos hle]
    rw [ht, List.length_cons, Nat.add_assoc, Nat.add_comm 1]

/-- The digits of a number other than zero do not start with a zero. -/
theorem toDigits_head {n : Nat} (hn : 0 < n) :
    ∃ c digits, Nat.toDigits 10 n = c :: digits ∧ c ≠ '0' := by
  induction n using Nat.strong_induction_on with
  | _ n ih =>
    by_cases hlt : n < 10
    · refine ⟨Nat.digitChar n, [], Nat.toDigits_of_lt_base hlt, ?_⟩
      rw [Ne, Nat.digitChar_eq_zero]
      omega
    · obtain ⟨c, digits, hd, hc⟩ := ih (n / 10) (by omega) (by omega)
      refine ⟨c, digits ++ [Nat.digitChar (n % 10)], ?_, hc⟩
      rw [Nat.toDigits_of_base_le (by decide) (by omega), hd, List.cons_append]

/-- An integer part that nothing continues is a whole number. -/
theorem readAfterInteger_delimited {rest : Bytes} (hr : Delimited rest) (n : Nat) :
    readAfterInteger false n rest = .ok (.integer n, rest) := by
  rw [readAfterInteger, hr.2.1, hr.2.2]
  rfl

/-- A zero that no digit follows is all of the integer part. -/
theorem readUnsigned_zero (negative : Bool) {rest : Bytes} (hr : DigitsEnd rest) :
    readUnsigned negative (48 :: rest) = readAfterInteger negative 0 rest := by
  rw [readUnsigned.eq_def]
  dsimp only
  rw [if_pos (by decide)]
  cases rest with
  | nil => rfl
  | cons d rest => simp only [hr d rest rfl, Bool.false_eq_true, if_false]

/-- Digits that do not start with a zero are gathered, and if no digit is left
they are all of the integer part. -/
theorem readUnsigned_digits (negative : Bool) {b : UInt8} (hz : b ≠ '0'.toUInt8)
    (hb : isDigit b = true) {input rest : Bytes} {value count : Nat} (hr : DigitsEnd rest)
    (hg : gather maxSignificand (digitValue b) 0 input = (value, count, rest)) :
    readUnsigned negative (b :: input) = readAfterInteger negative value rest := by
  rw [readUnsigned.eq_def]
  dsimp only
  rw [if_neg hz, if_pos hb, hg]
  cases rest with
  | nil => rfl
  | cons d rest => simp only [hr d rest rfl, Bool.false_eq_true, if_false]

/-- An integer part of at most 64 bits is read to its last digit, whatever sign
stands before it and whatever other than a digit follows. -/
theorem readUnsigned_whole (negative : Bool) {n : Nat} (hn : n < Number.words64) {rest : Bytes}
    (hr : DigitsEnd rest) :
    readUnsigned negative (encoded (Nat.repr n).toList ++ rest) =
      readAfterInteger negative n rest := by
  have hall : ∀ c ∈ Nat.toDigits 10 n, c.isDigit = true := fun c hc =>
    Nat.isDigit_of_mem_toDigits (by decide) (by decide) hc
  have hval : Nat.ofDigitChars 10 (Nat.toDigits 10 n) 0 = n := Nat.ofDigitChars_ten_toDigits
  rw [Nat.toList_repr]
  rcases Nat.eq_zero_or_pos n with rfl | hpos
  · rw [Nat.toDigits_zero]
    exact readUnsigned_zero negative hr
  · obtain ⟨c, digits, hd, hc⟩ := toDigits_head hpos
    rw [hd] at hall hval ⊢
    have hdig := hall c List.mem_cons_self
    obtain ⟨he, hb, hv⟩ := digit_byte hdig
    rw [Nat.ofDigitChars_cons, Nat.mul_zero, Nat.zero_add] at hval
    have hval' : Nat.ofDigitChars 10 digits (c.toNat - 48) = n := hval
    have hle : Nat.ofDigitChars 10 digits (c.toNat - 48) ≤ maxSignificand := by
      have hw : maxSignificand = Number.words64 - 1 := rfl
      omega
    have hg := gather_digits (fun d hm => hall d (List.mem_cons_of_mem c hm)) hle hr 0
    have hz : UInt8.ofNat c.toNat ≠ '0'.toUInt8 := by
      have hr' := digit_code hdig
      exact byte_ne (by omega) (by decide) hc
    rw [encoded_cons, he, List.append_assoc, List.singleton_append,
      readUnsigned_digits negative hz hb hr (by rw [hv]; exact hg), hval']

/-- The decimal digits of a number as bytes: at least one, and no zero in front of
others. -/
theorem exists_digits_repr (n : Nat) :
    ∃ b tail, encoded (Nat.repr n).toList = b :: tail ∧ isDigit b = true ∧
      (∀ d ∈ tail, isDigit d = true) ∧ (b = '0'.toUInt8 → tail = []) := by
  have hall : ∀ c ∈ Nat.toDigits 10 n, c.isDigit = true := fun c hc =>
    Nat.isDigit_of_mem_toDigits (by decide) (by decide) hc
  rw [Nat.toList_repr]
  rcases Nat.eq_zero_or_pos n with rfl | hpos
  · rw [Nat.toDigits_zero]
    exact ⟨48, [], rfl, rfl, fun d hd => absurd hd List.not_mem_nil, fun _ => rfl⟩
  · obtain ⟨c, digits, hd, hc⟩ := toDigits_head hpos
    rw [hd] at hall ⊢
    have hdig := hall c List.mem_cons_self
    obtain ⟨he, hb, -⟩ := digit_byte hdig
    refine ⟨UInt8.ofNat c.toNat, encoded digits, ?_, hb, fun b hm => ?_, fun hz => ?_⟩
    · rw [encoded_cons, he, List.singleton_append]
    · obtain ⟨d, hdm, hbd⟩ := List.mem_flatMap.mp hm
      obtain ⟨he', hb', -⟩ := digit_byte (hall d (List.mem_cons_of_mem c hdm))
      rw [he', List.mem_singleton] at hbd
      rw [hbd]
      exact hb'
    · have hr := digit_code hdig
      exact absurd hz (byte_ne (by omega) (by decide) hc)

/-- The decimal digits of a number of at most 64 bits are read back as that
number, and what follows them is left. -/
theorem readNumeral_repr {n : Nat} (hn : n < Number.words64) {rest : Bytes}
    (hr : Delimited rest) :
    ∃ b tail, encoded (Nat.repr n).toList ++ rest = b :: tail ∧ isDigit b = true ∧
      readNumeral (b :: tail) = .ok (.integer n, rest) := by
  obtain ⟨b, tail, he, hb, -⟩ := exists_digits_repr n
  have hm : b ≠ '-'.toUInt8 := fun h => absurd (h ▸ hb) (by decide)
  have hw := readUnsigned_whole false hn hr.1
  rw [he, List.cons_append] at hw
  refine ⟨b, tail ++ rest, by rw [he, List.cons_append], hb, ?_⟩
  rw [readNumeral, if_neg hm, hw]
  exact readAfterInteger_delimited hr n

end ReleasePage.Json
