import Mathlib
import ReleasePage.Text.Utf8

/-!
# Reading back what was encoded

The bytes of a text are the bytes of its characters one after the other. Reading
a character gives back the one that was encoded and leaves exactly the bytes that
follow it, so reading the bytes of a text gives back the text with nothing left.
-/

namespace ReleasePage.Text

/-- The bytes of a text are those of its characters. -/
theorem bytes_eq_flatMap (text : String) :
    bytes text = text.toList.flatMap String.utf8EncodeChar := by
  have h : text.toUTF8 = (text.toList.flatMap String.utf8EncodeChar).toByteArray := by
    conv_lhs => rw [← String.ofList_toList (s := text)]
    rw [String.toUTF8_eq_toByteArray]
    exact String.toByteArray_ofList
  rw [bytes, h, List.data_toByteArray]

/-- The bytes of a text that is given by its characters. -/
theorem bytes_ofList (chars : List Char) :
    bytes (String.ofList chars) = chars.flatMap String.utf8EncodeChar := by
  rw [bytes_eq_flatMap, String.toList_ofList]

/-- Bytes of texts that are put together. -/
theorem bytes_append (a b : String) : bytes (a ++ b) = bytes a ++ bytes b := by
  rw [bytes_eq_flatMap, bytes_eq_flatMap, bytes_eq_flatMap, String.toList_append,
    List.flatMap_append]

/-- Texts with the same bytes are equal. -/
theorem bytes_injective : Function.Injective bytes := by
  intro a b h
  have hd : a.toUTF8.data = b.toUTF8.data := Array.toList_inj.mp h
  exact String.toByteArray_inj.mp (ByteArray.ext hd)

/-- A character below the first tail is its own single byte. -/
theorem utf8EncodeChar_ascii {c : Char} (h : c.toNat < 128) :
    String.utf8EncodeChar c = [UInt8.ofNat c.toNat] := by
  have hc : c.val.toNat ≤ 127 := by
    change c.toNat ≤ 127
    omega
  unfold String.utf8EncodeChar
  dsimp only
  rw [if_pos hc]
  rfl

/-- Every byte of a character beyond ASCII is at least `0x80`. -/
theorem le_of_mem_utf8EncodeChar {c : Char} (h : 128 ≤ c.toNat) {b : UInt8}
    (hb : b ∈ String.utf8EncodeChar c) : 128 ≤ b.toNat := by
  change 128 ≤ c.val.toNat at h
  unfold String.utf8EncodeChar at hb
  dsimp only at hb
  rw [if_neg (by omega)] at hb
  split at hb
  · simp only [List.mem_cons, List.not_mem_nil, or_false] at hb
    rcases hb with rfl | rfl <;> simp only [UInt8.toNat_ofNat'] <;> omega
  · split at hb
    · simp only [List.mem_cons, List.not_mem_nil, or_false] at hb
      rcases hb with rfl | rfl | rfl <;> simp only [UInt8.toNat_ofNat'] <;> omega
    · simp only [List.mem_cons, List.not_mem_nil, or_false] at hb
      rcases hb with rfl | rfl | rfl | rfl <;> simp only [UInt8.toNat_ofNat'] <;> omega

namespace Utf8

/-- The code points of characters leave out the surrogates and end at
`0x10FFFF`. -/
theorem code_valid (c : Char) :
    c.val.toNat ≤ 0x10FFFF ∧ ¬(0xD800 ≤ c.val.toNat ∧ c.val.toNat ≤ 0xDFFF) := by
  have h := c.valid
  simp only [UInt32.isValidChar, Nat.isValidChar] at h
  omega

/-- The byte of a small number. -/
theorem toNat_byte {n : Nat} (h : n < 256) : (UInt8.ofNat n).toNat = n := by
  rw [UInt8.toNat_ofNat']
  exact Nat.mod_eq_of_lt h

/-- A byte between `0x80` and `0xBF` continues a character. -/
theorem isTail_byte (n : Nat) : isTail (UInt8.ofNat (n % 64 + 128)) = true := by
  simp only [isTail, toNat_byte (by omega : n % 64 + 128 < 256), Bool.and_eq_true,
    decide_eq_true_eq]
  omega

/-- The six bits that a continuing byte carries. -/
theorem payload_byte (n : Nat) : payload (UInt8.ofNat (n % 64 + 128)) = n % 64 := by
  have hlt : n % 64 + 128 < 256 := by omega
  have hb := toNat_byte hlt
  unfold payload
  omega

/-- Reading a character that was encoded gives it back with the bytes that
follow it. -/
theorem decodeChar_encode (c : Char) (rest : Bytes) :
    decodeChar (String.utf8EncodeChar c ++ rest) = some (c, rest) := by
  obtain ⟨hmax, hsur⟩ := code_valid c
  have hc : Char.ofNat c.val.toNat = c := Char.ofNat_toNat c
  unfold String.utf8EncodeChar
  dsimp only
  split
  next h1 =>
    have ha := toNat_byte (by omega : c.val.toNat < 256)
    simp only [List.cons_append, List.nil_append, decodeChar, ha]
    rw [if_pos (by omega), hc]
  next h1 =>
    split
    next h2 =>
      have ha : (UInt8.ofNat (c.val.toNat / 64 % 32 + 192)).toNat = c.val.toNat / 64 + 192 := by
        rw [toNat_byte (by omega)]
        omega
      have hn : (c.val.toNat / 64 + 192 - 192) * 64 + c.val.toNat % 64 = c.val.toNat := by omega
      simp only [List.cons_append, List.nil_append, decodeChar, ha, isTail_byte, payload_byte, hn,
        hc, if_true]
      rw [if_neg (by omega), if_neg (by omega), if_pos (by omega)]
    next h2 =>
      split
      next h3 =>
        have ha : (UInt8.ofNat (c.val.toNat / 4096 % 16 + 224)).toNat =
            c.val.toNat / 4096 + 224 := by
          rw [toNat_byte (by omega)]
          omega
        have hn : (c.val.toNat / 4096 + 224 - 224) * 4096 + c.val.toNat / 64 % 64 * 64 +
            c.val.toNat % 64 = c.val.toNat := by omega
        simp only [List.cons_append, List.nil_append, decodeChar, ha, isTail_byte, payload_byte,
          hn, hc, Bool.true_and]
        rw [if_neg (by omega), if_neg (by omega), if_neg (by omega), if_pos (by omega), if_pos]
        simp only [Bool.and_eq_true, Bool.not_eq_true', Bool.and_eq_false_iff, decide_eq_true_eq,
          decide_eq_false_iff_not]
        omega
      next h3 =>
        have ha : (UInt8.ofNat (c.val.toNat / 262144 % 8 + 240)).toNat =
            c.val.toNat / 262144 + 240 := by
          rw [toNat_byte (by omega)]
          omega
        have hn : (c.val.toNat / 262144 + 240 - 240) * 262144 + c.val.toNat / 4096 % 64 * 4096 +
            c.val.toNat / 64 % 64 * 64 + c.val.toNat % 64 = c.val.toNat := by omega
        simp only [List.cons_append, List.nil_append, decodeChar, ha, isTail_byte, payload_byte,
          hn, hc, Bool.true_and]
        rw [if_neg (by omega), if_neg (by omega), if_neg (by omega), if_neg (by omega),
          if_pos (by omega), if_pos]
        simp only [Bool.and_eq_true, decide_eq_true_eq]
        omega

/-- There is no character where there are no bytes. -/
theorem decodeChar_nil : decodeChar [] = none := rfl

/-- Reading the bytes of characters gives them all back, after those that were
read before. -/
theorem scanFrom_encode (read chars : List Char) :
    scanFrom read (chars.flatMap String.utf8EncodeChar) = (read.reverse ++ chars, []) := by
  induction chars generalizing read with
  | nil =>
    rw [List.flatMap_nil, scanFrom]
    simp only [decodeChar_nil, List.append_nil]
  | cons c chars ih =>
    rw [List.flatMap_cons, scanFrom]
    have hd := decodeChar_encode c (chars.flatMap String.utf8EncodeChar)
    split
    next d rest hs =>
      rw [hd] at hs
      obtain ⟨rfl, rfl⟩ := Prod.mk.inj (Option.some.inj hs)
      rw [ih, List.reverse_cons, List.append_assoc, List.singleton_append]
    next hs =>
      rw [hd] at hs
      exact absurd hs (Option.some_ne_none _)

/-- The bytes of characters are read to their end. -/
theorem scan_encode (chars : List Char) :
    scan (chars.flatMap String.utf8EncodeChar) = (chars, []) :=
  scanFrom_encode [] chars

end Utf8

end ReleasePage.Text
