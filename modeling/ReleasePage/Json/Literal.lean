import ReleasePage.Json.Failure
import ReleasePage.Text.Utf8

/-!
# Blanks, words and texts in JSON

The smallest parts of a JSON text. A quoted text is read as bytes, its escapes
resolved, and must then be UTF-8 as a whole. A text whose content nobody needs
is only searched for its closing quote: its escapes have to be well formed, but
neither surrogates nor UTF-8 are looked at.
-/

namespace ReleasePage.Json

open ReleasePage.Text (Bytes)

/-- Space, tab, line feed or carriage return. -/
def isSpace (b : UInt8) : Bool := b == 32 || b == 9 || b == 10 || b == 13

/-- The input without the white space in front. -/
def skipBlanks (input : Bytes) : Bytes := input.dropWhile isSpace

/-- The input after the remaining bytes of a word. -/
def readWord : Bytes → Bytes → Except Failure Bytes
  | [], input => .ok input
  | _ :: _, [] => .error (.before .endInValue [])
  | expected :: word, b :: rest =>
    if b = expected then readWord word rest else .error (.before .wordExpected rest)

/-- The value of a hexadecimal digit. -/
def hexValue? (b : UInt8) : Option Nat :=
  let n := b.toNat
  if 48 ≤ n ∧ n ≤ 57 then some (n - 48)
  else if 65 ≤ n ∧ n ≤ 70 then some (n - 55)
  else if 97 ≤ n ∧ n ≤ 102 then some (n - 87)
  else none

/-- The number that four hexadecimal digits make. -/
def hexQuad? (a b c d : UInt8) : Option Nat := do
  return (← hexValue? a) * 4096 + (← hexValue? b) * 256 + (← hexValue? c) * 16 + (← hexValue? d)

/-- Reads the four digits of a numeric escape. -/
def readQuad : Bytes → Except Failure (Nat × Bytes)
  | a :: b :: c :: d :: rest =>
    match hexQuad? a b c d with
    | some n => .ok (n, rest)
    | none => .error (.before .badEscape rest)
  | _ => .error (.before .endInText [])

/-- The number is the second half of a surrogate pair. -/
def isLowSurrogate (n : Nat) : Bool := 0xDC00 ≤ n && n ≤ 0xDFFF

/-- The number is the first half of a surrogate pair. -/
def isHighSurrogate (n : Nat) : Bool := 0xD800 ≤ n && n ≤ 0xDBFF

/-- Reads the second half of a surrogate pair: a backslash, the letter of a
numeric escape and a fitting number. -/
def readLowSurrogate : Bytes → Except Failure (Nat × Bytes)
  | [] => .error (.before .endInText [])
  | slash :: rest =>
    if slash ≠ '\\'.toUInt8 then .error (.before .halfEscape rest)
    else
      match rest with
      | [] => .error (.before .endInText [])
      | letter :: rest =>
        if letter ≠ 'u'.toUInt8 then .error (.before .halfEscape rest)
        else
          match readQuad rest with
          | .error e => .error e
          | .ok (low, rest) =>
            if isLowSurrogate low then .ok (low, rest) else .error (.before .loneSurrogate rest)

/-- Reads a numeric escape after its letter, as the bytes of its character. -/
def readCodePoint (input : Bytes) : Except Failure (Bytes × Bytes) :=
  match readQuad input with
  | .error e => .error e
  | .ok (n, rest) =>
    if isLowSurrogate n then .error (.before .loneSurrogate rest)
    else if isHighSurrogate n then
      match readLowSurrogate rest with
      | .error e => .error e
      | .ok (low, rest) =>
        .ok (String.utf8EncodeChar
          (Char.ofNat ((n - 0xD800) * 1024 + (low - 0xDC00) + 0x10000)), rest)
    else .ok (String.utf8EncodeChar (Char.ofNat n), rest)

/-- The byte that a short escape stands for. -/
def shortEscape? (letter : UInt8) : Option UInt8 :=
  if letter = '"'.toUInt8 ∨ letter = '\\'.toUInt8 ∨ letter = '/'.toUInt8 then some letter
  else if letter = 'b'.toUInt8 then some 8
  else if letter = 'f'.toUInt8 then some 12
  else if letter = 'n'.toUInt8 then some 10
  else if letter = 'r'.toUInt8 then some 13
  else if letter = 't'.toUInt8 then some 9
  else none

/-- Reads an escape after its backslash. -/
def readEscape : Bytes → Except Failure (Bytes × Bytes)
  | [] => .error (.before .endInText [])
  | letter :: rest =>
    if letter = 'u'.toUInt8 then readCodePoint rest
    else
      match shortEscape? letter with
      | some b => .ok ([b], rest)
      | none => .error (.before .badEscape rest)

/-- Four digits are four bytes. -/
theorem readQuad_length {input rest : Bytes} {n : Nat} (h : readQuad input = .ok (n, rest)) :
    rest.length < input.length := by
  unfold readQuad at h
  grind

/-- The second half of a surrogate pair takes bytes. -/
theorem readLowSurrogate_length {input rest : Bytes} {n : Nat}
    (h : readLowSurrogate input = .ok (n, rest)) : rest.length < input.length := by
  unfold readLowSurrogate at h
  grind [→ readQuad_length]

/-- A numeric escape takes bytes. -/
theorem readCodePoint_length {input rest out : Bytes} (h : readCodePoint input = .ok (out, rest)) :
    rest.length < input.length := by
  unfold readCodePoint at h
  grind [→ readQuad_length, → readLowSurrogate_length]

/-- An escape takes bytes. -/
theorem readEscape_length {input rest out : Bytes} (h : readEscape input = .ok (out, rest)) :
    rest.length < input.length := by
  unfold readEscape at h
  grind [→ readCodePoint_length]

/-- Reads up to the closing quote, after the bytes in `read` (kept in reverse).
The result is the content of the text and the rest of the input. -/
def readContent (read : Bytes) : Bytes → Except Failure (Bytes × Bytes)
  | [] => .error (.before .endInText [])
  | b :: rest =>
    if b = '"'.toUInt8 then .ok (read.reverse, rest)
    else if b = '\\'.toUInt8 then
      match _h : readEscape rest with
      | .error e => .error e
      | .ok (out, after) => readContent (out.reverse ++ read) after
    else if b.toNat < 32 then .error (.before .controlCharacter rest)
    else readContent (b :: read) rest
termination_by input => input.length
decreasing_by
  · have := readEscape_length _h
    simp only [List.length_cons]
    omega
  · simp

/-- Reads a text after its opening quote. A text that is not UTF-8 fails at the
first byte of its content that belongs to no character, counted back from the
closing quote. -/
def readText (input : Bytes) : Except Failure (String × Bytes) :=
  match readContent [] input with
  | .error e => .error e
  | .ok (content, rest) =>
    match Text.Utf8.scan content with
    | (chars, []) => .ok (String.ofList chars, rest)
    | (_, bad) => .error ⟨.badUnicode, rest.length + bad.length⟩

/-- Passes over an escape after its backslash. -/
def passEscape : Bytes → Except Failure Bytes
  | [] => .error (.before .endInText [])
  | letter :: rest =>
    if letter = 'u'.toUInt8 then
      match readQuad rest with
      | .error e => .error e
      | .ok (_, rest) => .ok rest
    else if (shortEscape? letter).isSome then .ok rest
    else .error (.before .badEscape rest)

/-- Passing over an escape takes bytes. -/
theorem passEscape_length {input rest : Bytes} (h : passEscape input = .ok rest) :
    rest.length < input.length := by
  unfold passEscape at h
  grind [→ readQuad_length]

/-- Passes over a text after its opening quote. -/
def passText : Bytes → Except Failure Bytes
  | [] => .error (.before .endInText [])
  | b :: rest =>
    if b = '"'.toUInt8 then .ok rest
    else if b = '\\'.toUInt8 then
      match _h : passEscape rest with
      | .error e => .error e
      | .ok after => passText after
    else if b.toNat < 32 then .error (.before .controlCharacter (b :: rest))
    else passText rest
termination_by input => input.length
decreasing_by
  · have := passEscape_length _h
    simp only [List.length_cons]
    omega
  · simp

end ReleasePage.Json
