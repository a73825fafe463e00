import ReleasePage.Text.Bytes

/-!
# Reading UTF-8

A byte sequence is read one character at a time. `scan` reads as far as the
bytes are well formed and returns the characters with the bytes it could not
read, so that an error can be placed at the first offending byte; `decode?`
accepts a sequence only if nothing is left.
-/

namespace ReleasePage.Text.Utf8

/-- A byte that continues a character, `0x80` to `0xBF`. -/
def isTail (b : UInt8) : Bool := 0x80 ≤ b.toNat && b.toNat ≤ 0xBF

/-- The six payload bits of a continuing byte. -/
def payload (b : UInt8) : Nat := b.toNat - 0x80

/-- The first character of a byte sequence and the bytes after it. There is
none at the end of the bytes and where no character starts: stray tails,
overlong forms, surrogates and numbers above `0x10FFFF`. -/
def decodeChar : Bytes → Option (Char × Bytes)
  | [] => none
  | a :: rest =>
    if a.toNat < 0x80 then some (Char.ofNat a.toNat, rest)
    else if a.toNat < 0xC2 then none
    else if a.toNat < 0xE0 then
      match rest with
      | b :: rest =>
        if isTail b then some (Char.ofNat ((a.toNat - 0xC0) * 64 + payload b), rest) else none
      | [] => none
    else if a.toNat < 0xF0 then
      match rest with
      | b :: c :: rest =>
        let n := (a.toNat - 0xE0) * 4096 + payload b * 64 + payload c
        if isTail b && isTail c && 0x800 ≤ n && !(0xD800 ≤ n && n ≤ 0xDFFF) then
          some (Char.ofNat n, rest)
        else none
      | _ => none
    else if a.toNat < 0xF5 then
      match rest with
      | b :: c :: d :: rest =>
        let n := (a.toNat - 0xF0) * 262144 + payload b * 4096 + payload c * 64 + payload d
        if isTail b && isTail c && isTail d && 0x10000 ≤ n && n ≤ 0x10FFFF then
          some (Char.ofNat n, rest)
        else none
      | _ => none
    else none

/-- Reading a character uses up at least one byte. -/
theorem decodeChar_length {input rest : Bytes} {c : Char}
    (h : decodeChar input = some (c, rest)) : rest.length < input.length := by
  unfold decodeChar at h
  grind

/-- Reads characters after those in `read` (kept in reverse) for as long as the
bytes are well formed. -/
def scanFrom (read : List Char) (input : Bytes) : List Char × Bytes :=
  match _h : decodeChar input with
  | some (c, rest) => scanFrom (c :: read) rest
  | none => (read.reverse, input)
termination_by input.length
decreasing_by exact decodeChar_length _h

/-- The longest well-formed beginning of a byte sequence, as characters, and
the bytes that follow it. -/
def scan (input : Bytes) : List Char × Bytes := scanFrom [] input

/-- The text whose UTF-8 form the bytes are, if there is one. -/
def decode? (input : Bytes) : Option String :=
  match scan input with
  | (chars, []) => some (String.ofList chars)
  | _ => none

end ReleasePage.Text.Utf8
