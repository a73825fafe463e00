/-!
# Code points in hexadecimal

Escapes give a character by the hexadecimal digits of its code point, always as
many digits as the kind of escape asks for.
-/

namespace ReleasePage.Text

/-- The value of a hexadecimal digit. -/
def hexDigit? (c : Char) : Option Nat :=
  let n := c.toNat
  if 0x30 ≤ n ∧ n ≤ 0x39 then some (n - 0x30)
  else if 0x41 ≤ n ∧ n ≤ 0x46 then some (n - 0x37)
  else if 0x61 ≤ n ∧ n ≤ 0x66 then some (n - 0x57)
  else none

/-- The number that hexadecimal digits denote; nothing if one of the characters
is no digit. -/
def hexNumber? (digits : List Char) : Option Nat :=
  digits.foldlM (fun n c => (hexDigit? c).map (16 * n + ·)) 0

/-- The character of a code point, if it has one. -/
def charOf? (n : Nat) : Option Char :=
  if h : n.isValidChar then some (Char.ofNatAux n h) else none

/-- Reads the rest of an escape that gives a code point in `count` digits. -/
def readCodePoint (count : Nat) (input : List Char) : Option (Char × List Char) :=
  if input.length < count then none
  else ((hexNumber? (input.take count)).bind charOf?).map (·, input.drop count)

/-- A code point leaves no more than was there before it. -/
theorem readCodePoint_length {count : Nat} {input rest : List Char} {c : Char}
    (h : readCodePoint count input = some (c, rest)) : rest.length ≤ input.length := by
  unfold readCodePoint at h
  split at h
  · simp at h
  · simp only [Option.map_eq_some_iff, Prod.mk.injEq] at h
    obtain ⟨_, _, _, rfl⟩ := h
    simp

end ReleasePage.Text
