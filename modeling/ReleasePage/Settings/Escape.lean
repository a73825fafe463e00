import ReleasePage.Text.CodePoint

/-!
# Escapes in quoted settings

Quoted texts of settings files and of environment variables know the same
escapes: one letter for the common control characters, and the code point in
four or eight hexadecimal digits for any character.
-/

namespace ReleasePage.Settings

/-- Reads what follows a backslash: the character that is meant and what stands
after the escape. -/
def readEscape : List Char → Option (Char × List Char)
  | 'b' :: rest => some (Char.ofNat 8, rest)
  | 't' :: rest => some ('\t', rest)
  | 'n' :: rest => some ('\n', rest)
  | 'f' :: rest => some (Char.ofNat 12, rest)
  | 'r' :: rest => some ('\r', rest)
  | '"' :: rest => some ('"', rest)
  | '\\' :: rest => some ('\\', rest)
  | 'u' :: rest => Text.readCodePoint 4 rest
  | 'U' :: rest => Text.readCodePoint 8 rest
  | _ => none

/-- An escape uses up at least one character. -/
theorem readEscape_length {input rest : List Char} {c : Char}
    (h : readEscape input = some (c, rest)) : rest.length < input.length := by
  unfold readEscape at h
  split at h
  case h_8 => exact Nat.lt_succ_of_le (Text.readCodePoint_length h)
  case h_9 => exact Nat.lt_succ_of_le (Text.readCodePoint_length h)
  case h_10 => simp at h
  all_goals
    simp only [Option.some.injEq, Prod.mk.injEq] at h
    obtain ⟨_, rfl⟩ := h
    simp

end ReleasePage.Settings
