/-!
# White space

White space is the Unicode property of that name: the ASCII blanks, the two
line and paragraph separators and the spaces of the various widths. A
zero-width space is not among them.
-/

namespace ReleasePage.Text

/-- A character of the Unicode white-space class. -/
def isBlank (c : Char) : Bool :=
  let n := c.toNat
  (9 ≤ n && n ≤ 13) || n == 0x20 || n == 0x85 || n == 0xA0 || n == 0x1680 ||
    (0x2000 ≤ n && n ≤ 0x200A) || n == 0x2028 || n == 0x2029 || n == 0x202F ||
    n == 0x205F || n == 0x3000

/-- A text without the white space at its start and end. -/
def trimmed (text : List Char) : List Char :=
  ((text.dropWhile isBlank).reverse.dropWhile isBlank).reverse

end ReleasePage.Text
