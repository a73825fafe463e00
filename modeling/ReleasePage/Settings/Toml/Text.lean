import ReleasePage.Settings.Escape

/-!
# Texts in TOML documents

Blanks, line ends and comments, and the four notations for texts: between
double quotes with escapes, between single quotes without, and each of the two
over several lines between tripled quotes. Readers take the characters that are
left and return what they read with what is left after it.
-/

namespace ReleasePage.Settings.Toml

/-- The single quote. -/
def apostrophe : Char := Char.ofNat 39

/-- A blank inside a line. -/
def isSpace (c : Char) : Bool := c == ' ' || c == '\t'

/-- A character that may stand in a comment or in a text: a tab or anything that
is no control character. -/
def isPlain (c : Char) : Bool := c == '\t' || (0x20 ≤ c.toNat && c.toNat != 0x7F)

/-- What is left after blanks. -/
def skipSpaces (input : List Char) : List Char := input.dropWhile isSpace

/-- What is left after a line end, if there is one. -/
def readNewline : List Char → Option (List Char)
  | '\n' :: rest => some rest
  | '\r' :: '\n' :: rest => some rest
  | _ => none

/-- What is left after a comment, if there is one; its line end remains. -/
def skipComment : List Char → List Char
  | '#' :: rest => rest.dropWhile isPlain
  | input => input

/-- What is left after the end of a line, before which blanks and a comment may
stand. The document may end instead. -/
def readLineEnd (input : List Char) : Option (List Char) :=
  match skipComment (skipSpaces input) with
  | [] => some []
  | rest => readNewline rest

/-- A line end uses up at least one character. -/
theorem readNewline_length {input rest : List Char} (h : readNewline input = some rest) :
    rest.length < input.length := by
  unfold readNewline at h
  split at h
  · simp only [Option.some.injEq] at h
    subst h
    simp
  · simp only [Option.some.injEq] at h
    subst h
    simp only [List.length_cons]
    omega
  · simp at h

/-- What is left after blanks and line ends. -/
def skipBlankLines (input : List Char) : List Char :=
  match input with
  | [] => []
  | '\n' :: rest => skipBlankLines rest
  | '\r' :: '\n' :: rest => skipBlankLines rest
  | c :: rest => if isSpace c then skipBlankLines rest else c :: rest

/-- What is left after at most `fuel` stretches of blanks, line ends and
comments. -/
def skipFillerFrom : (fuel : Nat) → List Char → List Char
  | 0, input => input
  | fuel + 1, input =>
    match skipBlankLines input with
    | '#' :: rest => skipFillerFrom fuel (rest.dropWhile isPlain)
    | rest => rest

/-- What is left after blanks, line ends and comments. -/
def skipFiller (input : List Char) : List Char := skipFillerFrom (input.length + 1) input

/-- Reads the rest of a text between double quotes, `read` being its beginning
in reverse. -/
def basicBody (read : List Char) (input : List Char) : Option (List Char × List Char) :=
  match input with
  | [] => none
  | '"' :: rest => some (read.reverse, rest)
  | '\\' :: rest =>
    match _h : readEscape rest with
    | some (c, rest') => basicBody (c :: read) rest'
    | none => none
  | c :: rest => if isPlain c then basicBody (c :: read) rest else none
termination_by input.length
decreasing_by
  · have := readEscape_length _h
    simp only [List.length_cons]
    omega
  · simp

/-- Reads the rest of a text between single quotes. -/
def literalBody (read : List Char) : List Char → Option (List Char × List Char)
  | [] => none
  | c :: rest =>
    if c = apostrophe then some (read.reverse, rest)
    else if isPlain c then literalBody (c :: read) rest
    else none

/-- How many copies of a character the input starts with. -/
def runLength (c : Char) (input : List Char) : Nat := (input.takeWhile (· == c)).length

/-- What is left after a backslash at the end of a line: all blanks and line
ends up to the next character that is none. -/
def skipLineJoin (input : List Char) : Option (List Char) :=
  (readNewline (skipSpaces input)).map skipBlankLines

/-- Blank lines leave no more than was there before them. -/
theorem skipBlankLines_length (input : List Char) :
    (skipBlankLines input).length ≤ input.length := by
  fun_induction skipBlankLines input with
  | case1 => simp
  | case2 rest ih => simp only [List.length_cons]; omega
  | case3 rest ih => simp only [List.length_cons]; omega
  | case4 c rest _ _ _ ih => simp only [List.length_cons]; omega
  | case5 => simp

/-- Joining lines leaves fewer characters. -/
theorem skipLineJoin_length {input rest : List Char} (h : skipLineJoin input = some rest) :
    rest.length < input.length := by
  unfold skipLineJoin at h
  simp only [Option.map_eq_some_iff] at h
  obtain ⟨after, newline, rfl⟩ := h
  have first := readNewline_length newline
  have second := skipBlankLines_length after
  have third : (skipSpaces input).length ≤ input.length := by
    unfold skipSpaces
    exact (List.dropWhile_suffix _).length_le
  omega

/-- Reads the rest of a text between tripled double quotes. Up to two quotes
may stand before the closing ones. -/
def longBasicBody (read : List Char) (input : List Char) : Option (List Char × List Char) :=
  match input with
  | [] => none
  | '"' :: rest =>
    let run := runLength '"' ('"' :: rest)
    if 3 ≤ run then
      let extra := min run 5 - 3
      some ((List.replicate extra '"' ++ read).reverse, rest.drop (extra + 2))
    else longBasicBody ('"' :: read) rest
  | '\n' :: rest => longBasicBody ('\n' :: read) rest
  | '\r' :: '\n' :: rest => longBasicBody ('\n' :: read) rest
  | '\\' :: rest =>
    match _j : skipLineJoin rest with
    | some rest' => longBasicBody read rest'
    | none =>
      match _h : readEscape rest with
      | some (c, rest') => longBasicBody (c :: read) rest'
      | none => none
  | c :: rest => if isPlain c then longBasicBody (c :: read) rest else none
termination_by input.length
decreasing_by
  · simp
  · simp
  · simp only [List.length_cons]
    omega
  · have := skipLineJoin_length _j
    simp only [List.length_cons]
    omega
  · have := readEscape_length _h
    simp only [List.length_cons]
    omega
  · simp

/-- Reads the rest of a text between tripled single quotes. -/
def longLiteralBody (read : List Char) : List Char → Option (List Char × List Char)
  | [] => none
  | '\n' :: rest => longLiteralBody ('\n' :: read) rest
  | '\r' :: '\n' :: rest => longLiteralBody ('\n' :: read) rest
  | c :: rest =>
    if c = apostrophe then
      let run := runLength apostrophe (c :: rest)
      if 3 ≤ run then
        let extra := min run 5 - 3
        some ((List.replicate extra apostrophe ++ read).reverse, rest.drop (extra + 2))
      else longLiteralBody (c :: read) rest
    else if isPlain c then longLiteralBody (c :: read) rest
    else none

/-- What is left after a line end, or everything if there is none. -/
def skipNewline (input : List Char) : List Char := (readNewline input).getD input

/-- Reads a text in one line, if one starts here. -/
def readShortText : List Char → Option (List Char × List Char)
  | [] => none
  | c :: rest =>
    if c = '"' then basicBody [] rest
    else if c = apostrophe then literalBody [] rest
    else none

/-- Reads a text in any of the four notations, if one starts here. -/
def readText (input : List Char) : Option (List Char × List Char) :=
  if 3 ≤ runLength '"' input then longBasicBody [] (skipNewline (input.drop 3))
  else if 3 ≤ runLength apostrophe input then longLiteralBody [] (skipNewline (input.drop 3))
  else readShortText input

end ReleasePage.Settings.Toml
