import ReleasePage.Settings.Escape
import ReleasePage.Settings.Layer
import ReleasePage.Text.Blank
import ReleasePage.Text.Case
import ReleasePage.Text.Cut
import ReleasePage.Text.Pieces

/-!
# Settings from environment variables

A variable whose name starts with `RELSITE_` gives a setting: two underscores
in the rest of the name lead into a section. Its value is read in a small
notation of truth values, numbers, quoted texts, lists and tables; a value that
is not in the notation is the text itself. What stands before the first escape of
a quoted text is kept up to as many bytes as it has characters. A text that would
end inside a character that way cannot be used at all.
-/

namespace ReleasePage.Settings

open ReleasePage.Number (Double)

/-- Names and values of environment variables, in order. -/
abbrev Environment := List (String × String)

/-- Sets a variable; one of the same name keeps its place. -/
def Environment.set (environment : Environment) (name value : String) : Environment :=
  if (environment.lookup name).isSome then
    environment.map fun entry => if entry.1 = name then (name, value) else entry
  else environment ++ [(name, value)]

/-- Removes a variable. -/
def Environment.unset (environment : Environment) (name : String) : Environment :=
  environment.filter fun entry => entry.1 ≠ name

/-- How the names of settings start. -/
def variableMark : String := "RELSITE_"

/-- The variable that holds log directives and no setting, after the mark. -/
def logName : String := "log"

/-- Puts a point in place of every two underscores. -/
def dotted : List Char → List Char
  | '_' :: '_' :: rest => '.' :: dotted rest
  | c :: rest => c :: dotted rest
  | [] => []

/-- The path of the setting that a variable gives, if it gives one. Case does not
matter, and no part of the path may be empty. -/
def settingPath? (name : String) : Option (List String) :=
  let lowered := Text.asciiLower (Text.trimmed name.toList)
  let mark := Text.asciiLower variableMark.toList
  if mark.isPrefixOf lowered then
    let rest := lowered.drop mark.length
    if rest = logName.toList then none
    else
      let path := Text.pieces (· == '.') (Text.trimmed (dotted rest))
      if path.any List.isEmpty then none else some (path.map String.ofList)
  else none

/-- Why a value cannot be read. -/
inductive ReadFault where
  /-- The value is not in the notation. -/
  | foreign
  /-- The kept beginning of a quoted text ends inside a character. -/
  | splitCharacter
  deriving Repr, DecidableEq

/-- The blanks between the parts of a value. -/
def isFiller (c : Char) : Bool :=
  c == ' ' || c == '\t' || c == '\n' || c == '\r' || c.toNat == 12

/-- What is left after blanks. -/
def skipFillers (input : List Char) : List Char := input.dropWhile isFiller

/-- A character that ends a word. -/
def isSeparator (c : Char) : Bool :=
  c == ',' || c == '[' || c == ']' || c.toNat == 0x7B || c.toNat == 0x7D

/-- Splits a quoted text, after its opening quote, at the closing one. Escapes
are kept; an escaped quote does not close the text. -/
def splitQuoted : List Char → Except ReadFault (List Char × List Char)
  | [] => .error .foreign
  | '"' :: rest => .ok ([], rest)
  | '\\' :: c :: rest =>
    (splitQuoted rest).map fun (inner, rest) => ('\\' :: c :: inner, rest)
  | c :: rest => (splitQuoted rest).map fun (inner, rest) => (c :: inner, rest)

/-- A character that may stand for itself in a quoted text. -/
def isQuotable (c : Char) : Bool := c == '\t' || (0x20 ≤ c.toNat && c.toNat != 0x7F)

/-- Replaces the escapes of a quoted text, `read` being its beginning in
reverse. -/
def unescapeFrom (read : List Char) (input : List Char) : Except ReadFault (List Char) :=
  match input with
  | [] => .ok read.reverse
  | '\\' :: rest =>
    match _h : readEscape rest with
    | some (c, rest') => unescapeFrom (c :: read) rest'
    | none => .error .foreign
  | c :: rest => if isQuotable c then unescapeFrom (c :: read) rest else .error .foreign
termination_by input.length
decreasing_by
  · have := readEscape_length _h
    simp only [List.length_cons]
    omega
  · simp

/-- The text between quotes. Without an escape it stands for itself; otherwise
what stands before the first escape is kept up to as many bytes as it has
characters. -/
def unquoted (inner : List Char) : Except ReadFault (List Char) := do
  let plain := inner.takeWhile (· != '\\')
  if !plain.all isQuotable then throw .foreign
  match inner.dropWhile (· != '\\') with
  | [] => return plain
  | escapes =>
    match Text.cutAt? plain.length plain with
    | some (kept, _) => unescapeFrom kept.reverse escapes
    | none => throw .splitCharacter

/-- Reads a quoted text after its opening quote. -/
def readQuoted (input : List Char) : Except ReadFault (String × List Char) := do
  let (inner, rest) ← splitQuoted input
  let text ← unquoted inner
  return (String.ofList text, rest)

/-- A sign in front of a number, if there is one, and what follows it. -/
def splitSign : List Char → Bool × List Char
  | '+' :: rest => (false, rest)
  | '-' :: rest => (true, rest)
  | word => (false, word)

/-- The number that decimal digits denote; nothing without a digit. -/
def digits? (word : List Char) : Option Nat :=
  if word.isEmpty || !word.all Char.isDigit then none
  else some (word.foldl (fun n c => 10 * n + (c.toNat - 48)) 0)

/-- The exponent at the end of a number; zero if there is none. -/
def exponent? : List Char → Option Int
  | [] => some 0
  | c :: rest =>
    if c == 'e' || c == 'E' then
      let (negative, word) := splitSign rest
      (digits? word).map fun n => if negative then -(n : Int) else n
    else none

/-- The number with a point that a word denotes. At least one digit stands
before or after the point. -/
def float? (word : List Char) : Option Double := do
  let (negative, body) := splitSign word
  let whole := body.takeWhile Char.isDigit
  match body.dropWhile Char.isDigit with
  | '.' :: rest =>
    let fraction := rest.takeWhile Char.isDigit
    let digits ← digits? (whole ++ fraction)
    let exponent ← exponent? (rest.dropWhile Char.isDigit)
    return Double.ofDecimal negative digits (exponent - fraction.length)
  | _ => none

/-- The number without a sign that a word denotes; a plus may stand before it. -/
def unsigned? (word : List Char) : Option Nat := do
  let n ← digits? (if word.head? == some '+' then word.drop 1 else word)
  if n < Number.words64 then return n else none

/-- The number with a sign that a word denotes. -/
def signed? (word : List Char) : Option Int := do
  let (negative, body) := splitSign word
  let n ← digits? body
  let value : Int := if negative then -(n : Int) else n
  if Number.isSigned64 value then return value else none

/-- The value of a word: a number if it is one, else a text. -/
def wordValue (word : List Char) : Value :=
  match if word.contains '.' then float? word else none with
  | some value => .float value
  | none =>
    match unsigned? word, signed? word with
    | some value, _ => .unsigned value
    | none, some value => .signed value
    | none, none => .text (String.ofList word)

/-- Reads a word: everything up to a separator, without the blanks around it. -/
def readWord (input : List Char) : Value × List Char :=
  (wordValue (Text.trimmed (input.takeWhile (!isSeparator ·))), input.dropWhile (!isSeparator ·))

/-- A reader of values. -/
abbrev ValueReader := List Char → Except ReadFault (Value × List Char)

/-- Reads the elements of a list up to its closing bracket, at most `fuel` of
them. -/
def readItems (readValue : ValueReader) :
    (fuel : Nat) → List Char → Except ReadFault (List Value × List Char)
  | 0, _ => .error .foreign
  | _ + 1, ']' :: rest => .ok ([], rest)
  | fuel + 1, input => do
    let (value, rest) ← readValue input
    match rest with
    | ',' :: rest =>
      let (values, rest) ← readItems readValue fuel rest
      return (value :: values, rest)
    | ']' :: rest => return ([value], rest)
    | _ => throw .foreign

/-- A character of a name without quotes. -/
def isNameChar (c : Char) : Bool := c.isAlphanum || c == '_' || c == '-'

/-- Reads the name of a member. -/
def readName : List Char → Except ReadFault (String × List Char)
  | '"' :: rest => readQuoted rest
  | input =>
    let name := input.takeWhile isNameChar
    if name.isEmpty then .error .foreign
    else .ok (String.ofList name, input.dropWhile isNameChar)

/-- Reads the members of a table up to its closing bracket, at most `fuel` of
them, and adds them to those read before. -/
def readMembers (readValue : ValueReader) :
    (fuel : Nat) → List (String × Value) → List Char →
      Except ReadFault (List (String × Value) × List Char)
  | 0, _, _ => .error .foreign
  | _ + 1, members, '}' :: rest => .ok (members, rest)
  | fuel + 1, members, input => do
    let (name, rest) ← readName (skipFillers input)
    match skipFillers rest with
    | '=' :: rest =>
      let (value, rest) ← readValue rest
      let members := assign name value members
      match rest with
      | ',' :: rest => readMembers readValue fuel members rest
      | '}' :: rest => return (members, rest)
      | _ => throw .foreign
    | _ => throw .foreign

/-- Reads a value in single quotes, which is one character. -/
def readChar (quote : Char) : ValueReader
  | c :: close :: rest =>
    if close = quote then .ok (.text (String.ofList [c]), rest) else .error .foreign
  | _ => .error .foreign

/-- A reader of values with blanks around them. -/
def spaced (readValue : ValueReader) : ValueReader := fun input =>
  (readValue (skipFillers input)).map fun (value, rest) => (value, skipFillers rest)

/-- Reads a value that starts here, `depth` bounding how lists and tables
nest. -/
def readBareValue : (depth : Nat) → ValueReader
  | 0, _ => .error .foreign
  | _ + 1, 't' :: 'r' :: 'u' :: 'e' :: rest => .ok (.boolean true, rest)
  | _ + 1, 'f' :: 'a' :: 'l' :: 's' :: 'e' :: rest => .ok (.boolean false, rest)
  | depth + 1, '{' :: rest =>
    (readMembers (spaced (readBareValue depth)) (rest.length + 1) [] rest).map fun (members, rest) =>
      (.table members, rest)
  | depth + 1, '[' :: rest =>
    (readItems (spaced (readBareValue depth)) (rest.length + 1) rest).map fun (items, rest) =>
      (.list items, rest)
  | _ + 1, '"' :: rest => (readQuoted rest).map fun (text, rest) => (.text text, rest)
  | _ + 1, c :: rest =>
    if c.toNat = 39 then readChar c rest else .ok (readWord (c :: rest))
  | _ + 1, [] => .ok (readWord [])

/-- The value of a variable: what the notation says if all of the text is in it,
otherwise the text. There is none if a quoted text is split inside a character.
Nothing is nested deeper than the text is long. -/
def variableValue? (text : String) : Option Value :=
  match spaced (readBareValue (text.length + 1)) text.toList with
  | .ok (value, []) => some value
  | .ok _ => some (.text text)
  | .error .foreign => some (.text text)
  | .error .splitCharacter => none

/-- A value at the end of a path of tables. -/
def nested (path : List String) (value : Value) : Value :=
  path.foldr (fun name inner => .table [(name, inner)]) value

/-- The paths of the settings that variables give, with the texts of their
values. -/
def settingTexts (environment : Environment) : List (List String × String) :=
  environment.filterMap fun (name, text) => (settingPath? name).map (·, text)

/-- The layer of one setting, if its text can be used. -/
def settingLayer? (path : List String) (text : String) : Option Tree :=
  (variableValue? text).map fun value => Tree.ofValue .variables (nested path value)

/-- The layer of all variables, later ones over earlier ones, if all of them can
be used. -/
def variableLayer? (environment : Environment) : Option Tree := do
  let layers ← (settingTexts environment).mapM fun (path, text) => settingLayer? path text
  return Tree.ofLayers (.table .variables []) layers

end ReleasePage.Settings
