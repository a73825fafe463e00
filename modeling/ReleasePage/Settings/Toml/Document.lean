import ReleasePage.Settings.Toml.Moment
import ReleasePage.Settings.Toml.Numeral
import ReleasePage.Settings.Toml.Table
import ReleasePage.Settings.Toml.Text

/-!
# TOML documents

Keys, values and whole documents. Lists and tables inside values nest, and keys
have parts, up to a fixed limit. A document is a sequence of headers and of keys
with their values; reading it gives one table, or nothing if it is malformed.
-/

namespace ReleasePage.Settings.Toml

/-- What nests this deep, and keys of this many parts, are refused. -/
def nestingLimit : Nat := 80

/-- A character of a key without quotes. -/
def isKeyChar (c : Char) : Bool := c.isAlphanum || c == '_' || c == '-'

/-- Reads one part of a key. -/
def readKeyPart (input : List Char) : Option (String × List Char) :=
  match readShortText input with
  | some (text, rest) => some (String.ofList text, rest)
  | none =>
    let name := input.takeWhile isKeyChar
    if name.isEmpty then none else some (String.ofList name, input.dropWhile isKeyChar)

/-- Reads at most `fuel` parts of a key, with points between them and blanks
around them. -/
def readKeyParts : (fuel : Nat) → List Char → Option (List String × List Char)
  | 0, _ => none
  | fuel + 1, input => do
    let (part, rest) ← readKeyPart (skipSpaces input)
    match skipSpaces rest with
    | '.' :: rest =>
      let (parts, rest) ← readKeyParts fuel rest
      return (part :: parts, rest)
    | rest => return ([part], rest)

/-- Reads a key: the names on the way and the last one. -/
def readKey (input : List Char) : Option ((List String × String) × List Char) := do
  let (parts, rest) ← readKeyParts (nestingLimit - 1) input
  let name ← parts.getLast?
  return ((parts.dropLast, name), rest)

/-- A reader of values. -/
abbrev ValueReader := List Char → Option (Value × List Char)

/-- Reads the elements of a list up to its closing bracket, at most `fuel` of
them. A comma may stand after the last one. -/
def readElements (readValue : ValueReader) :
    (fuel : Nat) → List Char → Option (List Value × List Char)
  | 0, _ => none
  | fuel + 1, input =>
    match skipFiller input with
    | ']' :: rest => some ([], rest)
    | start => do
      let (value, rest) ← readValue start
      match skipFiller rest with
      | ']' :: rest => return ([value], rest)
      | ',' :: rest =>
        let (values, rest) ← readElements readValue fuel rest
        return (value :: values, rest)
      | _ => none

/-- Reads a key with its value. -/
def readPair (readValue : ValueReader) (input : List Char) :
    Option ((List String × String) × Value × List Char) := do
  let (key, rest) ← readKey input
  let rest ← expect '=' rest
  let (value, rest) ← readValue (skipSpaces rest)
  return (key, value, rest)

/-- Reads pairs of a table written as one value up to its closing bracket, at
most `fuel` of them, and adds them to those read before. -/
def readPairs (readValue : ValueReader) :
    (fuel : Nat) → Members → List Char → Option (Members × List Char)
  | 0, _, _ => none
  | fuel + 1, members, input => do
    let ((path, name), value, rest) ← readPair readValue input
    let members ← define path name value members
    match skipSpaces rest with
    | '}' :: rest => return (members, rest)
    | ',' :: rest => readPairs readValue fuel members rest
    | _ => none

/-- Reads a table written as one value after its opening bracket. -/
def readInline (readValue : ValueReader) (input : List Char) : Option (Value × List Char) :=
  match skipSpaces input with
  | '}' :: rest => some (.table [], rest)
  | start => (readPairs readValue start.length [] start).map fun (members, rest) =>
      (.table (Item.toMembers members), rest)

/-- Reads a truth value, a moment or a number. -/
def readScalar : ValueReader
  | 't' :: 'r' :: 'u' :: 'e' :: rest => some (.boolean true, rest)
  | 'f' :: 'a' :: 'l' :: 's' :: 'e' :: rest => some (.boolean false, rest)
  | input =>
    match readMoment input with
    | some result => some result
    | none => readNumber input

/-- Reads a value in which at most `depth` lists and tables are nested. -/
def readValue : (depth : Nat) → ValueReader
  | 0, '[' :: _ => none
  | 0, '{' :: _ => none
  | depth + 1, '[' :: rest =>
    (readElements (readValue depth) (rest.length + 1) rest).map fun (values, rest) =>
      (.list values, rest)
  | depth + 1, '{' :: rest => readInline (readValue depth) rest
  | _, input =>
    match readText input with
    | some (text, rest) => some (.text (String.ofList text), rest)
    | none => readScalar input

/-- What was read of a document so far. -/
structure Draft where
  /-- The members of the document. -/
  members : Members
  /-- The path of the header read last. -/
  header : List String

/-- Reads a header after its first bracket. -/
def readHeader (draft : Draft) : List Char → Option (Draft × List Char)
  | '[' :: input => do
    let ((path, name), rest) ← readKey input
    let rest ← (expect ']' rest).bind (expect ']')
    let members ← openListed path name draft.members
    return (⟨members, path ++ [name]⟩, rest)
  | input => do
    let ((path, name), rest) ← readKey input
    let rest ← expect ']' rest
    let members ← openTable path name draft.members
    return (⟨members, path ++ [name]⟩, rest)

/-- Reads a key with its value in a line of its own. -/
def readEntry (draft : Draft) (input : List Char) : Option (Draft × List Char) := do
  let ((path, name), value, rest) ← readPair (readValue (nestingLimit - 1)) input
  let members ← defineIn draft.header path name value draft.members
  return ({ draft with members }, rest)

/-- Reads at most `fuel` lines of a document. -/
def readLines : (fuel : Nat) → Draft → List Char → Option Members
  | 0, _, _ => none
  | fuel + 1, draft, input =>
    match skipSpaces input with
    | [] => some draft.members
    | '[' :: rest => do
      let (draft, rest) ← readHeader draft rest
      let rest ← readLineEnd rest
      readLines fuel draft rest
    | c :: rest =>
      if c == '#' || c == '\n' || c == '\r' then do
        let rest ← readLineEnd (c :: rest)
        readLines fuel draft rest
      else do
        let (draft, rest) ← readEntry draft (c :: rest)
        let rest ← readLineEnd rest
        readLines fuel draft rest

/-- What is left after a mark of the byte order. -/
def skipMark : List Char → List Char
  | [] => []
  | c :: rest => if c.toNat = 0xFEFF then rest else c :: rest

/-- Reads a document: the table it describes, or nothing if it is malformed. -/
def readDocument (text : String) : Option Value :=
  let input := skipMark text.toList
  (readLines (input.length + 1) ⟨[], []⟩ input).map fun members =>
    .table (Item.toMembers members)

end ReleasePage.Settings.Toml
