import ReleasePage.Text.Quoted

/-!
# Writing JSON

A tree holds the values that are written: records are objects with their fields
in order. A tree is written in one line without spaces, or over several lines
with an indentation of two spaces.
-/

namespace ReleasePage.Json

/-- A value to be written. -/
inductive Tree where
  /-- The literal `null`. -/
  | null
  /-- A truth value. -/
  | boolean (value : Bool)
  /-- A natural number. -/
  | number (value : Nat)
  /-- A text. -/
  | text (value : String)
  /-- An array. -/
  | list (items : List Tree)
  /-- An object, its members in order. -/
  | object (members : List (String × Tree))

/-- The tree of a value that may be absent. -/
def Tree.ofOption {α : Type} (tree : α → Tree) : Option α → Tree
  | none => .null
  | some value => tree value

/-- The tree of a text that may be absent. -/
def Tree.ofText? : Option String → Tree := Tree.ofOption .text

/-- How one character is written inside a text: quotes, backslashes and control
characters are escaped, all else is kept. -/
def escapedChar (c : Char) : List Char :=
  if c = '"' then ['\\', '"']
  else if c = '\\' then ['\\', '\\']
  else if c.toNat = 8 then ['\\', 'b']
  else if c.toNat = 9 then ['\\', 't']
  else if c.toNat = 10 then ['\\', 'n']
  else if c.toNat = 12 then ['\\', 'f']
  else if c.toNat = 13 then ['\\', 'r']
  else if c.toNat < 16 then ['\\', 'u', '0', '0', '0'] ++ Text.hexDigits c.toNat
  else if c.toNat < 32 then ['\\', 'u', '0', '0'] ++ Text.hexDigits c.toNat
  else [c]

/-- A text between quotes. -/
def quotedText (s : String) : List Char := '"' :: s.toList.flatMap escapedChar ++ ['"']

mutual

/-- A tree in one line without spaces. -/
def Tree.compact : Tree → List Char
  | .null => "null".toList
  | .boolean true => "true".toList
  | .boolean false => "false".toList
  | .number n => (Nat.repr n).toList
  | .text s => quotedText s
  | .list [] => ['[', ']']
  | .list (item :: items) => '[' :: item.compact ++ Tree.compactItems items
  | .object [] => ['{', '}']
  | .object ((key, value) :: members) =>
    '{' :: quotedText key ++ ':' :: value.compact ++ Tree.compactMembers members

/-- The elements of an array after the first one, and its closing bracket. -/
def Tree.compactItems : List Tree → List Char
  | [] => [']']
  | item :: items => ',' :: item.compact ++ Tree.compactItems items

/-- The members of an object after the first one, and its closing bracket. -/
def Tree.compactMembers : List (String × Tree) → List Char
  | [] => ['}']
  | (key, value) :: members =>
    ',' :: quotedText key ++ ':' :: value.compact ++ Tree.compactMembers members

end

/-- A new line with `depth` levels of indentation. -/
def newLine (depth : Nat) : List Char := '\n' :: List.replicate (2 * depth) ' '

mutual

/-- A tree over several lines, standing at `depth` levels of indentation. -/
def Tree.prettyAt (depth : Nat) : Tree → List Char
  | .null => "null".toList
  | .boolean true => "true".toList
  | .boolean false => "false".toList
  | .number n => (Nat.repr n).toList
  | .text s => quotedText s
  | .list [] => ['[', ']']
  | .list (item :: items) =>
    '[' :: newLine (depth + 1) ++ item.prettyAt (depth + 1) ++ Tree.prettyItems depth items
  | .object [] => ['{', '}']
  | .object ((key, value) :: members) =>
    '{' :: newLine (depth + 1) ++ quotedText key ++ ':' :: ' ' :: value.prettyAt (depth + 1) ++
      Tree.prettyMembers depth members

/-- The elements of an array after the first one, and its closing bracket. -/
def Tree.prettyItems (depth : Nat) : List Tree → List Char
  | [] => newLine depth ++ [']']
  | item :: items =>
    ',' :: newLine (depth + 1) ++ item.prettyAt (depth + 1) ++ Tree.prettyItems depth items

/-- The members of an object after the first one, and its closing bracket. -/
def Tree.prettyMembers (depth : Nat) : List (String × Tree) → List Char
  | [] => newLine depth ++ ['}']
  | (key, value) :: members =>
    ',' :: newLine (depth + 1) ++ quotedText key ++ ':' :: ' ' :: value.prettyAt (depth + 1) ++
      Tree.prettyMembers depth members

end

/-- The text of a tree in one line. -/
def Tree.compactText (tree : Tree) : String := String.ofList tree.compact

/-- The text of a tree over several lines. -/
def Tree.prettyText (tree : Tree) : String := String.ofList (tree.prettyAt 0)

end ReleasePage.Json
