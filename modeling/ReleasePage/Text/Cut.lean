/-!
# Cutting texts at bytes

A place in a text is the number of bytes before it. Not every number of bytes is
a place: a character of several bytes cannot be cut.
-/

namespace ReleasePage.Text

/-- The number of bytes of a text. -/
def byteLength : List Char → Nat
  | [] => 0
  | c :: rest => c.utf8Size + byteLength rest

/-- The two parts of a text around a place, unless it is inside a character. A
place after the end is the end. -/
def cutAt? : (place : Nat) → List Char → Option (List Char × List Char)
  | 0, text => some ([], text)
  | _ + 1, [] => some ([], [])
  | place + 1, c :: rest =>
    if c.utf8Size ≤ place + 1 then
      (cutAt? (place + 1 - c.utf8Size) rest).map fun (front, back) => (c :: front, back)
    else none

/-- The part of a text between two places, unless one of them is inside a
character. -/
def between? (start stop : Nat) (text : List Char) : Option (List Char) := do
  let (front, _) ← cutAt? stop text
  let (_, part) ← cutAt? start front
  return part

end ReleasePage.Text
