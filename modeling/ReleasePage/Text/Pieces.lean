/-!
# Cutting and searching texts

Texts are cut at separator characters and searched for a part. Both work on
the list of characters of a text.
-/

namespace ReleasePage.Text

/-- Puts one more character in front of a list of pieces: a separator opens a
new piece, any other character extends the first one. -/
def cutStep (cut : Char → Bool) (c : Char) : List (List Char) → List (List Char)
  | [] => if cut c then [[], []] else [[c]]
  | piece :: pieces => if cut c then [] :: piece :: pieces else (c :: piece) :: pieces

/-- The pieces between separators, in order. There is one piece more than there
are separators, and pieces may be empty. -/
def pieces (cut : Char → Bool) (text : List Char) : List (List Char) :=
  text.foldr (cutStep cut) [[]]

/-- `part` occurs somewhere in the text. -/
def occursIn (part : List Char) : List Char → Bool
  | [] => part.isEmpty
  | c :: rest => part.isPrefixOf (c :: rest) || occursIn part rest

/-- The text without its last characters as long as they satisfy `drop`. -/
def withoutEnd (drop : Char → Bool) (text : List Char) : List Char :=
  (text.reverse.dropWhile drop).reverse

/-- Texts one after the other, separated by `between`. -/
def joined (between : String) (parts : List String) : String := between.intercalate parts

end ReleasePage.Text
