import ReleasePage.Text.Blank
import ReleasePage.Text.Pieces

/-!
# Links to the next page

A header with links names the next page of a list as `<address>; rel="next"`.
The header is cut at its commas, and the first part with such an entry counts.
-/

namespace ReleasePage.Web

/-- What marks the link to the next page. -/
def nextMark : List Char := "rel=\"next\"".toList

/-- What follows the address of an entry marks it as the next page: white space,
a semicolon, white space and the mark. -/
def marksNext (text : List Char) : Bool :=
  match text.dropWhile Text.isBlank with
  | ';' :: rest => nextMark.isPrefixOf (rest.dropWhile Text.isBlank)
  | _ => false

/-- The address of an entry for the next page that stands at the front of a
text, after its opening bracket. -/
def entryTarget? (text : List Char) : Option (List Char) :=
  match text.dropWhile (· != '>') with
  | _ :: rest => if marksNext rest then some (text.takeWhile (· != '>')) else none
  | [] => none

/-- The address of the leftmost entry for the next page in a part of a
header. -/
def partTarget? : List Char → Option (List Char)
  | [] => none
  | c :: rest =>
    if c = '<' then
      match entryTarget? rest with
      | some target => some target
      | none => partTarget? rest
    else partTarget? rest

/-- The address of the next page. -/
def nextLink? (header : String) : Option String :=
  ((Text.pieces (· == ',') header.toList).findSome? partTarget?).map String.ofList

end ReleasePage.Web
