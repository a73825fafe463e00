import ReleasePage.Number.Power
import ReleasePage.Text.CodePoint
import ReleasePage.Text.Pieces
import ReleasePage.Text.Utf8
import ReleasePage.Web.Domain
import ReleasePage.Web.Url.Percent

/-!
# Hosts

The host of an address is a domain or a number. Numbers of 32 bits may be given in
parts, each decimal, octal or hexadecimal, and are written as four decimal parts;
numbers of 128 bits stand between brackets and are written in hexadecimal parts, of
which the longest run of zeros is left out.
-/

namespace ReleasePage.Web

open ReleasePage.Number (twoTo)

/-- The number that digits of a base denote, if all of them are digits of it. -/
def numberIn? (base : Nat) (digits : List Char) : Option Nat :=
  digits.foldlM (fun n c => do
    let digit ← Text.hexDigit? c
    if digit < base then some (base * n + digit) else none) 0

/-! ## Numbers of 32 bits -/

/-- One part of a number: hexadecimal after `0x`, octal after another zero,
otherwise decimal. -/
def addressPart? : List Char → Option Nat
  | [] => none
  | '0' :: 'x' :: digits => numberIn? 16 digits
  | '0' :: 'X' :: digits => numberIn? 16 digits
  | '0' :: digit :: digits => numberIn? 8 (digit :: digits)
  | digits => numberIn? 10 digits

/-- The parts of a domain between points; a point may stand at the end. -/
def domainParts (domain : List Char) : List (List Char) :=
  let parts := Text.pieces (· == '.') domain
  if parts.getLast? = some [] then parts.dropLast else parts

/-- The domain is meant as a number, because its last part is one. -/
def endsInNumber (domain : List Char) : Bool :=
  match (domainParts domain).getLast? with
  | some last =>
    (!last.isEmpty && last.all Char.isDigit) || (addressPart? last).isSome
  | none => false

/-- The number that parts denote, the last of which fills all places that are
left. -/
def addressNumber? (parts : List Nat) : Option Nat := do
  let front := parts.dropLast
  let last ← parts.getLast?
  if 4 < parts.length ∨ front.any (255 < ·) ∨ twoTo (8 * (4 - front.length)) ≤ last then none
  else
    return (front.zip [3, 2, 1]).foldl (fun n (part, place) => n + part * twoTo (8 * place)) last

/-- A number of 32 bits in four decimal parts. -/
def addressText (n : Nat) : String :=
  Text.joined "." <| [3, 2, 1, 0].map fun place => Nat.repr (n / twoTo (8 * place) % 256)

/-- The written form of a domain that is meant as a number. -/
def address? (domain : List Char) : Option String := do
  let parts ← (domainParts domain).mapM addressPart?
  return addressText (← addressNumber? parts)

/-! ## Numbers of 128 bits -/

/-- A decimal part of a number inside brackets: no zero in front, at most
255. -/
def plainPart? (digits : List Char) : Option Nat := do
  if digits.isEmpty ∨ (digits.head? = some '0' ∧ digits.length ≠ 1) then none
  let n ← numberIn? 10 digits
  if n < 256 then some n else none

/-- The pieces of one group: one of up to four hexadecimal digits, or two in
four decimal parts, which is for the last group only. -/
def groupPieces? (isLast : Bool) (group : List Char) : Option (List Nat) :=
  if isLast && group.contains '.' then do
    match ← (Text.pieces (· == '.') group).mapM plainPart? with
    | [a, b, c, d] => some [256 * a + b, 256 * c + d]
    | _ => none
  else if group.isEmpty || 4 < group.length then none
  else (numberIn? 16 group).map fun n => [n]

/-- The pieces of groups between colons. -/
def groupsPieces? (isEnd : Bool) : List (List Char) → Option (List Nat)
  | [] => some []
  | group :: rest => do
    let pieces ← groupPieces? (isEnd && rest.isEmpty) group
    return pieces ++ (← groupsPieces? isEnd rest)

/-- The pieces of a text of groups, which may be empty. -/
def halfPieces? (isEnd : Bool) (half : List Char) : Option (List Nat) :=
  if half.isEmpty then some [] else groupsPieces? isEnd (Text.pieces (· == ':') half)

/-- Splits a text at its first double colon. -/
def splitDoubleColon : List Char → Option (List Char × List Char)
  | [] => none
  | ':' :: ':' :: rest => some ([], rest)
  | c :: rest => (splitDoubleColon rest).map fun (front, back) => (c :: front, back)

/-- The eight pieces of a number inside brackets. A double colon stands for one
or more zeros. -/
def longAddress? (text : List Char) : Option (List Nat) :=
  match splitDoubleColon text with
  | none => do
    let pieces ← halfPieces? true text
    if pieces.length = 8 then some pieces else none
  | some (front, back) => do
    let front ← halfPieces? false front
    let back ← halfPieces? true back
    let missing := 8 - (front.length + back.length)
    if missing = 0 then none else some (front ++ List.replicate missing 0 ++ back)

/-- How many zeros a list starts with. -/
def leadingZeros (pieces : List Nat) : Nat := (pieces.takeWhile (· == 0)).length

/-- Where the first of the longest runs of zeros starts, and its length. -/
def longestZeros (pieces : List Nat) : Nat × Nat :=
  (List.range pieces.length).foldl
    (fun best start =>
      let run := leadingZeros (pieces.drop start)
      if best.2 < run then (start, run) else best)
    (0, 0)

/-- The text of pieces between colons. -/
def piecesText (pieces : List Nat) : String :=
  Text.joined ":" (pieces.map fun piece => String.ofList (Nat.toDigits 16 piece))

/-- A number of 128 bits between brackets; a run of zeros is left out unless it
is a single one. -/
def longAddressText (pieces : List Nat) : String :=
  let (start, run) := longestZeros pieces
  let body :=
    if run < 2 then piecesText pieces
    else piecesText (pieces.take start) ++ "::" ++ piecesText (pieces.drop (start + run))
  "[" ++ body ++ "]"

/-- A number of 128 bits after its opening bracket, in its requested form. -/
def bracketedHost? (rest : List Char) : Option String :=
  if rest.getLast? = some ']' then (longAddress? rest.dropLast).map longAddressText else none

/-- The host of an address in its requested form. -/
def host? (text : List Char) : Option String :=
  match text with
  | '[' :: rest => bracketedHost? rest
  | _ => do
    let decoded ← Text.Utf8.decode? (percentDecoded text)
    let domain ← domain? decoded.toList
    if endsInNumber domain then address? domain else some (String.ofList domain)

end ReleasePage.Web
