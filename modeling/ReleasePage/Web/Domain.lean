import ReleasePage.Text.Canonical
import ReleasePage.Text.Pieces
import ReleasePage.Web.Domain.Direction
import ReleasePage.Web.Domain.Forms
import ReleasePage.Web.Domain.Joining
import ReleasePage.Web.Domain.Label

/-!
# Domains

A domain is requested in ASCII. Its characters are first replaced by those they
stand for, in canonical form. Labels with characters beyond ASCII are then checked
and written in their form in ASCII; labels that are given in that form have to be
the form of such a label.
-/

namespace ReleasePage.Web

/-- An ASCII character that may stand in a domain. -/
def isDomainChar (c : Char) : Bool :=
  0x20 < c.toNat && c.toNat != 0x7F && !("#%/:<>?@[\\]^|".toList.contains c)

/-- The characters of a domain by those they stand for, in canonical form. -/
def plainDomain? (text : List Char) : Option (List Char) := do
  let forms ← text.mapM domainForm?
  let plain := Text.canonical forms.flatten
  if plain.all isDomainChar then return plain else none

/-- A label of a domain. -/
structure DomainLabel where
  /-- Its characters. -/
  shown : List Char
  /-- The label in ASCII. -/
  requested : List Char
  deriving Repr, DecidableEq

/-- A text in which all characters stand for themselves. -/
def isPlain (text : List Char) : Bool :=
  text.all (fun c => domainForm? c == some [c]) && Text.canonical text == text

/-- How long a label may be that is written in ASCII. -/
def maxShownLength : Nat := 1000

/-- How long a label may be that is read from its form in ASCII. -/
def maxCodeLength : Nat := 2000

/-- Reads a label from its form in ASCII, which is for labels that need it. -/
def DomainLabel.ofCode? (label : List Char) : Option DomainLabel := do
  let code := label.drop codeMark.length
  if maxCodeLength < code.length || !code.all (·.toNat < 0x80) then none
  let shown ← decodedLabel? code
  if shown.all (·.toNat < 0x80) || !isPlain shown then none
  return ⟨shown, label⟩

/-- Reads a label. -/
def DomainLabel.read? (label : List Char) : Option DomainLabel :=
  if codeMark.isPrefixOf label then DomainLabel.ofCode? label
  else if label.all (·.toNat < 0x80) then some ⟨label, label⟩
  else if maxShownLength < label.length then none
  else some ⟨label, encodedLabel label⟩

/-- The label does not start with a mark, and its joiners stand where they may. -/
def DomainLabel.isWellFormed (label : DomainLabel) : Bool :=
  !(label.shown.head?.any fun c => markCharacters.contains c.toNat) &&
    areJoinersPlaced [] label.shown

/-- A domain as it is requested. -/
def domain? (text : List Char) : Option (List Char) := do
  let plain ← plainDomain? text
  let labels ← (Text.pieces (· == '.') plain).mapM DomainLabel.read?
  let isASCII := labels.all fun label => label.shown.all (·.toNat < 0x80)
  if isASCII || (labels.all (·.isWellFormed) && areDirected (labels.map (·.shown))) then
    let domain := (Text.joined "." (labels.map fun label => String.ofList label.requested)).toList
    if domain.isEmpty then none else return domain
  else none

end ReleasePage.Web
