import ReleasePage.Number.Power
import ReleasePage.Text.CodePoint

/-!
# Labels in ASCII

A label with characters beyond ASCII has a form in ASCII: a mark, its ASCII
characters, and digits for the others. The digits give distances between the code
points and places of the characters, in the order of their code points.
-/

namespace ReleasePage.Web

open ReleasePage.Number (twoTo)

/-- How labels in this form start. -/
def codeMark : List Char := ['x', 'n', '-', '-']

/-- The threshold of digits at the start. -/
def startBias : Nat := 72

/-- A digit of the code for labels: letters first, then figures. -/
def labelDigit (n : Nat) : Char := Char.ofNat (if n < 26 then 97 + n else 22 + n)

/-- Scales a distance down to the range of one digit; every step moves the
threshold by one base. -/
def scaledBias : (fuel : Nat) → (delta k : Nat) → Nat
  | 0, delta, k => k + 36 * delta / (delta + 38)
  | fuel + 1, delta, k =>
    if 455 < delta then scaledBias fuel (delta / 35) (k + 36)
    else k + 36 * delta / (delta + 38)

/-- The threshold of digits after a character has been written. The first
distance counts for less. -/
def adaptedBias (delta points : Nat) (first : Bool) : Nat :=
  let start := if first then delta / 700 else delta / 2
  let delta := start + start / points
  scaledBias delta delta 0

/-- The least value of a digit that is not the last one of a number. -/
def labelThreshold (bias k : Nat) : Nat :=
  if k ≤ bias then 1 else if bias + 26 ≤ k then 26 else k - bias

/-- The digits of a number, each below a threshold that depends on its place. -/
def labelDigits (bias : Nat) : (fuel : Nat) → (q k : Nat) → List Char
  | 0, _, _ => []
  | fuel + 1, q, k =>
    let t := labelThreshold bias k
    if q < t then [labelDigit q]
    else labelDigit (t + (q - t) % (36 - t)) :: labelDigits bias fuel ((q - t) / (36 - t)) (k + 36)

/-- What the code for labels has written so far. -/
structure LabelState where
  /-- The distance that the next digits have to bridge. -/
  delta : Nat
  /-- The threshold of digits. -/
  bias : Nat
  /-- How many characters are written. -/
  handled : Nat
  /-- The digits, in order. -/
  digits : List Char

/-- Writes the character with code point `n` wherever it occurs in a label that
has `basic` ASCII characters. -/
def LabelState.write (basic n : Nat) (state : LabelState) (label : List Char) : LabelState :=
  label.foldl (fun state c =>
      if c.toNat < n then { state with delta := state.delta + 1 }
      else if c.toNat = n then
        ⟨0, adaptedBias state.delta (state.handled + 1) (state.handled == basic),
          state.handled + 1,
          state.digits ++ labelDigits state.bias (state.delta + 1) state.delta 36⟩
      else state)
    state

/-- Code points in ascending order, each once. -/
def distinctPoints (label : List Char) : List Nat :=
  ((label.map Char.toNat).mergeSort).eraseDups

/-- A label in ASCII: its ASCII characters, then digits that say where the others
stand. -/
def encodedLabel (label : List Char) : List Char :=
  let basic := label.filter (·.toNat < 128)
  let (_, state) := (distinctPoints (label.filter (128 ≤ ·.toNat))).foldl
    (fun (next, state) n =>
      let reached : LabelState :=
        { state with delta := state.delta + (n - next) * (state.handled + 1) }
      let written := reached.write basic.length n label
      (n + 1, { written with delta := written.delta + 1 }))
    ((128, ⟨0, startBias, basic.length, []⟩) : Nat × LabelState)
  codeMark ++ basic ++ (if basic.isEmpty then [] else ['-']) ++ state.digits

/-! ## Reading -/

/-- The value of a digit. -/
def labelValue? (c : Char) : Option Nat :=
  if c.isDigit then some (c.toNat - 22)
  else if c.isLower then some (c.toNat - 97)
  else none

/-- What has been read of the digits of a label. -/
structure LabelReading where
  /-- The characters so far. -/
  label : List Char
  /-- The code point that is reached. -/
  point : Nat
  /-- The place that is reached, counted on through all code points. -/
  place : Nat
  /-- The place where the distance starts that is being read. -/
  origin : Nat
  /-- The threshold of digits. -/
  bias : Nat
  /-- What the next digit counts for. -/
  weight : Nat
  /-- The offset of the threshold for the next digit. -/
  offset : Nat

/-- Puts the character at the place that is reached into the label, if there is
such a character. -/
def LabelReading.insert? (reading : LabelReading) : Option LabelReading := do
  let count := reading.label.length + 1
  let point := reading.point + reading.place / count
  let place := reading.place % count
  let c ← Text.charOf? point
  return {
    label := reading.label.take place ++ c :: reading.label.drop place
    point := point
    place := place + 1
    origin := place + 1
    bias := adaptedBias (reading.place - reading.origin) count (reading.origin == 0)
    weight := 1
    offset := 36 }

/-- Reads one digit. Places and weights have 32 bits. -/
def LabelReading.step? (reading : LabelReading) (c : Char) : Option LabelReading := do
  let digit ← labelValue? c
  let reached := { reading with place := reading.place + digit * reading.weight }
  let t := labelThreshold reading.bias reading.offset
  if twoTo 32 ≤ reached.place then none
  else if digit < t then reached.insert?
  else if twoTo 32 ≤ reading.weight * (36 - t) then none
  else return { reached with weight := reading.weight * (36 - t), offset := reading.offset + 36 }

/-- The label of a form in ASCII, after its mark. The last hyphen stands between
its ASCII characters and its digits. -/
def decodedLabel? (text : List Char) : Option (List Char) := do
  let digits := (text.reverse.takeWhile (· != '-')).reverse
  let basic := text.take (text.length - digits.length - 1)
  let digits := if basic.isEmpty then text else digits
  let start : LabelReading := ⟨basic, 128, 0, 0, startBias, 1, 36⟩
  let reading ← digits.foldlM LabelReading.step? start
  if reading.offset = 36 then return reading.label else none

end ReleasePage.Web
