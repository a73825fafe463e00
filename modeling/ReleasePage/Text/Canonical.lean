import ReleasePage.Text.Composition

/-!
# Canonical composition

Characters with marks can be written in several ways that mean the same. The
canonical one has its marks in the order of their classes and as few characters as
the table of compositions allows.
-/

namespace ReleasePage.Text

/-- The class of a mark; zero for all other characters. -/
def combiningClass (n : Nat) : Nat :=
  if n < 0x300 then 0 else ((combiningClasses.find? n).bind (·.values.head?)).getD 0

/-- The first syllable of the Hangul script. -/
def firstSyllable : Nat := 0xAC00

/-- How many syllables of the Hangul script there are. -/
def syllableCount : Nat := 11172

/-- How many syllables there are for a first consonant. -/
def syllablesPerConsonant : Nat := 588

/-- How many syllables there are for a first consonant and a vowel. -/
def syllablesPerVowel : Nat := 28

/-- The code point before the first last consonant. -/
def beforeLastConsonants : Nat := 0x11A7

/-- The pair that means the same as a character. -/
def pairOf? (n : Nat) : Option (Nat × Nat) :=
  if firstSyllable ≤ n && n < firstSyllable + syllableCount then
    let place := n - firstSyllable
    if place % syllablesPerVowel = 0 then
      some (0x1100 + place / syllablesPerConsonant,
        0x1161 + place % syllablesPerConsonant / syllablesPerVowel)
    else some (n - place % syllablesPerVowel, beforeLastConsonants + place % syllablesPerVowel)
  else
    match (compositions.find? n).map (·.values) with
    | some [a, b] => some (a, b)
    | _ => none

/-- The syllable that two parts of it make. -/
def syllableOf? (a b : Nat) : Option Nat :=
  if 0x1100 ≤ a && a < 0x1113 && 0x1161 ≤ b && b < 0x1176 then
    some (firstSyllable + (a - 0x1100) * syllablesPerConsonant + (b - 0x1161) * syllablesPerVowel)
  else if firstSyllable ≤ a && a < firstSyllable + syllableCount &&
      (a - firstSyllable) % syllablesPerVowel = 0 &&
      beforeLastConsonants < b && b < beforeLastConsonants + syllablesPerVowel then
    some (a + (b - beforeLastConsonants))
  else none

/-- The character that means the same as a pair. -/
def composite? (a b : Nat) : Option Nat :=
  match syllableOf? a b with
  | some n => some n
  | none => (List.find? (fun run => run.values == [a, b]) compositions).map (·.first)

/-- A character in as many parts as possible. It has no more than `fuel` marks. -/
def parts : (fuel : Nat) → Nat → List Nat
  | 0, n => [n]
  | fuel + 1, n =>
    match pairOf? n with
    | some (a, b) => parts fuel a ++ [b]
    | none => [n]

/-- No character has more marks than this. -/
def maxMarks : Nat := 3

/-- A code point with its class. -/
abbrev Classed := Nat × Nat

/-- Puts marks in the order of their classes, `marks` being those after the last
other character, in reverse. -/
def arranged (marks : List Classed) : List Classed → List Classed
  | [] => marks.reverse.mergeSort fun a b => a.2 ≤ b.2
  | (n, 0) :: rest => (marks.reverse.mergeSort fun a b => a.2 ≤ b.2) ++ (n, 0) :: arranged [] rest
  | mark :: rest => arranged (mark :: marks) rest

/-- Joins a character with marks behind it as far as possible. `marks` are those
that could not be joined to `base`, in reverse. -/
def joinedFrom (base : Nat) (marks : List Classed) : List Classed → List Nat
  | [] => base :: marks.reverse.map (·.1)
  | (n, place) :: rest =>
    let free := marks.head?.all fun mark => mark.2 < place
    match if free then composite? base n else none with
    | some whole => joinedFrom whole marks rest
    | none =>
      if place = 0 then base :: marks.reverse.map (·.1) ++ joinedFrom n [] rest
      else joinedFrom base ((n, place) :: marks) rest

/-- Joins characters with their marks. Marks at the start stay as they are. -/
def joinedMarks : List Classed → List Nat
  | [] => []
  | (n, 0) :: rest => joinedFrom n [] rest
  | (n, _) :: rest => n :: joinedMarks rest

/-- The canonical form of a text. -/
def canonical (text : List Char) : List Char :=
  if text.all (·.toNat < 0x80) then text
  else
    let points := text.flatMap fun c => parts maxMarks c.toNat
    (joinedMarks (arranged [] (points.map fun n => (n, combiningClass n)))).map Char.ofNat

end ReleasePage.Text
