import ReleasePage.Log.Event
import ReleasePage.Log.Pattern
import ReleasePage.Text.Blank
import ReleasePage.Text.Bytes
import ReleasePage.Text.Case
import ReleasePage.Text.Cut
import ReleasePage.Text.Letters
import ReleasePage.Text.Pieces

/-!
# Log directives

A directive is a level, for everything, or the beginning of a target. In brackets
after the target stand a span and, in braces, a field, each of which may be left
out; an equals sign and a level may follow. A field may have a value, which is a
number or a pattern.

Marks are looked for in the directive without the blanks around it, and their
places are counted there. The texts between two places, however, are taken from
the directive with its blanks. Blanks at the start therefore shift all texts, and a
text that would start or end inside a character that way cannot be used at all.
-/

namespace ReleasePage.Log

/-- What a directive asks of an event besides its target. -/
inductive Scope where
  /-- Nothing. -/
  | every
  /-- It has a field. -/
  | having (field : String)
  /-- It is in a span. No event of the program is. -/
  | inSpan
  deriving Repr, DecidableEq

/-- Which events pass. -/
structure Directive where
  /-- How the targets start that it applies to. -/
  target : String
  /-- What else it asks of the events it applies to. -/
  scope : Scope
  /-- The least important rank that passes; zero if none does. -/
  rank : Nat
  deriving Repr, DecidableEq

/-- Why a directive cannot be read. -/
inductive DirectiveFault where
  /-- It is not in the notation. -/
  | foreign
  /-- A text starts or ends inside a character. -/
  | splitCharacter
  deriving Repr, DecidableEq

/-- The ranks of the names of levels. -/
def rankNames : List (String × Nat) := [
  ("off", 0), ("error", 1), ("warn", 2), ("info", 3), ("debug", 4), ("trace", 5)]

/-- The rank that a number gives. A plus may stand before it. -/
def rankNumbered? (text : List Char) : Option Nat :=
  let digits := if text.head? = some '+' then text.drop 1 else text
  if digits.isEmpty || !digits.all Char.isDigit then none
  else
    let n := digits.foldl (fun n c => 10 * n + (c.toNat - 48)) 0
    if n ≤ 5 then some n else none

/-- The rank of a level, which is a name without regard to case or a number. -/
def rankNamed? (text : List Char) : Option Nat :=
  rankNumbered? text <|> rankNames.lookup (String.ofList (Text.asciiLower text))

/-- The part of a directive between two places. -/
def partOf (text : List Char) (start stop : Nat) : Except DirectiveFault (List Char) :=
  match Text.between? start stop text with
  | some part => .ok part
  | none => .error .splitCharacter

/-- The rank of the level from a place on; everything passes if there is
nothing. -/
def rankFrom (text : List Char) (place : Nat) : Except DirectiveFault Nat := do
  let level ← partOf text place (Text.byteLength text)
  if level.isEmpty then return Level.trace.rank
  match rankNamed? level with
  | some rank => return rank
  | none => throw .foreign

/-- The end of a number: nothing, or an exponent with or without a sign. -/
def isExponent : List Char → Bool
  | [] => true
  | mark :: rest =>
    let digits := if rest.head? == some '+' || rest.head? == some '-' then rest.drop 1 else rest
    (mark == 'e' || mark == 'E') && !digits.isEmpty && digits.all Char.isDigit

/-- A number in digits, with or without a point and an exponent. -/
def isDecimal (text : List Char) : Bool :=
  let whole := text.takeWhile Char.isDigit
  let rest := text.dropWhile Char.isDigit
  let pointed := rest.head? == some '.'
  let fraction := if pointed then (rest.drop 1).takeWhile Char.isDigit else []
  let ending := if pointed then (rest.drop 1).dropWhile Char.isDigit else rest
  !(whole ++ fraction).isEmpty && isExponent ending

/-- A number with or without a sign. Infinity and the lack of a number have
names, without regard to case. -/
def isNumber (text : List Char) : Bool :=
  let body := if text.head? == some '+' || text.head? == some '-' then text.drop 1 else text
  isDecimal body || ["inf", "infinity", "nan"].contains (String.ofList (Text.asciiLower body))

/-- What a field in braces asks for. A value up to a second equals sign makes it
a field of a span. -/
def fieldScope (field : List Char) : Except DirectiveFault Scope :=
  match Text.pieces (· == '=') field with
  | [name] => if name.isEmpty then .error .foreign else .ok (.having (String.ofList name))
  | _ :: value :: _ => if isNumber value || isPattern value then .ok .inSpan else .error .foreign
  | [] => .error .foreign

/-- What is left of a directive from the first mark on, and its place. -/
def splitBefore (isMark : Char → Bool) (place : Nat) (rest : List Char) : Nat × List Char :=
  (place + Text.byteLength (rest.takeWhile (!isMark ·)), rest.dropWhile (!isMark ·))

/-- Reads what follows the closing bracket, at a place. -/
def readEnding (text : List Char) (place : Nat) : List Char → Except DirectiveFault Nat
  | [] => .ok Level.trace.rank
  | '=' :: _ => rankFrom text (place + 1)
  | _ => .error .foreign

/-- Reads a field after its opening brace, at a place, and what follows it. -/
def readField (text : List Char) (start : Nat) (rest : List Char) :
    Except DirectiveFault (Scope × Nat) := do
  let (stop, rest) := splitBefore (· == '}') start rest
  match rest with
  | [] => throw .foreign
  | _ :: rest =>
    let scope ← fieldScope (← partOf text start stop)
    match rest with
    | ']' :: rest => return (scope, ← readEnding text (stop + 2) rest)
    | _ => throw .foreign

/-- Reads what stands in brackets after the opening one, at a place, and what
follows it. -/
def readBrackets (text : List Char) (start : Nat) (rest : List Char) :
    Except DirectiveFault (Scope × Nat) := do
  let (stop, rest) := splitBefore (fun c => c == ']' || c == '{') start rest
  match rest with
  | [] => throw .foreign
  | mark :: rest =>
    let span ← partOf text start stop
    if mark == ']' then return (.inSpan, ← readEnding text (stop + 1) rest)
    let (scope, rank) ← readField text (stop + 1) rest
    return (if span.isEmpty then scope else .inSpan, rank)

/-- A character that a target may start with. -/
def isTargetStart (c : Char) : Bool :=
  c == '-' || c == ':' || c == '_' || Text.isLetterOrNumber c

/-- Reads a directive. A target without a level lets everything pass. -/
def Directive.parse (text : List Char) : Except DirectiveFault Directive := do
  let word := Text.trimmed text
  match word with
  | [] => throw .foreign
  | '[' :: rest =>
    let (scope, rank) ← readBrackets text 1 rest
    return ⟨"", scope, rank⟩
  | first :: _ =>
    if !isTargetStart first then throw .foreign
    let (stop, rest) := splitBefore (fun c => c == '=' || c == '[') 0 word
    match rest with
    | [] =>
      match rankNamed? text with
      | some rank => return ⟨"", .every, rank⟩
      | none => return ⟨String.ofList text, .every, Level.trace.rank⟩
    | mark :: rest =>
      let target ← partOf text 0 stop
      if mark == '=' then return ⟨String.ofList target, .every, ← rankFrom text (stop + 1)⟩
      let (scope, rank) ← readBrackets text (stop + 1) rest
      return ⟨String.ofList target, scope, rank⟩

/-- The directive applies to an event. -/
def Directive.appliesTo (directive : Directive) (event : Event) : Bool :=
  directive.target.toList.isPrefixOf event.target.toList &&
    match directive.scope with
    | .every => true
    | .having field => event.fieldNames.contains field
    | .inSpan => false

/-- One directive decides rather than another that applies to the same event: the
longer target, then a field rather than none, then the field that comes later in
the order of bytes. With none of this, it decides as the later one. -/
def Directive.overrides (directive other : Directive) : Bool :=
  if directive.target.length ≠ other.target.length then
    other.target.length < directive.target.length
  else
    match directive.scope, other.scope with
    | .having field, .having old => !Text.bytesBefore field old
    | _, .having _ => false
    | _, _ => true

end ReleasePage.Log
