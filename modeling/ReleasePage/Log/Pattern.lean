import ReleasePage.Text.Blank
import ReleasePage.Text.CodePoint
import ReleasePage.Text.Letters

/-!
# Patterns for values

A directive may ask for the value of a field by a regular expression. Values are
those of spans, and the events of the program are in none, so no text is ever
compared with a pattern; what matters is whether it is well-formed. Patterns hold
no closing brace, which would end the field they belong to. So an opening brace
starts a number of repetitions, or a name, that nothing ends.

Patterns may not be nested too deeply. A group, a repetition, a class, several
alternatives and several items in a row each are one level above what they hold;
in a class so are several members and the comparison of two sets of them.
-/

namespace ReleasePage.Log

/-- How a part of a pattern is read. -/
structure PatternMode where
  /-- Blanks and remarks do not count. -/
  spaced : Bool
  /-- All characters are meant, not those of ASCII only. -/
  wide : Bool
  deriving Repr, DecidableEq

/-- What is left after blanks and remarks. A remark starts with a hash sign and
lasts up to the end of its line. -/
def skipRemarks : (inRemark : Bool) → List Char → List Char
  | _, [] => []
  | true, c :: rest => skipRemarks (c != '\n') rest
  | false, c :: rest =>
    if Text.isBlank c then skipRemarks false rest
    else if c == '#' then skipRemarks true rest
    else c :: rest

/-- What is left after what does not count in a mode. -/
def PatternMode.skip (mode : PatternMode) (input : List Char) : List Char :=
  if mode.spaced then skipRemarks false input else input

/-- The character that a hyphen of a class is judged by. Blanks do not count, nor
does the sign that starts a remark, but the remark does. -/
def PatternMode.next? (mode : PatternMode) (input : List Char) : Option Char :=
  if mode.spaced then
    let input := input.dropWhile Text.isBlank
    let input := if input.head? == some '#' then (input.drop 1).dropWhile Text.isBlank else input
    input.head?
  else input.head?

/-- What a pattern asks for at one place. -/
inductive PatternItem where
  /-- One character. -/
  | single (c : Char)
  /-- One of several characters. -/
  | several
  /-- No character, but something about the place. -/
  | place
  deriving Repr, DecidableEq

/-- The letters of the large classes of characters, in any case. -/
def isCategory (c : Char) : Bool := "CLMNPSZ".toList.contains c.toUpper

/-- Reads the rest of an escape that gives a code point in `count` digits, after
`code` has been read. -/
def readPatternCode? (mode : PatternMode) : (count : Nat) → (code : Nat) → List Char →
    Option (Char × List Char)
  | 0, code, input => (Text.charOf? code).map (·, input)
  | count + 1, code, input =>
    match mode.skip input with
    | [] => none
    | c :: rest =>
      (Text.hexDigit? c).bind fun digit => readPatternCode? mode count (16 * code + digit) rest

/-- Reads what follows a backslash. Ends of words are known for ASCII only, and
the complement of a class is not one of ASCII characters. -/
def readPatternEscape? (mode : PatternMode) : List Char → Option (PatternItem × List Char)
  | [] => none
  | c :: rest =>
    if c == 'x' then do
      let (code, rest) ← readPatternCode? mode 2 0 rest
      if mode.wide || code.toNat < 0x80 then return (.single code, rest) else none
    else if c == 'u' then
      (readPatternCode? mode 4 0 rest).map fun (code, rest) => (.single code, rest)
    else if c == 'U' then
      (readPatternCode? mode 8 0 rest).map fun (code, rest) => (.single code, rest)
    else if c == 'p' || c == 'P' then
      match mode.skip rest with
      | [] => none
      | category :: rest =>
        if mode.wide && isCategory category then some (.several, rest) else none
    else if ['d', 's', 'w'].contains c then some (.several, rest)
    else if ['D', 'S', 'W'].contains c then
      if mode.wide then some (.several, rest) else none
    else if c == 'a' then some (.single (Char.ofNat 7), rest)
    else if c == 'f' then some (.single (Char.ofNat 12), rest)
    else if c == 't' then some (.single '\t', rest)
    else if c == 'n' then some (.single '\n', rest)
    else if c == 'r' then some (.single '\r', rest)
    else if c == 'v' then some (.single (Char.ofNat 11), rest)
    else if c == 'A' || c == 'z' then some (.place, rest)
    else if ['b', 'B', '<', '>'].contains c then
      if mode.wide then none else some (.place, rest)
    else if c.toNat < 0x80 && !c.isAlphanum then some (.single c, rest)
    else none

/-- The names of classes between colons. -/
def classNames : List String := [
  "alnum", "alpha", "ascii", "blank", "cntrl", "digit", "graph", "lower", "print", "punct",
  "space", "upper", "word", "xdigit"]

/-- Reads a class between colons after its opening bracket: whether all other
characters are meant, and what follows it. -/
def readNamedClass? : List Char → Option (Bool × List Char)
  | ':' :: input =>
    let negated := input.head? == some '^'
    let input := if negated then input.drop 1 else input
    match input.dropWhile (· != ':') with
    | ':' :: ']' :: rest =>
      if classNames.contains (String.ofList (input.takeWhile (· != ':'))) then some (negated, rest)
      else none
    | _ => none
  | _ => none

/-- How deep things in a row are nested. -/
structure Row where
  /-- How many there are. -/
  count : Nat
  /-- The depth of the deepest of them but the last. -/
  others : Nat
  /-- The depth of the last of them. -/
  last : Nat
  deriving Repr, DecidableEq

/-- Nothing in a row. -/
def Row.empty : Row := ⟨0, 0, 0⟩

/-- One more thing at the end. -/
def Row.push (row : Row) (depth : Nat) : Row := ⟨row.count + 1, max row.others row.last, depth⟩

/-- The last thing is put a level down. -/
def Row.deepen (row : Row) : Row := { row with last := row.last + 1 }

/-- The depth of all of it. -/
def Row.depth (row : Row) : Nat :=
  if row.count ≤ 1 then row.last else max row.others row.last + 1

/-- What is known about a class in the middle of it. -/
structure ClassLevel where
  /-- The depth of the sets of members before this one, if there are any. -/
  before : Option Nat
  /-- The members of this set. -/
  members : Row
  deriving Repr, DecidableEq

/-- The depth of all sets of a class. -/
def ClassLevel.depth (level : ClassLevel) : Nat :=
  match level.before with
  | none => level.members.depth
  | some before => max before level.members.depth + 1

/-- One more member of a class. -/
def ClassLevel.push (level : ClassLevel) (depth : Nat) : ClassLevel :=
  { level with members := level.members.push depth }

/-- Another set of members, which is compared with those before. -/
def ClassLevel.compare (level : ClassLevel) : ClassLevel := ⟨some level.depth, .empty⟩

/-- Reads hyphens that stand for themselves. -/
def readHyphens (mode : PatternMode) : (fuel : Nat) → ClassLevel → List Char →
    ClassLevel × List Char
  | 0, level, input => (level, input)
  | fuel + 1, level, input =>
    match input with
    | '-' :: rest => readHyphens mode fuel (level.push 0) (mode.skip rest)
    | _ => (level, input)

/-- Reads what can stand at the start of a class only: a sign for all other
characters, and hyphens or a closing bracket that stand for themselves. -/
def openClass? (mode : PatternMode) (input : List Char) : Option (ClassLevel × List Char) := do
  let input := mode.skip input
  let negated := input.head? == some '^'
  if negated && !mode.wide then none
  let input := if negated then mode.skip (input.drop 1) else input
  let (level, input) := readHyphens mode (input.length + 1) ⟨none, .empty⟩ input
  match level.members.count, input with
  | 0, ']' :: rest => return (level.push 0, rest)
  | _, _ => return (level, input)

/-- Reads a member of a class. -/
def readMember? (mode : PatternMode) (input : List Char) : Option (PatternItem × List Char) := do
  let (item, rest) ← match input with
    | [] => none
    | '\\' :: rest => readPatternEscape? mode rest
    | c :: rest => some (.single c, rest)
  match item with
  | .single c => if mode.wide || c.toNat < 0x80 then return (item, rest) else none
  | .several => return (item, rest)
  | .place => none

/-- Reads a member of a class or a range between two characters. A hyphen before
another one or before the end of the class makes no range. -/
def readClassRange? (mode : PatternMode) (input : List Char) : Option (List Char) := do
  let (first, rest) ← readMember? mode input
  match mode.skip rest with
  | '-' :: rest =>
    let next := mode.next? rest
    if next == some ']' || next == some '-' then return '-' :: rest
    let (last, rest) ← readMember? mode (mode.skip rest)
    match first, last with
    | .single a, .single b => if a.toNat ≤ b.toNat then return rest else none
    | _, _ => none
  | rest => return rest

/-- Reads the rest of a class, `outer` being the classes around it, the innermost
first. What is read is never longer than `fuel`. With it comes the depth of the
class. -/
def readClass? (mode : PatternMode) : (fuel : Nat) → ClassLevel → (outer : List ClassLevel) →
    List Char → Option (Nat × List Char)
  | 0, _, _, _ => none
  | fuel + 1, level, outer, input =>
    match mode.skip input with
    | [] => none
    | ']' :: rest =>
      match outer with
      | [] => some (level.depth + 1, rest)
      | around :: outer => readClass? mode fuel (around.push (level.depth + 1)) outer rest
    | '[' :: rest =>
      match readNamedClass? rest with
      | some (negated, rest) =>
        if negated && !mode.wide then none else readClass? mode fuel (level.push 0) outer rest
      | none =>
        (openClass? mode rest).bind fun (inner, rest) =>
          readClass? mode fuel inner (level :: outer) rest
    | '&' :: '&' :: rest => readClass? mode fuel level.compare outer rest
    | '-' :: '-' :: rest => readClass? mode fuel level.compare outer rest
    | '~' :: '~' :: rest => readClass? mode fuel level.compare outer rest
    | rest => (readClassRange? mode rest).bind (readClass? mode fuel (level.push 0) outer)

/-- What is known about a group in the middle of it. -/
structure PatternGroup where
  /-- How the rest of the group is read. -/
  mode : PatternMode
  /-- The depth of the deepest alternative before this one, if there is any. -/
  before : Option Nat
  /-- The items of this alternative. -/
  items : Row
  /-- The last item can be repeated. -/
  repeatable : Bool
  deriving Repr, DecidableEq

/-- A group before its first item. -/
def PatternGroup.start (mode : PatternMode) : PatternGroup := ⟨mode, none, .empty, false⟩

/-- The depth of what a group holds. -/
def PatternGroup.depth (group : PatternGroup) : Nat :=
  match group.before with
  | none => group.items.depth
  | some before => max before group.items.depth + 1

/-- One more item of a group. -/
def PatternGroup.push (group : PatternGroup) (depth : Nat) : PatternGroup :=
  { group with items := group.items.push depth, repeatable := true }

/-- The next alternative of a group. -/
def PatternGroup.alternate (group : PatternGroup) : PatternGroup :=
  { group with
    before := some (max (group.before.getD 0) group.items.depth)
    items := .empty
    repeatable := false }

/-- What is known about a pattern in the middle of it. -/
structure PatternState where
  /-- The innermost group. -/
  group : PatternGroup
  /-- The groups around it, the innermost first. -/
  outer : List PatternGroup
  /-- The names of groups. -/
  names : List (List Char)
  deriving Repr, DecidableEq

/-- A pattern before its first character. -/
def PatternState.start : PatternState := ⟨.start ⟨false, true⟩, [], []⟩

/-- Goes into a group that is read in a mode of its own. -/
def PatternState.enter (state : PatternState) (mode : PatternMode) : PatternState :=
  { state with group := .start mode, outer := state.group :: state.outer }

/-- One more item of the innermost group. -/
def PatternState.push (state : PatternState) (depth : Nat) : PatternState :=
  { state with group := state.group.push depth }

/-- Changes a mode by its letters. Those after a hyphen turn something off. -/
def PatternMode.change (mode : PatternMode) (letters : List Char) : PatternMode :=
  let on := letters.takeWhile (· != '-')
  let off := letters.dropWhile (· != '-')
  ⟨(mode.spaced || on.contains 'x') && !off.contains 'x',
    (mode.wide || on.contains 'u') && !off.contains 'u'⟩

/-- The letters that change how a pattern is read. -/
def modeLetters : List Char := ['i', 'm', 's', 'U', 'u', 'x', 'R']

/-- Letters that change a mode: no letter twice, and at most one hyphen, which is
not the last. -/
def areModeLetters (letters : List Char) : Bool :=
  letters.all (fun c => c == '-' || modeLetters.contains c) &&
    decide letters.Nodup && letters.getLast? != some '-'

/-- A name of a group. -/
def isGroupName : List Char → Bool
  | [] => false
  | first :: rest =>
    (first == '_' || Text.isLetter first) &&
      rest.all fun c => c == '_' || c == '.' || c == '[' || c == ']' || Text.isLetterOrNumber c

/-- Reads the name of a group, and goes into the group. No name is given twice. -/
def PatternState.enterNamed? (state : PatternState) (input : List Char) :
    Option (PatternState × List Char) :=
  let name := input.takeWhile (· != '>')
  match input.dropWhile (· != '>') with
  | [] => none
  | _ :: rest =>
    if isGroupName name && !state.names.contains name then
      some ({ state.enter state.group.mode with names := name :: state.names }, rest)
    else none

/-- Reads letters that change the mode, of the rest of the group or of a group
that they start. -/
def PatternState.enterChanged? (state : PatternState) (input : List Char) :
    Option (PatternState × List Char) :=
  let isEnd := fun (c : Char) => c == ':' || c == ')'
  let letters := input.takeWhile (!isEnd ·)
  if areModeLetters letters then
    match input.dropWhile (!isEnd ·) with
    | ':' :: rest => some (state.enter (state.group.mode.change letters), rest)
    | _ :: rest =>
      if letters.isEmpty then none
      else
        let group := { state.group.push 0 with
          mode := state.group.mode.change letters, repeatable := false }
        some ({ state with group := group }, rest)
    | [] => none
  else none

/-- Reads what follows an opening parenthesis. -/
def PatternState.enterGroup? (state : PatternState) (input : List Char) :
    Option (PatternState × List Char) :=
  match state.group.mode.skip input with
  | '?' :: 'P' :: '<' :: rest => state.enterNamed? rest
  | '?' :: '<' :: rest => state.enterNamed? rest
  | '?' :: rest => state.enterChanged? rest
  | rest => some (state.enter state.group.mode, rest)

/-- Reads one item of a pattern, given its first character. -/
def PatternState.step? (state : PatternState) (c : Char) (rest : List Char) :
    Option (PatternState × List Char) :=
  let mode := state.group.mode
  match c with
  | '(' => state.enterGroup? rest
  | ')' =>
    match state.outer with
    | [] => none
    | around :: outer =>
      some ({ state with group := around.push (state.group.depth + 1), outer := outer }, rest)
  | '|' => some ({ state with group := state.group.alternate }, rest)
  | '[' =>
    (openClass? mode rest).bind fun (level, rest) =>
      (readClass? mode (rest.length + 1) level [] rest).map fun (depth, rest) =>
        (state.push depth, rest)
  | '{' => none
  | '\\' => (readPatternEscape? mode rest).map fun (_, rest) => (state.push 0, rest)
  | '.' => if mode.wide then some (state.push 0, rest) else none
  | _ =>
    if c == '?' || c == '*' || c == '+' then
      if state.group.repeatable then
        let group := { state.group with items := state.group.items.deepen }
        some ({ state with group := group }, if rest.head? == some '?' then rest.drop 1 else rest)
      else none
    else some (state.push 0, rest)

/-- How deep a pattern may be nested. -/
def maxPatternDepth : Nat := 250

/-- The rest of a pattern is well-formed and has no more items than `fuel`. -/
def PatternState.accepts : (fuel : Nat) → PatternState → List Char → Bool
  | 0, _, _ => false
  | fuel + 1, state, input =>
    match state.group.mode.skip input with
    | [] => state.outer.isEmpty && state.group.depth ≤ maxPatternDepth
    | c :: rest =>
      match state.step? c rest with
      | some (state, rest) => PatternState.accepts fuel state rest
      | none => false

/-- A text is a well-formed pattern. -/
def isPattern (text : List Char) : Bool := PatternState.start.accepts (text.length + 1) text

end ReleasePage.Log
