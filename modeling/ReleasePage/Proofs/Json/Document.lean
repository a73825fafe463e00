import Mathlib
import ReleasePage.Proofs.Json.Reading

/-!
# Documents and their spellings

The grammar of JSON texts, apart from any reader. A document is a value with all
that its text says beyond white space and escapes: numbers keep their form, and
objects keep their members in order, repeated keys included. One document has
many spellings. They differ in white space and in how the characters of texts
are written: every character can be escaped by its number, in digits of either
case, and beyond `U+FFFF` as a pair of surrogates.

What is written of a tree is a spelling of the document with the same content.
-/

namespace ReleasePage.Json

open ReleasePage.Text (Bytes)

/-- An exponent as it is written. -/
structure Exponent where
  /-- Its letter is a capital. -/
  capital : Bool
  /-- Its sign, if there is one: whether it is a minus. -/
  minus? : Option Bool
  /-- The first digit. -/
  first : Fin 10
  /-- The other digits. -/
  others : List (Fin 10)
  deriving Repr, DecidableEq

/-- A number as it is written. -/
structure Decimal where
  /-- A minus sign stands in front. -/
  negative : Bool
  /-- The integer part, which has no zeros in front. -/
  whole : Nat
  /-- The digits after the point; without a point there are none. -/
  fraction : List (Fin 10)
  /-- The exponent, if there is one. -/
  exponent? : Option Exponent
  deriving Repr, DecidableEq

/-- A JSON document. -/
inductive Value where
  /-- The literal `null`. -/
  | null
  /-- A truth value. -/
  | boolean (value : Bool)
  /-- A number. -/
  | number (value : Decimal)
  /-- A text. -/
  | text (value : String)
  /-- An array. -/
  | list (items : List Value)
  /-- An object, its members in order. -/
  | object (members : List (String × Value))

/-- The byte of a decimal digit. -/
def digitByte (d : Fin 10) : UInt8 := UInt8.ofNat (48 + d.val)

/-- The bytes of an exponent. -/
def Exponent.bytes (e : Exponent) : Bytes :=
  let sign : Bytes :=
    match e.minus? with
    | none => []
    | some false => ['+'.toUInt8]
    | some true => ['-'.toUInt8]
  (if e.capital then 'E' else 'e').toUInt8 :: (sign ++ (e.first :: e.others).map digitByte)

namespace Decimal

/-- The bytes of the point and the digits after it. -/
def fractionBytes (n : Decimal) : Bytes :=
  match n.fraction with
  | [] => []
  | digits => '.'.toUInt8 :: digits.map digitByte

/-- The bytes of the exponent. -/
def exponentBytes (n : Decimal) : Bytes :=
  match n.exponent? with
  | none => []
  | some e => e.bytes

/-- The bytes of a number after its sign. -/
def unsignedBytes (n : Decimal) : Bytes :=
  encoded (Nat.repr n.whole).toList ++ (n.fractionBytes ++ n.exponentBytes)

/-- The bytes of a number. -/
def bytes (n : Decimal) : Bytes :=
  if n.negative then '-'.toUInt8 :: n.unsignedBytes else n.unsignedBytes

/-- The value of an integer literal, which is a number without fraction and
exponent. -/
def integer? (n : Decimal) : Option Int :=
  if n.fraction = [] ∧ n.exponent? = none then
    some (if n.negative then -(n.whole : Int) else n.whole)
  else none

/-- The literal of a natural number. -/
def ofNat (n : Nat) : Decimal := ⟨false, n, [], none⟩

/-- The literal of a natural number is its digits. -/
theorem bytes_ofNat (n : Nat) : (ofNat n).bytes = encoded (Nat.repr n).toList := by
  simp only [ofNat, bytes, unsignedBytes, fractionBytes, exponentBytes, Bool.false_eq_true,
    if_false, List.append_nil]

/-- The literal of a natural number is the only one for it without a sign. -/
theorem eq_ofNat_iff {n : Decimal} {k : Nat} :
    n = .ofNat k ↔ n.integer? = some (k : Int) ∧ n.negative = false := by
  obtain ⟨negative, whole, fraction, exponent?⟩ := n
  constructor
  · intro h
    cases h
    exact ⟨rfl, rfl⟩
  · rintro ⟨h, hn⟩
    cases hn
    rw [integer?] at h
    split at h
    next hplain =>
      obtain ⟨rfl, rfl⟩ := hplain
      have hk : (whole : Int) = k := Option.some.inj h
      rw [Int.ofNat.inj hk]
      rfl
    next => cases h

end Decimal

/-- The byte is the hexadecimal digit of the number, in either case. -/
def HexDigit (b : UInt8) (n : Nat) : Prop :=
  (n < 10 ∧ b.toNat = 48 + n) ∨ (10 ≤ n ∧ n < 16 ∧ (b.toNat = 55 + n ∨ b.toNat = 87 + n))

/-- The bytes are the four hexadecimal digits of the number. -/
inductive HexQuad : Bytes → Nat → Prop where
  /-- Four digits, the highest first. -/
  | mk {a b c d : UInt8} {i j k l : Nat} (ha : HexDigit a i) (hb : HexDigit b j)
    (hc : HexDigit c k) (hd : HexDigit d l) :
    HexQuad [a, b, c, d] (i * 4096 + j * 256 + k * 16 + l)

/-- The bytes in front of the digits of a numeric escape. -/
def numericEscape : Bytes := ['\\'.toUInt8, 'u'.toUInt8]

/-- The bytes spell the character inside a text. -/
inductive SpellsChar : Char → Bytes → Prop where
  /-- The character itself, unless it would end the text or start an escape or is
  a control character. -/
  | plain {c : Char} (hq : c ≠ '"') (hs : c ≠ '\\') (hc : 32 ≤ c.toNat) :
    SpellsChar c (String.utf8EncodeChar c)
  /-- A short escape. -/
  | short {c letter : Char} (h : (c.toNat, letter) ∈ shortEscapes) :
    SpellsChar c ['\\'.toUInt8, letter.toUInt8]
  /-- The number of the character. -/
  | numeric {c : Char} {digits : Bytes} (h : HexQuad digits c.toNat) :
    SpellsChar c (numericEscape ++ digits)
  /-- The two surrogates of the character. -/
  | pair {c : Char} {high low : Bytes} {i j : Nat} (hi : i < 1024) (hj : j < 1024)
    (hc : c.toNat = 0x10000 + i * 1024 + j) (hh : HexQuad high (0xD800 + i))
    (hl : HexQuad low (0xDC00 + j)) :
    SpellsChar c (numericEscape ++ high ++ (numericEscape ++ low))

/-- The bytes spell the characters, one after the other. -/
inductive SpellsChars : List Char → Bytes → Prop where
  /-- No characters. -/
  | nil : SpellsChars [] []
  /-- A character in front of others. -/
  | cons {c : Char} {chars : List Char} {front more : Bytes} (hc : SpellsChar c front)
    (h : SpellsChars chars more) : SpellsChars (c :: chars) (front ++ more)

/-- The bytes spell the text, quotes included. -/
inductive SpellsText : String → Bytes → Prop where
  /-- Quotes around the characters. -/
  | quoted {text : String} {body : Bytes} (h : SpellsChars text.toList body) :
    SpellsText text ('"'.toUInt8 :: (body ++ ['"'.toUInt8]))

mutual

/-- The bytes spell the document. -/
inductive Spells : Value → Bytes → Prop where
  /-- The word for the absent value. -/
  | null : Spells .null (Text.bytes "null")
  /-- The word of a truth value. -/
  | boolean (value : Bool) :
    Spells (.boolean value) (Text.bytes (if value then "true" else "false"))
  /-- The digits, signs and letters of a number. -/
  | number (value : Decimal) : Spells (.number value) value.bytes
  /-- A text between quotes. -/
  | text {value : String} {text : Bytes} (h : SpellsText value text) : Spells (.text value) text
  /-- An array without elements. -/
  | emptyList {space : Bytes} (hs : Blank space) :
    Spells (.list []) ('['.toUInt8 :: (space ++ [']'.toUInt8]))
  /-- An array with a first element. -/
  | list {item : Value} {items : List Value} {space text more : Bytes} (hs : Blank space)
    (ht : Spells item text) (hm : SpellsItems items more) :
    Spells (.list (item :: items)) ('['.toUInt8 :: (space ++ (text ++ more)))
  /-- An object without members. -/
  | emptyObject {space : Bytes} (hs : Blank space) :
    Spells (.object []) ('{'.toUInt8 :: (space ++ ['}'.toUInt8]))
  /-- An object with a first member. -/
  | object {key : String} {value : Value} {members : List (String × Value)}
    {space name before after text more : Bytes} (hs : Blank space) (hn : SpellsText key name)
    (hb : Blank before) (ha : Blank after) (ht : Spells value text)
    (hm : SpellsMembers members more) :
    Spells (.object ((key, value) :: members))
      ('{'.toUInt8 :: (space ++ (name ++ (before ++ ':'.toUInt8 :: (after ++ (text ++ more))))))

/-- The bytes spell the elements after the first one, with the closing bracket. -/
inductive SpellsItems : List Value → Bytes → Prop where
  /-- The closing bracket. -/
  | nil {space : Bytes} (hs : Blank space) : SpellsItems [] (space ++ [']'.toUInt8])
  /-- A comma and one more element. -/
  | cons {item : Value} {items : List Value} {before after text more : Bytes}
    (hb : Blank before) (ha : Blank after) (ht : Spells item text) (hm : SpellsItems items more) :
    SpellsItems (item :: items) (before ++ ','.toUInt8 :: (after ++ (text ++ more)))

/-- The bytes spell the members after the first one, with the closing bracket. -/
inductive SpellsMembers : List (String × Value) → Bytes → Prop where
  /-- The closing bracket. -/
  | nil {space : Bytes} (hs : Blank space) : SpellsMembers [] (space ++ ['}'.toUInt8])
  /-- A comma and one more member. -/
  | cons {key : String} {value : Value} {members : List (String × Value)}
    {space front name before after text more : Bytes} (hs : Blank space) (hf : Blank front)
    (hn : SpellsText key name) (hb : Blank before) (ha : Blank after) (ht : Spells value text)
    (hm : SpellsMembers members more) :
    SpellsMembers ((key, value) :: members)
      (space ++ ','.toUInt8 ::
        (front ++ (name ++ (before ++ ':'.toUInt8 :: (after ++ (text ++ more))))))

end

/-- The byte can be the first one of the value. -/
def Value.Opens : Value → UInt8 → Prop
  | .null, b => b = 'n'.toUInt8
  | .boolean true, b => b = 't'.toUInt8
  | .boolean false, b => b = 'f'.toUInt8
  | .number _, b => b = '-'.toUInt8 ∨ isDigit b = true
  | .text _, b => b = '"'.toUInt8
  | .list _, b => b = '['.toUInt8
  | .object _, b => b = '{'.toUInt8

/-- Every spelling starts with a byte that its kind of value starts with. -/
theorem Spells.opens {value : Value} {text : Bytes} (h : Spells value text) :
    ∃ b tail, text = b :: tail ∧ value.Opens b := by
  cases h with
  | null => exact ⟨_, _, rfl, rfl⟩
  | boolean value => cases value <;> exact ⟨_, _, rfl, rfl⟩
  | number n =>
    obtain ⟨b, tail, he, hb, -⟩ := exists_digits_repr n.whole
    cases hn : n.negative with
    | true => exact ⟨'-'.toUInt8, n.unsignedBytes, by rw [Decimal.bytes, hn, if_pos rfl], .inl rfl⟩
    | false =>
      refine ⟨b, tail ++ (n.fractionBytes ++ n.exponentBytes), ?_, .inr hb⟩
      rw [Decimal.bytes, hn, if_neg (by decide), Decimal.unsignedBytes, he, List.cons_append]
  | text h =>
    cases h with
    | quoted h => exact ⟨_, _, rfl, rfl⟩
  | emptyList hs => exact ⟨_, _, rfl, rfl⟩
  | list hs ht hm => exact ⟨_, _, rfl, rfl⟩
  | emptyObject hs => exact ⟨_, _, rfl, rfl⟩
  | object hs hn hb ha ht hm => exact ⟨_, _, rfl, rfl⟩

/-- No value starts with white space or with the bracket that ends an array. -/
theorem Value.Opens.head {value : Value} {b : UInt8} (h : value.Opens b) :
    isSpace b = false ∧ b ≠ ']'.toUInt8 := by
  cases value with
  | null => exact h ▸ by decide
  | boolean value => cases value <;> exact h ▸ by decide
  | number n =>
    rcases h with rfl | h
    · decide
    · exact ⟨isSpace_digit h, fun hb => absurd (hb ▸ h) (by decide)⟩
  | text s => exact h ▸ by decide
  | list items => exact h ▸ by decide
  | object members => exact h ▸ by decide

/-- What follows an element ends it. -/
theorem SpellsItems.delimited {items : List Value} {text : Bytes} (h : SpellsItems items text)
    (rest : Bytes) : Delimited (text ++ rest) := by
  cases h with
  | nil hs =>
    rw [List.append_assoc]
    exact delimited_blank hs (delimited_cons (by decide) _)
  | cons hb ha ht hm =>
    rw [List.append_assoc]
    exact delimited_blank hb (delimited_cons (by decide) _)

/-- What follows a member ends it. -/
theorem SpellsMembers.delimited {members : List (String × Value)} {text : Bytes}
    (h : SpellsMembers members text) (rest : Bytes) : Delimited (text ++ rest) := by
  cases h with
  | nil hs =>
    rw [List.append_assoc]
    exact delimited_blank hs (delimited_cons (by decide) _)
  | cons hs hf hn hb ha ht hm =>
    rw [List.append_assoc]
    exact delimited_blank hs (delimited_cons (by decide) _)

section Written

mutual

/-- The document with the content of a tree. -/
def Tree.value : Tree → Value
  | .null => .null
  | .boolean value => .boolean value
  | .number value => .number (.ofNat value)
  | .text value => .text value
  | .list items => .list (Tree.values items)
  | .object members => .object (Tree.entries members)

/-- The documents with the contents of trees. -/
def Tree.values : List Tree → List Value
  | [] => []
  | item :: items => item.value :: Tree.values items

/-- The members with the contents of trees. -/
def Tree.entries : List (String × Tree) → List (String × Value)
  | [] => []
  | (key, value) :: members => (key, value.value) :: Tree.entries members

end

/-- Trees become documents one by one. -/
theorem Tree.values_eq_map (items : List Tree) : Tree.values items = items.map Tree.value := by
  induction items with
  | nil => rfl
  | cons item items ih => rw [Tree.values, ih, List.map_cons]

/-- The digits of small numbers in hexadecimal. -/
theorem digitChar_hex : ∀ n < 16, (Nat.digitChar n).toNat < 128 ∧
    ((n < 10 ∧ (Nat.digitChar n).toNat = 48 + n) ∨
      (10 ≤ n ∧ (Nat.digitChar n).toNat = 87 + n)) := by
  decide

/-- A hexadecimal digit as it is written is one. -/
theorem hexDigit_digitChar {n : Nat} (h : n < 16) : HexDigit (Nat.digitChar n).toUInt8 n := by
  obtain ⟨ha, hd⟩ := digitChar_hex n h
  have hlt : (Nat.digitChar n).toNat < 256 := by omega
  have hb : (Nat.digitChar n).toUInt8.toNat = (Nat.digitChar n).toNat := Text.Utf8.toNat_byte hlt
  rw [HexDigit, hb]
  omega

/-- Control characters are written with four hexadecimal digits. -/
theorem control_digits : ∀ n < 32,
    (if n < 16 then ['\\', 'u', '0', '0', '0'] ++ Text.hexDigits n
      else ['\\', 'u', '0', '0'] ++ Text.hexDigits n) =
    ['\\', 'u', '0', '0', Nat.digitChar (n / 16), Nat.digitChar (n % 16)] := by
  decide

/-- A control character is spelled by its numeric escape. -/
theorem spellsChar_control {c : Char} (h : c.toNat < 32) :
    SpellsChar c (encoded (if c.toNat < 16 then ['\\', 'u', '0', '0', '0'] ++ Text.hexDigits c.toNat
      else ['\\', 'u', '0', '0'] ++ Text.hexDigits c.toNat)) := by
  have hzero : HexDigit '0'.toUInt8 0 := hexDigit_digitChar (n := 0) (by decide)
  have hd := hexDigit_digitChar (n := c.toNat / 16) (by omega)
  have hd' := hexDigit_digitChar (n := c.toNat % 16) (by omega)
  have hq := HexQuad.mk hzero hzero hd hd'
  rw [show 0 * 4096 + 0 * 256 + c.toNat / 16 * 16 + c.toNat % 16 = c.toNat by omega] at hq
  rw [control_digits _ h, encoded_ascii_cons (by decide), encoded_ascii_cons (by decide),
    encoded_ascii_cons (by decide), encoded_ascii_cons (by decide),
    encoded_ascii_cons (digitChar_hex (c.toNat / 16) (by omega)).1,
    encoded_ascii_cons (digitChar_hex (c.toNat % 16) (by omega)).1]
  exact .numeric hq

/-- A character is spelled by how it is written inside a text. -/
theorem spellsChar_escapedChar (c : Char) : SpellsChar c (encoded (escapedChar c)) := by
  have hshort : ∀ {n : Nat} {letter : Char}, c.toNat = n → (n, letter) ∈ shortEscapes →
      SpellsChar c (encoded ['\\', letter]) := by
    intro n letter hn hm
    obtain ⟨-, ha, -⟩ := shortEscapes_resolve _ hm
    rw [encoded_ascii_cons (by decide), encoded_ascii_cons ha]
    exact .short (hn ▸ hm)
  have hcontrol := spellsChar_control (c := c)
  unfold escapedChar
  split
  next h => exact hshort (congrArg Char.toNat h) (by decide)
  split
  next h => exact hshort (congrArg Char.toNat h) (by decide)
  split
  next h => exact hshort h (by decide)
  split
  next h => exact hshort h (by decide)
  split
  next h => exact hshort h (by decide)
  split
  next h => exact hshort h (by decide)
  split
  next h => exact hshort h (by decide)
  split
  next h =>
    rw [if_pos h] at hcontrol
    exact hcontrol (by omega)
  split
  next hlow h =>
    rw [if_neg hlow] at hcontrol
    exact hcontrol h
  next hq hs _ _ _ _ _ _ h =>
    rw [encoded_cons, encoded, List.flatMap_nil, List.append_nil]
    exact .plain hq hs (by omega)

/-- A text is spelled by how it is written. -/
theorem spellsText_quotedText (value : String) : SpellsText value (encoded (quotedText value)) := by
  have hbody : ∀ chars : List Char, SpellsChars chars (encoded (chars.flatMap escapedChar)) := by
    intro chars
    induction chars with
    | nil => exact .nil
    | cons c chars ih =>
      rw [List.flatMap_cons, encoded_append]
      exact .cons (spellsChar_escapedChar c) ih
  rw [quotedText, encoded_append, encoded_ascii_cons (by decide)]
  exact .quoted (hbody value.toList)

mutual

/-- What is written of a tree spells its content. -/
theorem spells_of_written : (tree : Tree) → {text : Bytes} → Written tree text →
    Spells tree.value text
  | .null, _, .null => .null
  | .boolean value, _, .boolean _ => by
    cases value with
    | true => exact .boolean true
    | false => exact .boolean false
  | .number n, _, .number _ => by
    have h := Spells.number (.ofNat n)
    rwa [Decimal.bytes_ofNat] at h
  | .text value, _, .text _ => .text (spellsText_quotedText value)
  | .list [], _, .emptyList hs => .emptyList hs
  | .list (item :: items), _, .list hs ht hm => by
    have h := Spells.list hs (spells_of_written item ht) (spellsItems_of_written items hm)
    simpa only [Tree.value, Tree.values, List.append_assoc, List.cons_append] using h
  | .object [], _, .emptyObject hs => .emptyObject hs
  | .object ((key, value) :: members), _, .object _ hs hb ha ht hm => by
    have h := Spells.object hs (spellsText_quotedText key) hb ha (spells_of_written value ht)
      (spellsMembers_of_written members hm)
    simpa only [Tree.value, Tree.entries, List.append_assoc, List.cons_append] using h

/-- What is written of the elements after the first one spells their contents. -/
theorem spellsItems_of_written : (items : List Tree) → {text : Bytes} →
    WrittenItems items text → SpellsItems (Tree.values items) text
  | [], _, .nil hs => .nil hs
  | item :: items, _, .cons hb ha ht hm => by
    have h := SpellsItems.cons hb ha (spells_of_written item ht) (spellsItems_of_written items hm)
    simpa only [Tree.values, List.append_assoc, List.cons_append] using h

/-- What is written of the members after the first one spells their contents. -/
theorem spellsMembers_of_written : (members : List (String × Tree)) → {text : Bytes} →
    WrittenMembers members text → SpellsMembers (Tree.entries members) text
  | [], _, .nil hs => .nil hs
  | (key, value) :: members, _, .cons _ hs hf hb ha ht hm => by
    have h := SpellsMembers.cons hs hf (spellsText_quotedText key) hb ha
      (spells_of_written value ht) (spellsMembers_of_written members hm)
    simpa only [Tree.entries, List.append_assoc, List.cons_append] using h

end

end Written

end ReleasePage.Json
