import Mathlib
import ReleasePage.Proofs.Json.Spelled

/-!
# Spelled documents are passed over

A pass over a value ends right after it, on every spelling of every document: no
depth of nesting, no repeated key and no number is too much for it. Each step of
the pass takes one unit of fuel and at least one byte, so the steps over a
document are no more than its bytes, and the fuel of a pass is enough.
-/

namespace ReleasePage.Json

open ReleasePage.Text (Bytes)

section Texts

/-- The byte stands for itself inside a text. -/
def IsPlain (b : UInt8) : Prop := b ≠ '"'.toUInt8 ∧ b ≠ '\\'.toUInt8 ∧ 32 ≤ b.toNat

/-- The bytes of a character that stands for itself do so, too. -/
theorem isPlain_of_mem {c : Char} (hq : c ≠ '"') (hs : c ≠ '\\') (hc : 32 ≤ c.toNat) {b : UInt8}
    (hb : b ∈ String.utf8EncodeChar c) : IsPlain b := by
  by_cases ha : c.toNat < 128
  · rw [Text.utf8EncodeChar_ascii ha, List.mem_singleton] at hb
    rw [hb]
    refine ⟨byte_ne ha (by decide) hq, byte_ne ha (by decide) hs, ?_⟩
    rwa [Text.Utf8.toNat_byte (by omega)]
  · have hhigh := Text.le_of_mem_utf8EncodeChar (by omega) hb
    refine ⟨?_, ?_, by omega⟩
    · rintro rfl
      exact absurd hhigh (by decide)
    · rintro rfl
      exact absurd hhigh (by decide)

/-- Plain bytes are passed one by one. -/
theorem passText_plain {front : Bytes} (h : ∀ b ∈ front, IsPlain b) (rest : Bytes) :
    passText (front ++ rest) = passText rest := by
  induction front with
  | nil => rfl
  | cons b front ih =>
    obtain ⟨hq, hs, hc⟩ := h b List.mem_cons_self
    rw [List.cons_append, passText, if_neg hq, if_neg hs, if_neg (by omega)]
    exact ih fun d hd => h d (List.mem_cons_of_mem b hd)

/-- An escape is passed to its end. -/
theorem passText_escape {input rest : Bytes} (h : passEscape input = .ok rest) :
    passText ('\\'.toUInt8 :: input) = passText rest := by
  rw [passText, if_neg (by decide), if_pos rfl]
  split
  next e he =>
    rw [h] at he
    cases he
  next after he =>
    rw [h] at he
    cases he
    rfl

/-- A numeric escape is passed, whether or not it is a surrogate. -/
theorem passText_numeric {digits : Bytes} {n : Nat} (h : HexQuad digits n) (rest : Bytes) :
    passText (numericEscape ++ digits ++ rest) = passText rest := by
  have hp : passEscape ('u'.toUInt8 :: (digits ++ rest)) = .ok rest := by
    rw [passEscape, if_pos rfl, h.read]
  exact passText_escape hp

/-- A character is passed in each of its spellings. -/
theorem SpellsChar.passText {c : Char} {front : Bytes} (h : SpellsChar c front) (rest : Bytes) :
    passText (front ++ rest) = Json.passText rest := by
  cases h with
  | plain hq hs hc => exact passText_plain (fun b hb => isPlain_of_mem hq hs hc hb) rest
  | @short letter h =>
    obtain ⟨-, -, hu, hb⟩ := shortEscapes_resolve _ h
    have hu' : letter.toUInt8 ≠ 'u'.toUInt8 := hu
    have hb' : shortEscape? letter.toUInt8 = some (UInt8.ofNat c.toNat) := hb
    have hp : passEscape (letter.toUInt8 :: rest) = .ok rest := by
      rw [passEscape, if_neg hu', hb', Option.isSome_some, if_pos rfl]
    exact passText_escape hp
  | numeric h => exact passText_numeric h rest
  | pair hi hj hc hh hl => rw [List.append_assoc, passText_numeric hh, passText_numeric hl]

/-- Characters are passed in each of their spellings, with the closing quote. -/
theorem SpellsChars.passText {chars : List Char} {body : Bytes} (h : SpellsChars chars body)
    (rest : Bytes) : passText (body ++ '"'.toUInt8 :: rest) = .ok rest := by
  induction h with
  | nil => rw [List.nil_append, Json.passText, if_pos rfl]
  | cons hc h ih => rw [List.append_assoc, hc.passText, ih]

/-- A text is passed in each of its spellings. -/
theorem SpellsText.pass {value : String} {text : Bytes} (h : SpellsText value text) :
    ∃ tail, text = '"'.toUInt8 :: tail ∧ ∀ rest, passText (tail ++ rest) = .ok rest := by
  cases h with
  | @quoted body h =>
    refine ⟨body ++ ['"'.toUInt8], rfl, fun rest => ?_⟩
    rw [List.append_assoc, List.singleton_append, h.passText]

/-- The key of a member is passed with its colon. -/
theorem passKey_spelled {key : String} {front name before : Bytes} (hf : Blank front)
    (hn : SpellsText key name) (hb : Blank before) (rest : Bytes) :
    passKey (front ++ (name ++ (before ++ ':'.toUInt8 :: rest))) = .ok rest := by
  obtain ⟨tail, rfl, hp⟩ := hn.pass
  rw [passKey, List.cons_append, skipBlanks_blank hf (by decide)]
  simp only [if_true, hp, skipBlanks_blank hb (by decide : isSpace ':'.toUInt8 = false)]

end Texts

section Numbers

variable {rest : Bytes}

/-- Digits are dropped up to the first other byte. -/
theorem dropDigits_append {digits : Bytes} (hd : ∀ b ∈ digits, isDigit b = true)
    (hr : DigitsEnd rest) : dropDigits (digits ++ rest) = rest := by
  rw [dropDigits, List.dropWhile_append_of_pos hd]
  cases rest with
  | nil => rfl
  | cons b rest => rw [List.dropWhile_cons_of_neg (by rw [hr b rest rfl]; decide)]

/-- An exponent is passed. -/
theorem Exponent.passExponent (e : Exponent) (hr : DigitsEnd rest) :
    passExponent ((e.bytes ++ rest).drop 1) = .ok rest := by
  have hd := dropDigits_append (isDigit_digits e.others) hr
  have hfirst := isDigit_digitByte e.first
  have hsign : (exponentSign ((e.bytes ++ rest).drop 1)).2 =
      digitByte e.first :: (e.others.map digitByte ++ rest) := by
    rw [Exponent.bytes]
    cases e.minus? with
    | none =>
      have hplus : digitByte e.first ≠ '+'.toUInt8 := fun h => absurd (h ▸ hfirst) (by decide)
      have hminus : digitByte e.first ≠ '-'.toUInt8 := fun h => absurd (h ▸ hfirst) (by decide)
      simp only [List.nil_append, List.map_cons, List.cons_append, List.drop_succ_cons,
        List.drop_zero, exponentSign, if_neg hplus, if_neg hminus]
    | some minus => cases minus <;> rfl
  rw [Json.passExponent, hsign]
  simp only [hfirst, if_true, hd]

/-- An exponent is passed, and where there is none nothing is. -/
theorem Decimal.passScale (n : Decimal) (hr : Delimited rest) :
    passScale (n.exponentBytes ++ rest) = .ok rest := by
  rw [Json.passScale, Decimal.exponentBytes]
  cases n.exponent? with
  | none => rw [List.nil_append, hr.2.2, if_neg (by decide)]
  | some e =>
    obtain ⟨b, tail, he, -, -, ha⟩ := e.letter rest
    have hat : atExponent (e.bytes ++ rest) = true := he ▸ ha
    rw [if_pos hat, e.passExponent hr.1]

/-- What follows the integer part of a number is passed. -/
theorem Decimal.passTail (n : Decimal) (hr : Delimited rest) :
    passTail (n.fractionBytes ++ (n.exponentBytes ++ rest)) = .ok rest := by
  have hscale := n.passScale hr
  rw [Json.passTail, Decimal.fractionBytes]
  cases hf : n.fraction with
  | nil =>
    have hpoint : atPoint (n.exponentBytes ++ rest) = false := by
      rw [Decimal.exponentBytes]
      cases n.exponent? with
      | none => exact hr.2.1
      | some e =>
        obtain ⟨b, tail, he, -, hp, -⟩ := e.letter rest
        exact he ▸ hp
    rw [List.nil_append, hpoint, if_neg (by decide), hscale]
  | cons d digits =>
    have hpoint : atPoint ('.'.toUInt8 :: (d :: digits).map digitByte ++
        (n.exponentBytes ++ rest)) = true := rfl
    have hd := dropDigits_append (isDigit_digits digits) (n.exponentBytes_digitsEnd hr)
    rw [if_pos hpoint]
    simp only [List.map_cons, List.cons_append, List.drop_succ_cons, List.drop_zero,
      isDigit_digitByte, if_true, hd, hscale]

/-- A number without sign is passed. -/
theorem Decimal.passNumeral (n : Decimal) (hr : Delimited rest) :
    passNumeral (n.unsignedBytes ++ rest) = .ok rest := by
  obtain ⟨b, tail, he, hb, htail, hzero⟩ := exists_digits_repr n.whole
  have hend := n.fractionBytes_digitsEnd hr
  have hpass := n.passTail hr
  rw [List.append_assoc] at hend
  rw [Decimal.unsignedBytes, he, List.append_assoc, List.append_assoc, List.cons_append,
    Json.passNumeral.eq_def]
  dsimp only
  by_cases hz : b = '0'.toUInt8
  · rw [if_pos hz, hzero hz, List.nil_append]
    cases hm : n.fractionBytes ++ (n.exponentBytes ++ rest) with
    | nil =>
      have hnil : rest = [] := (List.append_eq_nil_iff.mp (List.append_eq_nil_iff.mp hm).2).2
      rw [hnil]
    | cons d after =>
      rw [hm] at hend hpass
      simp only [hend d after rfl, Bool.false_eq_true, if_false, hpass]
  · rw [if_neg hz, if_pos hb, dropDigits_append htail hend, hpass]

end Numbers

section Steps

/-- The pass goes from one state to the other in a number of steps. -/
def Leads (steps : Nat) (start stop : SkipState) : Prop :=
  ∀ fuel, passFrom (fuel + steps) start = passFrom fuel stop

/-- Steps after steps. -/
theorem Leads.trans {first second : Nat} {start middle stop : SkipState}
    (h : Leads first start middle) (h' : Leads second middle stop) :
    Leads (first + second) start stop := by
  intro fuel
  rw [Nat.add_comm first, ← Nat.add_assoc, h, h']

/-- A step into a value. -/
theorem leads_start {brackets : List Bracket} {input : Bytes} {stop : SkipState}
    (h : passStart brackets input = .ok stop) : Leads 1 (.value, brackets, input) stop := by
  intro fuel
  rw [passFrom.eq_def]
  simp only [h]

/-- A step from a value on. -/
theorem leads_next {innermost : Bracket} {outer : List Bracket} {input : Bytes}
    {stop : SkipState} (h : passNext innermost outer input = .ok stop) :
    Leads 1 (.next, innermost :: outer, input) stop := by
  intro fuel
  rw [passFrom.eq_def]
  simp only [h]

/-- A word is read. -/
theorem readWord_append (word rest : Bytes) : readWord word (word ++ rest) = .ok rest := by
  induction word with
  | nil => rfl
  | cons b word ih => rw [List.cons_append, readWord, if_pos rfl, ih]

variable {space : Bytes} (hs : Blank space) (brackets : List Bracket) (rest : Bytes)

include hs

/-- A word is passed in one step. -/
theorem passStart_word {word : String} (h : word ∈ ["null", "true", "false"]) :
    passStart brackets (space ++ (Text.bytes word ++ rest)) = .ok (.next, brackets, rest) := by
  have hbytes : Text.bytes "null" = 'n'.toUInt8 :: Text.bytes "ull" ∧
      Text.bytes "true" = 't'.toUInt8 :: Text.bytes "rue" ∧
      Text.bytes "false" = 'f'.toUInt8 :: Text.bytes "alse" := by decide
  simp only [List.mem_cons, List.not_mem_nil, or_false] at h
  rcases h with rfl | rfl | rfl
  · rw [hbytes.1, List.cons_append, passStart, skipBlanks_blank hs (by decide)]
    dsimp only
    rw [if_pos rfl, readWord_append]
    rfl
  · rw [hbytes.2.1, List.cons_append, passStart, skipBlanks_blank hs (by decide)]
    dsimp only
    rw [if_neg (by decide), if_pos rfl, readWord_append]
    rfl
  · rw [hbytes.2.2, List.cons_append, passStart, skipBlanks_blank hs (by decide)]
    dsimp only
    rw [if_neg (by decide), if_neg (by decide), if_pos rfl, readWord_append]
    rfl

/-- A number is passed in one step. -/
theorem passStart_number (n : Decimal) (hr : Delimited rest) :
    passStart brackets (space ++ (n.bytes ++ rest)) = .ok (.next, brackets, rest) := by
  have hpass := n.passNumeral hr
  rw [Decimal.bytes]
  cases n.negative with
  | true =>
    rw [if_pos rfl, List.cons_append, passStart, skipBlanks_blank hs (by decide)]
    dsimp only
    rw [if_neg (by decide), if_neg (by decide), if_neg (by decide), if_pos rfl, hpass]
    rfl
  | false =>
    obtain ⟨b, tail, he, hb, -⟩ := exists_digits_repr n.whole
    have hne : ∀ c : UInt8, isDigit c = false → b ≠ c := by
      intro c hc hbc
      rw [hbc, hc] at hb
      cases hb
    rw [if_neg (by decide)]
    rw [Decimal.unsignedBytes, he, List.cons_append, List.cons_append] at hpass ⊢
    rw [passStart, skipBlanks_blank hs (isSpace_digit hb)]
    dsimp only
    rw [if_neg (hne _ (by decide)), if_neg (hne _ (by decide)), if_neg (hne _ (by decide)),
      if_neg (hne _ (by decide)), if_pos hb, hpass]
    rfl

/-- A text is passed in one step. -/
theorem passStart_text {value : String} {text : Bytes} (h : SpellsText value text) :
    passStart brackets (space ++ (text ++ rest)) = .ok (.next, brackets, rest) := by
  obtain ⟨tail, rfl, hp⟩ := h.pass
  rw [List.cons_append, passStart, skipBlanks_blank hs (by decide)]
  dsimp only
  rw [if_neg (by decide), if_neg (by decide), if_neg (by decide), if_neg (by decide),
    if_neg (by decide), if_pos rfl, hp]
  rfl

/-- The opening bracket of an array is passed, and the whole of an empty one. -/
theorem passStart_list (input : Bytes) :
    passStart brackets (space ++ '['.toUInt8 :: input) =
      match skipBlanks input with
      | [] => .error (.at .endInList [])
      | c :: after =>
        if c = ']'.toUInt8 then .ok (.next, brackets, after)
        else .ok (.value, .list :: brackets, c :: after) := by
  rw [passStart, skipBlanks_blank hs (by decide)]
  rfl

/-- The opening bracket of an object is passed with its first key, and the whole
of an empty one. -/
theorem passStart_object (input : Bytes) :
    passStart brackets (space ++ '{'.toUInt8 :: input) =
      match skipBlanks input with
      | [] => .error (.at .endInObject [])
      | c :: after =>
        if c = '}'.toUInt8 then .ok (.next, brackets, after)
        else (passKey (c :: after)).map fun rest => (.value, .object :: brackets, rest) := by
  rw [passStart, skipBlanks_blank hs (by decide)]
  rfl

end Steps

mutual

/-- A document is passed in no more steps than it has bytes. -/
theorem leads_value : (value : Value) → {text : Bytes} → Spells value text →
    ∀ {space rest : Bytes}, Blank space → Delimited rest → ∀ brackets,
      ∃ steps ≤ text.length,
        Leads steps (.value, brackets, space ++ (text ++ rest)) (.next, brackets, rest)
  | .null, _, .null, _, rest, hs, _, brackets =>
    ⟨1, by decide, leads_start (passStart_word hs brackets rest (by decide))⟩
  | .boolean value, _, .boolean _, _, rest, hs, _, brackets => by
    refine ⟨1, ?_, leads_start (passStart_word hs brackets rest ?_)⟩
    · cases value <;> decide
    · cases value <;> decide
  | .number n, _, .number _, _, rest, hs, hr, brackets => by
    obtain ⟨b, tail, he, -⟩ := (Spells.number n).opens
    refine ⟨1, ?_, leads_start (passStart_number hs brackets rest n hr)⟩
    rw [he]
    exact Nat.succ_pos _
  | .text value, _, .text h, _, rest, hs, _, brackets => by
    obtain ⟨tail, he, -⟩ := h.pass
    refine ⟨1, ?_, leads_start (passStart_text hs brackets rest h)⟩
    rw [he]
    exact Nat.succ_pos _
  | .list [], _, .emptyList hs', _, rest, hs, _, brackets => by
    refine ⟨1, Nat.succ_pos _, leads_start ?_⟩
    rw [List.cons_append, List.append_assoc, passStart_list hs, List.singleton_append,
      skipBlanks_blank hs' (by decide)]
    dsimp only
    rw [if_pos rfl]
  | .list (item :: items), _, .list hs' ht hm, _, rest, hs, _, brackets => by
    obtain ⟨b, tail, he, hopens⟩ := ht.opens
    obtain ⟨hb, hclose⟩ := hopens.head
    -- The step over the bracket stops at the first element, so no white space is left.
    obtain ⟨first, hf, hfirst⟩ := leads_value item ht blank_nil (hm.delimited rest)
      (.list :: brackets)
    obtain ⟨more, hl, hmore⟩ := leads_items items hm rest brackets
    refine ⟨1 + (first + more), ?_, .trans (leads_start ?_) (hfirst.trans hmore)⟩
    · simp only [List.length_cons, List.length_append]
      omega
    · rw [List.cons_append, List.append_assoc, List.append_assoc, passStart_list hs, he,
        List.cons_append, skipBlanks_blank hs' hb]
      dsimp only
      rw [if_neg hclose]
      rfl
  | .object [], _, .emptyObject hs', _, rest, hs, _, brackets => by
    refine ⟨1, Nat.succ_pos _, leads_start ?_⟩
    rw [List.cons_append, List.append_assoc, passStart_object hs, List.singleton_append,
      skipBlanks_blank hs' (by decide)]
    dsimp only
    rw [if_pos rfl]
  | .object ((key, value) :: members), _, .object hs' hn hb ha ht hm, _, rest, hs, _, brackets => by
    obtain ⟨first, hf, hfirst⟩ := leads_value value ht ha (hm.delimited rest)
      (.object :: brackets)
    obtain ⟨more, hl, hmore⟩ := leads_members members hm rest brackets
    refine ⟨1 + (first + more), ?_, .trans (leads_start ?_) (hfirst.trans hmore)⟩
    · simp only [List.length_cons, List.length_append]
      omega
    · -- The first byte of the key is looked at twice: by this step and by the key's own pass.
      have hkey := passKey_spelled blank_nil hn hb
      obtain ⟨tail, he, -⟩ := hn.pass
      simp only [List.cons_append, List.append_assoc]
      rw [passStart_object hs, he, List.cons_append, skipBlanks_blank hs' (by decide)]
      dsimp only
      rw [if_neg (by decide)]
      simp only [he, List.nil_append, List.cons_append] at hkey
      rw [hkey]
      rfl

/-- The elements after the first one are passed in no more steps than they have
bytes. -/
theorem leads_items : (items : List Value) → {text : Bytes} → SpellsItems items text →
    ∀ rest outer, ∃ steps ≤ text.length,
      Leads steps (.next, .list :: outer, text ++ rest) (.next, outer, rest)
  | [], _, .nil hs, rest, outer => by
    refine ⟨1, ?_, leads_next ?_⟩
    · rw [List.length_append]
      exact Nat.le_add_left 1 _
    · rw [passNext.eq_def, List.append_assoc, List.singleton_append,
        skipBlanks_blank hs (by decide)]
      dsimp only
      rw [if_neg (by decide), if_pos rfl]
  | item :: items, _, .cons hb ha ht hm, rest, outer => by
    obtain ⟨first, hf, hfirst⟩ := leads_value item ht ha (hm.delimited rest) (.list :: outer)
    obtain ⟨more, hl, hmore⟩ := leads_items items hm rest outer
    refine ⟨1 + (first + more), ?_, .trans (leads_next ?_) (hfirst.trans hmore)⟩
    · simp only [List.length_cons, List.length_append]
      omega
    · simp only [List.cons_append, List.append_assoc]
      rw [passNext.eq_def, skipBlanks_blank hb (by decide)]
      dsimp only
      rw [if_pos rfl]

/-- The members after the first one are passed in no more steps than they have
bytes. -/
theorem leads_members : (members : List (String × Value)) → {text : Bytes} →
    SpellsMembers members text → ∀ rest outer, ∃ steps ≤ text.length,
      Leads steps (.next, .object :: outer, text ++ rest) (.next, outer, rest)
  | [], _, .nil hs, rest, outer => by
    refine ⟨1, ?_, leads_next ?_⟩
    · rw [List.length_append]
      exact Nat.le_add_left 1 _
    · rw [passNext.eq_def, List.append_assoc, List.singleton_append,
        skipBlanks_blank hs (by decide)]
      dsimp only
      rw [if_neg (by decide), if_pos rfl]
  | (key, value) :: members, _, .cons hs hf hn hb ha ht hm, rest, outer => by
    obtain ⟨first, hf', hfirst⟩ := leads_value value ht ha (hm.delimited rest) (.object :: outer)
    obtain ⟨more, hl, hmore⟩ := leads_members members hm rest outer
    refine ⟨1 + (first + more), ?_, .trans (leads_next ?_) (hfirst.trans hmore)⟩
    · simp only [List.length_cons, List.length_append]
      omega
    · simp only [List.cons_append, List.append_assoc]
      rw [passNext.eq_def, skipBlanks_blank hs (by decide)]
      dsimp only
      rw [if_pos rfl, passKey_spelled hf hn hb]
      rfl

end

/-- A document of any kind is skipped, and what follows it is left. -/
theorem skipValue_spelled {value : Value} {space text rest : Bytes} (hs : Blank space)
    (ht : Spells value text) (hr : Delimited rest) :
    skipValue (space ++ (text ++ rest)) = .ok rest := by
  obtain ⟨steps, hsteps, hlead⟩ := leads_value value ht hs hr []
  -- The fuel that is left over after the last step does not matter.
  have hlen : (space ++ (text ++ rest)).length + 1 =
      (space ++ (text ++ rest)).length + 1 - steps + steps := by
    simp only [List.length_append]
    omega
  rw [skipValue, hlen, hlead, passFrom.eq_def]

end ReleasePage.Json
