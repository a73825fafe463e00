import Mathlib
import ReleasePage.Proofs.Json.Passing

/-!
# What decoders make of documents

A decoder gives one result for a document: the same value on every spelling of
it, or a failure on every spelling. For each decoder that result is worked out
as a function of the document. For a record it depends on the members of an
object through the values under each known key only: there must be exactly one,
or none where the field has a default.
-/

namespace ReleasePage.Json

open ReleasePage.Text (Bytes)

/-- On every spelling of the document the decoder comes to the result, a value or a
failure, and leaves what follows. -/
def Gives {α : Type} (decoder : Decoder α) (value : Value) (result : Option α) : Prop :=
  ∀ space text rest, Blank space → Spells value text → Delimited rest →
    (decoder (space ++ (text ++ rest))).toOption = result.map (·, rest)

/-- Failures are forgotten before or after a change of the value. -/
theorem toOption_map {ε α β : Type} (result : Except ε α) (f : α → β) :
    (result.map f).toOption = result.toOption.map f := by
  cases result with
  | error e => rfl
  | ok value => rfl

/-- A reading that comes to a result fails, or it reads the value and leaves what
follows. -/
theorem cases_of_toOption {α : Type} {read : Except Failure (α × Bytes)} {result : Option α}
    {rest : Bytes} (h : read.toOption = result.map (·, rest)) :
    (∃ e, read = .error e ∧ result = none) ∨ ∃ x, read = .ok (x, rest) ∧ result = some x := by
  cases read with
  | error e =>
    cases result with
    | none => exact .inl ⟨e, rfl, rfl⟩
    | some x => cases h
  | ok value =>
    cases result with
    | none => cases h
    | some x =>
      cases h
      exact .inr ⟨x, rfl, rfl⟩

/-- A whole input is decoded to the result, if only white space is around the
document. -/
theorem decode_gives {α : Type} {item : Decoder α} {value : Value} {result : Option α}
    (h : Gives item value result) {before text after : Bytes} (hb : Blank before)
    (ht : Spells value text) (ha : Blank after) :
    (decode item (before ++ (text ++ after))).toOption = result := by
  have hd : Delimited after := by
    rw [← List.append_nil after]
    exact delimited_blank ha delimited_nil
  rw [decode]
  rcases cases_of_toOption (h before text after hb ht hd) with ⟨e, hread, rfl⟩ | ⟨x, hread, rfl⟩
  · rw [hread]
    rfl
  · simp only [hread, skipBlanks_all ha]
    rfl

section Openings

variable {value : Value}

/-- Only the absent value starts with the letter of `null`. -/
theorem Value.Opens.null (h : value.Opens 'n'.toUInt8) : value = .null := by
  rcases value with _ | ⟨_ | _⟩ | n | s | items | members
  case null => rfl
  all_goals exact absurd h (by rw [Value.Opens]; decide)

/-- Only truth values start with their letters. -/
theorem Value.Opens.boolean {b : Bool} (h : value.Opens (if b then 't' else 'f').toUInt8) :
    value = .boolean b := by
  rcases value with _ | ⟨_ | _⟩ | n | s | items | members <;> cases b
  case boolean.false.false | boolean.true.true => rfl
  all_goals exact absurd h (by rw [Value.Opens]; decide)

/-- Only numbers start with a minus sign or a digit. -/
theorem Value.Opens.number {b : UInt8} (h : value.Opens b)
    (hb : b = '-'.toUInt8 ∨ isDigit b = true) : ∃ n, value = .number n := by
  have hne : ∀ c : UInt8, c ≠ '-'.toUInt8 → isDigit c = false → b ≠ c := by
    rintro c hm hc rfl
    rcases hb with hb | hb
    · exact hm hb
    · rw [hc] at hb
      cases hb
  rcases value with _ | ⟨_ | _⟩ | n | s | items | members
  case number => exact ⟨n, rfl⟩
  all_goals exact absurd h (hne _ (by decide) (by decide))

/-- Only texts start with a quote. -/
theorem Value.Opens.text (h : value.Opens '"'.toUInt8) : ∃ s, value = .text s := by
  rcases value with _ | ⟨_ | _⟩ | n | s | items | members
  case text => exact ⟨s, rfl⟩
  all_goals exact absurd h (by rw [Value.Opens]; decide)

/-- Only arrays start with their bracket. -/
theorem Value.Opens.list (h : value.Opens '['.toUInt8) : ∃ items, value = .list items := by
  rcases value with _ | ⟨_ | _⟩ | n | s | items | members
  case list => exact ⟨items, rfl⟩
  all_goals exact absurd h (by rw [Value.Opens]; decide)

/-- Only objects start with their bracket. -/
theorem Value.Opens.object (h : value.Opens '{'.toUInt8) : ∃ members, value = .object members := by
  rcases value with _ | ⟨_ | _⟩ | n | s | items | members
  case object => exact ⟨members, rfl⟩
  all_goals exact absurd h (by rw [Value.Opens]; decide)

end Openings

section Scalars

/-- The text, if the document is one. -/
def Value.text? : Value → Option String
  | .text s => some s
  | _ => none

/-- The truth value, if the document is one. -/
def Value.boolean? : Value → Option Bool
  | .boolean b => some b
  | _ => none

/-- The number, if the document is the literal of an integer up to the limit that
has no sign. -/
def Value.natural? (limit : Nat) : Value → Option Nat
  | .number n => if n = .ofNat n.whole ∧ n.whole ≤ limit then some n.whole else none
  | _ => none

/-- The value that may be `null`. -/
def Value.optional? {α : Type} (meaning : Value → Option α) : Value → Option (Option α)
  | .null => some none
  | value => (meaning value).map some

/-- Only a text is a text. -/
theorem Value.text?_eq_some {value : Value} {s : String} :
    value.text? = some s ↔ value = .text s := by
  cases value with
  | text t => exact ⟨fun h => congrArg Value.text (Option.some.inj h), fun h => by rw [h]; rfl⟩
  | _ => exact ⟨fun h => (by cases h), fun h => (by cases h)⟩

/-- Only a truth value is a truth value. -/
theorem Value.boolean?_eq_some {value : Value} {b : Bool} :
    value.boolean? = some b ↔ value = .boolean b := by
  cases value with
  | boolean c =>
    exact ⟨fun h => congrArg Value.boolean (Option.some.inj h), fun h => by rw [h]; rfl⟩
  | _ => exact ⟨fun h => (by cases h), fun h => (by cases h)⟩

/-- Only the literal of a natural number up to the limit is one. -/
theorem Value.natural?_eq_some {limit k : Nat} {value : Value} :
    value.natural? limit = some k ↔ value = .number (.ofNat k) ∧ k ≤ limit := by
  cases value with
  | number n =>
    rw [Value.natural?]
    constructor
    · intro h
      split at h
      next hn =>
        cases h
        exact ⟨congrArg Value.number hn.1, hn.2⟩
      next => cases h
    · rintro ⟨h, hk⟩
      cases h
      exact if_pos ⟨rfl, hk⟩
  | _ => exact ⟨fun h => (by cases h), fun h => (by cases h.1)⟩

/-- Texts are read from texts and from nothing else. -/
theorem gives_text (value : Value) : Gives text value value.text? := by
  intro space text rest hs ht _
  obtain ⟨b, tail, rfl, hb⟩ := ht.opens
  rw [List.cons_append, Json.text, startValue_blank hs hb.head.1]
  by_cases hq : b = '"'.toUInt8
  · subst hq
    obtain ⟨s, rfl⟩ := hb.text
    cases ht with
    | text h =>
      obtain ⟨tail', he, hread⟩ := h.read
      obtain ⟨-, rfl⟩ := List.cons.inj he
      rw [if_pos rfl, hread]
      rfl
  · rw [if_neg hq]
    cases value with
    | text s => exact absurd hb hq
    | _ => rfl

/-- Truth values are read from truth values and from nothing else. -/
theorem gives_boolean (value : Value) : Gives boolean value value.boolean? := by
  intro space text rest hs ht _
  obtain ⟨b, tail, rfl, hb⟩ := ht.opens
  rw [List.cons_append, Json.boolean, startValue_blank hs hb.head.1]
  by_cases htrue : b = 't'.toUInt8
  · subst htrue
    obtain rfl := Value.Opens.boolean (b := true) hb
    generalize he : 't'.toUInt8 :: tail = text at ht
    cases ht with
    | boolean =>
      have htail : tail = Text.bytes "rue" := (List.cons.inj he).2
      rw [if_pos rfl, htail, readWord_append]
      rfl
  by_cases hfalse : b = 'f'.toUInt8
  · subst hfalse
    obtain rfl := Value.Opens.boolean (b := false) hb
    generalize he : 'f'.toUInt8 :: tail = text at ht
    cases ht with
    | boolean =>
      have htail : tail = Text.bytes "alse" := (List.cons.inj he).2
      rw [if_neg (by decide), if_pos rfl, htail, readWord_append]
      rfl
  rw [if_neg htrue, if_neg hfalse]
  cases value with
  | boolean value =>
    cases value with
    | true => exact absurd hb htrue
    | false => exact absurd hb hfalse
  | _ => rfl

/-- Integers without sign are read from their own literals and from nothing
else. -/
theorem gives_natural {limit : Nat} (hl : limit < Number.words64) (expected : String)
    (value : Value) : Gives (natural limit expected) value (value.natural? limit) := by
  intro space text rest hs ht hr
  obtain ⟨b, tail, he, hb⟩ := ht.opens
  rw [he, List.cons_append, natural, startValue_blank hs hb.head.1]
  by_cases hn : b = '-'.toUInt8 ∨ isDigit b = true
  · have hcond : (decide (b = '-'.toUInt8) || isDigit b) = true := by
      rwa [Bool.or_eq_true, decide_eq_true_eq]
    obtain ⟨n, rfl⟩ := hb.number hn
    cases ht with
    | number =>
      rw [if_pos hcond, ← List.cons_append, ← he, Value.natural?]
      by_cases hv : n = .ofNat n.whole ∧ n.whole ≤ limit
      · have hread := readNumeral_ofNat (hv.2.trans_lt hl) hr
        have hlim : (0 : Int) ≤ n.whole ∧ (n.whole : Int) ≤ limit := by omega
        rw [← hv.1] at hread
        rw [if_pos hv]
        simp only [hread, if_pos hlim, Int.toNat_natCast]
        rfl
      · rw [if_neg hv]
        cases hread : readNumeral (n.bytes ++ rest) with
        | error e => rfl
        | ok read =>
          obtain ⟨numeral, after⟩ := read
          cases numeral with
          | float x => rfl
          | integer m =>
            -- An integer that passes the check comes from its own literal only.
            by_cases hm : 0 ≤ m ∧ m ≤ limit
            · have hself := eq_ofNat_of_readNumeral hr hread hm.1
              have hwhole : n.whole = m.toNat := congrArg Decimal.whole hself
              exact absurd ⟨by rwa [hwhole], by omega⟩ hv
            · simp only [if_neg hm]
              rfl
  · have hcond : ¬(decide (b = '-'.toUInt8) || isDigit b) = true := by
      rwa [Bool.or_eq_true, decide_eq_true_eq]
    rw [if_neg hcond]
    cases value with
    | number n => exact absurd hb hn
    | _ => rfl

/-- The literal `null` is the absent value, and every other document is read as
the value itself. -/
theorem gives_optional {α : Type} {item : Decoder α} {meaning : Value → Option α} {value : Value}
    (h : Gives item value (meaning value)) :
    Gives (optional item) value (value.optional? meaning) := by
  intro space text rest hs ht hr
  have hitem := h [] text rest blank_nil ht hr
  obtain ⟨b, tail, rfl, hb⟩ := ht.opens
  rw [List.cons_append, optional, skipBlanks_blank hs hb.head.1]
  rw [List.nil_append, List.cons_append] at hitem
  by_cases hn : b = 'n'.toUInt8
  · subst hn
    obtain rfl := hb.null
    generalize he : 'n'.toUInt8 :: tail = text at ht
    cases ht with
    | null =>
      have htail : tail = Text.bytes "ull" := (List.cons.inj he).2
      simp only [if_true, htail, readWord_append]
      rfl
  · have hnull : value.optional? meaning = (meaning value).map some := by
      cases value with
      | null => exact absurd hb hn
      | _ => rfl
    simp only [if_neg hn, hnull, toOption_map, hitem, Option.map_map]
    rfl

end Scalars

section Lists

variable {α : Type} {item : Decoder α} {meaning : Value → Option α}

/-- The elements, if the document is an array and all of them can be read. -/
def Value.list? (meaning : Value → Option α) : Value → Option (List α)
  | .list items => items.mapM meaning
  | _ => none

/-- The elements of an array are read one by one. -/
theorem Value.list?_eq_some {items : List Value} {values : List α} :
    (Value.list items).list? meaning = some values ↔
      List.Forall₂ (fun item value => meaning item = some value) items values := by
  change items.mapM meaning = some values ↔ _
  induction items generalizing values with
  | nil =>
    rw [List.mapM_nil, List.forall₂_nil_left_iff]
    exact ⟨fun h => (Option.some.inj h).symm, fun h => h ▸ rfl⟩
  | cons item items ih =>
    rw [List.mapM_cons]
    cases values with
    | nil =>
      constructor
      · intro h
        obtain ⟨x, -, h⟩ := Option.bind_eq_some_iff.mp h
        obtain ⟨xs, -, h⟩ := Option.bind_eq_some_iff.mp h
        cases h
      · intro h
        cases h
    | cons value values =>
      rw [List.forall₂_cons, ← ih]
      constructor
      · intro h
        obtain ⟨x, hx, h⟩ := Option.bind_eq_some_iff.mp h
        obtain ⟨xs, hxs, h⟩ := Option.bind_eq_some_iff.mp h
        cases h
        exact ⟨hx, hxs⟩
      · rintro ⟨hx, hxs⟩
        rw [hx, hxs]
        rfl

/-- The closing bracket shows that there is no further element. -/
theorem nextElement_end (first : Bool) {space : Bytes} (hs : Blank space) (rest : Bytes) :
    nextElement first (space ++ ']'.toUInt8 :: rest) = .ok (false, ']'.toUInt8 :: rest) := by
  rw [nextElement, skipBlanks_blank hs (by decide)]
  rfl

/-- Every element takes bytes. -/
theorem SpellsItems.length_lt {items : List Value} {text : Bytes} (h : SpellsItems items text) :
    items.length < text.length := by
  induction items generalizing text with
  | nil =>
    cases h with
    | nil hs =>
      rw [List.length_append]
      exact Nat.lt_of_lt_of_le Nat.one_pos (Nat.le_add_left 1 _)
  | cons item items ih =>
    cases h with
    | cons hb ha ht hm =>
      have hl := ih hm
      simp only [List.length_append, List.length_cons]
      omega

/-- An element and what comes after it. -/
theorem elementsFrom_item {fuel : Nat} {first : Bool} {read : List α} {value : Value}
    {input text rest : Bytes} (hn : nextElement first input = .ok (true, text ++ rest))
    (hi : Gives item value (meaning value)) (ht : Spells value text) (hr : Delimited rest) :
    (elementsFrom item (fuel + 1) first read input).toOption =
      (meaning value).bind fun x => (elementsFrom item fuel false (x :: read) rest).toOption := by
  rw [elementsFrom, hn]
  rcases cases_of_toOption (hi [] text rest blank_nil ht hr) with ⟨e, hread, hm⟩ | ⟨x, hread, hm⟩
  · rw [List.nil_append] at hread
    simp only [hread, hm]
    rfl
  · rw [List.nil_append] at hread
    simp only [hread, hm]
    rfl

/-- The elements after the first one are read in order, up to the first failure. -/
theorem elementsFrom_items {items : List Value} {text : Bytes} (hm : SpellsItems items text)
    (hi : ∀ value ∈ items, Gives item value (meaning value)) {fuel : Nat}
    (hf : items.length < fuel) (read : List α) (rest : Bytes) :
    (elementsFrom item fuel false read (text ++ rest)).toOption =
      (items.mapM meaning).map fun values => (read.reverse ++ values, rest) := by
  induction items generalizing text fuel read with
  | nil =>
    cases fuel with
    | zero => exact absurd hf (Nat.not_lt_zero _)
    | succ fuel =>
      cases hm with
      | nil hs =>
        rw [List.append_assoc, elementsFrom, List.singleton_append, nextElement_end false hs]
        simp only [List.mapM_nil, List.drop_succ_cons, List.drop_zero]
        exact congrArg (fun values => some (values, rest)) (List.append_nil _).symm
  | cons value items ih =>
    cases fuel with
    | zero => exact absurd hf (Nat.not_lt_zero _)
    | succ fuel =>
      cases hm with
      | @cons _ _ before after text more hb ha ht hm =>
        have hn : nextElement false (before ++ ','.toUInt8 :: (after ++ (text ++ (more ++ rest)))) =
            .ok (true, text ++ (more ++ rest)) := by
          obtain ⟨b, tail, rfl, ho⟩ := ht.opens
          exact nextElement_comma hb ha ho.head.1 ho.head.2 (tail ++ (more ++ rest))
        have hrest := fun x => ih hm (fun value hv => hi value (List.mem_cons_of_mem _ hv))
          (Nat.lt_of_succ_lt_succ hf) (x :: read)
        simp only [List.append_assoc, List.cons_append]
        rw [elementsFrom_item hn (hi value List.mem_cons_self) ht (hm.delimited rest),
          List.mapM_cons]
        cases meaning value with
        | none => rfl
        | some x =>
          simp only [Option.bind_some, hrest]
          cases items.mapM meaning with
          | none => rfl
          | some values => simp [List.reverse_cons]

/-- An array is read if all its elements can be, and nothing else is. -/
theorem gives_list {value : Value}
    (hi : ∀ items, value = .list items → ∀ element ∈ items, Gives item element (meaning element)) :
    Gives (list item) value (value.list? meaning) := by
  intro space text rest hs ht hr
  obtain ⟨b, tail, he, hb⟩ := ht.opens
  by_cases hopen : b = '['.toUInt8
  · subst hopen
    obtain ⟨items, rfl⟩ := hb.list
    cases ht with
    | @emptyList space' hs' =>
      rw [List.cons_append, list, startValue_blank hs (by decide), if_pos rfl, elementsFrom,
        List.append_assoc, List.singleton_append, nextElement_end true hs']
      rfl
    | @list first items space' text' more hs' ht' hm =>
      have hitems := hi _ rfl
      have hl := hm.length_lt
      rw [List.cons_append, list, startValue_blank hs (by decide), if_pos rfl]
      have hn : nextElement true (space' ++ (text' ++ (more ++ rest))) =
          .ok (true, text' ++ (more ++ rest)) := by
        obtain ⟨b, tail, rfl, ho⟩ := ht'.opens
        exact nextElement_head hs' ho.head.1 ho.head.2 (tail ++ (more ++ rest))
      simp only [List.append_assoc]
      rw [elementsFrom_item hn (hitems first List.mem_cons_self) ht' (hm.delimited rest),
        Value.list?, List.mapM_cons]
      cases meaning first with
      | none => rfl
      | some x =>
        have hfuel : items.length < (space' ++ (text' ++ (more ++ rest))).length := by
          simp only [List.length_append]
          omega
        have hrest := elementsFrom_items hm
          (fun value hv => hitems value (List.mem_cons_of_mem _ hv)) hfuel [x] rest
        rw [Option.bind_some, hrest]
        cases items.mapM meaning with
        | none => rfl
        | some values => rfl
  · rw [he, List.cons_append, list, startValue_blank hs hb.head.1, if_neg hopen]
    cases value with
    | list items => exact absurd hb hopen
    | _ => rfl

end Lists

end ReleasePage.Json
