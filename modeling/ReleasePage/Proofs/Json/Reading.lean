import Mathlib
import ReleasePage.Json.Record
import ReleasePage.Proofs.Json.Written

/-!
# Decoders read what is written

A decoder reads a value from a tree if it gives back that value on every written
form of the tree, whatever white space comes first and whatever follows that
cannot be part of the value. One law for each decoder says from which trees it
reads; records and tables follow by running through their members one at a time.
-/

namespace ReleasePage.Json

open ReleasePage.Text (Bytes)

/-- The decoder gives back the value on every written form of the tree, and
leaves what follows. -/
def Reads {α : Type} (decoder : Decoder α) (value : α) (tree : Tree) : Prop :=
  ∀ space text rest, Blank space → Written tree text → Delimited rest →
    decoder (space ++ text ++ rest) = .ok (value, rest)

/-- Leaving out white space stops at the first other byte. -/
theorem skipBlanks_blank {space : Bytes} (hs : Blank space) {b : UInt8}
    (hb : isSpace b = false) (rest : Bytes) : skipBlanks (space ++ b :: rest) = b :: rest := by
  rw [skipBlanks, List.dropWhile_append_of_pos hs, List.dropWhile_cons_of_neg]
  rw [hb]
  decide

/-- Nothing is left of white space. -/
theorem skipBlanks_all {space : Bytes} (hs : Blank space) : skipBlanks space = [] :=
  List.dropWhile_eq_nil_iff.mpr hs

/-- Digits are no white space. -/
theorem isSpace_digit {b : UInt8} (h : isDigit b = true) : isSpace b = false := by
  rw [Bool.eq_false_iff]
  intro hs
  simp only [isSpace, Bool.or_eq_true, beq_iff_eq] at hs
  rcases hs with ((rfl | rfl) | rfl) | rfl <;> exact absurd h (by decide)

/-- The first byte of a written form: it is no white space and closes no array,
and only the absent value starts with the letter of `null`. -/
theorem written_head {tree : Tree} {text : Bytes} (h : Written tree text) :
    ∃ b tail, text = b :: tail ∧ isSpace b = false ∧ b ≠ ']'.toUInt8 ∧
      (tree ≠ .null → b ≠ 'n'.toUInt8) := by
  cases h with
  | null => exact ⟨_, _, rfl, by decide, by decide, fun hn => absurd rfl hn⟩
  | boolean value =>
    cases value with
    | true => exact ⟨_, _, rfl, by decide, by decide, fun _ => by decide⟩
    | false => exact ⟨_, _, rfl, by decide, by decide, fun _ => by decide⟩
  | number value =>
    obtain ⟨b, tail, he, hb, -⟩ := exists_digits_repr value
    exact ⟨b, tail, he, isSpace_digit hb, fun h => absurd (h ▸ hb) (by decide),
      fun _ h => absurd (h ▸ hb) (by decide)⟩
  | text value => exact ⟨_, _, rfl, by decide, by decide, fun _ => by decide⟩
  | emptyList hs => exact ⟨_, _, rfl, by decide, by decide, fun _ => by decide⟩
  | list hs ht hm => exact ⟨_, _, rfl, by decide, by decide, fun _ => by decide⟩
  | emptyObject hs => exact ⟨_, _, rfl, by decide, by decide, fun _ => by decide⟩
  | object key hs hb ha ht hm => exact ⟨_, _, rfl, by decide, by decide, fun _ => by decide⟩

/-- White space is passed over up to a written form. -/
theorem skipBlanks_written {tree : Tree} {space text : Bytes} (hs : Blank space)
    (ht : Written tree text) (rest : Bytes) :
    skipBlanks (space ++ text ++ rest) = text ++ rest := by
  obtain ⟨b, tail, rfl, hb, -, -⟩ := written_head ht
  rw [List.append_assoc, List.cons_append]
  exact skipBlanks_blank hs hb (tail ++ rest)

/-- A value starts where the white space ends. -/
theorem startValue_blank {α : Type} {space : Bytes} (hs : Blank space) {b : UInt8}
    (hb : isSpace b = false) (rest : Bytes) (read : UInt8 → Decoder α) :
    startValue (space ++ b :: rest) read = read b rest := by
  rw [startValue, skipBlanks_blank hs hb]

/-- White space ends a number, in front of anything that does. -/
theorem delimited_blank {space : Bytes} (hs : Blank space) {rest : Bytes}
    (hr : Delimited rest) : Delimited (space ++ rest) := by
  cases space with
  | nil => exact hr
  | cons c space =>
    have hc := hs c List.mem_cons_self
    simp only [isSpace, Bool.or_eq_true, beq_iff_eq] at hc
    rcases hc with ((rfl | rfl) | rfl) | rfl <;> exact delimited_cons (by decide) _

/-- What follows an element ends it. -/
theorem delimited_items {items : List Tree} {text : Bytes} (h : WrittenItems items text)
    (rest : Bytes) : Delimited (text ++ rest) := by
  cases h with
  | nil hs =>
    rw [List.append_assoc]
    exact delimited_blank hs (delimited_cons (by decide) _)
  | cons hb ha ht hm =>
    simp only [List.append_assoc, List.cons_append]
    exact delimited_blank hb (delimited_cons (by decide) _)

/-- What follows a member ends it. -/
theorem delimited_members {members : List (String × Tree)} {text : Bytes}
    (h : WrittenMembers members text) (rest : Bytes) : Delimited (text ++ rest) := by
  cases h with
  | nil hs =>
    rw [List.append_assoc]
    exact delimited_blank hs (delimited_cons (by decide) _)
  | cons key hs hs' hb ha ht hm =>
    simp only [List.append_assoc, List.cons_append]
    exact delimited_blank hs (delimited_cons (by decide) _)

/-- A text is read from its tree. -/
theorem reads_text (value : String) : Reads text value (.text value) := by
  intro space text rest hs ht _
  cases ht with
  | text =>
    obtain ⟨tail, he, hr⟩ := readText_quotedText value rest
    rw [List.append_assoc, he, Json.text, startValue_blank hs (by decide), if_pos rfl]
    exact hr

/-- A number within the limit is read from its tree. -/
theorem reads_natural {limit value : Nat} (hv : value ≤ limit) (hl : limit < Number.words64)
    (expected : String) : Reads (natural limit expected) value (.number value) := by
  intro space text rest hs ht hr
  cases ht with
  | number =>
    obtain ⟨b, tail, he, hb, hn⟩ := readNumeral_repr (hv.trans_lt hl) hr
    have hlim : (0 : Int) ≤ (value : Int) ∧ (value : Int) ≤ limit := by omega
    rw [List.append_assoc, he, natural, startValue_blank hs (isSpace_digit hb)]
    simp only [hb, hn, Bool.or_true, if_true, if_pos hlim, Int.toNat_natCast]

/-- The absent value is read from `null`. -/
theorem reads_optional_none {α : Type} (item : Decoder α) :
    Reads (optional item) none .null := by
  intro space text rest hs ht _
  rw [optional, skipBlanks_written hs ht]
  cases ht with
  | null => rfl

/-- A present value is read from its own tree. -/
theorem reads_optional_some {α : Type} {item : Decoder α} {value : α} {tree : Tree}
    (h : Reads item value tree) (hn : tree ≠ .null) :
    Reads (optional item) (some value) tree := by
  intro space text rest hs ht hr
  have hi := h [] text rest blank_nil ht hr
  rw [optional, skipBlanks_written hs ht]
  obtain ⟨b, tail, rfl, -, -, hb⟩ := written_head ht
  rw [List.nil_append] at hi
  rw [List.cons_append] at hi ⊢
  simp only [if_neg (hb hn), hi]
  rfl

/-- The first byte of an element shows that there is one. -/
theorem nextElement_head {space : Bytes} (hs : Blank space) {b : UInt8} (hb : isSpace b = false)
    (hc : b ≠ ']'.toUInt8) (rest : Bytes) :
    nextElement true (space ++ b :: rest) = .ok (true, b :: rest) := by
  rw [nextElement, skipBlanks_blank hs hb]
  simp only [if_neg hc, if_true]

/-- Behind a comma the first byte of an element shows that there is one more. -/
theorem nextElement_comma {before after : Bytes} (hs : Blank before) (hs' : Blank after)
    {b : UInt8} (hb : isSpace b = false) (hc : b ≠ ']'.toUInt8) (rest : Bytes) :
    nextElement false (before ++ ','.toUInt8 :: (after ++ b :: rest)) = .ok (true, b :: rest) := by
  rw [nextElement, skipBlanks_blank hs (by decide)]
  simp only [skipBlanks_blank hs' hb, if_neg hc, Bool.false_eq_true, if_false, if_true,
    if_neg (by decide : ¬ ','.toUInt8 = ']'.toUInt8)]

/-- The first element of an array is found. -/
theorem nextElement_first {tree : Tree} {space text : Bytes} (hs : Blank space)
    (ht : Written tree text) (rest : Bytes) :
    nextElement true (space ++ text ++ rest) = .ok (true, text ++ rest) := by
  obtain ⟨b, tail, rfl, hb, hc, -⟩ := written_head ht
  rw [List.append_assoc]
  exact nextElement_head hs hb hc (tail ++ rest)

/-- A further element of an array is found behind its comma. -/
theorem nextElement_next {tree : Tree} {before after text : Bytes} (hb : Blank before)
    (ha : Blank after) (ht : Written tree text) (rest : Bytes) :
    nextElement false (before ++ ','.toUInt8 :: after ++ text ++ rest) =
      .ok (true, text ++ rest) := by
  obtain ⟨b, tail, rfl, hs, hc, -⟩ := written_head ht
  simp only [List.append_assoc, List.cons_append]
  exact nextElement_comma hb ha hs hc (tail ++ rest)

/-- The first element of a pair is read. -/
theorem pairElement_first {α : Type} {item : Decoder α} {value : α} {tree : Tree}
    (h : Reads item value tree) {space text rest : Bytes} (hs : Blank space)
    (ht : Written tree text) (hr : Delimited rest) :
    pairElement item 0 (space ++ text ++ rest) = .ok (value, rest) := by
  have hn := nextElement_first hs ht rest
  rw [← beq_self_eq_true 0] at hn
  rw [pairElement, hn]
  exact h [] text rest blank_nil ht hr

/-- The second element of a pair is read. -/
theorem pairElement_second {α : Type} {item : Decoder α} {value : α} {tree : Tree}
    (h : Reads item value tree) {before after text rest : Bytes} (hb : Blank before)
    (ha : Blank after) (ht : Written tree text) (hr : Delimited rest) :
    pairElement item 1 (before ++ ','.toUInt8 :: after ++ text ++ rest) = .ok (value, rest) := by
  have hn : nextElement (1 == 0) (before ++ ','.toUInt8 :: after ++ text ++ rest) =
      .ok (true, text ++ rest) := nextElement_next hb ha ht rest
  rw [pairElement, hn]
  exact h [] text rest blank_nil ht hr

/-- An array whose elements have all been read is closed. -/
theorem closeList_blank {space : Bytes} (hs : Blank space) (rest : Bytes) :
    closeList (space ++ ']'.toUInt8 :: rest) = .ok rest := by
  rw [closeList, skipBlanks_blank hs (by decide)]
  rfl

/-- A pair is read from an array of two elements. -/
theorem reads_pair {α : Type} {item : Decoder α} {first second : α} {left right : Tree}
    (hf : Reads item first left) (hg : Reads item second right) :
    Reads (pair item) (first, second) (.list [left, right]) := by
  intro space text rest hs ht _
  cases ht with
  | list hs' hl hm =>
    cases hm with
    | cons hb ha hr hm =>
      have hd := delimited_items (.cons hb ha hr hm) rest
      have hd' := delimited_items hm rest
      have h0 := pairElement_first hf hs' hl hd
      have h1 := pairElement_second hg hb ha hr hd'
      cases hm with
      | nil hc =>
        have h2 := closeList_blank hc rest
        simp only [List.append_assoc, List.cons_append, List.nil_append] at h0 h1 h2 ⊢
        rw [pair, startValue_blank hs (by decide), if_pos rfl, h0]
        simp only [bind, Except.bind, h1, h2]
        rfl

/-- The key of the first member. -/
theorem nextKey_quote {front text rest : Bytes} (hf : Blank front) {key : String}
    (h : readText text = .ok (key, rest)) :
    nextKey true (front ++ '"'.toUInt8 :: text) = .ok (some key, rest) := by
  rw [nextKey, skipBlanks_blank hf (by decide)]
  simp only [if_neg (by decide : ¬ '"'.toUInt8 = '}'.toUInt8), if_true, h]
  rfl

/-- The key of a member behind a comma. -/
theorem nextKey_comma {space front text rest : Bytes} (hs : Blank space) (hf : Blank front)
    {key : String} (h : readText text = .ok (key, rest)) :
    nextKey false (space ++ ','.toUInt8 :: (front ++ '"'.toUInt8 :: text)) =
      .ok (some key, rest) := by
  rw [nextKey, skipBlanks_blank hs (by decide)]
  simp only [skipBlanks_blank hf (by decide : isSpace '"'.toUInt8 = false),
    if_neg (by decide : ¬ ','.toUInt8 = '}'.toUInt8), Bool.false_eq_true, if_false, if_true, h]
  rfl

/-- The key of the first member of an object is read. -/
theorem nextKey_first {space : Bytes} (hs : Blank space) (key : String) (rest : Bytes) :
    nextKey true (space ++ encoded (quotedText key) ++ rest) = .ok (some key, rest) := by
  obtain ⟨tail, he, hr⟩ := readText_quotedText key rest
  rw [List.append_assoc, he]
  exact nextKey_quote hs hr

/-- The key of a further member is read behind its comma. -/
theorem nextKey_next {space space' : Bytes} (hs : Blank space) (hs' : Blank space')
    (key : String) (rest : Bytes) :
    nextKey false (space ++ ','.toUInt8 :: (space' ++ encoded (quotedText key) ++ rest)) =
      .ok (some key, rest) := by
  obtain ⟨tail, he, hr⟩ := readText_quotedText key rest
  rw [List.append_assoc, he]
  exact nextKey_comma hs hs' hr

/-- The end of an object is found. -/
theorem nextKey_end (first : Bool) {space : Bytes} (hs : Blank space) (rest : Bytes) :
    nextKey first (space ++ '}'.toUInt8 :: rest) = .ok (none, rest) := by
  rw [nextKey, skipBlanks_blank hs (by decide)]
  rfl

/-- The colon of a member is passed. -/
theorem readColon_blank {space : Bytes} (hs : Blank space) (rest : Bytes) :
    readColon (space ++ ':'.toUInt8 :: rest) = .ok rest := by
  rw [readColon, skipBlanks_blank hs (by decide)]
  rfl

/-- A step over a member goes from one state to the next on every written form of
the member's value. -/
def Steps {σ : Type} (step : σ → String → Decoder σ) (state : σ) (key : String) (tree : Tree)
    (next : σ) : Prop :=
  ∀ before after text rest, Blank before → Blank after → Written tree text → Delimited rest →
    step state key (before ++ ':'.toUInt8 :: (after ++ text ++ rest)) = .ok (next, rest)

/-- Steps over members, one after the other. -/
inductive Runs {σ : Type} (step : σ → String → Decoder σ) :
    σ → List (String × Tree) → σ → Prop where
  /-- No members. -/
  | nil (state : σ) : Runs step state [] state
  /-- A member in front of others. -/
  | cons {state next last : σ} {key : String} {tree : Tree} {members : List (String × Tree)}
    (hk : Steps step state key tree next) (hr : Runs step next members last) :
    Runs step state ((key, tree) :: members) last

/-- The members after the first one are read to the end of the object. -/
theorem membersFrom_runs {σ : Type} {step : σ → String → Decoder σ} {state last : σ}
    {members : List (String × Tree)} {text : Bytes} (hr : Runs step state members last)
    (hm : WrittenMembers members text) {fuel : Nat} (hf : members.length < fuel) (rest : Bytes) :
    membersFrom step fuel false state (text ++ rest) = .ok (last, rest) := by
  induction hr generalizing text fuel with
  | nil state =>
    cases fuel with
    | zero => exact absurd hf (Nat.not_lt_zero _)
    | succ fuel =>
      cases hm with
      | nil hs => rw [membersFrom, List.append_assoc, List.singleton_append, nextKey_end false hs]
  | cons hk hr ih =>
    cases fuel with
    | zero => exact absurd hf (Nat.not_lt_zero _)
    | succ fuel =>
      cases hm with
      | cons key hs hs' hb ha ht hm =>
        have hd := delimited_members hm rest
        have hstep := hk _ _ _ _ hb ha ht hd
        have hrest := ih hm (Nat.lt_of_succ_lt_succ hf)
        have hkey := nextKey_next hs hs'
        simp only [List.append_assoc, List.cons_append] at hstep hkey ⊢
        rw [membersFrom, hkey]
        simp only [hstep, hrest]

/-- Every member takes bytes. -/
theorem length_lt_of_writtenMembers {members : List (String × Tree)} {text : Bytes}
    (h : WrittenMembers members text) : members.length < text.length := by
  induction members generalizing text with
  | nil =>
    cases h with
    | nil hs =>
      simp only [List.length_append, List.length_cons, List.length_nil]
      omega
  | cons member members ih =>
    cases h with
    | cons key hs hs' hb ha ht hm =>
      have hl := ih hm
      simp only [List.length_append, List.length_cons]
      omega

/-- An object is read by running through its members. -/
theorem members_runs {σ : Type} {step : σ → String → Decoder σ} {state last : σ}
    {entries : List (String × Tree)} {text : Bytes} (hr : Runs step state entries last)
    (ht : Written (.object entries) text) (rest : Bytes) :
    ∃ tail, text ++ rest = '{'.toUInt8 :: tail ∧ members step state tail = .ok (last, rest) := by
  cases ht with
  | @emptyObject space hs =>
    cases hr
    refine ⟨space ++ '}'.toUInt8 :: rest, ?_, ?_⟩
    · simp only [List.append_assoc, List.cons_append, List.nil_append]
    · rw [members, membersFrom, nextKey_end true hs]
  | @object key value entries space before after text more hs hb ha ht hm =>
    cases hr with
    | cons hk hr =>
      let value := before ++ ':'.toUInt8 :: (after ++ text ++ (more ++ rest))
      let tail := space ++ encoded (quotedText key) ++ value
      have hstep := hk before after text (more ++ rest) hb ha ht (delimited_members hm rest)
      have hkey := nextKey_first hs key value
      have hlen := length_lt_of_writtenMembers hm
      have hfuel : entries.length < tail.length := by
        simp only [tail, value, List.length_append, List.length_cons]
        omega
      refine ⟨tail, ?_, ?_⟩
      · simp only [tail, value, List.append_assoc, List.cons_append]
      · rw [members, membersFrom, hkey]
        simp only [value, hstep]
        exact membersFrom_runs hr hm hfuel rest

/-- A member of a table adds its value. -/
theorem steps_table {α τ : Type} {item : Decoder α} {value : α} {tree : Tree}
    (h : Reads item value tree) (add : τ → String → α → τ) (state : τ) (key : String) :
    Steps (tableStep item add) state key tree (add state key value) := by
  intro before after text rest hb ha ht hr
  rw [tableStep, readColon_blank hb]
  simp only [bind, Except.bind, h after text rest ha ht hr]
  rfl

/-- Running through the members of a table adds them in order. -/
theorem runs_table {α τ : Type} {item : Decoder α} {tree : α → Tree}
    (h : ∀ value, Reads item value (tree value)) (add : τ → String → α → τ)
    (entries : List (String × α)) (start : τ) :
    Runs (tableStep item add) start (entries.map fun entry => (entry.1, tree entry.2))
      (entries.foldl (fun table entry => add table entry.1 entry.2) start) := by
  induction entries generalizing start with
  | nil => exact .nil start
  | cons entry entries ih => exact .cons (steps_table (h entry.2) add start entry.1) (ih _)

/-- A table is read from an object with its entries. -/
theorem reads_table {α τ : Type} {item : Decoder α} {tree : α → Tree}
    (h : ∀ value, Reads item value (tree value)) (expected : String) (add : τ → String → α → τ)
    (entries : List (String × α)) (start : τ) :
    Reads (table expected item start add)
      (entries.foldl (fun table entry => add table entry.1 entry.2) start)
      (.object (entries.map fun entry => (entry.1, tree entry.2))) := by
  intro space text rest hs ht _
  obtain ⟨tail, he, hm⟩ := members_runs (runs_table h add entries start) ht rest
  rw [List.append_assoc, he, table, startValue_blank hs (by decide), if_pos rfl]
  exact hm

/-- The keys of the fields, in order. -/
def Fields.keys : {types : List Type} → Fields types → List String
  | _, .nil => []
  | _, .cons field rest => field.key :: rest.keys

/-- The members give the values of a row, in the order of the fields. -/
def Fields.Reads : {types : List Type} → Fields types → Row types → List (String × Tree) → Prop
  | _, .nil, _, members => members = []
  | _, .cons field rest, (value, row), members =>
    ∃ tree tail, members = (field.key, tree) :: tail ∧ Json.Reads field.decoder value tree ∧
      rest.Reads row tail

/-- A draft with what is known of one more field in front. -/
def Draft.cons {α : Type} {types : List Type} (value? : Option α) (draft : Draft types) :
    Draft (α :: types) := (value?, draft)

/-- The draft in which every field has its value. -/
def Draft.full : {types : List Type} → Row types → Draft types
  | [], _ => ()
  | _ :: _, (value, row) => Draft.cons (some value) (Draft.full row)

/-- A full draft gives its row. -/
theorem Fields.complete_full : {types : List Type} → (fields : Fields types) →
    (row : Row types) → fields.complete (Draft.full row) = .ok row
  | _, .nil, () => rfl
  | _, .cons field rest, (value, row) => by
    have hr := complete_full rest row
    change (rest.complete (Draft.full row)).map (fun row => (value, row)) = .ok (value, row)
    rw [hr]
    rfl

/-- A member with the key of the first field fills that field. -/
theorem Fields.step_cons_self {α : Type} {types : List Type} {field : Field α} {value : α}
    {tree : Tree} (h : Json.Reads field.decoder value tree) (rest : Fields types)
    (draft : Draft types) :
    Steps (Fields.cons field rest).step (Draft.cons none draft) field.key tree
      (Draft.cons (some value) draft) := by
  intro before after text more hb ha ht hr
  simp only [step, member?, if_true, Draft.cons, Option.isSome_none, Bool.false_eq_true, if_false,
    readColon_blank hb, bind, Except.bind, h after text more ha ht hr]
  rfl

/-- A member with another key goes to the fields after the first one. -/
theorem Fields.step_cons_of_ne {α : Type} {types : List Type} {field : Field α} {key : String}
    (h : key ≠ field.key) (rest : Fields types) (value? : Option α) (draft : Draft types)
    (input : Bytes) :
    (Fields.cons field rest).step (Draft.cons value? draft) key input =
      (rest.step draft key input).map fun result => (Draft.cons value? result.1, result.2) := by
  simp only [step, member?, if_neg h]
  cases rest.member? key with
  | none =>
    simp only [Option.map_none, bind, Except.bind]
    cases readColon input with
    | error failure => rfl
    | ok input =>
      simp only
      cases skipValue input with
      | error failure => rfl
      | ok after => rfl
  | some member =>
    simp only [Option.map_some, Draft.cons]
    by_cases hf : member.filled draft = true
    · rw [if_pos hf]
      exact if_pos hf
    · rw [if_neg hf]
      refine (if_neg hf).trans ?_
      cases readColon input with
      | error failure => rfl
      | ok input => rfl

/-- Running through the members fills the draft. The draft may stand inside a
larger state, of which the steps change nothing else. -/
theorem Fields.runs_full {σ : Type} {step : σ → String → Decoder σ} {types : List Type}
    (fields : Fields types) (lift : Draft types → σ)
    (hl : ∀ key ∈ fields.keys, ∀ draft input, step (lift draft) key input =
      (fields.step draft key input).map fun result => (lift result.1, result.2))
    (hk : fields.keys.Nodup) {row : Row types} {members : List (String × Tree)}
    (h : fields.Reads row members) :
    Runs step (lift (Draft.empty types)) members (lift (Draft.full row)) := by
  induction fields generalizing members with
  | nil =>
    subst h
    exact .nil _
  | @cons α types field rest ih =>
    obtain ⟨value, row⟩ := row
    obtain ⟨tree, tail, rfl, hv, hr⟩ := h
    obtain ⟨hne, hk⟩ := List.nodup_cons.mp hk
    have hfirst : Steps step (lift (Draft.cons none (Draft.empty types))) field.key tree
        (lift (Draft.cons (some value) (Draft.empty types))) := by
      intro before after text more hb ha ht hd
      rw [hl field.key List.mem_cons_self,
        step_cons_self hv rest _ before after text more hb ha ht hd]
      rfl
    have hrest := ih (fun draft => lift (Draft.cons (some value) draft)) (by
      intro key hkey draft input
      have hkf : key ≠ field.key := fun he => hne (he ▸ hkey)
      rw [hl key (List.mem_cons_of_mem _ hkey), step_cons_of_ne hkf]
      cases rest.step draft key input with
      | error failure => rfl
      | ok result => rfl) hk hr
    exact .cons hfirst hrest

/-- A record is read from an object that gives its fields in order. -/
theorem reads_record {α : Type} (record : Record α) (hk : record.fields.keys.Nodup)
    {row : Row record.types} {members : List (String × Tree)}
    (h : record.fields.Reads row members) :
    Reads record.decoder (record.build row) (.object members) := by
  intro space text rest hs ht _
  have hl : ∀ key ∈ record.fields.keys, ∀ draft input,
      record.fields.step draft key input =
        (record.fields.step draft key input).map fun result => (result.1, result.2) := by
    intro key _ draft input
    cases record.fields.step draft key input with
    | error failure => rfl
    | ok result => rfl
  have hr := record.fields.runs_full id hl hk h
  obtain ⟨tail, he, hm⟩ := members_runs hr ht rest
  rw [List.append_assoc, he, Record.decoder, startValue_blank hs (by decide),
    if_neg (by decide), if_pos rfl]
  simp only [id] at hm
  simp only [hm, record.fields.complete_full row]

/-- A whole input is read from a written form that only white space follows. -/
theorem decode_written {α : Type} {item : Decoder α} {value : α} {tree : Tree}
    (h : Reads item value tree) {text space : Bytes} (ht : Written tree text)
    (hs : Blank space) : decode item (text ++ space) = .ok value := by
  have hd : Delimited space := by
    rw [← List.append_nil space]
    exact delimited_blank hs delimited_nil
  have hi := h [] text space blank_nil ht hd
  rw [List.nil_append] at hi
  simp only [decode, hi, skipBlanks_all hs]

end ReleasePage.Json
