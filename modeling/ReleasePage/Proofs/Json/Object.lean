import Mathlib
import ReleasePage.Proofs.Json.Closed

/-!
# Objects as lists of members

The texts that a table is read from are exactly the objects, members between commas,
each of them a quoted key, a colon and a text that alone is read as the value. What is
read of an object is gathered from its members in the order they are written, and
each member can stand at any other place as well.
-/

namespace ReleasePage.Json

open ReleasePage.Text (Bytes)

/-- A member of an object as it is written, white space around it included. -/
structure MemberText {α : Type} (item : Decoder α) where
  /-- The key. -/
  key : String
  /-- The value. -/
  value : α
  /-- White space in front of the key. -/
  front : Bytes
  /-- The key as it is written after its opening quote. -/
  quoted : Bytes
  /-- White space in front of the colon. -/
  gap : Bytes
  /-- The text of the value, after the colon. -/
  body : Bytes
  /-- White space behind the value. -/
  back : Bytes
  /-- White space comes before the key. -/
  blank_front : Blank front
  /-- The key is read to its end. -/
  reads_key : readText quoted = .ok (key, [])
  /-- White space comes before the colon. -/
  blank_gap : Blank gap
  /-- The value is read to its end. -/
  reads_value : item body = .ok (value, [])
  /-- White space comes behind the value. -/
  blank_back : Blank back

namespace MemberText

variable {α : Type} {item : Decoder α}

/-- The key and the value of a member. -/
def entry (member : MemberText item) : String × α := (member.key, member.value)

/-- A member after its opening quote. -/
def tail (member : MemberText item) : Bytes :=
  member.quoted ++ (member.gap ++ ':'.toUInt8 :: (member.body ++ member.back))

/-- The bytes of a member. -/
def bytes (member : MemberText item) : Bytes := member.front ++ '"'.toUInt8 :: member.tail

end MemberText

/-- The bytes are an object with the given members, in order. -/
inductive ObjectText {α : Type} (item : Decoder α) : List (MemberText item) → Bytes → Prop where
  /-- Brackets around white space. -/
  | empty {space : Bytes} (hs : Blank space) :
    ObjectText item [] ('{'.toUInt8 :: (space ++ ['}'.toUInt8]))
  /-- Brackets around members with commas between them. -/
  | members (first : MemberText item) (others : List (MemberText item)) :
    ObjectText item (first :: others)
      ('{'.toUInt8 :: ([','.toUInt8].intercalate ((first :: others).map MemberText.bytes) ++
        ['}'.toUInt8]))

section

variable {α τ : Type} {item : Decoder α} {add : τ → String → α → τ}

/-- Members with a comma in front of each. -/
def furtherMembers (members : List (MemberText item)) : Bytes :=
  members.flatMap fun member => ','.toUInt8 :: member.bytes

/-- Commas between members stand in front of all members but the first. -/
theorem intercalate_members (first : MemberText item) (others : List (MemberText item)) :
    [','.toUInt8].intercalate ((first :: others).map MemberText.bytes) =
      first.bytes ++ furtherMembers others := by
  induction others generalizing first with
  | nil => rw [List.map_cons, List.map_nil, List.intercalate_singleton, furtherMembers,
      List.flatMap_nil, List.append_nil]
  | cons second others ih =>
    rw [List.map_cons, List.map_cons, List.intercalate_cons_cons, ← List.map_cons, ih,
      furtherMembers, furtherMembers, List.flatMap_cons]
    simp only [List.append_assoc, List.cons_append, List.nil_append]

/-- The key of a member is read in front of anything. -/
theorem MemberText.readText_tail (member : MemberText item) (rest : Bytes) :
    readText (member.tail ++ rest) =
      .ok (member.key, member.gap ++ ':'.toUInt8 :: (member.body ++ (member.back ++ rest))) := by
  obtain ⟨text, -, he, hr⟩ := takes_readText member.reads_key
  rw [List.append_nil] at he
  rw [← he] at hr
  simp only [tail, List.append_assoc, List.cons_append, hr]

/-- The value of a member is added to a table, whatever follows. -/
theorem MemberText.tableStep_eq (hc : Closed item) (member : MemberText item) (table : τ)
    (rest : Bytes) :
    tableStep item add table member.key
        (member.gap ++ ':'.toUInt8 :: (member.body ++ (member.back ++ rest))) =
      .ok (add table member.key member.value, member.back ++ rest) := by
  obtain ⟨text, -, he, hr⟩ := hc _ _ _ member.reads_value
  rw [List.append_nil] at he
  rw [← he] at hr
  rw [tableStep, readColon_blank member.blank_gap]
  simp only [bind, Except.bind, hr]
  rfl

/-- The members after the first one are read to the end of the object. -/
theorem membersFrom_further (hc : Closed item) {members : List (MemberText item)} {fuel : Nat}
    (hf : members.length < fuel) {space : Bytes} (hs : Blank space) (table : τ) (rest : Bytes) :
    membersFrom (tableStep item add) fuel false table
        (space ++ (furtherMembers members ++ '}'.toUInt8 :: rest)) =
      .ok (members.foldl (fun table member => add table member.key member.value) table, rest) := by
  induction members generalizing fuel space table with
  | nil =>
    obtain ⟨fuel, rfl⟩ : ∃ n, fuel = n + 1 := Nat.exists_eq_add_one.mpr (by omega)
    rw [furtherMembers, List.flatMap_nil, List.nil_append, membersFrom, nextKey_end false hs]
    rfl
  | cons member members ih =>
    obtain ⟨fuel, rfl⟩ : ∃ n, fuel = n + 1 := Nat.exists_eq_add_one.mpr (by omega)
    have hkey := nextKey_comma hs member.blank_front
      (member.readText_tail (furtherMembers members ++ '}'.toUInt8 :: rest))
    rw [furtherMembers, List.flatMap_cons, ← furtherMembers]
    simp only [MemberText.bytes, List.append_assoc, List.cons_append] at hkey ⊢
    rw [membersFrom, hkey]
    simp only [member.tableStep_eq hc]
    exact ih (Nat.lt_of_succ_lt_succ hf) member.blank_back _

/-- Every member takes bytes. -/
theorem length_le_furtherMembers (members : List (MemberText item)) :
    members.length ≤ (furtherMembers members).length := by
  induction members with
  | nil => exact Nat.zero_le _
  | cons member members ih =>
    rw [furtherMembers, List.flatMap_cons, ← furtherMembers]
    simp only [List.length_append, List.length_cons]
    omega

/-- A table is read from every object, by adding the members in order. -/
theorem table_of_objectText (hc : Closed item) {members : List (MemberText item)} {text : Bytes}
    (h : ObjectText item members text) (expected : String) (start : τ) {space : Bytes}
    (hs : Blank space) (rest : Bytes) :
    table expected item start add (space ++ (text ++ rest)) =
      .ok (members.foldl (fun table member => add table member.key member.value) start, rest) := by
  cases h with
  | @empty inner hi =>
    rw [List.cons_append, List.append_assoc, table, startValue_blank hs (by decide), if_pos rfl,
      Json.members, membersFrom, List.singleton_append, nextKey_end true hi]
    rfl
  | members first others =>
    have hkey := nextKey_quote first.blank_front
      (first.readText_tail (furtherMembers others ++ '}'.toUInt8 :: rest))
    have hfuel := length_le_furtherMembers others
    rw [intercalate_members, List.cons_append, table, startValue_blank hs (by decide), if_pos rfl,
      Json.members, membersFrom]
    simp only [MemberText.bytes, List.append_assoc, List.cons_append, List.nil_append,
      List.length_append, List.length_cons] at hkey ⊢
    rw [hkey]
    simp only [first.tableStep_eq hc]
    exact membersFrom_further hc (by omega) first.blank_back _ rest

/-- A key that was read is a text that reads to its end. -/
theorem exists_quoted {input rest : Bytes} {key : String}
    (h : (readText input).map (fun result => (some result.1, result.2)) = .ok (some key, rest)) :
    ∃ quoted, input = quoted ++ rest ∧ readText quoted = .ok (key, []) := by
  cases ht : readText input with
  | error e =>
    rw [ht] at h
    cases h
  | ok result =>
    obtain ⟨name, left⟩ := result
    rw [ht] at h
    cases h
    obtain ⟨quoted, -, he, hr⟩ := takes_readText ht
    have hnil := hr []
    rw [List.append_nil] at hnil
    exact ⟨quoted, he, hnil⟩

/-- What is read behind a key is a colon and a value of its own. -/
theorem exists_value (hc : Closed item) {table next : τ} {key : String} {input rest : Bytes}
    (h : tableStep item add table key input = .ok (next, rest)) :
    ∃ gap body value, Blank gap ∧ item body = .ok (value, []) ∧
      input = gap ++ ':'.toUInt8 :: (body ++ rest) ∧ next = add table key value := by
  rw [tableStep] at h
  cases hcolon : readColon input with
  | error e =>
    rw [hcolon] at h
    cases h
  | ok after =>
    rw [hcolon] at h
    simp only [bind, Except.bind] at h
    cases hv : item after with
    | error e =>
      rw [hv] at h
      cases h
    | ok result =>
      obtain ⟨value, left⟩ := result
      rw [hv] at h
      cases h
      obtain ⟨body, -, rfl, hr⟩ := hc _ _ _ hv
      have hnil := hr []
      rw [List.append_nil] at hnil
      cases hb : skipBlanks input with
      | nil =>
        rw [readColon, hb] at hcolon
        cases hcolon
      | cons b colon =>
        simp only [readColon, hb] at hcolon
        split_ifs at hcolon with hbc
        cases hcolon
        obtain ⟨gap, hg, -, rfl⟩ := exists_blank hb
        exact ⟨gap, body, value, hg, hnil, by rw [hbc], rfl⟩

/-- Where no further key is found, the object ends. -/
theorem exists_end {first : Bool} {input rest : Bytes}
    (h : nextKey first input = .ok (none, rest)) :
    ∃ space, Blank space ∧ input = space ++ '}'.toUInt8 :: rest := by
  have hkey : ∀ text, (readText text).map (fun result => (some result.1, result.2)) ≠
      .ok (none, rest) := by
    intro text ht
    cases hr : readText text <;> rw [hr] at ht <;> cases ht
  cases hb : skipBlanks input with
  | nil =>
    rw [nextKey, hb] at h
    cases h
  | cons b after =>
    simp only [nextKey, hb] at h
    split_ifs at h with he hf hq hc
    · cases h
      obtain ⟨space, hs, -, rfl⟩ := exists_blank hb
      exact ⟨space, hs, by rw [he]⟩
    · exact absurd h (hkey _)
    · split at h
      · cases h
      · split_ifs at h
        exact absurd h (hkey _)

/-- The first key that is found. -/
theorem exists_quote {input rest : Bytes} {key : String}
    (h : nextKey true input = .ok (some key, rest)) :
    ∃ front quoted, Blank front ∧ readText quoted = .ok (key, []) ∧
      input = front ++ '"'.toUInt8 :: (quoted ++ rest) := by
  cases hb : skipBlanks input with
  | nil =>
    rw [nextKey, hb] at h
    cases h
  | cons b after =>
    simp only [nextKey, hb, if_true] at h
    split_ifs at h with he hq
    · cases h
    · obtain ⟨front, hf, -, rfl⟩ := exists_blank hb
      obtain ⟨quoted, rfl, hr⟩ := exists_quoted h
      exact ⟨front, quoted, hf, hr, by rw [hq]⟩

/-- A further key that is found behind a comma. -/
theorem exists_comma {input rest : Bytes} {key : String}
    (h : nextKey false input = .ok (some key, rest)) :
    ∃ space front quoted, Blank space ∧ Blank front ∧ readText quoted = .ok (key, []) ∧
      input = space ++ ','.toUInt8 :: (front ++ '"'.toUInt8 :: (quoted ++ rest)) := by
  cases hb : skipBlanks input with
  | nil =>
    rw [nextKey, hb] at h
    cases h
  | cons b after =>
    simp only [nextKey, hb, Bool.false_eq_true, if_false] at h
    split_ifs at h with he hc
    · cases h
    · obtain ⟨space, hs, -, rfl⟩ := exists_blank hb
      cases hn : skipBlanks after with
      | nil =>
        rw [hn] at h
        cases h
      | cons c next =>
        simp only [hn] at h
        split_ifs at h with hq
        obtain ⟨front, hf, -, rfl⟩ := exists_blank hn
        obtain ⟨quoted, rfl, hr⟩ := exists_quoted h
        exact ⟨space, front, quoted, hs, hf, hr, by rw [hc, hq]⟩

/-- What is read after the first member are members with a comma in front of each. -/
theorem exists_furtherMembers (hc : Closed item) {fuel : Nat} {table last : τ}
    {input rest : Bytes}
    (h : membersFrom (tableStep item add) fuel false table input = .ok (last, rest)) :
    ∃ (space : Bytes) (members : List (MemberText item)), Blank space ∧
      input = space ++ (furtherMembers members ++ '}'.toUInt8 :: rest) ∧
      last = members.foldl (fun table member => add table member.key member.value) table := by
  induction fuel generalizing table input with
  | zero => cases h
  | succ fuel ih =>
    rw [membersFrom] at h
    split at h
    · cases h
    · rename_i after hk
      cases h
      obtain ⟨space, hs, rfl⟩ := exists_end hk
      exact ⟨space, [], hs, rfl, rfl⟩
    · rename_i key after hk
      split at h
      · cases h
      · rename_i next middle hstep
        obtain ⟨space, front, quoted, hs, hf, hkey, rfl⟩ := exists_comma hk
        obtain ⟨gap, body, value, hg, hv, rfl, rfl⟩ := exists_value hc hstep
        obtain ⟨back, members, hb, rfl, rfl⟩ := ih h
        -- the white space behind the value is what the rest starts with
        let member : MemberText item :=
          ⟨key, value, front, quoted, gap, body, back, hf, hkey, hg, hv, hb⟩
        refine ⟨space, member :: members, hs, ?_, rfl⟩
        rw [furtherMembers, furtherMembers, List.flatMap_cons]
        simp only [member, MemberText.bytes, MemberText.tail, List.append_assoc, List.cons_append]

/-- What a table is read from is an object, and the table is gathered from its
members. -/
theorem objectText_of_table (hc : Closed item) {expected : String} {start last : τ}
    {input rest : Bytes} (h : table expected item start add input = .ok (last, rest)) :
    ∃ (space : Bytes) (members : List (MemberText item)) (text : Bytes), Blank space ∧
      ObjectText item members text ∧ input = space ++ (text ++ rest) ∧
      last = members.foldl (fun table member => add table member.key member.value) start := by
  cases hb : skipBlanks input with
  | nil =>
    rw [table, startValue, hb] at h
    cases h
  | cons b after =>
    simp only [table, startValue, hb] at h
    split_ifs at h with ho
    obtain ⟨space, hs, -, rfl⟩ := exists_blank hb
    rw [Json.members, membersFrom] at h
    split at h
    · cases h
    · rename_i left hk
      cases h
      obtain ⟨inner, hi, rfl⟩ := exists_end hk
      refine ⟨space, [], _, hs, .empty hi, ?_, rfl⟩
      rw [ho, List.cons_append, List.append_assoc, List.singleton_append]
    · rename_i key left hk
      split at h
      · cases h
      · rename_i next middle hstep
        obtain ⟨front, quoted, hf, hkey, rfl⟩ := exists_quote hk
        obtain ⟨gap, body, value, hg, hv, rfl, rfl⟩ := exists_value hc hstep
        obtain ⟨back, others, hback, rfl, rfl⟩ := exists_furtherMembers hc h
        let first : MemberText item :=
          ⟨key, value, front, quoted, gap, body, back, hf, hkey, hg, hv, hback⟩
        refine ⟨space, first :: others, _, hs, .members first others, ?_, rfl⟩
        rw [ho, intercalate_members]
        simp only [first, MemberText.bytes, MemberText.tail, List.append_assoc, List.cons_append,
          List.nil_append]

end

end ReleasePage.Json
