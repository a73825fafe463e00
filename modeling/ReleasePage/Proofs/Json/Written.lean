import Mathlib
import ReleasePage.Proofs.Json.Scalar

/-!
# Written forms of a tree

A tree can be written with any amount of white space between its parts. The two
layouts, in one line and over several lines, are two such written forms, so what
holds of all written forms holds of both layouts.
-/

namespace ReleasePage.Json

open ReleasePage.Text (Bytes)

/-- White space and nothing else. -/
def Blank (space : Bytes) : Prop := ∀ b ∈ space, isSpace b = true

mutual

/-- The bytes are a written form of the tree. -/
inductive Written : Tree → Bytes → Prop where
  /-- The word for the absent value. -/
  | null : Written .null (encoded "null".toList)
  /-- The word of a truth value. -/
  | boolean (value : Bool) :
    Written (.boolean value) (encoded (if value then "true" else "false").toList)
  /-- The decimal digits of a number. -/
  | number (value : Nat) : Written (.number value) (encoded (Nat.repr value).toList)
  /-- A text between quotes. -/
  | text (value : String) : Written (.text value) (encoded (quotedText value))
  /-- An array without elements. -/
  | emptyList {space : Bytes} (hs : Blank space) :
    Written (.list []) ('['.toUInt8 :: space ++ [']'.toUInt8])
  /-- An array with a first element. -/
  | list {item : Tree} {items : List Tree} {space text more : Bytes} (hs : Blank space)
    (ht : Written item text) (hm : WrittenItems items more) :
    Written (.list (item :: items)) ('['.toUInt8 :: space ++ text ++ more)
  /-- An object without members. -/
  | emptyObject {space : Bytes} (hs : Blank space) :
    Written (.object []) ('{'.toUInt8 :: space ++ ['}'.toUInt8])
  /-- An object with a first member. -/
  | object (key : String) {value : Tree} {members : List (String × Tree)}
    {space before after text more : Bytes} (hs : Blank space) (hb : Blank before)
    (ha : Blank after) (ht : Written value text) (hm : WrittenMembers members more) :
    Written (.object ((key, value) :: members))
      ('{'.toUInt8 :: space ++ encoded (quotedText key) ++ before ++ ':'.toUInt8 :: after ++ text ++
        more)

/-- The bytes are a written form of the elements after the first one, with the
closing bracket. -/
inductive WrittenItems : List Tree → Bytes → Prop where
  /-- The closing bracket. -/
  | nil {space : Bytes} (hs : Blank space) : WrittenItems [] (space ++ [']'.toUInt8])
  /-- A comma and one more element. -/
  | cons {item : Tree} {items : List Tree} {before after text more : Bytes} (hb : Blank before)
    (ha : Blank after) (ht : Written item text) (hm : WrittenItems items more) :
    WrittenItems (item :: items) (before ++ ','.toUInt8 :: after ++ text ++ more)

/-- The bytes are a written form of the members after the first one, with the
closing bracket. -/
inductive WrittenMembers : List (String × Tree) → Bytes → Prop where
  /-- The closing bracket. -/
  | nil {space : Bytes} (hs : Blank space) : WrittenMembers [] (space ++ ['}'.toUInt8])
  /-- A comma and one more member. -/
  | cons (key : String) {value : Tree} {members : List (String × Tree)}
    {space space' before after text more : Bytes} (hs : Blank space) (hs' : Blank space')
    (hb : Blank before) (ha : Blank after) (ht : Written value text)
    (hm : WrittenMembers members more) :
    WrittenMembers ((key, value) :: members)
      (space ++ ','.toUInt8 :: space' ++ encoded (quotedText key) ++ before ++
        ':'.toUInt8 :: after ++ text ++ more)

end

/-- No white space at all. -/
theorem blank_nil : Blank [] := fun _ h => absurd h List.not_mem_nil

/-- One space. -/
theorem blank_space : Blank [' '.toUInt8] := by
  intro b hb
  rw [List.mem_singleton.mp hb]
  decide

/-- The bytes of an ASCII character in front of others. -/
theorem encoded_ascii_cons {c : Char} (h : c.toNat < 128) (chars : List Char) :
    encoded (c :: chars) = c.toUInt8 :: encoded chars := by
  rw [encoded_cons, Text.utf8EncodeChar_ascii h]
  rfl

/-- A new line with its indentation is white space. -/
theorem blank_newLine (depth : Nat) : Blank (encoded (newLine depth)) := by
  intro b hb
  simp only [encoded, newLine, List.mem_flatMap, List.mem_cons, List.mem_replicate] at hb
  obtain ⟨c, rfl | ⟨-, rfl⟩, hc⟩ := hb
  · rw [show String.utf8EncodeChar '\n' = [10] by decide, List.mem_singleton] at hc
    rw [hc]
    decide
  · rw [show String.utf8EncodeChar ' ' = [32] by decide, List.mem_singleton] at hc
    rw [hc]
    decide

mutual

/-- The layout in one line is a written form. -/
theorem written_compact : (tree : Tree) → Written tree (encoded tree.compact)
  | .null => .null
  | .boolean true => .boolean true
  | .boolean false => .boolean false
  | .number n => .number n
  | .text s => .text s
  | .list [] => .emptyList blank_nil
  | .list (item :: items) => by
    have h := Written.list blank_nil (written_compact item) (writtenItems_compact items)
    simpa only [Tree.compact, List.cons_append, encoded_ascii_cons (by decide : '['.toNat < 128),
      encoded_append, List.nil_append] using h
  | .object [] => .emptyObject blank_nil
  | .object ((key, value) :: members) => by
    have h := Written.object key blank_nil blank_nil blank_nil (written_compact value)
      (writtenMembers_compact members)
    simpa only [Tree.compact, List.cons_append, encoded_ascii_cons (by decide : '{'.toNat < 128),
      encoded_ascii_cons (by decide : ':'.toNat < 128), encoded_append, List.append_nil,
      List.nil_append, List.append_assoc] using h

/-- The layout in one line of the elements after the first one is a written
form. -/
theorem writtenItems_compact : (items : List Tree) →
    WrittenItems items (encoded (Tree.compactItems items))
  | [] => .nil blank_nil
  | item :: items => by
    have h := WrittenItems.cons blank_nil blank_nil (written_compact item)
      (writtenItems_compact items)
    simpa only [Tree.compactItems, List.cons_append, encoded_ascii_cons (by decide : ','.toNat < 128),
      encoded_append, List.nil_append] using h

/-- The layout in one line of the members after the first one is a written
form. -/
theorem writtenMembers_compact : (members : List (String × Tree)) →
    WrittenMembers members (encoded (Tree.compactMembers members))
  | [] => .nil blank_nil
  | (key, value) :: members => by
    have h := WrittenMembers.cons key blank_nil blank_nil blank_nil blank_nil
      (written_compact value) (writtenMembers_compact members)
    simpa only [Tree.compactMembers, List.cons_append,
      encoded_ascii_cons (by decide : ','.toNat < 128),
      encoded_ascii_cons (by decide : ':'.toNat < 128), encoded_append, List.nil_append,
      List.append_nil, List.append_assoc] using h

end

mutual

/-- The layout over several lines is a written form at every depth. -/
theorem written_prettyAt (depth : Nat) : (tree : Tree) →
    Written tree (encoded (tree.prettyAt depth))
  | .null => .null
  | .boolean true => .boolean true
  | .boolean false => .boolean false
  | .number n => .number n
  | .text s => .text s
  | .list [] => .emptyList blank_nil
  | .list (item :: items) => by
    have h := Written.list (blank_newLine (depth + 1)) (written_prettyAt (depth + 1) item)
      (writtenItems_pretty depth items)
    simpa only [Tree.prettyAt, List.cons_append, encoded_ascii_cons (by decide : '['.toNat < 128),
      encoded_append] using h
  | .object [] => .emptyObject blank_nil
  | .object ((key, value) :: members) => by
    have h := Written.object key (blank_newLine (depth + 1)) blank_nil blank_space
      (written_prettyAt (depth + 1) value) (writtenMembers_pretty depth members)
    simpa only [Tree.prettyAt, List.cons_append, encoded_ascii_cons (by decide : '{'.toNat < 128),
      encoded_ascii_cons (by decide : ':'.toNat < 128),
      encoded_ascii_cons (by decide : ' '.toNat < 128), encoded_append, List.append_nil,
      List.nil_append, List.append_assoc] using h

/-- The layout over several lines of the elements after the first one is a
written form. -/
theorem writtenItems_pretty (depth : Nat) : (items : List Tree) →
    WrittenItems items (encoded (Tree.prettyItems depth items))
  | [] => by
    rw [Tree.prettyItems, encoded_append]
    exact .nil (blank_newLine depth)
  | item :: items => by
    have h := WrittenItems.cons blank_nil (blank_newLine (depth + 1))
      (written_prettyAt (depth + 1) item) (writtenItems_pretty depth items)
    simpa only [Tree.prettyItems, List.cons_append, encoded_ascii_cons (by decide : ','.toNat < 128),
      encoded_append, List.nil_append] using h

/-- The layout over several lines of the members after the first one is a written
form. -/
theorem writtenMembers_pretty (depth : Nat) : (members : List (String × Tree)) →
    WrittenMembers members (encoded (Tree.prettyMembers depth members))
  | [] => by
    rw [Tree.prettyMembers, encoded_append]
    exact .nil (blank_newLine depth)
  | (key, value) :: members => by
    have h := WrittenMembers.cons key blank_nil (blank_newLine (depth + 1)) blank_nil
      blank_space (written_prettyAt (depth + 1) value) (writtenMembers_pretty depth members)
    simpa only [Tree.prettyMembers, List.cons_append,
      encoded_ascii_cons (by decide : ','.toNat < 128),
      encoded_ascii_cons (by decide : ':'.toNat < 128),
      encoded_ascii_cons (by decide : ' '.toNat < 128), encoded_append, List.nil_append,
      List.append_nil, List.append_assoc] using h

end

end ReleasePage.Json
