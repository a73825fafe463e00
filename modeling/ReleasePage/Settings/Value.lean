import ReleasePage.Number.Shortest
import ReleasePage.Text.Bytes
import ReleasePage.Text.Quoted

/-!
# Values of settings

Settings files and environment variables both describe values: scalars, lists,
and tables whose members are kept in the order of their names. Integers remember
whether they were written as signed numbers, because messages say so.
-/

namespace ReleasePage.Settings

open ReleasePage.Number (Double FloatStyle)

/-- A value that a setting may be given. -/
inductive Value where
  /-- A text. -/
  | text (value : String)
  /-- A truth value. -/
  | boolean (value : Bool)
  /-- An integer of a notation with signs. -/
  | signed (value : Int)
  /-- An integer of a notation without signs. -/
  | unsigned (value : Nat)
  /-- A number with a fraction or an exponent. -/
  | float (value : Double)
  /-- A list. -/
  | list (items : List Value)
  /-- A table. -/
  | table (members : List (String × Value))
  deriving Repr

/-- What a message says about a value that was found. -/
def Value.description : Value → String
  | .text value => "string " ++ Text.quoted value
  | .boolean value => "bool " ++ (if value then "true" else "false")
  | .signed value => "signed int `" ++ value.repr ++ "`"
  | .unsigned value => "unsigned int `" ++ Nat.repr value ++ "`"
  | .float value => "float `" ++ value.text FloatStyle.plain ++ "`"
  | .list _ => "sequence"
  | .table _ => "map"

/-- Gives a name a new content in a list that is in the order of its names. -/
def assign {α : Type} (name : String) (content : α) :
    List (String × α) → List (String × α)
  | [] => [(name, content)]
  | (other, old) :: rest =>
    if name = other then (name, content) :: rest
    else if Text.bytesBefore name other then (name, content) :: (other, old) :: rest
    else (other, old) :: assign name content rest

/-- A name that was given a content has it. -/
theorem lookup_assign_same {α : Type} (name : String) (content : α)
    (members : List (String × α)) :
    (assign name content members).lookup name = some content := by
  induction members with
  | nil => simp [assign]
  | cons member rest ih =>
    obtain ⟨other, old⟩ := member
    unfold assign
    split
    · simp
    · split
      · simp
      · rename_i different _
        have : (name == other) = false := by simpa using different
        simpa [List.lookup_cons, this] using ih

/-- All other names keep what they had. -/
theorem lookup_assign_other {α : Type} {name asked : String} (content : α)
    (members : List (String × α)) (different : asked ≠ name) :
    (assign name content members).lookup asked = members.lookup asked := by
  have first : (asked == name) = false := by simpa using different
  induction members with
  | nil => simp [assign, List.lookup_cons, first]
  | cons member rest ih =>
    obtain ⟨other, old⟩ := member
    unfold assign
    split
    · rename_i same
      subst same
      simp [List.lookup_cons, first]
    · split
      · simp [List.lookup_cons, first]
      · cases h : asked == other <;> simp [List.lookup_cons, h, ih]

end ReleasePage.Settings
