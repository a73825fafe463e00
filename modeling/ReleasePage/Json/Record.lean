import ReleasePage.Json.Decoder

/-!
# Records

A record is a fixed list of named fields. It is read from an object, whose
unknown members are passed over and whose known members may come in any order
but only once, or from an array that gives the fields in their own order. A
field without a value is an error unless it has a default.
-/

namespace ReleasePage.Json

open ReleasePage.Text (Bytes)

/-- One field of a record. -/
structure Field (α : Type) where
  /-- The key of the field in an object. -/
  key : String
  /-- The value of the field where it is absent; required if there is none. -/
  default? : Option α
  /-- Reads the value of the field. -/
  decoder : Decoder α

/-- A field that has to be present. -/
def Field.required {α : Type} (key : String) (decoder : Decoder α) : Field α :=
  ⟨key, none, decoder⟩

/-- A field that may be absent or `null`. -/
def Field.optional {α : Type} (key : String) (decoder : Decoder α) : Field (Option α) :=
  ⟨key, some none, Json.optional decoder⟩

/-- The fields of a record, in order. -/
inductive Fields : List Type → Type 1 where
  /-- No fields. -/
  | nil : Fields []
  /-- A field in front of others. -/
  | cons {α : Type} {types : List Type} (field : Field α) (rest : Fields types) :
    Fields (α :: types)

/-- One value for each field. -/
def Row : List Type → Type
  | [] => Unit
  | α :: types => α × Row types

/-- At most one value for each field: what has been read so far. -/
def Draft : List Type → Type
  | [] => Unit
  | α :: types => Option α × Draft types

/-- Nothing has been read yet. -/
def Draft.empty : (types : List Type) → Draft types
  | [] => ()
  | _ :: types => (none, Draft.empty types)

/-- What can be done with one field of a draft. -/
structure Member (types : List Type) where
  /-- The field has a value already. -/
  filled : Draft types → Bool
  /-- Reads a value into the field. -/
  read : Draft types → Decoder (Draft types)

/-- The number of fields. -/
def Fields.count : {types : List Type} → Fields types → Nat
  | _, .nil => 0
  | _, .cons _ rest => rest.count + 1

/-- The field with a given key. -/
def Fields.member? : {types : List Type} → Fields types → String → Option (Member types)
  | _, .nil, _ => none
  | _, .cons field rest, key =>
    if key = field.key then
      some ⟨fun draft => draft.1.isSome,
        fun draft input => (field.decoder input).map fun (value, after) =>
          ((some value, draft.2), after)⟩
    else
      (rest.member? key).map fun member =>
        ⟨fun draft => member.filled draft.2,
          fun draft input => (member.read draft.2 input).map fun (tail, after) =>
            ((draft.1, tail), after)⟩

/-- The finished row of a draft, or the key of the first required field without
a value. -/
def Fields.complete : {types : List Type} → Fields types → Draft types → Except String (Row types)
  | _, .nil, _ => .ok ()
  | _, .cons field rest, (value?, tail) =>
    match value? <|> field.default? with
    | none => .error field.key
    | some value => (rest.complete tail).map fun row => (value, row)

/-- Reads the fields from the elements of an array, the first of them being
element number `index`. `expected` names the record in the failure of an array
that ends too early. -/
def Fields.elements (expected : String) : {types : List Type} → Fields types → (index : Nat) →
    Decoder (Row types)
  | _, .nil, _, input => (closeList input).map fun rest => ((), rest)
  | _, .cons field rest, index, input =>
    match nextElement (index == 0) input with
    | .error e => .error e
    | .ok (false, closing) =>
      match field.default? with
      | none => .error (.before (.wrongLength index expected) (closing.drop 1))
      | some value =>
        (rest.elements expected (index + 1) closing).map fun (row, after) => ((value, row), after)
    | .ok (true, input) =>
      match field.decoder input with
      | .error e => .error e
      | .ok (value, after) =>
        (rest.elements expected (index + 1) after).map fun (row, after) => ((value, row), after)

/-- The input after white space and, if it follows, the end of the object. -/
def pastObjectEnd (input : Bytes) : Bytes :=
  match skipBlanks input with
  | [] => []
  | b :: rest => if b = '}'.toUInt8 then rest else b :: rest

/-- Reads one member of an object into a draft. -/
def Fields.step {types : List Type} (fields : Fields types) (draft : Draft types) (key : String)
    (input : Bytes) : Except Failure (Draft types × Bytes) :=
  match fields.member? key with
  | none => do
    let rest ← readColon input
    let rest ← skipValue rest
    return (draft, rest)
  | some member =>
    if member.filled draft then .error (.before (.duplicateField key) (pastObjectEnd input))
    else do
      let rest ← readColon input
      member.read draft rest

/-- A record type: its name, its fields and how it is built from them. -/
structure Record (α : Type) where
  /-- The name of the record in messages. -/
  title : String
  /-- The types of the fields. -/
  types : List Type
  /-- The fields. -/
  fields : Fields types
  /-- The record with given field values. -/
  build : Row types → α

/-- The name of a record in a message about a value of another kind. -/
def Record.expected {α : Type} (record : Record α) : String := "struct " ++ record.title

/-- The name of a record in a message about an array that is too short. -/
def Record.expectedLength {α : Type} (record : Record α) : String :=
  record.expected ++ " with " ++
    (if record.fields.count = 1 then "1 element"
     else Nat.repr record.fields.count ++ " elements")

/-- Reads a record from an object or an array. -/
def Record.decoder {α : Type} (record : Record α) : Decoder α := fun input =>
  startValue input fun b rest =>
    if b = '['.toUInt8 then
      (record.fields.elements record.expectedLength 0 rest).map fun (row, rest) =>
        (record.build row, rest)
    else if b = '{'.toUInt8 then
      match members record.fields.step (Draft.empty record.types) rest with
      | .error e => .error e
      | .ok (draft, rest) =>
        match record.fields.complete draft with
        | .error key => .error (.before (.missingField key) rest)
        | .ok row => .ok (record.build row, rest)
    else .error (mismatch record.expected b rest)

end ReleasePage.Json
