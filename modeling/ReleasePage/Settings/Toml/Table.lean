import ReleasePage.Settings.Value

/-!
# Tables of TOML documents

A document is put together entry by entry. Tables remember how they came about,
because a table that was opened by its own header, or written as one value, must
not be extended by dotted keys, and no table may be opened twice.
-/

namespace ReleasePage.Settings.Toml

/-- How a table came about. -/
inductive Style where
  /-- By its own header. -/
  | opened
  /-- As a table on the way to an opened one. -/
  | passed
  /-- By a dotted key. -/
  | dotted
  deriving Repr, DecidableEq

/-- What a name stands for while a document is put together. -/
inductive Item where
  /-- A value that is complete. -/
  | value (value : Value)
  /-- A table. -/
  | table (style : Style) (members : List (String × Item))
  /-- A list of tables, each opened by a header of its own. -/
  | tables (items : List (List (String × Item)))

/-- The members of a table. -/
abbrev Members := List (String × Item)

/-- Changes the table that a path leads to. Tables that are missing on the way
are made in the style `made`; a list of tables is entered at its last one. -/
def changeAt (made : Style) (change : Style → Members → Option Members) :
    (path : List String) → Style → Members → Option Members
  | [], style, members => change style members
  | name :: path, _, members =>
    match members.lookup name with
    | none => do
      let inner ← changeAt made change path made []
      return assign name (.table made inner) members
    | some (.value _) => none
    | some (.table style inner) =>
      if made = .dotted ∧ style = .opened then none
      else do
        let inner ← changeAt made change path style inner
        return assign name (.table style inner) members
    | some (.tables items) => do
      let last ← items.getLast?
      let last ← changeAt made change path .opened last
      return assign name (.tables (items.dropLast ++ [last])) members

/-- Gives a dotted key a value. The table that holds the last name must be one
of dotted keys, unless the key is that name alone, and must not have the name
yet. -/
def define (path : List String) (name : String) (value : Value) (members : Members) :
    Option Members :=
  changeAt .dotted (fun style inner =>
      if (style == .dotted) == path.isEmpty then none
      else if (inner.lookup name).isSome then none
      else some (assign name (.value value) inner))
    path .opened members

/-- Opens a table that was not opened before. -/
def openTable (path : List String) (name : String) (members : Members) : Option Members :=
  changeAt .passed (fun _ inner =>
      match inner.lookup name with
      | none => some (assign name (.table .opened []) inner)
      | some (.table .passed old) => some (assign name (.table .opened old) inner)
      | some _ => none)
    path .opened members

/-- Adds one more table to a list of tables. -/
def openListed (path : List String) (name : String) (members : Members) : Option Members :=
  changeAt .passed (fun _ inner =>
      match inner.lookup name with
      | none => some (assign name (.tables [[]]) inner)
      | some (.tables items) => some (assign name (.tables (items ++ [[]])) inner)
      | some _ => none)
    path .opened members

/-- Gives a dotted key a value inside the table that was opened last. -/
def defineIn (header path : List String) (name : String) (value : Value) (members : Members) :
    Option Members :=
  changeAt .passed (fun _ inner => define path name value inner) header .opened members

mutual

/-- The value of an item. -/
def Item.toValue : Item → Value
  | .value whole => whole
  | .table _ members => .table (Item.toMembers members)
  | .tables items => .list (Item.toList items)

/-- The values of the members of a table. -/
def Item.toMembers : List (String × Item) → List (String × Value)
  | [] => []
  | (name, item) :: rest => (name, item.toValue) :: Item.toMembers rest

/-- The values of the tables of a list. -/
def Item.toList : List (List (String × Item)) → List Value
  | [] => []
  | members :: rest => .table (Item.toMembers members) :: Item.toList rest

end

end ReleasePage.Settings.Toml
