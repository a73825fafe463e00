import ReleasePage.Settings.Value

/-!
# Layers of settings

The defaults, the settings file and the environment variables are layers, each
a tree whose leaves remember the layer they come from. A later layer is laid
over an earlier one: tables are joined member by member, and everything else
gives way to what is laid over it.
-/

namespace ReleasePage.Settings

/-- Where a value comes from. -/
inductive Origin where
  /-- The values that hold unless others are given. -/
  | defaults
  /-- A settings file, with the path that messages show. -/
  | file (shown : String)
  /-- Environment variables. -/
  | variables
  deriving Repr, DecidableEq

/-- Values with their origins. -/
inductive Tree where
  /-- A value that is no table. -/
  | leaf (origin : Origin) (value : Value)
  /-- A table. -/
  | table (origin : Origin) (members : List (String × Tree))
  deriving Repr

/-- The origin of a tree; that of a joined table is the later one. -/
def Tree.origin : Tree → Origin
  | .leaf origin _ => origin
  | .table origin _ => origin

mutual

/-- The value of a tree, without origins. -/
def Tree.value : Tree → Value
  | .leaf _ value => value
  | .table _ members => .table (Tree.memberValues members)

/-- The values of the members of a table. -/
def Tree.memberValues : List (String × Tree) → List (String × Value)
  | [] => []
  | (name, tree) :: rest => (name, tree.value) :: Tree.memberValues rest

end

mutual

/-- The tree of a value all of whose parts come from one place. -/
def Tree.ofValue (origin : Origin) : Value → Tree
  | .table members => .table origin (Tree.ofMembers origin members)
  | .text value => .leaf origin (.text value)
  | .boolean value => .leaf origin (.boolean value)
  | .signed value => .leaf origin (.signed value)
  | .unsigned value => .leaf origin (.unsigned value)
  | .float value => .leaf origin (.float value)
  | .list items => .leaf origin (.list items)

/-- The trees of the members of a table. -/
def Tree.ofMembers (origin : Origin) : List (String × Value) → List (String × Tree)
  | [] => []
  | (name, value) :: rest => assign name (Tree.ofValue origin value) (Tree.ofMembers origin rest)

end

mutual

/-- Lays a tree over an earlier one. -/
def Tree.laidOver : (later earlier : Tree) → Tree
  | .table origin members, .table _ old => .table origin (Tree.membersOver members old)
  | .table origin members, .leaf _ _ => .table origin members
  | .leaf origin value, _ => .leaf origin value

/-- Lays the members of a table over those of an earlier one. -/
def Tree.membersOver : (later earlier : List (String × Tree)) → List (String × Tree)
  | [], old => old
  | (name, tree) :: rest, old =>
    Tree.membersOver rest <| assign name
      (match old.lookup name with
       | some earlier => tree.laidOver earlier
       | none => tree) old

end

/-- All layers as one tree, each laid over the ones before it. -/
def Tree.ofLayers (first : Tree) (rest : List Tree) : Tree :=
  rest.foldl (fun below layer => layer.laidOver below) first

end ReleasePage.Settings
