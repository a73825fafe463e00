import Mathlib
import ReleasePage.Proofs.Utf8
import ReleasePage.Settings.Load

/-!
# Settings in joined layers

A setting stands under the heading of its section, two names deep in a layer. Where a layer
is laid over an earlier one, its setting is laid over the earlier setting of the same two
names, and every other setting stays what it was. This needs that the members of the later
layer are in order, so that no name is given twice, and that the layer has a table under
the heading if it has the heading at all.
-/

namespace ReleasePage.Text

/-- No text comes before itself. -/
theorem bytesBefore_irrefl (a : String) : bytesBefore a a = false := by
  rw [bytesBefore, compareBytes, Std.compare_self]
  rfl

/-- Texts that come one before the other are ordered as the first and the last. -/
theorem bytesBefore_trans {a b c : String} (hab : bytesBefore a b = true)
    (hbc : bytesBefore b c = true) : bytesBefore a c = true := by
  simp only [bytesBefore, compareBytes, beq_iff_eq] at hab hbc ⊢
  exact Std.TransCmp.lt_trans hab hbc

/-- Of two different texts one comes before the other. -/
theorem bytesBefore_of_not {a b : String} (hne : a ≠ b) (h : bytesBefore a b ≠ true) :
    bytesBefore b a = true := by
  simp only [bytesBefore, compareBytes, ne_eq, beq_iff_eq] at h ⊢
  cases hc : compare (bytes a) (bytes b) with
  | lt => exact absurd hc h
  | eq => exact absurd (bytes_injective (Std.LawfulEqOrd.eq_of_compare hc)) hne
  | gt => exact Std.OrientedCmp.gt_iff_lt.mp hc

end ReleasePage.Text

namespace ReleasePage.Settings

section Ordered

variable {α : Type} {name : String} {content : α} {members : List (String × α)}

/-- The members are in the order of their names. -/
def Ordered (members : List (String × α)) : Prop :=
  members.Pairwise fun first second => Text.bytesBefore first.1 second.1 = true

/-- A member after a name was given a content is the new one or an old one. -/
theorem mem_assign {member : String × α} (h : member ∈ assign name content members) :
    member = (name, content) ∨ member ∈ members := by
  induction members with
  | nil => exact .inl (List.mem_singleton.mp h)
  | cons first rest ih =>
    rw [assign] at h
    split_ifs at h
    · exact (List.mem_cons.mp h).imp_right (List.mem_cons_of_mem first)
    · exact List.mem_cons.mp h
    · rcases List.mem_cons.mp h with rfl | h
      · exact .inr List.mem_cons_self
      · exact (ih h).imp_right (List.mem_cons_of_mem first)

/-- Members stay in order where a name is given a content. -/
theorem Ordered.assign (h : Ordered members) : Ordered (assign name content members) := by
  induction members with
  | nil => exact List.pairwise_singleton ..
  | cons first rest ih =>
    obtain ⟨hfirst, hrest⟩ := List.pairwise_cons.mp h
    rw [Settings.assign]
    split_ifs with hsame hbefore
    · refine List.pairwise_cons.mpr ⟨fun member hm => ?_, hrest⟩
      rw [hsame]
      exact hfirst member hm
    · refine List.pairwise_cons.mpr ⟨fun member hm => ?_, h⟩
      rcases List.mem_cons.mp hm with rfl | hm
      · exact hbefore
      · exact Text.bytesBefore_trans hbefore (hfirst member hm)
    · refine List.pairwise_cons.mpr ⟨fun member hm => ?_, ih hrest⟩
      rcases mem_assign hm with rfl | hm
      · exact Text.bytesBefore_of_not hsame hbefore
      · exact hfirst member hm

/-- Behind a member that is in order its name does not come again. -/
theorem Ordered.lookup_tail (h : Ordered ((name, content) :: members)) :
    members.lookup name = none := by
  refine List.lookup_eq_none_iff.mpr fun member hm => bne_iff_ne.mpr fun hname => ?_
  have hbefore := (List.pairwise_cons.mp h).1 member hm
  rw [← hname, Text.bytesBefore_irrefl] at hbefore
  cases hbefore

end Ordered

/-! ## Values of settings -/

/-- The members of a value that is a table. -/
def Value.members : Value → List (String × Value)
  | .table members => members
  | _ => []

/-- The value is a table. -/
def Value.IsTable (value : Value) : Prop := ∃ members, value = .table members

instance : (value : Value) → Decidable value.IsTable
  | .table members => isTrue ⟨members, rfl⟩
  | .text _ | .boolean _ | .signed _ | .unsigned _ | .float _ | .list _ => isFalse nofun

/-- What the value has under the heading is a table. -/
def Value.Sectioned (value : Value) (heading : String) : Prop :=
  ∀ inner ∈ value.members.lookup heading, inner.IsTable

instance (value : Value) (heading : String) : Decidable (value.Sectioned heading) :=
  inferInstanceAs (Decidable (∀ inner ∈ value.members.lookup heading, inner.IsTable))

/-- The value of the setting that stands under a heading. -/
def Value.setting? (value : Value) (heading name : String) : Option Value :=
  (value.members.lookup heading).bind fun inner => inner.members.lookup name

namespace Tree

/-- The tree is a table. -/
def IsTable (tree : Tree) : Prop := ∃ origin members, tree = .table origin members

/-- The tree of the setting that stands under a heading. -/
def setting? (tree : Tree) (heading name : String) : Option Tree :=
  (tree.members.lookup heading).bind fun inner => inner.members.lookup name

/-- The members of the tree, and those of the sections, are in order. -/
structure Ordered (tree : Tree) : Prop where
  /-- The members of the tree. -/
  members : Settings.Ordered tree.members
  /-- The members of a section. -/
  inner : ∀ heading inner, tree.members.lookup heading = some inner →
    Settings.Ordered inner.members

/-- The tree is a table, and what stands under the heading is one as well. -/
structure Sectioned (tree : Tree) (heading : String) : Prop where
  /-- The whole is a table. -/
  isTable : tree.IsTable
  /-- The section is a table. -/
  inner : ∀ inner, tree.members.lookup heading = some inner → inner.IsTable

/-- A tree laid over an earlier one, if there is one. -/
def overAny (tree : Tree) : Option Tree → Tree
  | some earlier => tree.laidOver earlier
  | none => tree

/-! ## Layers of values -/

/-- The names of a table lead to the trees of their values. -/
theorem lookup_ofMembers (origin : Origin) (members : List (String × Value)) (name : String) :
    (ofMembers origin members).lookup name = (members.lookup name).map (ofValue origin) := by
  induction members with
  | nil => rfl
  | cons member rest ih =>
    obtain ⟨other, value⟩ := member
    rw [ofMembers, List.lookup_cons]
    by_cases hsame : name = other
    · rw [hsame, lookup_assign_same, beq_self_eq_true]
      rfl
    · rw [lookup_assign_other _ _ hsame, ih, beq_eq_false_iff_ne.mpr hsame]

/-- The members of a table are put in order. -/
theorem ordered_ofMembers (origin : Origin) (members : List (String × Value)) :
    Settings.Ordered (ofMembers origin members) := by
  induction members with
  | nil => exact List.Pairwise.nil
  | cons member rest ih => exact ih.assign

/-- The members of the tree of a value are those of the value. -/
theorem members_ofValue (origin : Origin) (value : Value) :
    (ofValue origin value).members = ofMembers origin value.members := by
  cases value <;> rfl

/-- The layer of a value is in order. -/
theorem ordered_ofValue (origin : Origin) (value : Value) : (ofValue origin value).Ordered := by
  have hmembers : ∀ value, Settings.Ordered (ofValue origin value).members := by
    intro value
    rw [members_ofValue]
    exact ordered_ofMembers origin value.members
  refine ⟨hmembers value, fun heading inner hi => ?_⟩
  rw [members_ofValue, lookup_ofMembers, Option.map_eq_some_iff] at hi
  obtain ⟨content, -, rfl⟩ := hi
  exact hmembers content

/-- The layer of a table is a table. -/
theorem isTable_ofValue {origin : Origin} {value : Value} (h : value.IsTable) :
    (ofValue origin value).IsTable := by
  obtain ⟨members, rfl⟩ := h
  exact ⟨origin, _, rfl⟩

/-- The layer of a table has a table under a heading if the table has. -/
theorem sectioned_ofValue {origin : Origin} {value : Value} {heading : String}
    (ht : value.IsTable) (hs : value.Sectioned heading) :
    (ofValue origin value).Sectioned heading := by
  refine ⟨isTable_ofValue ht, fun inner hi => ?_⟩
  rw [members_ofValue, lookup_ofMembers, Option.map_eq_some_iff] at hi
  obtain ⟨content, hc, rfl⟩ := hi
  exact isTable_ofValue (hs content hc)

/-- A setting in the layer of a value is the tree of the setting in the value. -/
theorem setting?_ofValue (origin : Origin) (value : Value) (heading name : String) :
    (ofValue origin value).setting? heading name =
      (value.setting? heading name).map (ofValue origin) := by
  rw [setting?, Value.setting?, members_ofValue, lookup_ofMembers]
  cases value.members.lookup heading with
  | none => rfl
  | some inner =>
    rw [Option.map_some, Option.bind_some, Option.bind_some, members_ofValue, lookup_ofMembers]

/-! ## Layers laid over each other -/

variable {tree later earlier : Tree} {heading name : String}

/-- Trees stay what they are where there is nothing below them. -/
theorem map_overAny_none (found : Option Tree) :
    (found.map fun tree => tree.overAny none).or none = found := by
  cases found <;> rfl

/-- A table stays one over any earlier tree. -/
theorem IsTable.overAny (h : tree.IsTable) (earlier : Option Tree) :
    (tree.overAny earlier).IsTable := by
  obtain ⟨origin, members, rfl⟩ := h
  cases earlier with
  | none => exact ⟨origin, members, rfl⟩
  | some earlier =>
    cases earlier with
    | leaf _ _ => exact ⟨origin, members, rfl⟩
    | table _ old => exact ⟨origin, _, rfl⟩

/-- What is no table takes nothing from an earlier tree. -/
theorem overAny_eq_self (h : ¬tree.IsTable) (earlier : Option Tree) :
    tree.overAny earlier = tree := by
  cases tree with
  | leaf origin value => cases earlier <;> rfl
  | table origin members => exact absurd ⟨origin, members, rfl⟩ h

/-- Where members are laid over earlier ones, each is laid over the one of its name. -/
theorem lookup_membersOver {members old : List (String × Tree)} (h : Settings.Ordered members)
    (name : String) :
    (membersOver members old).lookup name =
      ((members.lookup name).map fun tree => tree.overAny (old.lookup name)).or
        (old.lookup name) := by
  induction members generalizing old with
  | nil => rfl
  | cons member rest ih =>
    obtain ⟨other, tree⟩ := member
    have hstep : membersOver ((other, tree) :: rest) old =
        membersOver rest (assign other (tree.overAny (old.lookup other)) old) := by
      rw [membersOver]
      cases old.lookup other <;> rfl
    rw [hstep, ih (List.pairwise_cons.mp h).2, List.lookup_cons]
    by_cases hsame : name = other
    · rw [hsame, h.lookup_tail, lookup_assign_same, beq_self_eq_true]
      rfl
    · rw [lookup_assign_other _ _ hsame, beq_eq_false_iff_ne.mpr hsame]

/-- Members laid over members that are in order are in order. -/
theorem ordered_membersOver {members old : List (String × Tree)} (h : Settings.Ordered old) :
    Settings.Ordered (membersOver members old) := by
  induction members generalizing old with
  | nil => exact h
  | cons member rest ih =>
    rw [membersOver]
    exact ih h.assign

/-- The members of a table that is laid over a tree. -/
theorem lookup_laidOver (ht : later.IsTable) (ho : Settings.Ordered later.members)
    (earlier : Tree) (name : String) :
    (later.laidOver earlier).members.lookup name =
      ((later.members.lookup name).map fun tree => tree.overAny (earlier.members.lookup name)).or
        (earlier.members.lookup name) := by
  obtain ⟨origin, members, rfl⟩ := ht
  cases earlier with
  | table _ old => exact lookup_membersOver ho name
  | leaf _ _ =>
    exact (map_overAny_none (members.lookup name)).symm

/-- Members stay in order where one tree is laid over another. -/
theorem ordered_members_laidOver (hl : Settings.Ordered later.members)
    (he : Settings.Ordered earlier.members) :
    Settings.Ordered (later.laidOver earlier).members := by
  cases later with
  | leaf _ _ => exact List.Pairwise.nil
  | table origin members =>
    cases earlier with
    | leaf _ _ => exact hl
    | table _ old => exact ordered_membersOver he

/-- A layer over a layer is in order if both are. -/
theorem Ordered.laidOver (hl : later.Ordered) (ht : later.IsTable) (he : earlier.Ordered) :
    (later.laidOver earlier).Ordered := by
  refine ⟨ordered_members_laidOver hl.members he.members, fun heading inner hi => ?_⟩
  rw [lookup_laidOver ht hl.members, Option.or_eq_some_iff] at hi
  rcases hi with hi | ⟨-, hi⟩
  · obtain ⟨tree, hnew, rfl⟩ := Option.map_eq_some_iff.mp hi
    have htree := hl.inner heading tree hnew
    cases hold : earlier.members.lookup heading with
    | none => exact htree
    | some old => exact ordered_members_laidOver htree (he.inner heading old hold)
  · exact he.inner heading inner hi

/-- A layer over a layer has a table under a heading if both have. -/
theorem Sectioned.laidOver (hl : later.Sectioned heading) (ho : later.Ordered)
    (he : earlier.Sectioned heading) : (later.laidOver earlier).Sectioned heading := by
  refine ⟨hl.isTable.overAny (some earlier), fun inner hi => ?_⟩
  rw [lookup_laidOver hl.isTable ho.members, Option.or_eq_some_iff] at hi
  rcases hi with hi | ⟨-, hi⟩
  · obtain ⟨tree, hnew, rfl⟩ := Option.map_eq_some_iff.mp hi
    exact (hl.inner tree hnew).overAny _
  · exact he.inner inner hi

/-- A setting of a layer is laid over the same setting of the earlier layer; where the layer
does not have the setting, the earlier one stays. -/
theorem setting?_laidOver (hl : later.Sectioned heading) (ho : later.Ordered) (earlier : Tree)
    (name : String) :
    (later.laidOver earlier).setting? heading name =
      ((later.setting? heading name).map fun tree =>
        tree.overAny (earlier.setting? heading name)).or (earlier.setting? heading name) := by
  rw [setting?, setting?, setting?, lookup_laidOver hl.isTable ho.members]
  cases hnew : later.members.lookup heading with
  | none => rfl
  | some inner =>
    cases earlier.members.lookup heading with
    | none => exact (map_overAny_none (inner.members.lookup name)).symm
    | some old => exact lookup_laidOver (hl.inner inner hnew) (ho.inner heading inner hnew) old name

end Tree

end ReleasePage.Settings
