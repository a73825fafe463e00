import Mathlib
import ReleasePage.Proofs.Settings.Layering
import ReleasePage.Proofs.Settings.VariableName

/-!
# The layer of the variables

The layer of the environment variables is made of the layers of single settings, one laid
over the other. It has what the variables give and nothing else: a setting that is in the
layer, and is no table, is the value of one of the variables for it, and a setting that is
not there has no variable.
-/

namespace ReleasePage.Settings

variable {heading key text : String} {path : List String} {value : Value}

/-- A value at the end of a path is in a table. -/
theorem isTable_nested (hne : path ≠ []) (value : Value) : (nested path value).IsTable := by
  cases path with
  | nil => exact absurd rfl hne
  | cons first rest => exact ⟨_, rfl⟩

/-- The table at the start of a path has only the first name of the path. -/
theorem lookup_nested {name : String} {entry : Value} (hne : path ≠ [])
    (h : (nested path value).members.lookup name = some entry) :
    ∃ rest, path = name :: rest ∧ entry = nested rest value := by
  cases path with
  | nil => exact absurd rfl hne
  | cons first rest =>
    change List.lookup name [(first, nested rest value)] = some entry at h
    rw [List.lookup_cons] at h
    split at h
    · next hname =>
      rw [beq_iff_eq.mp hname]
      exact ⟨rest, rfl, (Option.some.inj h).symm⟩
    · cases h

/-- The only setting at the end of a path is the one that the path leads to or through. -/
theorem setting?_nested {entry : Value} (hne : path ≠ []) (hsection : path ≠ [heading])
    (h : (nested path value).setting? heading key = some entry) :
    ∃ rest, path = heading :: key :: rest ∧ entry = nested rest value := by
  obtain ⟨inner, hi, he⟩ := Option.bind_eq_some_iff.mp h
  obtain ⟨rest, rfl, rfl⟩ := lookup_nested hne hi
  obtain ⟨more, rfl, rfl⟩ := lookup_nested (fun hr => hsection (by rw [hr])) he
  exact ⟨more, rfl, rfl⟩

/-- A table stands under every heading that is not the end of the path. -/
theorem sectioned_nested (hne : path ≠ []) (hsection : path ≠ [heading]) (value : Value) :
    (nested path value).Sectioned heading := by
  intro inner hi
  obtain ⟨rest, rfl, rfl⟩ := lookup_nested hne hi
  exact isTable_nested (fun hr => hsection (by rw [hr])) value

/-- A path of two names leads to the setting of these names. -/
theorem setting?_nested_pair (heading key : String) (value : Value) :
    (nested [heading, key] value).setting? heading key = some value := by
  simp [nested, Value.setting?, Value.members]

/-- What a tree has under the headings of the sections comes from these texts, of which none
is left out. -/
structure Gathers (tree : Tree) (texts : List (List String × String)) : Prop where
  /-- The members are in order. -/
  ordered : tree.Ordered
  /-- What stands under a heading is a table. -/
  sectioned : ∀ heading ∈ headings, tree.Sectioned heading
  /-- A setting that is not there has no text. -/
  missing : ∀ heading ∈ headings, ∀ key, tree.setting? heading key = none →
    ∀ text, ([heading, key], text) ∉ texts
  /-- A setting that is there, and is no table, is the value of one of its texts. -/
  present : ∀ heading ∈ headings, ∀ key inner, tree.setting? heading key = some inner →
    ¬inner.IsTable → ∃ text value, ([heading, key], text) ∈ texts ∧
      variableValue? text = some value ∧ inner = Tree.ofValue .variables value

/-- The layer without settings gathers no texts. -/
theorem gathers_nil : Gathers (.table .variables []) [] where
  ordered := ⟨List.Pairwise.nil, fun _ _ h => by cases h⟩
  sectioned _ _ := ⟨⟨_, _, rfl⟩, fun _ h => by cases h⟩
  missing _ _ _ _ _ := List.not_mem_nil
  present _ _ _ _ h := by cases h

/-- A layer with one more setting laid over it gathers one text more. -/
theorem Gathers.laidOver {tree layer : Tree} {texts : List (List String × String)}
    (h : Gathers tree texts) (hne : path ≠ []) (hsection : ∀ heading ∈ headings, path ≠ [heading])
    (hl : settingLayer? path text = some layer) :
    Gathers (layer.laidOver tree) (texts ++ [(path, text)]) := by
  obtain ⟨value, hv, rfl⟩ := Option.map_eq_some_iff.mp hl
  have hordered := Tree.ordered_ofValue .variables (nested path value)
  have htable := isTable_nested hne value
  have hsectioned : ∀ heading ∈ headings,
      (Tree.ofValue .variables (nested path value)).Sectioned heading := fun heading hh =>
    Tree.sectioned_ofValue htable (sectioned_nested hne (hsection heading hh) value)
  refine ⟨hordered.laidOver (Tree.isTable_ofValue htable) h.ordered,
    fun heading hh => (hsectioned heading hh).laidOver hordered (h.sectioned heading hh), ?_, ?_⟩
  · intro heading hh key hnone other hm
    rw [Tree.setting?_laidOver (hsectioned heading hh) hordered, Option.or_eq_none_iff,
      Option.map_eq_none_iff, Tree.setting?_ofValue, Option.map_eq_none_iff] at hnone
    rcases List.mem_append.mp hm with hm | hm
    · exact h.missing heading hh key hnone.2 other hm
    · obtain ⟨rfl, -⟩ := Prod.mk.inj (List.mem_singleton.mp hm)
      rw [setting?_nested_pair] at hnone
      cases hnone.1
  · intro heading hh key inner hi ht
    rw [Tree.setting?_laidOver (hsectioned heading hh) hordered, Option.or_eq_some_iff] at hi
    rcases hi with hi | ⟨-, hi⟩
    · obtain ⟨new, hnew, rfl⟩ := Option.map_eq_some_iff.mp hi
      have hleaf : ¬new.IsTable := mt (fun ht => ht.overAny _) ht
      rw [Tree.setting?_ofValue, Option.map_eq_some_iff] at hnew
      obtain ⟨entry, he, rfl⟩ := hnew
      obtain ⟨rest, rfl, rfl⟩ := setting?_nested hne (hsection heading hh) he
      cases rest with
      | nil =>
        exact ⟨text, value, List.mem_append_right _ (List.mem_singleton_self _), hv,
          Tree.overAny_eq_self hleaf _⟩
      | cons first rest =>
        exact absurd (Tree.isTable_ofValue (isTable_nested (List.cons_ne_nil first rest) value)) hleaf
    · obtain ⟨other, found, hm, hfound⟩ := h.present heading hh key inner hi ht
      exact ⟨other, found, List.mem_append_left _ hm, hfound⟩

/-- The layers of settings laid one over the other gather all their texts. -/
theorem Gathers.foldl {tree : Tree} {before texts : List (List String × String)}
    {layers : List Tree} (h : Gathers tree before)
    (hpaths : ∀ entry ∈ texts, entry.1 ≠ [] ∧ ∀ heading ∈ headings, entry.1 ≠ [heading])
    (hl : (texts.mapM fun (path, text) => settingLayer? path text) = some layers) :
    Gathers (Tree.ofLayers tree layers) (before ++ texts) := by
  induction texts generalizing tree before layers with
  | nil =>
    rw [List.mapM_nil] at hl
    cases hl
    rw [List.append_nil]
    exact h
  | cons entry rest ih =>
    rw [List.mapM_cons] at hl
    obtain ⟨layer, hlayer, hl⟩ := Option.bind_eq_some_iff.mp hl
    obtain ⟨others, hothers, hl⟩ := Option.bind_eq_some_iff.mp hl
    cases hl
    obtain ⟨⟨hne, hsection⟩, hrest⟩ := List.forall_mem_cons.mp hpaths
    have hstep := ih (h.laidOver hne hsection hlayer) hrest hothers
    rw [List.append_assoc] at hstep
    exact hstep

/-- The layer of the variables gathers the texts of the settings they give. -/
theorem gathers_of_variableLayer? {environment : Environment} {tree : Tree}
    (hr : ∀ entry ∈ environment, RegularName entry.1)
    (h : variableLayer? environment = some tree) : Gathers tree (settingTexts environment) := by
  obtain ⟨layers, hl, htree⟩ := Option.bind_eq_some_iff.mp h
  cases htree
  refine gathers_nil.foldl (fun entry he => ?_) hl
  obtain ⟨name, hm, hp⟩ := mem_settingTexts.mp he
  refine ⟨fun hnil => ?_, fun heading hh => (hr _ hm).ne_heading hp hh⟩
  rw [hnil] at hp
  exact settingPath?_ne_nil name hp

end ReleasePage.Settings
