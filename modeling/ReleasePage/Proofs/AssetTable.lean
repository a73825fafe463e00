import Mathlib
import ReleasePage.Proofs.NaturalOrder
import ReleasePage.Release.Normalizer

/-!
# Tables of downloads

A table that is built by insertions holds its labels in strictly rising natural
order. Such a table is determined by its entries: inserting them one after the
other into the empty table builds it again.
-/

namespace ReleasePage

namespace AssetTable

/-- The table is the result of insertions into the empty table. -/
inductive Built : AssetTable → Prop where
  /-- No insertion. -/
  | empty : Built AssetTable.empty
  /-- One more insertion. -/
  | insert {table : AssetTable} (ht : Built table) (os : String) (asset : Asset) :
    Built (table.insert os asset)

/-- The label of the first entry is the smaller one. -/
def Before (a b : String × Asset) : Prop := naturalCompare a.1 b.1 = .lt

/-- The labels rise strictly. -/
def Sorted (entries : List (String × Asset)) : Prop := entries.Pairwise Before

/-- A label that is not smaller and not equal is greater. -/
theorem compare_gt_of_ne {a b : String} (hl : naturalCompare a b ≠ .lt) (hn : a ≠ b) :
    naturalCompare b a = .lt := by
  cases h : naturalCompare a b with
  | lt => exact absurd h hl
  | eq => exact absurd (Std.LawfulEqCmp.eq_of_compare h) hn
  | gt => exact Std.OrientedCmp.lt_of_gt h

/-- The label is absent exactly if no entry has it. -/
theorem get?_eq_none {table : AssetTable} {os : String} :
    table.get? os = none ↔ ∀ entry ∈ table.entries, entry.1 ≠ os := by
  rw [get?, List.lookup_eq_none_iff]
  constructor
  · intro h entry he
    have hb := h entry he
    rw [bne_iff_ne] at hb
    exact hb.symm
  · intro h entry he
    rw [bne_iff_ne]
    exact (h entry he).symm

/-- Replacing a download keeps the labels. -/
theorem map_fst_replace (os : String) (asset : Asset) (entries : List (String × Asset)) :
    (replace os asset entries).map (·.1) = entries.map (·.1) := by
  induction entries with
  | nil => rfl
  | cons entry rest ih =>
    by_cases h : entry.1 = os
    · rw [replace, if_pos h, List.map_cons, List.map_cons, h]
    · rw [replace, if_neg h, List.map_cons, List.map_cons, ih]

/-- Whether entries are sorted depends on their labels only. -/
theorem sorted_iff_labels {entries : List (String × Asset)} :
    Sorted entries ↔ (entries.map (·.1)).Pairwise fun a b => naturalCompare a b = .lt := by
  rw [List.pairwise_map]
  rfl

/-- Replacing a download keeps the order. -/
theorem sorted_replace {os : String} {asset : Asset} {entries : List (String × Asset)}
    (h : Sorted entries) : Sorted (replace os asset entries) := by
  rw [sorted_iff_labels, map_fst_replace, ← sorted_iff_labels]
  exact h

/-- The entries with labels smaller than `os` come first. -/
def Divided (os : String) (entries : List (String × Asset)) : Prop :=
  entries.Pairwise fun a b => naturalCompare b.1 os = .lt → naturalCompare a.1 os = .lt

/-- Sorted entries are divided by every label. -/
theorem Sorted.divided {entries : List (String × Asset)} (h : Sorted entries) (os : String) :
    Divided os entries :=
  h.imp fun hab hb => Std.TransCmp.lt_trans hab hb

/-- The only entry stands in the middle. -/
theorem eq_singleton_of_middle {entries : List (String × Asset)} {middle : String × Asset}
    (hm : entries[entries.length / 2]? = some middle) (hhalf : entries.length / 2 = 0) :
    entries = [middle] := by
  rw [hhalf] at hm
  cases entries with
  | nil => cases hm
  | cons first rest =>
    have hrest : rest = [] := by
      apply List.eq_nil_of_length_eq_zero
      rw [List.length_cons] at hhalf
      omega
    cases hm
    rw [hrest]

/-- The second half starts with the middle. -/
theorem drop_half {entries : List (String × Asset)} {half : Nat} {middle : String × Asset}
    (hm : entries[half]? = some middle) :
    entries.drop half = middle :: entries.drop (half + 1) := by
  obtain ⟨hl, hm⟩ := List.getElem?_eq_some_iff.mp hm
  rw [List.drop_eq_getElem_cons hl, hm]

/-- Halving finds the number of smaller labels. -/
theorem position_eq_countP {os : String} {entries : List (String × Asset)}
    (h : Divided os entries) :
    position os entries = entries.countP (naturalCompare ·.1 os = .lt) := by
  fun_induction position os entries with
  | case1 entries half hm =>
    have hlen := List.getElem?_eq_none_iff.mp hm
    have hnil : entries = [] := List.eq_nil_of_length_eq_zero (by omega)
    rw [hnil, List.countP_nil]
  | case2 entries half middle hm hhalf hlt =>
    rw [eq_singleton_of_middle hm hhalf, List.countP_singleton, if_pos (decide_eq_true hlt)]
  | case3 entries half middle hm hhalf hlt =>
    rw [eq_singleton_of_middle hm hhalf, List.countP_singleton, if_neg (by simpa using hlt)]
  | case4 entries half middle hm hhalf hlt ih =>
    have hlen := (List.getElem?_eq_some_iff.mp hm).1
    have hparts := List.take_append_drop half entries
    obtain ⟨-, hback, hcross⟩ := List.pairwise_append.mp (hparts.symm ▸ h)
    -- the middle label is smaller, and so are all labels in front of it
    have hfront : (entries.take half).countP (naturalCompare ·.1 os = .lt) = half := by
      rw [List.countP_eq_length.mpr, List.length_take, Nat.min_eq_left hlen.le]
      intro entry he
      refine decide_eq_true (hcross entry he middle ?_ hlt)
      rw [drop_half hm]
      exact List.mem_cons_self
    calc half + position os (entries.drop half)
        = (entries.take half).countP (naturalCompare ·.1 os = .lt) +
            (entries.drop half).countP (naturalCompare ·.1 os = .lt) := by rw [ih hback, hfront]
      _ = entries.countP (naturalCompare ·.1 os = .lt) := by rw [← List.countP_append, hparts]
  | case5 entries half middle hm hhalf hlt ih =>
    have hparts := List.take_append_drop (entries.length - half) entries
    have hfront : Divided os (entries.take (entries.length - half)) :=
      h.sublist (List.take_sublist _ _)
    have hlater : Divided os (middle :: entries.drop (half + 1)) := by
      rw [← drop_half hm]
      exact h.sublist (List.drop_sublist _ _)
    -- the middle label is not smaller, and no label behind it is
    have hback :
        (entries.drop (entries.length - half)).countP (naturalCompare ·.1 os = .lt) = 0 := by
      rw [List.countP_eq_zero]
      intro entry he hl
      have hmem : entry ∈ middle :: entries.drop (half + 1) := by
        rw [← drop_half hm]
        exact (List.drop_sublist_drop_left entries (by omega)).subset he
      rcases List.mem_cons.mp hmem with rfl | hmem
      · exact hlt (of_decide_eq_true hl)
      · exact hlt ((List.pairwise_cons.mp hlater).1 entry hmem (of_decide_eq_true hl))
    calc position os (entries.take (entries.length - half))
        = (entries.take (entries.length - half)).countP (naturalCompare ·.1 os = .lt) +
            (entries.drop (entries.length - half)).countP (naturalCompare ·.1 os = .lt) := by
          rw [ih hfront, hback, Nat.add_zero]
      _ = entries.countP (naturalCompare ·.1 os = .lt) := by rw [← List.countP_append, hparts]

/-- The first label is the only one. -/
theorem place_nil (os : String) (asset : Asset) : place os asset [] = [(os, asset)] := by
  rw [place, position_eq_countP List.Pairwise.nil, List.countP_nil, List.insertIdx_zero]

/-- A new label is placed behind a smaller one. -/
theorem place_cons_of_lt {os : String} {first : String × Asset} {rest : List (String × Asset)}
    (h : Divided os (first :: rest)) (hl : naturalCompare first.1 os = .lt) (asset : Asset) :
    place os asset (first :: rest) = first :: place os asset rest := by
  rw [place, place, position_eq_countP h, position_eq_countP h.of_cons, List.countP_cons,
    if_pos (decide_eq_true hl), List.insertIdx_succ_cons]

/-- A new label is placed in front of the first one that is not smaller. -/
theorem place_cons_of_not_lt {os : String} {first : String × Asset}
    {rest : List (String × Asset)} (h : Divided os (first :: rest))
    (hl : naturalCompare first.1 os ≠ .lt) (asset : Asset) :
    place os asset (first :: rest) = (os, asset) :: first :: rest := by
  have hnone : (first :: rest).countP (naturalCompare ·.1 os = .lt) = 0 := by
    rw [List.countP_eq_zero]
    intro entry he hlt
    rcases List.mem_cons.mp he with rfl | he
    · exact hl (of_decide_eq_true hlt)
    · exact hl ((List.pairwise_cons.mp h).1 entry he (of_decide_eq_true hlt))
  rw [place, position_eq_countP h, hnone, List.insertIdx_zero]

/-- The entries after a new one has been placed. -/
theorem mem_place {os : String} {asset : Asset} {entries : List (String × Asset)}
    (h : Divided os entries) {entry : String × Asset} :
    entry ∈ place os asset entries ↔ entry = (os, asset) ∨ entry ∈ entries := by
  rw [place, position_eq_countP h, List.mem_insertIdx List.countP_le_length]

/-- Placing a new label keeps the order. -/
theorem sorted_place {os : String} {asset : Asset} {entries : List (String × Asset)}
    (hn : ∀ entry ∈ entries, entry.1 ≠ os) (h : Sorted entries) :
    Sorted (place os asset entries) := by
  induction entries with
  | nil =>
    rw [place_nil]
    exact List.pairwise_singleton _ _
  | cons first rest ih =>
    obtain ⟨hf, hr⟩ := List.pairwise_cons.mp h
    by_cases hl : naturalCompare first.1 os = .lt
    · have hrest : Sorted (place os asset rest) :=
        ih (fun entry he => hn entry (List.mem_cons_of_mem _ he)) hr
      rw [place_cons_of_lt (h.divided os) hl]
      refine List.pairwise_cons.mpr ⟨?_, hrest⟩
      intro entry he
      rcases (mem_place (Sorted.divided hr os)).mp he with rfl | he
      · exact hl
      · exact hf entry he
    · have hg : naturalCompare os first.1 = .lt :=
        compare_gt_of_ne hl (hn first List.mem_cons_self)
      rw [place_cons_of_not_lt (h.divided os) hl]
      refine List.pairwise_cons.mpr ⟨?_, h⟩
      intro entry he
      rcases List.mem_cons.mp he with rfl | he
      · exact hg
      · exact Std.TransCmp.lt_trans hg (hf entry he)

/-- A label that is present keeps its place. -/
theorem exchange_of_some {table : AssetTable} {os : String} {old : Asset}
    (h : table.get? os = some old) (asset : Asset) :
    table.exchange os asset = (some old, ⟨replace os asset table.entries⟩) := by
  rw [exchange, h]

/-- A new label gets a place of its own. -/
theorem exchange_of_none {table : AssetTable} {os : String} (h : table.get? os = none)
    (asset : Asset) : table.exchange os asset = (none, ⟨place os asset table.entries⟩) := by
  rw [exchange, h]

/-- An insertion keeps the order. -/
theorem sorted_insert {table : AssetTable} (h : Sorted table.entries) (os : String)
    (asset : Asset) : Sorted (table.insert os asset).entries := by
  rw [insert]
  cases hg : table.get? os with
  | none =>
    rw [exchange_of_none hg]
    exact sorted_place (get?_eq_none.mp hg) h
  | some old =>
    rw [exchange_of_some hg]
    exact sorted_replace h

/-- The entries of a table that was built by insertions are sorted. -/
theorem Built.sorted {table : AssetTable} (h : Built table) : Sorted table.entries := by
  induction h with
  | empty => exact List.Pairwise.nil
  | insert _ os asset ih => exact sorted_insert ih os asset

/-- A label greater than all others is placed at the end. -/
theorem place_of_all_lt {os : String} {asset : Asset} {entries : List (String × Asset)}
    (h : ∀ entry ∈ entries, naturalCompare entry.1 os = .lt) :
    place os asset entries = entries ++ [(os, asset)] := by
  have hdivided : Divided os entries :=
    List.pairwise_of_forall_mem_list fun entry he _ _ _ => h entry he
  have hall : entries.countP (naturalCompare ·.1 os = .lt) = entries.length :=
    List.countP_eq_length.mpr fun entry he => decide_eq_true (h entry he)
  rw [place, position_eq_countP hdivided, hall, List.insertIdx_length_self]

/-- Inserting a label greater than all others adds it at the end. -/
theorem insert_of_all_lt {entries : List (String × Asset)} {entry : String × Asset}
    (h : ∀ other ∈ entries, Before other entry) :
    AssetTable.insert ⟨entries⟩ entry.1 entry.2 = ⟨entries ++ [entry]⟩ := by
  have hn : AssetTable.get? ⟨entries⟩ entry.1 = none := by
    rw [get?_eq_none]
    intro other ho he
    have hlt := h other ho
    rw [Before, he] at hlt
    exact Std.OrientedCmp.not_lt_of_lt hlt hlt
  rw [insert, exchange_of_none hn, place_of_all_lt h]

/-- Inserting sorted entries behind smaller ones adds them in order. -/
theorem foldl_insert_append (front : List (String × Asset)) {entries : List (String × Asset)}
    (h : Sorted (front ++ entries)) :
    entries.foldl (fun table entry => table.insert entry.1 entry.2) ⟨front⟩ =
      (⟨front ++ entries⟩ : AssetTable) := by
  induction entries generalizing front with
  | nil => rw [List.foldl_nil, List.append_nil]
  | cons entry entries ih =>
    have hlt : ∀ other ∈ front, Before other entry := fun other ho =>
      (List.pairwise_append.mp h).2.2 other ho entry List.mem_cons_self
    have happ : front ++ entry :: entries = front ++ [entry] ++ entries := by
      rw [List.append_assoc, List.singleton_append]
    rw [List.foldl_cons, insert_of_all_lt hlt, happ]
    exact ih (front ++ [entry]) (happ ▸ h)

/-- Inserting the entries of a built table into the empty table builds it
again. -/
theorem Built.foldl_insert {table : AssetTable} (h : Built table) :
    table.entries.foldl (fun table entry => table.insert entry.1 entry.2) .empty = table :=
  foldl_insert_append [] h.sorted

end AssetTable

namespace Normalizer

/-- Adding a file goes on building the table. -/
theorem built_addAsset {classifier : Classifier} {table next : AssetTable} {asset : AssetRecord}
    (ht : table.Built) (h : addAsset classifier table asset = .ok next) : next.Built := by
  rw [addAsset] at h
  split at h
  · split at h
    · cases h
      exact ht.insert _ _
    · cases h
  · cases h
    exact ht

/-- Adding files goes on building the table. -/
theorem built_addAssets {classifier : Classifier} {table last : AssetTable}
    {assets : List AssetRecord} (ht : table.Built)
    (h : addAssets classifier table assets = .ok last) : last.Built := by
  induction assets generalizing table with
  | nil =>
    rw [addAssets] at h
    cases h
    exact ht
  | cons asset assets ih =>
    rw [addAssets] at h
    split at h
    · rename_i next hn
      exact ih (built_addAsset ht hn) h
    · cases h

/-- The files of a normalized record were added. -/
theorem addAssets_of_normalize {normalizer : Normalizer} {record : ReleaseRecord}
    {release : Release} (h : normalizer.normalize record = .ok release) :
    addAssets normalizer.classifier .empty record.assets = .ok release.assets := by
  rw [normalize] at h
  split at h
  · split at h
    · cases h
    · split at h
      · cases h
      · split at h
        · cases h
        · rename_i assets ha
          cases h
          exact ha
  · cases h

/-- The table of a normalized release is built by insertions. -/
theorem built_normalize {normalizer : Normalizer} {record : ReleaseRecord} {release : Release}
    (h : normalizer.normalize record = .ok release) : release.assets.Built :=
  built_addAssets .empty (addAssets_of_normalize h)

/-- The table of a release that was read from a response is built by
insertions. -/
theorem built_release {normalizer : Normalizer} {input : Text.Bytes} {release : Release}
    (h : normalizer.release input = .ok release) : release.assets.Built := by
  rw [Normalizer.release] at h
  split at h
  · cases h
  · exact built_normalize h

end Normalizer

end ReleasePage
