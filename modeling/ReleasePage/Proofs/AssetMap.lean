import Mathlib
import ReleasePage.Proofs.AssetTable
import ReleasePage.Proofs.Json.Object
import ReleasePage.Proofs.RoundTrip

/-!
# Tables of downloads as maps

A table that comes about by reading and by insertions is a finite map from labels to
downloads. Its labels rise strictly, an insertion changes the download of one label
only, and reading an object keeps the last download of each label. Since the labels
rise, a table is determined by its downloads: neither the order of insertions nor the
order of the members of an object can be told from it.
-/

namespace ReleasePage

open ReleasePage.Json (Blank Closed MemberText ObjectText)
open ReleasePage.Text (Bytes)

namespace AssetTable

/-- The table can come about: it is empty or was read, alone or inside a larger text,
and downloads were put into it since. -/
inductive Reachable : AssetTable → Prop where
  /-- The empty table. -/
  | empty : Reachable AssetTable.empty
  /-- A table that was read. -/
  | read {input rest : Bytes} {table : AssetTable}
    (h : AssetTable.decoder input = .ok (table, rest)) : Reachable table
  /-- One more insertion. -/
  | exchange {table : AssetTable} (ht : Reachable table) (os : String) (asset : Asset) :
    Reachable (table.exchange os asset).2

/-- The table with all entries inserted, one after the other. -/
def insertAll (table : AssetTable) (entries : List (String × Asset)) : AssetTable :=
  entries.foldl (fun table entry => table.insert entry.1 entry.2) table

/-- The download of the last entry with a label. -/
def last? (os : String) (entries : List (String × Asset)) : Option Asset :=
  entries.reverse.lookup os

/-- Looking up a label among entries with a first one. -/
theorem lookup_entry (os : String) (entry : String × Asset) (entries : List (String × Asset)) :
    (entry :: entries).lookup os = if os = entry.1 then some entry.2 else entries.lookup os := by
  rw [List.lookup_cons]
  by_cases h : os = entry.1
  · rw [if_pos h, beq_iff_eq.mpr h]
  · rw [if_neg h, beq_eq_false_iff_ne.mpr h]

/-- The label of a replaced download leads to the new one. -/
theorem lookup_replace_self {os : String} {entries : List (String × Asset)} {old : Asset}
    (h : entries.lookup os = some old) (asset : Asset) :
    (replace os asset entries).lookup os = some asset := by
  induction entries with
  | nil => cases h
  | cons entry entries ih =>
    by_cases he : entry.1 = os
    · rw [replace, if_pos he, lookup_entry, if_pos rfl]
    · rw [lookup_entry, if_neg (Ne.symm he)] at h
      rw [replace, if_neg he, lookup_entry, if_neg (Ne.symm he), ih h]

/-- All other labels lead to what they led to before. -/
theorem lookup_replace_of_ne {os other : String} (h : other ≠ os) (asset : Asset)
    (entries : List (String × Asset)) :
    (replace os asset entries).lookup other = entries.lookup other := by
  induction entries with
  | nil => rfl
  | cons entry entries ih =>
    by_cases he : entry.1 = os
    · rw [replace, if_pos he, lookup_entry, lookup_entry, if_neg h, he, if_neg h]
    · rw [replace, if_neg he, lookup_entry, lookup_entry, ih]

/-- Where a new download is placed, its label leads to it and all other labels lead to
what they led to before. -/
theorem lookup_place {os : String} {entries : List (String × Asset)} (hd : Divided os entries)
    (hn : ∀ entry ∈ entries, entry.1 ≠ os) (asset : Asset) (other : String) :
    (place os asset entries).lookup other =
      if other = os then some asset else entries.lookup other := by
  induction entries with
  | nil =>
    rw [place_nil, lookup_entry]
  | cons entry entries ih =>
    by_cases hl : naturalCompare entry.1 os = .lt
    · have hrest := ih hd.of_cons fun entry he => hn entry (List.mem_cons_of_mem _ he)
      have hne : entry.1 ≠ os := hn entry List.mem_cons_self
      rw [place_cons_of_lt hd hl, lookup_entry, lookup_entry, hrest]
      by_cases ho : other = os
      · rw [if_pos ho, if_pos ho, ho, if_neg hne.symm]
      · rw [if_neg ho, if_neg ho]
    · rw [place_cons_of_not_lt hd hl, lookup_entry]

/-- An insertion gives back the download that the label had before. -/
theorem fst_exchange (table : AssetTable) (os : String) (asset : Asset) :
    (table.exchange os asset).1 = table.get? os := by
  cases h : table.get? os with
  | none => rw [exchange_of_none h]
  | some old => rw [exchange_of_some h]

/-- An insertion changes the download of its label only. -/
theorem get?_exchange {table : AssetTable} (h : Sorted table.entries) (os : String)
    (asset : Asset) (other : String) :
    (table.exchange os asset).2.get? other =
      if other = os then some asset else table.get? other := by
  cases hg : table.get? os with
  | none =>
    rw [exchange_of_none hg]
    exact lookup_place (h.divided os) (get?_eq_none.mp hg) asset other
  | some old =>
    rw [exchange_of_some hg]
    by_cases ho : other = os
    · rw [if_pos ho, ho]
      exact lookup_replace_self hg asset
    · rw [if_neg ho]
      exact lookup_replace_of_ne ho asset table.entries

/-- An insertion adds an entry exactly if the label is new. -/
theorem size_exchange {table : AssetTable} (h : Sorted table.entries) (os : String)
    (asset : Asset) :
    (table.exchange os asset).2.size =
      if table.get? os = none then table.size + 1 else table.size := by
  cases hg : table.get? os with
  | none =>
    rw [exchange_of_none hg, if_pos rfl, size, place, position_eq_countP (h.divided os),
      List.length_insertIdx_of_le_length List.countP_le_length, size]
  | some old =>
    have hlen := congrArg List.length (map_fst_replace os asset table.entries)
    rw [List.length_map, List.length_map] at hlen
    rw [exchange_of_some hg, if_neg (Option.some_ne_none old), size, hlen, size]

/-- Insertions one after the other leave the last download of each label. -/
theorem get?_insertAll {table : AssetTable} (h : Sorted table.entries)
    (entries : List (String × Asset)) (os : String) :
    (table.insertAll entries).get? os = (last? os entries).or (table.get? os) := by
  induction entries generalizing table with
  | nil => rfl
  | cons entry entries ih =>
    have hstep := ih (sorted_insert h entry.1 entry.2)
    rw [insertAll, List.foldl_cons, ← insertAll, hstep, insert, get?_exchange h, last?, last?,
      List.reverse_cons, List.lookup_append, lookup_entry, List.lookup_nil, Option.or_assoc]
    by_cases ho : os = entry.1
    · rw [if_pos ho, if_pos ho, Option.some_or]
    · rw [if_neg ho, if_neg ho, Option.none_or]

/-- Files of records do not look behind their value. -/
theorem closed_asset : Closed Asset.record.decoder :=
  Json.closed_record ⟨Json.closed_text.peeking, Json.closed_text.peeking,
    Json.closed_text.peeking, Json.closed_text.peeking, trivial⟩

/-- A table is read from the objects whose members are downloads, by inserting the
members in order. -/
theorem decoder_eq_ok {input rest : Bytes} {table : AssetTable} :
    AssetTable.decoder input = .ok (table, rest) ↔
      ∃ (space : Bytes) (members : List (MemberText Asset.record.decoder)) (text : Bytes),
        Blank space ∧ ObjectText Asset.record.decoder members text ∧
        input = space ++ (text ++ rest) ∧
        table = AssetTable.empty.insertAll (members.map MemberText.entry) := by
  constructor
  · intro h
    obtain ⟨space, members, text, hs, ht, he, hl⟩ := Json.objectText_of_table closed_asset h
    refine ⟨space, members, text, hs, ht, he, ?_⟩
    rw [insertAll, List.foldl_map, hl]
    rfl
  · rintro ⟨space, members, text, hs, ht, rfl, rfl⟩
    rw [decoder, Json.table_of_objectText closed_asset ht _ _ hs, insertAll, List.foldl_map]
    rfl

/-- Inserting entries goes on building a table. -/
theorem Built.insertAll {table : AssetTable} (h : Built table) (entries : List (String × Asset)) :
    Built (table.insertAll entries) := by
  induction entries generalizing table with
  | nil => exact h
  | cons entry entries ih => exact ih (h.insert entry.1 entry.2)

/-- A table that can come about is built by insertions. -/
theorem Reachable.built {table : AssetTable} (h : Reachable table) : Built table := by
  induction h with
  | empty => exact .empty
  | read h =>
    obtain ⟨-, members, -, -, -, -, rfl⟩ := decoder_eq_ok.mp h
    exact Built.empty.insertAll _
  | exchange _ os asset ih => exact ih.insert os asset

/-- Labels that rise strictly are different. -/
theorem Sorted.nodup_labels {entries : List (String × Asset)} (h : Sorted entries) :
    (entries.map (·.1)).Nodup := by
  refine (sorted_iff_labels.mp h).imp fun {a b} hab he => ?_
  rw [he] at hab
  exact Std.OrientedCmp.not_lt_of_lt hab hab

/-- Every table that can come about is a map with rising labels. An insertion gives
back the old download of its label, changes no other label and adds an entry exactly
if the label is new. The texts that a table can be read from are the objects whose
members are downloads, and reading one keeps the last download of each label. -/
theorem table_is_sorted_map :
    (∀ table, Reachable table →
      (table.keys.Pairwise fun a b => naturalCompare a b = .lt) ∧ table.keys.Nodup ∧
      ∀ os asset,
        (table.exchange os asset).1 = table.get? os ∧
        (table.exchange os asset).2.get? os = some asset ∧
        (∀ other, other ≠ os → (table.exchange os asset).2.get? other = table.get? other) ∧
        (table.exchange os asset).2.size =
          if table.get? os = none then table.size + 1 else table.size) ∧
    (∀ input rest table, AssetTable.decoder input = .ok (table, rest) →
      ∃ space members text, Blank space ∧ ObjectText Asset.record.decoder members text ∧
        input = space ++ (text ++ rest)) ∧
    ∀ space members text rest, Blank space → ObjectText Asset.record.decoder members text →
      ∃ table, AssetTable.decoder (space ++ (text ++ rest)) = .ok (table, rest) ∧
        ∀ os, table.get? os = last? os (members.map MemberText.entry) := by
  refine ⟨fun table h => ?_, fun input rest table h => ?_, fun space members text rest hs ht => ?_⟩
  · have hsorted := h.built.sorted
    refine ⟨sorted_iff_labels.mp hsorted, hsorted.nodup_labels, fun os asset => ?_⟩
    refine ⟨fst_exchange table os asset, ?_, fun other ho => ?_, size_exchange hsorted os asset⟩
    · rw [get?_exchange hsorted, if_pos rfl]
    · rw [get?_exchange hsorted, if_neg ho]
  · obtain ⟨space, members, text, hs, ht, he, -⟩ := decoder_eq_ok.mp h
    exact ⟨space, members, text, hs, ht, he⟩
  · refine ⟨_, decoder_eq_ok.mpr ⟨space, members, text, hs, ht, rfl, rfl⟩, fun os => ?_⟩
    rw [get?_insertAll Built.empty.sorted]
    exact Option.or_none

/-- A download as it is written in one line under its label. -/
def compactMember (os : String) (asset : Asset) : MemberText Asset.record.decoder where
  key := os
  value := asset
  front := []
  quoted := (Json.encoded (Json.quotedText os)).tail
  gap := []
  body := Json.encoded asset.tree.compact
  back := []
  blank_front := Json.blank_nil
  reads_key := by
    obtain ⟨tail, he, hr⟩ := Json.readText_quotedText os []
    rw [List.append_nil] at he
    rw [he, List.tail_cons, hr]
  blank_gap := Json.blank_nil
  reads_value := by
    have hr := asset.reads [] _ [] Json.blank_nil (Json.written_compact asset.tree)
      Json.delimited_nil
    rwa [List.append_nil, List.nil_append] at hr
  blank_back := Json.blank_nil

/-- A label that is written twice, with a smaller one between, leads to what is written
last, and the labels of the table rise. -/
theorem table_is_sorted_map_sample :
    ∃ text table, AssetTable.decoder text = .ok (table, []) ∧
      table.get? "CentOS 10" = some ⟨"x64", "c", "3 MB", "u"⟩ ∧
      table.get? "CentOS 7" = some ⟨"x64", "b", "2 MB", "u"⟩ ∧
      (table.keys.Pairwise fun a b => naturalCompare a b = .lt) ∧
      (table.exchange "CentOS 7" ⟨"ARM", "d", "4 MB", "u"⟩).1 =
        some ⟨"x64", "b", "2 MB", "u"⟩ := by
  have ht := ObjectText.members (compactMember "CentOS 10" ⟨"x64", "a", "1 MB", "u"⟩)
    [compactMember "CentOS 7" ⟨"x64", "b", "2 MB", "u"⟩,
      compactMember "CentOS 10" ⟨"x64", "c", "3 MB", "u"⟩]
  obtain ⟨table, hread, hlast⟩ := table_is_sorted_map.2.2 [] _ _ [] Json.blank_nil ht
  obtain ⟨hrising, -, hexchange⟩ := table_is_sorted_map.1 table (.read hread)
  have hseven : table.get? "CentOS 7" = some ⟨"x64", "b", "2 MB", "u"⟩ := by
    rw [hlast]
    rfl
  refine ⟨_, table, hread, by rw [hlast]; rfl, hseven, hrising, ?_⟩
  rw [(hexchange _ _).1, hseven]

/-- Among entries with different labels a label leads to its entry. -/
theorem lookup_eq_some_iff_mem {entries : List (String × Asset)}
    (h : (entries.map (·.1)).Nodup) {entry : String × Asset} :
    entries.lookup entry.1 = some entry.2 ↔ entry ∈ entries := by
  induction entries with
  | nil => simp
  | cons first entries ih =>
    obtain ⟨hf, hr⟩ := List.nodup_cons.mp h
    rw [lookup_entry, List.mem_cons]
    by_cases he : entry.1 = first.1
    · have hnot : entry ∉ entries := fun hm => hf (List.mem_map.mpr ⟨entry, hm, he⟩)
      rw [if_pos he, Option.some_inj, or_iff_left hnot]
      exact ⟨fun hv => Prod.ext he hv.symm, fun hv => by rw [hv]⟩
    · rw [if_neg he, ih hr, or_iff_right fun hv => he (by rw [hv])]

/-- Sorted entries are determined by what the labels lead to. -/
theorem Sorted.eq_of_lookup {first second : List (String × Asset)} (hf : Sorted first)
    (hs : Sorted second) (h : ∀ os, first.lookup os = second.lookup os) : first = second := by
  have hmem : ∀ entry, entry ∈ first ↔ entry ∈ second := by
    intro entry
    rw [← lookup_eq_some_iff_mem hf.nodup_labels, ← lookup_eq_some_iff_mem hs.nodup_labels, h]
  have hperm : first.Perm second :=
    (List.perm_ext_iff_of_nodup hf.nodup_labels.of_map hs.nodup_labels.of_map).mpr hmem
  -- two orders of the same entries that both rise cannot differ
  refine hperm.eq_of_pairwise (fun a b _ _ hab hba => ?_) hf hs
  exact absurd hba (Std.OrientedCmp.not_lt_of_lt hab)

/-- Tables that were built by insertions are equal if they hold the same
downloads. -/
theorem Built.eq_of_get? {first second : AssetTable} (hf : Built first) (hs : Built second)
    (h : ∀ os, first.get? os = second.get? os) : first = second :=
  congrArg AssetTable.mk (hf.sorted.eq_of_lookup hs.sorted h)

/-- Entries with different labels have the same last downloads in every order. -/
theorem last?_perm {first second : List (String × Asset)} (hp : first.Perm second)
    (hn : (first.map (·.1)).Nodup) (os : String) : last? os first = last? os second := by
  have hf : (first.reverse.map (·.1)).Nodup := by
    rw [List.map_reverse, List.nodup_reverse]
    exact hn
  have hs : (second.reverse.map (·.1)).Nodup := by
    rw [List.map_reverse, List.nodup_reverse]
    exact (hp.map _).nodup_iff.mp hn
  refine Option.ext fun asset => ?_
  have hmem : (os, asset) ∈ first.reverse ↔ (os, asset) ∈ second.reverse := by
    rw [List.mem_reverse, List.mem_reverse, hp.mem_iff]
  exact (lookup_eq_some_iff_mem hf).trans (hmem.trans (lookup_eq_some_iff_mem hs).symm)

/-- Insertions that leave the same last downloads leave the same table. -/
theorem Built.insertAll_eq {table : AssetTable} (h : Built table)
    {first second : List (String × Asset)} (hl : ∀ os, last? os first = last? os second) :
    table.insertAll first = table.insertAll second := by
  refine (h.insertAll first).eq_of_get? (h.insertAll second) fun os => ?_
  rw [get?_insertAll h.sorted, get?_insertAll h.sorted, hl]

/-- Tables that can come about are equal, and are written alike, if they hold the same
downloads. Insertions with the same last downloads lead to the same table, and objects
with the same members in another order, without a label twice, are read as the same
table. -/
theorem table_is_canonical :
    (∀ first second, Reachable first → Reachable second →
      (∀ os, first.get? os = second.get? os) →
      first = second ∧ first.tree.compactText = second.tree.compactText ∧
        first.tree.prettyText = second.tree.prettyText) ∧
    (∀ table, Reachable table → ∀ first second,
      (∀ os, last? os first = last? os second) →
      table.insertAll first = table.insertAll second) ∧
    ∀ members members' text text', ObjectText Asset.record.decoder members text →
      ObjectText Asset.record.decoder members' text' →
      (members.map MemberText.entry).Perm (members'.map MemberText.entry) →
      (members.map MemberText.key).Nodup →
      ∃ table, ∀ space rest, Blank space →
        AssetTable.decoder (space ++ (text ++ rest)) = .ok (table, rest) ∧
        AssetTable.decoder (space ++ (text' ++ rest)) = .ok (table, rest) := by
  refine ⟨fun first second hf hs h => ?_, fun table h first second hl => ?_,
    fun members members' text text' ht ht' hp hn => ?_⟩
  · have he := hf.built.eq_of_get? hs.built h
    rw [he]
    exact ⟨rfl, rfl, rfl⟩
  · exact h.built.insertAll_eq hl
  · have hlabels : ((members.map MemberText.entry).map (·.1)).Nodup := by
      rw [List.map_map]
      exact hn
    have he := Built.empty.insertAll_eq (last?_perm hp hlabels)
    refine ⟨AssetTable.empty.insertAll (members.map MemberText.entry),
      fun space rest hs => ⟨?_, ?_⟩⟩
    · exact decoder_eq_ok.mpr ⟨space, members, text, hs, ht, rfl, rfl⟩
    · exact decoder_eq_ok.mpr ⟨space, members', text', hs, ht', rfl, he⟩

/-- Two downloads give the same table in either order of insertion, with a repetition,
and in either order of the members of an object. -/
theorem table_is_canonical_sample :
    let a : String × Asset := ("centos 7", ⟨"x64", "a", "1 MB", "u"⟩)
    let b : String × Asset := ("CentOS 7", ⟨"x64", "b", "2 MB", "u"⟩)
    AssetTable.empty.insertAll [a, b] = AssetTable.empty.insertAll [b, a, b] ∧
    (AssetTable.empty.insertAll [a, b]).tree.compactText =
      (AssetTable.empty.insertAll [b, a]).tree.compactText ∧
    ∃ first second table, first ≠ second ∧ AssetTable.decoder first = .ok (table, []) ∧
      AssetTable.decoder second = .ok (table, []) := by
  intro a b
  have hlast : ∀ os, last? os [a, b] = last? os [b, a, b] := by
    intro os
    simp only [last?, List.reverse_cons, List.reverse_nil, List.nil_append, List.cons_append,
      lookup_entry, List.lookup_nil]
    split_ifs <;> rfl
  have hab : Reachable (AssetTable.empty.insertAll [a, b]) :=
    (Reachable.empty.exchange a.1 a.2).exchange b.1 b.2
  have hba : Reachable (AssetTable.empty.insertAll [b, a]) :=
    (Reachable.empty.exchange b.1 b.2).exchange a.1 a.2
  have hget : ∀ os, (AssetTable.empty.insertAll [a, b]).get? os =
      (AssetTable.empty.insertAll [b, a]).get? os := by
    intro os
    rw [get?_insertAll Built.empty.sorted, get?_insertAll Built.empty.sorted,
      last?_perm (.swap b a []) (by decide)]
  obtain ⟨table, hread⟩ := table_is_canonical.2.2 _ _ _ _
    (.members (compactMember a.1 a.2) [compactMember b.1 b.2])
    (.members (compactMember b.1 b.2) [compactMember a.1 a.2]) (.swap _ _ _) (by decide)
  obtain ⟨hfirst, hsecond⟩ := hread [] [] Json.blank_nil
  refine ⟨table_is_canonical.2.1 _ .empty _ _ hlast,
    (table_is_canonical.1 _ _ hab hba hget).2.1, _, _, table, ?_, hfirst, hsecond⟩
  decide +kernel

end AssetTable

end ReleasePage
