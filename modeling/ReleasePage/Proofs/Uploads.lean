import Mathlib
import ReleasePage.Proofs.AssetMap
import ReleasePage.Proofs.Policy

/-!
# Adding uploaded files

The files of a record are added to the table one after the other. Here the whole run is
described at once. Under the strict policy it ends at the first uploaded file that no
rule fits. Otherwise it leaves a table in which each label leads to the download of the
last uploaded file that is classified to it.
-/

namespace ReleasePage

/-- The file is uploaded and no rule fits it. -/
def RuleTable.Unknown (rules : RuleTable) (asset : AssetRecord) : Prop :=
  asset.isUploaded = true ∧ rules.find? asset.name = none

/-- The file is the first one that is uploaded and that no rule fits. -/
def RuleTable.FirstUnknown (rules : RuleTable) (assets : List AssetRecord)
    (asset : AssetRecord) : Prop :=
  ∃ before after, assets = before ++ asset :: after ∧ rules.Knows before ∧ rules.Unknown asset

/-- A rule fits an uploaded file that is not unknown. -/
theorem RuleTable.find?_of_not_unknown {rules : RuleTable} {asset : AssetRecord}
    (h : ¬rules.Unknown asset) (hu : asset.isUploaded = true) :
    (rules.find? asset.name).isSome = true := by
  rw [Option.isSome_iff_ne_none]
  exact fun hn => h ⟨hu, hn⟩

/-- The rules know a list of files if they know the first one and the others. -/
theorem RuleTable.knows_cons {rules : RuleTable} {first : AssetRecord} {rest : List AssetRecord} :
    rules.Knows (first :: rest) ↔
      (first.isUploaded = true → (rules.find? first.name).isSome = true) ∧ rules.Knows rest :=
  List.forall_mem_cons

/-- A rule fits each uploaded file, or there is a first one that no rule fits. -/
theorem RuleTable.knows_or_firstUnknown (rules : RuleTable) (assets : List AssetRecord) :
    rules.Knows assets ∨ ∃ asset, rules.FirstUnknown assets asset := by
  have hnil : rules.Knows [] := fun asset ha => absurd ha List.not_mem_nil
  induction assets with
  | nil => exact .inl hnil
  | cons first rest ih =>
    by_cases hf : rules.Unknown first
    · exact .inr ⟨first, [], rest, rfl, hnil, hf⟩
    · have hfirst := find?_of_not_unknown hf
      rcases ih with hk | ⟨asset, before, after, rfl, hk, hn⟩
      · exact .inl (knows_cons.mpr ⟨hfirst, hk⟩)
      · exact .inr ⟨asset, first :: before, after, rfl, knows_cons.mpr ⟨hfirst, hk⟩, hn⟩

namespace Classifier

/-- No file is refused: the policy is lenient, or a rule fits each uploaded file. -/
def Admits (classifier : Classifier) (assets : List AssetRecord) : Prop :=
  classifier.policy = .strict → classifier.rules.Knows assets

/-- The file is uploaded and has the platform. -/
def Labels (classifier : Classifier) (asset : AssetRecord) (platform : Platform) : Prop :=
  asset.isUploaded = true ∧ classifier.classify asset.name = .ok platform

/-- Of the uploaded files with the operating-system label of the platform, the file is the
last one, and it has the platform. -/
def LastLabelled (classifier : Classifier) (assets : List AssetRecord) (platform : Platform)
    (asset : AssetRecord) : Prop :=
  ∃ before after, assets = before ++ asset :: after ∧ classifier.Labels asset platform ∧
    ∀ other ∈ after, ∀ another, classifier.Labels other another → another.os ≠ platform.os

/-- A file has no platform exactly if the policy is strict and no rule fits it. -/
theorem classify_eq_error {classifier : Classifier} {filename : String} {error : PlatformError} :
    classifier.classify filename = .error error ↔
      classifier.policy = .strict ∧ classifier.rules.find? filename = none ∧
        error = .unrecognized filename := by
  rw [classify]
  cases classifier.rules.find? filename with
  | some rule => simp
  | none => cases classifier.policy <;> simp [eq_comm]

/-- An uploaded file among files that are admitted has a platform. -/
theorem Admits.exists_labels {classifier : Classifier} {assets : List AssetRecord}
    (h : classifier.Admits assets) {asset : AssetRecord} (ha : asset ∈ assets)
    (hu : asset.isUploaded = true) : ∃ platform, classifier.Labels asset platform := by
  cases hc : classifier.classify asset.name with
  | ok platform => exact ⟨platform, hu, hc⟩
  | error error =>
    obtain ⟨hs, hn, -⟩ := classify_eq_error.mp hc
    have hknown := h hs asset ha hu
    rw [hn] at hknown
    cases hknown

end Classifier

namespace AssetTable

/-- The download of a label depends only on the entries with the label. -/
theorem lookup_filter_label (os : String) (entries : List (String × Asset)) :
    (entries.filter (·.1 = os)).lookup os = entries.lookup os := by
  induction entries with
  | nil => rfl
  | cons entry entries ih =>
    by_cases h : entry.1 = os
    · rw [List.filter_cons_of_pos (by simpa using h), lookup_entry, lookup_entry, if_pos h.symm,
        if_pos h.symm]
    · rw [List.filter_cons_of_neg (by simpa using h), lookup_entry, if_neg (Ne.symm h), ih]

/-- The last download of a label depends only on the entries with the label. -/
theorem last?_congr {os : String} {first second : List (String × Asset)}
    (h : first.filter (·.1 = os) = second.filter (·.1 = os)) :
    last? os first = last? os second := by
  rw [last?, last?, ← lookup_filter_label os first.reverse, ← lookup_filter_label os second.reverse,
    List.filter_reverse, List.filter_reverse, h]

/-- A label leads to an entry exactly if it is in the table. -/
theorem mem_keys_iff {table : AssetTable} {os : String} :
    os ∈ table.keys ↔ table.get? os ≠ none := by
  rw [Ne, get?_eq_none, keys, List.mem_map]
  push Not
  rfl

/-- There is no last download of a label exactly if no entry has the label. -/
theorem last?_eq_none {os : String} {entries : List (String × Asset)} :
    last? os entries = none ↔ ∀ entry ∈ entries, entry.1 ≠ os := by
  rw [last?, List.lookup_eq_none_iff]
  simp only [List.mem_reverse, bne_iff_ne, ne_comm]

/-- The last download of a label stands in an entry behind which there is none with the
label. -/
theorem last?_eq_some {os : String} {entries : List (String × Asset)} {asset : Asset} :
    last? os entries = some asset ↔
      ∃ front back, entries = front ++ (os, asset) :: back ∧ ∀ entry ∈ back, entry.1 ≠ os := by
  rw [last?, List.lookup_eq_some_iff]
  constructor
  · rintro ⟨back, front, he, hb⟩
    refine ⟨front.reverse, back.reverse, ?_, ?_⟩
    · rw [List.reverse_eq_iff.mp he, List.reverse_append, List.reverse_cons, List.append_assoc,
        List.singleton_append]
    · intro entry hm
      exact (bne_iff_ne.mp (hb entry (List.mem_reverse.mp hm))).symm
  · rintro ⟨front, back, rfl, hb⟩
    refine ⟨back.reverse, front.reverse, ?_, ?_⟩
    · rw [List.reverse_append, List.reverse_cons, List.append_assoc, List.singleton_append]
    · intro entry hm
      exact bne_iff_ne.mpr (hb entry (List.mem_reverse.mp hm)).symm

end AssetTable

namespace Normalizer

open AssetTable (last?)

variable {classifier : Classifier}

/-- The entry that a file adds to a table: none unless it is uploaded and has a
platform. -/
def entryOf? (classifier : Classifier) (asset : AssetRecord) : Option (String × Asset) :=
  if asset.isUploaded then
    match classifier.classify asset.name with
    | .ok platform => some (platform.os, assetOf asset platform)
    | .error _ => none
  else none

/-- The table of the downloads that files add. -/
def tableOf (classifier : Classifier) (assets : List AssetRecord) : AssetTable :=
  AssetTable.empty.insertAll (assets.filterMap (entryOf? classifier))

/-- A file that is labelled with a platform adds a download for its operating system. -/
theorem entryOf?_of_labels {asset : AssetRecord} {platform : Platform}
    (h : classifier.Labels asset platform) :
    entryOf? classifier asset = some (platform.os, assetOf asset platform) := by
  rw [entryOf?, if_pos h.1, h.2]

/-- What a file adds goes back to a platform that it is labelled with. -/
theorem entryOf?_eq_some {asset : AssetRecord} {os : String} {download : Asset} :
    entryOf? classifier asset = some (os, download) ↔
      ∃ cpu, classifier.Labels asset ⟨os, cpu⟩ ∧ download = assetOf asset ⟨os, cpu⟩ := by
  constructor
  · intro h
    rw [entryOf?] at h
    split_ifs at h with hu
    cases hc : classifier.classify asset.name with
    | error error =>
      rw [hc] at h
      cases h
    | ok platform =>
      rw [hc] at h
      cases h
      exact ⟨platform.cpu, ⟨hu, hc⟩, rfl⟩
  · rintro ⟨cpu, hl, rfl⟩
    exact entryOf?_of_labels hl

/-- A file that is not refused is added with its entry, if it has one. -/
theorem addAsset_of_admits {assets : List AssetRecord} (h : classifier.Admits assets)
    {asset : AssetRecord} (ha : asset ∈ assets) (table : AssetTable) :
    addAsset classifier table asset =
      .ok (table.insertAll (entryOf? classifier asset).toList) := by
  by_cases hu : asset.isUploaded = true
  · obtain ⟨platform, hl⟩ := h.exists_labels ha hu
    rw [addAsset, if_pos hu, hl.2, entryOf?_of_labels hl]
    rfl
  · rw [addAsset, if_neg hu, entryOf?, if_neg hu]
    rfl

/-- Files that are not refused are added with their entries. -/
theorem addAssets_of_admits {assets : List AssetRecord} (h : classifier.Admits assets)
    (table : AssetTable) :
    addAssets classifier table assets =
      .ok (table.insertAll (assets.filterMap (entryOf? classifier))) := by
  induction assets generalizing table with
  | nil => rfl
  | cons asset assets ih =>
    have hrest : classifier.Admits assets := fun hs => (RuleTable.knows_cons.mp (h hs)).2
    rw [addAssets, addAsset_of_admits h List.mem_cons_self]
    dsimp only
    rw [ih hrest, List.filterMap_cons]
    cases entryOf? classifier asset with
    | none => rfl
    | some entry => rfl

/-- Under the strict policy the run ends at the first file that no rule fits. -/
theorem addAssets_of_firstUnknown (hs : classifier.policy = .strict) {assets : List AssetRecord}
    {asset : AssetRecord} (h : classifier.rules.FirstUnknown assets asset) (table : AssetTable) :
    addAssets classifier table assets = .error (.unrecognized asset.name) := by
  obtain ⟨before, after, rfl, hk, hu, hn⟩ := h
  induction before generalizing table with
  | nil =>
    have hrefused : addAsset classifier table asset = .error (.unrecognized asset.name) := by
      rw [addAsset, if_pos hu, Classifier.classify_eq_error.mpr ⟨hs, hn, rfl⟩]
    rw [List.nil_append, addAssets, hrefused]
  | cons first before ih =>
    have hadmits : classifier.Admits (first :: before) := fun _ => hk
    rw [List.cons_append, addAssets, addAsset_of_admits hadmits List.mem_cons_self]
    exact ih _ (RuleTable.knows_cons.mp hk).2

/-- The table of files is built by insertions. -/
theorem built_tableOf (classifier : Classifier) (assets : List AssetRecord) :
    (tableOf classifier assets).Built := AssetTable.Built.empty.insertAll _

/-- The table of files leads from a label to the last download that a file adds for it. -/
theorem get?_tableOf (classifier : Classifier) (assets : List AssetRecord) (os : String) :
    (tableOf classifier assets).get? os = last? os (assets.filterMap (entryOf? classifier)) := by
  rw [tableOf, AssetTable.get?_insertAll AssetTable.Built.empty.sorted]
  exact Option.or_none

/-- The labels in the table of files are those of the uploaded files. -/
theorem mem_keys_tableOf {assets : List AssetRecord} {os : String} :
    os ∈ (tableOf classifier assets).keys ↔
      ∃ asset ∈ assets, ∃ cpu, classifier.Labels asset ⟨os, cpu⟩ := by
  rw [AssetTable.mem_keys_iff, get?_tableOf, Ne, AssetTable.last?_eq_none]
  push Not
  constructor
  · rintro ⟨entry, he, rfl⟩
    obtain ⟨asset, ha, hentry⟩ := List.mem_filterMap.mp he
    obtain ⟨cpu, hl, -⟩ := entryOf?_eq_some.mp hentry
    exact ⟨asset, ha, cpu, hl⟩
  · rintro ⟨asset, ha, cpu, hl⟩
    exact ⟨_, List.mem_filterMap.mpr ⟨asset, ha, entryOf?_of_labels hl⟩, rfl⟩

/-- In the table of files a label leads to the download of the last file with the
label. -/
theorem get?_tableOf_eq_some {assets : List AssetRecord} {os : String} {download : Asset} :
    (tableOf classifier assets).get? os = some download ↔
      ∃ asset cpu, classifier.LastLabelled assets ⟨os, cpu⟩ asset ∧
        download = assetOf asset ⟨os, cpu⟩ := by
  -- entries without the label are exactly what files without the label add
  have hback : ∀ after : List AssetRecord,
      (∀ entry ∈ after.filterMap (entryOf? classifier), entry.1 ≠ os) ↔
        ∀ other ∈ after, ∀ another, classifier.Labels other another → another.os ≠ os := by
    intro after
    constructor
    · intro h other ho another hl
      exact h _ (List.mem_filterMap.mpr ⟨other, ho, entryOf?_of_labels hl⟩)
    · intro h entry he
      obtain ⟨other, ho, hentry⟩ := List.mem_filterMap.mp he
      obtain ⟨cpu, hl, -⟩ := entryOf?_eq_some.mp hentry
      exact h other ho _ hl
  rw [get?_tableOf, AssetTable.last?_eq_some]
  constructor
  · rintro ⟨front, back, he, hb⟩
    obtain ⟨before, middle, rfl, -, hm⟩ := List.filterMap_eq_append_iff.mp he
    obtain ⟨silent, asset, after, rfl, -, hentry, rfl⟩ := List.filterMap_eq_cons_iff.mp hm
    obtain ⟨cpu, hl, hd⟩ := entryOf?_eq_some.mp hentry
    refine ⟨asset, cpu, ⟨before ++ silent, after, ?_, hl, (hback after).mp hb⟩, hd⟩
    rw [List.append_assoc]
  · rintro ⟨asset, cpu, ⟨before, after, rfl, hl, ha⟩, rfl⟩
    refine ⟨before.filterMap (entryOf? classifier), after.filterMap (entryOf? classifier), ?_,
      (hback after).mpr ha⟩
    rw [List.filterMap_append, List.filterMap_cons, entryOf?_of_labels hl]

end Normalizer

end ReleasePage
