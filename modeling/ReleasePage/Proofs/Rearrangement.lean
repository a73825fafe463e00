import Mathlib
import ReleasePage.Page.Format
import ReleasePage.Proofs.Leniency

/-!
# The order of files

Files that are not uploaded have no effect on what becomes of a record. The order of the
uploaded ones matters only among files with one operating-system label, of which the last
one counts. As long as that order is kept, the files may be listed in any way, and the
published texts are the same.
-/

namespace ReleasePage

/-- The record with the files that stand at the positions, in their order. -/
def ReleaseRecord.withFilesAt (record : ReleaseRecord)
    (positions : List (Fin record.assets.length)) : ReleaseRecord :=
  { record with assets := positions.map record.assets.get }

/-- If each file with a property stands at one of the positions, and the positions of these
files rise, the files with the property are the same. -/
theorem filter_map_get {assets : List AssetRecord} {positions : List (Fin assets.length)}
    {p : AssetRecord → Bool} (hm : ∀ i, p (assets.get i) = true → i ∈ positions)
    (hr : positions.Pairwise fun i j =>
      p (assets.get i) = true → p (assets.get j) = true → i < j) :
    (positions.map assets.get).filter p = assets.filter p := by
  have hassets : (List.finRange assets.length).map assets.get = assets := by
    rw [← List.ofFn_eq_map, List.ofFn_get]
  have hchosen : (positions.filter (p ∘ assets.get)).Pairwise (· < ·) :=
    List.pairwise_filter.mpr hr
  have hall : ((List.finRange assets.length).filter (p ∘ assets.get)).Pairwise (· < ·) :=
    (List.pairwise_lt_finRange _).filter _
  have hperm : (positions.filter (p ∘ assets.get)).Perm
      ((List.finRange assets.length).filter (p ∘ assets.get)) := by
    refine (List.perm_ext_iff_of_nodup (hchosen.imp ne_of_lt) (hall.imp ne_of_lt)).mpr fun i => ?_
    rw [List.mem_filter, List.mem_filter]
    exact ⟨fun h => ⟨List.mem_finRange i, h.2⟩, fun h => ⟨hm i h.2, h.2⟩⟩
  -- both lists of positions rise, so they cannot differ in order
  have hsame := hperm.eq_of_pairwise (fun i j _ _ hij hji => absurd hij hji.asymm) hchosen hall
  calc (positions.map assets.get).filter p
      = (positions.filter (p ∘ assets.get)).map assets.get := List.filter_map
    _ = ((List.finRange assets.length).filter (p ∘ assets.get)).map assets.get := by rw [hsame]
    _ = ((List.finRange assets.length).map assets.get).filter p := List.filter_map.symm
    _ = assets.filter p := congrArg (List.filter p) hassets

/-- Both files are uploaded and have the same operating-system label. -/
def Classifier.SameLabel (classifier : Classifier) (first second : AssetRecord) : Prop :=
  ∃ os cpu cpu', classifier.Labels first ⟨os, cpu⟩ ∧ classifier.Labels second ⟨os, cpu'⟩

namespace Normalizer

variable {classifier : Classifier}

/-- The operating-system label of a file, if it is uploaded and has a platform. -/
def labelOf? (classifier : Classifier) (asset : AssetRecord) : Option String :=
  (entryOf? classifier asset).map (·.1)

/-- The label of a file is the operating system of a platform that it is labelled with. -/
theorem labelOf?_eq_some {asset : AssetRecord} {os : String} :
    labelOf? classifier asset = some os ↔ ∃ cpu, classifier.Labels asset ⟨os, cpu⟩ := by
  rw [labelOf?, Option.map_eq_some_iff]
  constructor
  · rintro ⟨entry, he, rfl⟩
    obtain ⟨cpu, hl, -⟩ := entryOf?_eq_some.mp he
    exact ⟨cpu, hl⟩
  · rintro ⟨cpu, hl⟩
    exact ⟨_, entryOf?_of_labels hl, rfl⟩

/-- Files have the same label exactly if there is one for the first and it is that of the
second. -/
theorem sameLabel_iff {first second : AssetRecord} :
    classifier.SameLabel first second ↔
      (labelOf? classifier first).isSome = true ∧
        labelOf? classifier first = labelOf? classifier second := by
  constructor
  · rintro ⟨os, cpu, cpu', hf, hs⟩
    rw [labelOf?_eq_some.mpr ⟨cpu, hf⟩, labelOf?_eq_some.mpr ⟨cpu', hs⟩]
    exact ⟨rfl, rfl⟩
  · rintro ⟨hsome, he⟩
    obtain ⟨os, hf⟩ := Option.isSome_iff_exists.mp hsome
    obtain ⟨cpu, hl⟩ := labelOf?_eq_some.mp hf
    obtain ⟨cpu', hl'⟩ := labelOf?_eq_some.mp (he.symm.trans hf)
    exact ⟨os, cpu, cpu', hl, hl'⟩

instance (first second : AssetRecord) : Decidable (classifier.SameLabel first second) :=
  decidable_of_iff _ sameLabel_iff.symm

/-- The entries with a label come from the files with the label. -/
theorem filter_entries (os : String) (assets : List AssetRecord) :
    (assets.filterMap (entryOf? classifier)).filter (·.1 = os) =
      (assets.filter (labelOf? classifier · = some os)).filterMap (entryOf? classifier) := by
  rw [List.filter_filterMap, List.filterMap_filter]
  refine List.filterMap_congr fun asset _ => ?_
  rw [labelOf?]
  cases entryOf? classifier asset with
  | none => rfl
  | some entry => by_cases h : entry.1 = os <;> simp [h]

/-- The table of files depends only on the order of the files with each label. -/
theorem tableOf_congr {first second : List AssetRecord}
    (h : ∀ os, first.filter (labelOf? classifier · = some os) =
      second.filter (labelOf? classifier · = some os)) :
    tableOf classifier first = tableOf classifier second := by
  refine AssetTable.Built.empty.insertAll_eq fun os => AssetTable.last?_congr ?_
  rw [filter_entries, filter_entries, h]

/-- Only uploaded files are added. -/
theorem addAssets_filter (table : AssetTable) (assets : List AssetRecord) :
    addAssets classifier table (assets.filter (·.isUploaded)) =
      addAssets classifier table assets := by
  induction assets generalizing table with
  | nil => rfl
  | cons asset assets ih =>
    by_cases hu : asset.isUploaded = true
    · rw [List.filter_cons_of_pos hu, addAssets, addAssets]
      cases addAsset classifier table asset with
      | error error => rfl
      | ok next => exact ih next
    · rw [List.filter_cons_of_neg hu, ih, addAssets, addAsset, if_neg hu]

/-- Records with the same uploaded files have the same result. -/
theorem normalize_congr {normalizer : Normalizer} {record : ReleaseRecord}
    {others : List AssetRecord}
    (h : others.filter (·.isUploaded) = record.assets.filter (·.isUploaded)) :
    normalizer.normalize { record with assets := others } = normalizer.normalize record := by
  have hadd : addAssets normalizer.classifier .empty others =
      addAssets normalizer.classifier .empty record.assets := by
    rw [← addAssets_filter, h, addAssets_filter]
  unfold normalize
  dsimp only
  rw [hadd]
  rfl

/-- The positions of a permutation list the same files. -/
theorem perm_withFilesAt (record : ReleaseRecord) (order : Equiv.Perm (Fin record.assets.length)) :
    (record.withFilesAt (List.ofFn order)).assets.Perm record.assets := by
  have hfiles : (record.withFilesAt (List.ofFn order)).assets =
      List.ofFn (record.assets.get ∘ order) := List.map_ofFn
  rw [hfiles]
  exact (order.ofFn_comp_perm record.assets.get).trans (.of_eq (List.ofFn_get record.assets))

/-- A permutation that keeps the order of the files with each label keeps the table. -/
theorem tableOf_withFilesAt {record : ReleaseRecord}
    {order : Equiv.Perm (Fin record.assets.length)}
    (h : ∀ i j, i < j →
      classifier.SameLabel (record.assets.get (order i)) (record.assets.get (order j)) →
      order i < order j) :
    tableOf classifier (record.withFilesAt (List.ofFn order)).assets =
      tableOf classifier record.assets := by
  refine tableOf_congr fun os => filter_map_get (fun i _ => ?_) (List.pairwise_ofFn.mpr ?_)
  · exact List.mem_ofFn.mpr ⟨order.symm i, order.apply_symm_apply i⟩
  · intro i j hij hi hj
    have hfirst := of_decide_eq_true hi
    have hsecond := of_decide_eq_true hj
    refine h i j hij (sameLabel_iff.mpr ⟨?_, hfirst.trans hsecond.symm⟩)
    rw [hfirst]
    rfl

/-- Files that are not uploaded may be left out. -/
theorem normalize_filter (normalizer : Normalizer) {record : ReleaseRecord}
    {keep : Fin record.assets.length → Bool}
    (h : ∀ i, keep i = false → (record.assets.get i).state ≠ uploadedState) :
    normalizer.normalize (record.withFilesAt ((List.finRange _).filter keep)) =
      normalizer.normalize record := by
  refine normalize_congr (filter_map_get (fun i hu => ?_) ?_)
  · refine List.mem_filter.mpr ⟨List.mem_finRange i, ?_⟩
    by_contra hk
    exact h i (Bool.eq_false_iff.mpr hk) (eq_of_beq hu)
  · exact ((List.pairwise_lt_finRange _).filter _).imp fun hij _ _ => hij

/-- A permutation that keeps the order of the files with each label keeps the release. -/
theorem normalize_permuted_eq_ok {normalizer : Normalizer} {record : ReleaseRecord}
    {order : Equiv.Perm (Fin record.assets.length)}
    (h : ∀ i j, i < j → normalizer.classifier.SameLabel (record.assets.get (order i))
      (record.assets.get (order j)) → order i < order j) {release : Release} :
    normalizer.normalize (record.withFilesAt (List.ofFn order)) = .ok release ↔
      normalizer.normalize record = .ok release := by
  have hadmits : normalizer.classifier.Admits (record.withFilesAt (List.ofFn order)).assets ↔
      normalizer.classifier.Admits record.assets :=
    imp_congr_right fun _ => forall_congr' fun _ =>
      imp_congr_left (perm_withFilesAt record order).mem_iff
  rw [normalize_eq_ok, normalize_eq_ok, hadmits, tableOf_withFilesAt h]
  rfl

/-- Leaving out files that are not uploaded does not change the result, be it a release or
an error. A permutation, which gives the old position of each new one, that keeps the order
of any two uploaded files with one label leaves the same records showable, as the same
releases with the same texts. -/
theorem normalize_ignores_order (normalizer : Normalizer) (record : ReleaseRecord) :
    (∀ keep : Fin record.assets.length → Bool,
      (∀ i, keep i = false → (record.assets.get i).state ≠ uploadedState) →
      normalizer.normalize (record.withFilesAt ((List.finRange _).filter keep)) =
        normalizer.normalize record) ∧
    ∀ order : Equiv.Perm (Fin record.assets.length),
      (∀ i j, i < j → normalizer.classifier.SameLabel (record.assets.get (order i))
        (record.assets.get (order j)) → order i < order j) →
      (∀ release, normalizer.normalize (record.withFilesAt (List.ofFn order)) = .ok release ↔
        normalizer.normalize record = .ok release) ∧
      ∀ first second, normalizer.normalize (record.withFilesAt (List.ofFn order)) = .ok first →
        normalizer.normalize record = .ok second →
        first = second ∧ first.tree.compactText = second.tree.compactText ∧
          ∀ format, Page.render format first = Page.render format second := by
  refine ⟨fun keep hkeep => normalize_filter normalizer hkeep, fun order horder =>
    ⟨fun release => normalize_permuted_eq_ok horder, fun first second hf hs => ?_⟩⟩
  rw [normalize_permuted_eq_ok horder, hs] at hf
  cases hf
  exact ⟨rfl, rfl, fun _ => rfl⟩

/-- A record of two packages with one label, one with another label between them, and a
file that no rule fits and that is not uploaded. -/
def mixedRecord : ReleaseRecord :=
  { recordWith [] with
    assets := (recordWith ["a.deb", "b.apk", "c.deb"]).assets ++ [⟨"d.txt", "d", 1, "starter"⟩] }

/-- The first two files change places. -/
def firstSwap : Equiv.Perm (Fin mixedRecord.assets.length) :=
  Equiv.swap ⟨0, by decide⟩ ⟨1, by decide⟩

/-- The file that is not uploaded may be left out, and the first two packages may change
places: the record is shown as the same release. -/
theorem normalize_ignores_order_sample :
    (mixedRecord.withFilesAt ((List.finRange _).filter (·.val < 3))).assets.map (·.name) =
      ["a.deb", "b.apk", "c.deb"] ∧
    (mixedRecord.withFilesAt (List.ofFn firstSwap)).assets.map (·.name) =
      ["b.apk", "a.deb", "c.deb", "d.txt"] ∧
    ∃ release, normalize (strict .standard ⟨0, []⟩) mixedRecord = .ok release ∧
      normalize (strict .standard ⟨0, []⟩)
        (mixedRecord.withFilesAt ((List.finRange _).filter (·.val < 3))) = .ok release ∧
      normalize (strict .standard ⟨0, []⟩) (mixedRecord.withFilesAt (List.ofFn firstSwap)) =
        .ok release := by
  have hshown : (normalize (strict .standard ⟨0, []⟩) mixedRecord).isOk = true := by decide +kernel
  obtain ⟨release, hr⟩ := exists_release hshown
  obtain ⟨hkeep, horder⟩ := normalize_ignores_order (strict .standard ⟨0, []⟩) mixedRecord
  have hleft := hkeep (·.val < 3) (by decide +kernel)
  obtain ⟨hsame, -⟩ := horder firstSwap (by decide +kernel)
  exact ⟨by decide +kernel, by decide +kernel, release, hr, hleft.trans hr,
    (hsame release).mpr hr⟩

end Normalizer

end ReleasePage
