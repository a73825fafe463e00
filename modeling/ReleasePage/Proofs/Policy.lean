import Mathlib
import ReleasePage.Proofs.AssetTable

/-!
# Strict and lenient classification

A file that a rule fits gets the platform of that rule under either policy. The strict
policy therefore accepts a record exactly if a rule fits each uploaded file and the
lenient policy accepts the record as well, and both make the same release of it.
-/

namespace ReleasePage

/-- Some rule fits each uploaded file. -/
def RuleTable.Knows (rules : RuleTable) (assets : List AssetRecord) : Prop :=
  ∀ asset ∈ assets, asset.isUploaded = true → (rules.find? asset.name).isSome = true

/-- A file that a rule fits gets the platform of the rule, whatever the policy. -/
theorem Classifier.classify_of_find? {rules : RuleTable} {filename : String} {rule : Rule}
    (h : rules.find? filename = some rule) (policy : Policy) :
    Classifier.classify ⟨rules, policy⟩ filename = .ok rule.platform := by
  simp only [classify, h]

/-- The strict policy classifies only files that a rule fits. -/
theorem Classifier.find?_of_strict {rules : RuleTable} {filename : String} {platform : Platform}
    (h : Classifier.classify ⟨rules, .strict⟩ filename = .ok platform) :
    (rules.find? filename).isSome = true := by
  cases hf : rules.find? filename with
  | some rule => rfl
  | none =>
    simp only [classify, hf] at h
    cases h

namespace Normalizer

variable {rules : RuleTable}

/-- A file that is not uploaded, or that a rule fits, is added alike under every
policy. -/
theorem addAsset_policy {asset : AssetRecord}
    (h : asset.isUploaded = true → (rules.find? asset.name).isSome = true)
    (policy other : Policy) (table : AssetTable) :
    addAsset ⟨rules, policy⟩ table asset = addAsset ⟨rules, other⟩ table asset := by
  rw [addAsset, addAsset]
  by_cases hu : asset.isUploaded = true
  · obtain ⟨rule, hr⟩ := Option.isSome_iff_exists.mp (h hu)
    rw [if_pos hu, if_pos hu, Classifier.classify_of_find? hr, Classifier.classify_of_find? hr]
  · rw [if_neg hu, if_neg hu]

/-- Uploaded files that were added under the strict policy are known. -/
theorem find?_of_addAsset {table next : AssetTable} {asset : AssetRecord}
    (h : addAsset ⟨rules, .strict⟩ table asset = .ok next) (hu : asset.isUploaded = true) :
    (rules.find? asset.name).isSome = true := by
  rw [addAsset, if_pos hu] at h
  cases hc : Classifier.classify ⟨rules, .strict⟩ asset.name with
  | ok platform => exact Classifier.find?_of_strict hc
  | error error =>
    rw [hc] at h
    cases h

/-- Known files are added alike under every policy. -/
theorem addAssets_policy {assets : List AssetRecord} (h : rules.Knows assets)
    (policy other : Policy) (table : AssetTable) :
    addAssets ⟨rules, policy⟩ table assets = addAssets ⟨rules, other⟩ table assets := by
  induction assets generalizing table with
  | nil => rfl
  | cons asset assets ih =>
    have hfirst := addAsset_policy (h asset List.mem_cons_self) policy other table
    have hrest := ih fun asset ha => h asset (List.mem_cons_of_mem _ ha)
    rw [addAssets, addAssets, hfirst]
    cases addAsset ⟨rules, other⟩ table asset with
    | error error => rfl
    | ok next => exact hrest next

/-- Files that were added under the strict policy are known. -/
theorem knows_of_addAssets {assets : List AssetRecord} {table last : AssetTable}
    (h : addAssets ⟨rules, .strict⟩ table assets = .ok last) : rules.Knows assets := by
  induction assets generalizing table with
  | nil => exact fun asset ha => absurd ha List.not_mem_nil
  | cons asset assets ih =>
    rw [addAssets] at h
    cases hn : addAsset ⟨rules, .strict⟩ table asset with
    | error error =>
      rw [hn] at h
      cases h
    | ok next =>
      rw [hn] at h
      intro other ho
      rcases List.mem_cons.mp ho with rfl | ho
      · exact find?_of_addAsset hn
      · exact ih h other ho

/-- Records with known files are normalized alike under every policy. -/
theorem normalize_policy {record : ReleaseRecord} (h : rules.Knows record.assets)
    (policy other : Policy) (zone : Time.Zone) :
    normalize ⟨⟨rules, policy⟩, zone⟩ record = normalize ⟨⟨rules, other⟩, zone⟩ record := by
  rw [normalize, normalize, addAssets_policy h policy other]

/-- The strict policy accepts the records with known files that the lenient one
accepts, and makes the same release of them. -/
theorem normalize_strict_eq_ok {zone : Time.Zone} {record : ReleaseRecord} {release : Release} :
    normalize ⟨⟨rules, .strict⟩, zone⟩ record = .ok release ↔
      rules.Knows record.assets ∧ normalize ⟨⟨rules, .lenient⟩, zone⟩ record = .ok release := by
  constructor
  · intro h
    have hk : rules.Knows record.assets := knows_of_addAssets (addAssets_of_normalize h)
    rw [normalize_policy hk .lenient .strict]
    exact ⟨hk, h⟩
  · rintro ⟨hk, h⟩
    rw [normalize_policy hk .strict .lenient]
    exact h

end Normalizer

end ReleasePage
