import Mathlib
import ReleasePage.Proofs.Normalization

/-!
# What the lenient policy adds

Whatever the strict policy shows, the lenient one shows alike, and all refusals but those
of unknown files are the same. Where the strict policy refuses an unknown file, the lenient
one shows the release that is left without such files, with one more label for them.
Labels of rules are compared, not rules: a rule may itself give the label of unknown
files, and then the two releases may differ under that label only.
-/

namespace ReleasePage

open ReleasePage.Time (Zone)

instance (rules : RuleTable) (asset : AssetRecord) : Decidable (rules.Unknown asset) :=
  inferInstanceAs (Decidable (_ ∧ _))

/-- The record without the uploaded files that no rule fits. -/
def ReleaseRecord.withoutUnknown (rules : RuleTable) (record : ReleaseRecord) : ReleaseRecord :=
  { record with assets := record.assets.filter (¬rules.Unknown ·) }

/-- The normalizer with rules and a zone that refuses unknown files. -/
def Normalizer.strict (rules : RuleTable) (zone : Zone) : Normalizer := ⟨⟨rules, .strict⟩, zone⟩

/-- The normalizer with rules and a zone that shows unknown files. -/
def Normalizer.lenient (rules : RuleTable) (zone : Zone) : Normalizer := ⟨⟨rules, .lenient⟩, zone⟩

variable {rules : RuleTable} {zone : Zone} {record : ReleaseRecord}

/-- Without the unknown files a rule fits each uploaded file. -/
theorem ReleaseRecord.knows_withoutUnknown (rules : RuleTable) (record : ReleaseRecord) :
    rules.Knows (record.withoutUnknown rules).assets := by
  intro asset ha
  exact RuleTable.find?_of_not_unknown (of_decide_eq_true (List.mem_filter.mp ha).2)

/-- An unknown file has the label of unknown files under the lenient policy. -/
theorem Classifier.labels_unknown {asset : AssetRecord} (h : rules.Unknown asset) :
    Classifier.Labels ⟨rules, .lenient⟩ asset
      ⟨otherLabel, (Architecture.guess asset.name).label⟩ := by
  refine ⟨h.1, ?_⟩
  rw [Classifier.classify, h.2]

namespace Normalizer

/-- A file that is not unknown adds the same entry under every policy. -/
theorem entryOf?_policy {asset : AssetRecord} (h : ¬rules.Unknown asset) (policy other : Policy) :
    entryOf? ⟨rules, policy⟩ asset = entryOf? ⟨rules, other⟩ asset := by
  rw [entryOf?, entryOf?]
  by_cases hu : asset.isUploaded = true
  · obtain ⟨rule, hr⟩ := Option.isSome_iff_exists.mp (RuleTable.find?_of_not_unknown h hu)
    rw [Classifier.classify_of_find? hr, Classifier.classify_of_find? hr]
  · rw [if_neg hu, if_neg hu]

/-- Apart from the label of unknown files, the lenient policy leads to the downloads that
the strict one leads to without the unknown files. -/
theorem get?_tableOf_lenient {os : String} (ho : os ≠ otherLabel) (assets : List AssetRecord) :
    (tableOf ⟨rules, .lenient⟩ assets).get? os =
      (tableOf ⟨rules, .strict⟩ (assets.filter (¬rules.Unknown ·))).get? os := by
  rw [get?_tableOf, get?_tableOf]
  apply AssetTable.last?_congr
  rw [List.filter_filterMap, List.filter_filterMap, List.filterMap_filter]
  refine List.filterMap_congr fun asset _ => ?_
  by_cases hn : rules.Unknown asset
  · have hother : ¬decide (otherLabel = os) = true := by simpa using ho.symm
    rw [entryOf?_of_labels (Classifier.labels_unknown hn), if_neg (by simpa using hn),
      Option.filter_some, if_neg hother]
  · rw [entryOf?_policy hn .lenient .strict, if_pos (by simpa using hn)]

/-- What the strict policy refuses for another reason than an unknown file, the lenient
one refuses for the same reason. -/
theorem normalize_lenient_eq_error {error : ReleaseError}
    (h : normalize (strict rules zone) record = .error error)
    (hn : ∀ filename, error ≠ .platform (.unrecognized filename)) :
    normalize (lenient rules zone) record = .error error := by
  have hy := yields_normalize (strict rules zone) record
  rw [h] at hy
  cases hy with
  | notPublishable hp => exact normalize_of_yields (.notPublishable hp)
  | missingDate hp ht => exact normalize_of_yields (.missingDate hp ht)
  | badDate hp ht hd => exact normalize_of_yields (.badDate hp ht hd)
  | unrecognized => exact absurd rfl (hn _)

/-- The lenient policy shows what the strict one shows, and refuses what the strict one
refuses for another reason than an unknown file. Where the strict policy refuses an unknown
file, the lenient one shows the release that the strict one makes of the record without
unknown files, except for the label of unknown files, which then leads to a download. -/
theorem strict_refines_lenient (rules : RuleTable) (zone : Zone) (record : ReleaseRecord) :
    (∀ release, normalize (strict rules zone) record = .ok release →
      normalize (lenient rules zone) record = .ok release) ∧
    (∀ error, normalize (strict rules zone) record = .error error →
      (∀ filename, error ≠ .platform (.unrecognized filename)) →
      normalize (lenient rules zone) record = .error error) ∧
    ∀ filename,
      normalize (strict rules zone) record = .error (.platform (.unrecognized filename)) →
      ∃ shown known, normalize (lenient rules zone) record = .ok shown ∧
        normalize (strict rules zone) (record.withoutUnknown rules) = .ok known ∧
        (∀ os, os ≠ otherLabel → shown.assets.get? os = known.assets.get? os) ∧
        (shown.assets.get? otherLabel).isSome = true ∧
        { shown with assets := known.assets } = known := by
  refine ⟨fun release h => (normalize_strict_eq_ok.mp h).2,
    fun error h hn => normalize_lenient_eq_error h hn, fun filename h => ?_⟩
  have hy := yields_normalize (strict rules zone) record
  rw [h] at hy
  cases hy with
  | unrecognized hp ht hd hs hf =>
    have hshow := Time.Zone.showDate_of_read hd zone
    have hshown := @normalize_of_admits (lenient rules zone) record _ _ hp ht hshow nofun
    have hknown := @normalize_of_admits (strict rules zone) (record.withoutUnknown rules) _ _
      hp ht hshow fun _ => record.knows_withoutUnknown rules
    refine ⟨_, _, hshown, hknown, fun os ho => get?_tableOf_lenient ho record.assets, ?_, rfl⟩
    obtain ⟨before, after, hsplit, -, hunknown⟩ := hf
    have hkey : otherLabel ∈ (tableOf ⟨rules, .lenient⟩ record.assets).keys := by
      refine mem_keys_tableOf.mpr ⟨_, ?_, _, Classifier.labels_unknown hunknown⟩
      rw [hsplit]
      exact List.mem_append_right _ List.mem_cons_self
    exact Option.isSome_iff_ne_none.mpr (AssetTable.mem_keys_iff.mp hkey)

/-- A rule that gives the label of unknown files, and one that does not. -/
def overlappingRules : RuleTable :=
  ⟨1, [⟨".sh", otherLabel, "any"⟩, ⟨".deb", "Debian/Ubuntu", "x86_64"⟩]⟩

/-- A package and a script are shown alike under both policies. A record without a date is
refused alike. Of a package, a script and a file that no rule fits, the strict policy
refuses the last one; the lenient one shows the package as the strict one does without that
file, and something under the label that the script and the file share. -/
theorem strict_refines_lenient_sample :
    (∃ release, normalize (strict overlappingRules ⟨0, []⟩) (recordWith ["b.sh", "a.deb"]) =
        .ok release ∧
      normalize (lenient overlappingRules ⟨0, []⟩) (recordWith ["b.sh", "a.deb"]) =
        .ok release) ∧
    normalize (lenient overlappingRules ⟨0, []⟩) { recordWith ["c.txt"] with createdAt := none } =
      .error .missingDate ∧
    normalize (strict overlappingRules ⟨0, []⟩) (recordWith ["b.sh", "c.txt", "a.deb"]) =
      .error (.platform (.unrecognized "c.txt")) ∧
    ∃ shown known,
      normalize (lenient overlappingRules ⟨0, []⟩) (recordWith ["b.sh", "c.txt", "a.deb"]) =
        .ok shown ∧
      normalize (strict overlappingRules ⟨0, []⟩)
        ((recordWith ["b.sh", "c.txt", "a.deb"]).withoutUnknown overlappingRules) = .ok known ∧
      shown.assets.get? "Debian/Ubuntu" = known.assets.get? "Debian/Ubuntu" ∧
      (shown.assets.get? otherLabel).isSome = true := by
  have hall : (normalize (strict overlappingRules ⟨0, []⟩) (recordWith ["b.sh", "a.deb"])).isOk =
      true := by decide +kernel
  obtain ⟨release, hr⟩ := exists_release hall
  have hdate : normalize (strict overlappingRules ⟨0, []⟩)
      { recordWith ["c.txt"] with createdAt := none } = .error .missingDate := by decide +kernel
  have hmixed : normalize (strict overlappingRules ⟨0, []⟩)
      (recordWith ["b.sh", "c.txt", "a.deb"]) = .error (.platform (.unrecognized "c.txt")) := by
    decide +kernel
  obtain ⟨shown, known, hshown, hknown, hsame, hother, -⟩ :=
    (strict_refines_lenient overlappingRules ⟨0, []⟩ _).2.2 "c.txt" hmixed
  exact ⟨⟨release, hr, (strict_refines_lenient _ _ _).1 release hr⟩,
    (strict_refines_lenient overlappingRules ⟨0, []⟩ _).2.1 _ hdate nofun, hmixed,
    shown, known, hshown, hknown, hsame _ (by decide), hother⟩

end Normalizer

end ReleasePage
