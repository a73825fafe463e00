import Mathlib
import ReleasePage.Platform.Classifier

/-!
# The order of platform rules

Rules are tried in order, but what counts for a file name is meant to be the most specific
rule. Both are the same as long as no rule hides a later one. A rule hides a later one
exactly if its suffix is a suffix of the later one's; then the later rule is never found.
If no rule is hidden, the rule that is found is the one with the longest suffix of all that
fit, so the order does not matter any more.
-/

namespace ReleasePage

/-- A rule fits the file names that end in its suffix. -/
theorem Rule.fits_iff {rule : Rule} {filename : String} :
    rule.fits filename = true ↔ rule.suffix.toList <:+ filename.toList :=
  List.isSuffixOf_iff_suffix

/-- The suffix of a rule is a suffix of the suffix of another one. -/
def Rule.Covers (rule other : Rule) : Prop := rule.suffix.toList <:+ other.suffix.toList

instance (rule other : Rule) : Decidable (rule.Covers other) :=
  inferInstanceAs (Decidable (rule.suffix.toList <:+ other.suffix.toList))

/-- A rule fits its own suffix. -/
theorem Rule.fits_suffix (rule : Rule) : rule.fits rule.suffix = true :=
  Rule.fits_iff.mpr List.suffix_rfl

/-- A rule covers another one exactly if it fits every file name that the other one fits. -/
theorem Rule.covers_iff {rule other : Rule} :
    rule.Covers other ↔ ∀ filename, other.fits filename = true → rule.fits filename = true := by
  constructor
  · intro h filename hf
    exact Rule.fits_iff.mpr (h.trans (Rule.fits_iff.mp hf))
  · intro h
    exact Rule.fits_iff.mp (h other.suffix other.fits_suffix)

/-- Of two rules that fit the same file name, one that does not cover the other has the
longer suffix. -/
theorem Rule.length_lt_of_not_covers {rule other : Rule} {filename : String}
    (hr : rule.fits filename = true) (ho : other.fits filename = true)
    (h : ¬rule.Covers other) : other.suffix.length < rule.suffix.length := by
  by_contra hlt
  have hle : rule.suffix.toList.length ≤ other.suffix.toList.length := by
    rw [String.length_toList, String.length_toList]
    exact Nat.le_of_not_lt hlt
  exact h (List.suffix_of_suffix_length_le (Rule.fits_iff.mp hr) (Rule.fits_iff.mp ho) hle)

namespace RuleTable

/-- The position of the first rule that fits a file name. -/
def position? (table : RuleTable) (filename : String) : Option Nat :=
  table.rules.findIdx? (·.fits filename)

/-- The rule that is found is the one at the position. -/
theorem find?_eq_position? (table : RuleTable) (filename : String) :
    table.find? filename = (table.position? filename).bind (table.rules[·]?) :=
  List.find?_eq_bind_findIdx?_getElem?

/-- An earlier rule covers the rule at this position. -/
def Shadowed (table : RuleTable) (position : Nat) : Prop :=
  ∃ rule, table.rules[position]? = some rule ∧
    ∃ earlier ∈ table.rules.take position, earlier.Covers rule

/-- No rule is covered by an earlier one. -/
def Unshadowed (table : RuleTable) : Prop := ∀ position, ¬table.Shadowed position

/-- The rule fits the file name, and its suffix is longer than that of every other rule
that fits it. -/
structure LongestFit (table : RuleTable) (filename : String) (rule : Rule) : Prop where
  /-- The rule is in the table. -/
  mem : rule ∈ table.rules
  /-- The rule fits. -/
  fits : rule.fits filename = true
  /-- All other rules that fit have shorter suffixes. -/
  longest : ∀ other ∈ table.rules, other.fits filename = true → other ≠ rule →
    other.suffix.length < rule.suffix.length

variable {table : RuleTable} {filename : String} {rule : Rule}

/-- The first rule that fits stands at a position exactly if the rule there fits and no
earlier one does. -/
theorem position?_eq_some {position : Nat} (hr : table.rules[position]? = some rule) :
    table.position? filename = some position ↔
      rule.fits filename = true ∧
        ∀ earlier ∈ table.rules.take position, earlier.fits filename = false := by
  obtain ⟨hlt, rfl⟩ := List.getElem?_eq_some_iff.mp hr
  rw [position?, List.findIdx?_eq_some_iff_getElem]
  constructor
  · rintro ⟨_, hf, hn⟩
    refine ⟨hf, fun earlier he => ?_⟩
    obtain ⟨i, hi, rfl⟩ := List.mem_take_iff_getElem.mp he
    exact Bool.eq_false_iff.mpr (hn i (lt_of_lt_of_le hi (min_le_left _ _)))
  · rintro ⟨hf, hn⟩
    refine ⟨hlt, hf, fun i hi => ?_⟩
    rw [hn _ (List.mem_take_iff_getElem.mpr ⟨i, lt_min hi (hi.trans hlt), rfl⟩)]
    exact Bool.false_ne_true

/-- The rule at a position is found for some file name exactly if it is not covered by an
earlier one. If it is not, it is found for its own suffix. -/
theorem exists_position?_iff {position : Nat} (hr : table.rules[position]? = some rule) :
    (∃ filename, table.position? filename = some position) ↔ ¬table.Shadowed position := by
  simp only [position?_eq_some hr]
  constructor
  · rintro ⟨filename, hf, hn⟩ ⟨other, ho, earlier, he, hc⟩
    rw [hr] at ho
    cases ho
    have hfits := Rule.covers_iff.mp hc filename hf
    rw [hn earlier he] at hfits
    cases hfits
  · intro hs
    refine ⟨rule.suffix, rule.fits_suffix, fun earlier he => ?_⟩
    rw [Bool.eq_false_iff]
    exact fun hf => hs ⟨rule, hr, earlier, he, Rule.fits_iff.mp hf⟩

/-- No rule is covered by an earlier one, said of pairs of rules. -/
theorem unshadowed_iff_pairwise :
    table.Unshadowed ↔ table.rules.Pairwise fun earlier later => ¬earlier.Covers later := by
  rw [List.pairwise_iff_getElem]
  constructor
  · intro h i j hi hj hij hc
    have he : table.rules[i] ∈ table.rules.take j :=
      List.mem_take_iff_getElem.mpr ⟨i, lt_min hij hi, rfl⟩
    exact h j ⟨_, List.getElem?_eq_getElem hj, _, he, hc⟩
  · rintro h j ⟨rule, hr, earlier, he, hc⟩
    obtain ⟨hj, rfl⟩ := List.getElem?_eq_some_iff.mp hr
    obtain ⟨i, hi, rfl⟩ := List.mem_take_iff_getElem.mp he
    obtain ⟨hij, hi⟩ := lt_min_iff.mp hi
    exact h i j hi hj hij hc

/-- In a table without hidden rules, the rule that is found has the longest suffix of all
that fit. -/
theorem Unshadowed.longestFit (h : table.Unshadowed) (hf : table.find? filename = some rule) :
    table.LongestFit filename rule := by
  obtain ⟨hfits, before, after, hsplit, hbefore⟩ := List.find?_eq_some_iff_append.mp hf
  have hpairs := unshadowed_iff_pairwise.mp h
  rw [hsplit, List.pairwise_append, List.pairwise_cons] at hpairs
  obtain ⟨-, ⟨hafter, -⟩, -⟩ := hpairs
  refine ⟨List.mem_of_find?_eq_some hf, hfits, fun other ho hfo hne => ?_⟩
  rw [hsplit, List.mem_append, List.mem_cons] at ho
  rcases ho with ho | rfl | ho
  · have hmiss := hbefore other ho
    rw [hfo] at hmiss
    cases hmiss
  · exact absurd rfl hne
  · exact Rule.length_lt_of_not_covers hfits hfo (hafter other ho)

/-- At most one rule has the longest suffix. -/
theorem LongestFit.unique {other : Rule} (h : table.LongestFit filename rule)
    (ho : table.LongestFit filename other) : rule = other := by
  by_contra hne
  have hshorter := ho.longest rule h.mem h.fits hne
  have hlonger := h.longest other ho.mem ho.fits (Ne.symm hne)
  omega

/-- No rule is found exactly if none fits. -/
theorem find?_eq_none_iff :
    table.find? filename = none ↔ ∀ rule ∈ table.rules, rule.fits filename = false := by
  rw [find?, List.find?_eq_none]
  simp only [Bool.not_eq_true]

/-- In a table without hidden rules, a rule is found exactly if it has the longest suffix of
all that fit. -/
theorem Unshadowed.find?_eq_some (h : table.Unshadowed) :
    table.find? filename = some rule ↔ table.LongestFit filename rule := by
  refine ⟨h.longestFit, fun hl => ?_⟩
  cases hf : table.find? filename with
  | none =>
    have hmiss := find?_eq_none_iff.mp hf rule hl.mem
    rw [hl.fits] at hmiss
    cases hmiss
  | some found => rw [hl.unique (h.longestFit hf)]

/-- Which rule has the longest suffix does not depend on the order of the rules. -/
theorem LongestFit.perm {other : RuleTable} (hp : table.rules.Perm other.rules)
    (h : table.LongestFit filename rule) : other.LongestFit filename rule :=
  ⟨hp.mem_iff.mp h.mem, h.fits, fun another ha => h.longest another (hp.mem_iff.mpr ha)⟩

/-- Two tables without hidden rules that have the same rules find the same ones. -/
theorem Unshadowed.find?_perm {other : RuleTable} (h : table.Unshadowed) (ho : other.Unshadowed)
    (hp : table.rules.Perm other.rules) (filename : String) :
    table.find? filename = other.find? filename := by
  ext rule
  rw [h.find?_eq_some, ho.find?_eq_some]
  exact ⟨LongestFit.perm hp, LongestFit.perm hp.symm⟩

/-- No rule of the standard table is hidden. -/
theorem unshadowed_standard : standard.Unshadowed :=
  unshadowed_iff_pairwise.mpr (by decide)

/-- The rule at a position is found for some file name exactly if no earlier rule covers it.
If no rule at all is covered by an earlier one, as in the standard table, the rule that is
found is the one with the longest suffix of all that fit, and there is one as soon as any
rule fits. So all such orders of the same rules classify every file name alike. -/
theorem first_fit_is_longest_fit (table : RuleTable) :
    (∀ position < table.rules.length,
      (∃ filename, table.position? filename = some position) ↔ ¬table.Shadowed position) ∧
    (∀ filename, table.find? filename = (table.position? filename).bind (table.rules[·]?)) ∧
    standard.Unshadowed ∧
    (table.Unshadowed →
      (∀ filename rule, table.find? filename = some rule ↔ table.LongestFit filename rule) ∧
      (∀ filename, table.find? filename = none ↔
        ∀ rule ∈ table.rules, rule.fits filename = false) ∧
      ∀ other : RuleTable, other.Unshadowed → other.rules.Perm table.rules →
        ∀ policy filename,
          Classifier.classify ⟨other, policy⟩ filename =
            Classifier.classify ⟨table, policy⟩ filename) := by
  refine ⟨fun position hlt => exists_position?_iff (List.getElem?_eq_getElem hlt),
    table.find?_eq_position?, unshadowed_standard, fun h => ?_⟩
  refine ⟨fun filename rule => h.find?_eq_some, fun filename => find?_eq_none_iff, ?_⟩
  intro other ho hp policy filename
  simp only [Classifier.classify, ho.find?_perm h hp filename]

/-- The rules of the standard table with the packages of the other families first and the
rules for the two releases exchanged. -/
def rearranged : RuleTable where
  version := 2
  rules := [
    ⟨".deb", "Debian/Ubuntu", "x86_64"⟩,
    ⟨"el7.x86_64.rpm", "RHEL/CentOS 7", "x86_64"⟩,
    ⟨"el7.centos.x86_64.rpm", "RHEL/CentOS 7", "x86_64"⟩,
    ⟨"el6.x86_64.rpm", "RHEL/CentOS 6", "x86_64"⟩,
    ⟨"el6.centos.x86_64.rpm", "RHEL/CentOS 6", "x86_64"⟩,
    ⟨".apk", "Alpine Linux", "x86_64"⟩,
    ⟨".x86_64.rpm", "RHEL/CentOS/Fedora", "x86_64"⟩]

/-- Another order of the standard rules in which none is hidden classifies all files as the
standard one does. -/
theorem first_fit_is_longest_fit_sample :
    standard.Unshadowed ∧ rearranged.Unshadowed ∧ rearranged.rules.Perm standard.rules ∧
      (∃ filename, standard.position? filename = some 4) ∧
      standard.LongestFit "x.el7.x86_64.rpm" ⟨"el7.x86_64.rpm", "RHEL/CentOS 7", "x86_64"⟩ ∧
      ∀ policy filename, Classifier.classify ⟨rearranged, policy⟩ filename =
        Classifier.classify ⟨standard, policy⟩ filename := by
  have hs : standard.Unshadowed := unshadowed_iff_pairwise.mpr (by decide)
  have hr : rearranged.Unshadowed := unshadowed_iff_pairwise.mpr (by decide)
  have hp : rearranged.rules.Perm standard.rules := by decide
  obtain ⟨hposition, -, -, hlongest⟩ := first_fit_is_longest_fit standard
  obtain ⟨hfind, -, hclassify⟩ := hlongest hs
  refine ⟨hs, hr, hp, (hposition 4 (by decide)).mpr (hs 4), ?_, hclassify rearranged hr hp⟩
  exact (hfind _ _).mp (by decide +kernel)

end RuleTable

end ReleasePage
