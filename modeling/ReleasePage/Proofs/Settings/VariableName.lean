import Mathlib
import ReleasePage.Proofs.Pieces
import ReleasePage.Settings.Variable

/-!
# Names of environment variables

A variable gives a setting if its name consists of the mark, the heading of a section, two
underscores and the name of the setting, in any case. Of the variables whose names have
this form, only those with exactly these parts give the setting, and none of them gives a
whole section. Variables of other names, and the one with the log directives, give nothing.
-/

namespace ReleasePage.Text

/-- A letter is no white space. -/
theorem isBlank_eq_false {c : Char} (hlow : 65 ≤ c.toNat) (hhigh : c.toNat ≤ 122) :
    isBlank c = false := by
  simp only [isBlank, Bool.or_eq_false_iff, Bool.and_eq_false_iff, decide_eq_false_iff_not,
    beq_eq_false_iff_ne]
  omega

/-- White space has no case. -/
theorem isBlank_toLower (c : Char) : isBlank c.toLower = isBlank c := by
  by_cases hupper : c.isUpper = true
  · have hbounds : 65 ≤ c.toNat ∧ c.toNat ≤ 90 := by
      simpa [Char.isUpper, UInt32.le_iff_toNat_le, ← Char.toNat_val] using hupper
    have hlower : c.toLower.toNat = c.toNat + 32 := by
      have hn : c.val.toNat ≤ 90 := hbounds.2
      have hc : c.val ≥ 'A'.val ∧ c.val ≤ 'Z'.val := by
        simpa [Char.isUpper] using hupper
      rw [Char.toLower, dif_pos hc]
      change (c.val + 32).toNat = c.val.toNat + 32
      rw [UInt32.toNat_add]
      exact Nat.mod_eq_of_lt (by simp; omega)
    rw [isBlank_eq_false (c := c) (by omega) (by omega), isBlank_eq_false (by omega) (by omega)]
  · rw [Char.toLower_eq_of_not_isUpper hupper]

/-- A text is trimmed alike in any case. -/
theorem asciiLower_trimmed (text : List Char) :
    asciiLower (trimmed text) = trimmed (asciiLower text) := by
  have hdrop : ∀ other : List Char,
      (asciiLower other).dropWhile isBlank = asciiLower (other.dropWhile isBlank) := by
    intro other
    have hblank : isBlank ∘ Char.toLower = isBlank := funext isBlank_toLower
    rw [asciiLower, List.dropWhile_map, hblank]
    rfl
  have hreverse : ∀ other : List Char, (asciiLower other).reverse = asciiLower other.reverse :=
    fun other => List.map_reverse.symm
  rw [trimmed, trimmed, hdrop, hreverse, hdrop, hreverse]

/-- No white space stands at the start or at the end of a text. -/
structure Tight (text : List Char) : Prop where
  /-- The first character. -/
  start : ∀ c ∈ text.head?, isBlank c = false
  /-- The last character. -/
  finish : ∀ c ∈ text.getLast?, isBlank c = false

/-- A text without white space around it stays as it is. -/
theorem Tight.trimmed_eq {text : List Char} (h : Tight text) : trimmed text = text := by
  have hdrop : ∀ other : List Char, (∀ c ∈ other.head?, isBlank c = false) →
      other.dropWhile isBlank = other := by
    intro other ho
    cases other with
    | nil => rfl
    | cons c rest => exact List.dropWhile_cons_of_neg (by simp [ho c rfl])
  have hlast : ∀ c ∈ text.reverse.head?, isBlank c = false := by
    rw [List.head?_reverse]
    exact h.finish
  rw [trimmed, hdrop text h.start, hdrop _ hlast, List.reverse_reverse]

end ReleasePage.Text

namespace ReleasePage.Settings

/-! ## Points for underscores -/

/-- What leads from the heading of a section to the name of a setting. -/
def gap : List Char := ['_', '_']

/-- Points are put into no empty text only. -/
theorem dotted_eq_nil {text : List Char} : dotted text = [] ↔ text = [] := by
  fun_cases dotted text <;> simp

/-- A text starts with a point, or with what it started with before points were put in. -/
theorem mem_head?_dotted {text : List Char} {c : Char} (h : c ∈ (dotted text).head?) :
    c = '.' ∨ c ∈ text.head? := by
  fun_cases dotted text with
  | case1 rest => exact .inl (Option.some.inj h).symm
  | case2 d rest hne =>
    rw [dotted.eq_2 d rest hne] at h
    exact .inr h
  | case3 => exact .inr h

/-- The last character of a text is the last one of what follows its first character, or
the only one. -/
theorem mem_getLast?_cons {c d : Char} {rest : List Char} :
    c ∈ (d :: rest).getLast? ↔ c ∈ rest.getLast? ∨ rest = [] ∧ c = d := by
  cases rest with
  | nil => simp [eq_comm]
  | cons e rest => rw [List.getLast?_cons_cons]; simp

/-- A text ends in a point, or in what it ended in before points were put in. -/
theorem mem_getLast?_dotted {text : List Char} {c : Char} (h : c ∈ (dotted text).getLast?) :
    c = '.' ∨ c ∈ text.getLast? := by
  fun_induction dotted text with
  | case1 rest ih =>
    rcases mem_getLast?_cons.mp h with h | ⟨-, rfl⟩
    · refine (ih h).imp_right fun hm => ?_
      exact mem_getLast?_cons.mpr (.inl (mem_getLast?_cons.mpr (.inl hm)))
    · exact .inl rfl
  | case2 d rest _ ih =>
    rcases mem_getLast?_cons.mp h with h | ⟨hnil, rfl⟩
    · exact (ih h).imp_right fun hm => mem_getLast?_cons.mpr (.inl hm)
    · exact .inr (mem_getLast?_cons.mpr (.inr ⟨dotted_eq_nil.mp hnil, rfl⟩))
  | case3 => exact .inr h

/-- Points put no white space around a text. -/
theorem tight_dotted {text : List Char} (h : Text.Tight text) : Text.Tight (dotted text) where
  start c hc := by
    rcases mem_head?_dotted hc with rfl | hc
    · decide
    · exact h.start c hc
  finish c hc := by
    rcases mem_getLast?_dotted hc with rfl | hc
    · decide
    · exact h.finish c hc

/-- Two underscores in a text that does not start with them stand behind its first
character. -/
theorem gap_isInfix_cons {c : Char} {rest : List Char}
    (hne : ∀ other, c = '_' → rest = '_' :: other → False) (h : gap <:+: c :: rest) :
    gap <:+: rest := by
  rcases List.infix_cons_iff.mp h with ⟨other, hp⟩ | h
  · obtain ⟨hc, hrest⟩ := List.cons.inj hp
    exact absurd hrest.symm (hne other hc.symm)
  · exact h

/-- A text without points has no two underscores that were replaced. -/
theorem dotted_eq_self {text : List Char} (h : '.' ∉ dotted text) :
    dotted text = text ∧ ¬gap <:+: text := by
  fun_induction dotted text with
  | case1 rest ih => exact absurd List.mem_cons_self h
  | case2 c rest hne ih =>
    obtain ⟨hrest, hgap⟩ := ih fun hm => h (List.mem_cons_of_mem c hm)
    exact ⟨congrArg (c :: ·) hrest, fun hg => hgap (gap_isInfix_cons hne hg)⟩
  | case3 => exact ⟨rfl, fun hg => by cases List.infix_nil.mp hg⟩

/-- A text with two underscores that has one point after the replacement had them in the
place of the point. -/
theorem eq_of_dotted {text heading key : List Char} (h : dotted text = heading ++ '.' :: key)
    (hh : '.' ∉ heading) (hk : '.' ∉ key) (hg : gap <:+: text) :
    text = heading ++ gap ++ key := by
  fun_induction dotted text generalizing heading with
  | case1 rest ih =>
    cases heading with
    | nil =>
      have hrest : dotted rest = key := (List.cons.inj h).2
      rw [← hrest] at hk
      rw [← hrest, (dotted_eq_self hk).1]
      rfl
    | cons c heading =>
      rw [← (List.cons.inj h).1] at hh
      exact absurd List.mem_cons_self hh
  | case2 c rest hne ih =>
    have hgap := gap_isInfix_cons hne hg
    cases heading with
    | nil =>
      rw [← (List.cons.inj h).2] at hk
      exact absurd hgap (dotted_eq_self hk).2
    | cons d heading =>
      obtain ⟨rfl, hrest⟩ := List.cons.inj h
      rw [ih hrest (fun hm => hh (List.mem_cons_of_mem c hm)) hgap]
      rfl
  | case3 => simp at h

/-! ## The names of variables -/

/-- The name of a variable without regard to case. -/
def lowered (name : String) : List Char := Text.asciiLower name.toList

/-- How the names of settings start, without regard to case. -/
def loweredMark : List Char := Text.asciiLower variableMark.toList

/-- The name of the variable of a setting. -/
def variableName (heading key : String) : String := variableMark ++ heading ++ "__" ++ key

/-- The headings of the sections. -/
def headings : List String := ["upstream", "render", "cache"]

/-- The name of a variable that gives one setting of a section, or nothing that is known. -/
inductive RegularName (name : String) : Prop where
  /-- The name does not start with the mark, white space around it apart. -/
  | unrelated (h : ¬loweredMark <+: Text.asciiLower (Text.trimmed name.toList))
  /-- One name follows the mark, which is not that of a section. The variable with the log
  directives is of this kind. -/
  | single (key : List Char) (h : lowered name = loweredMark ++ key) (htight : Text.Tight key)
    (hpoint : '.' ∉ dotted key) (hkey : ∀ heading ∈ headings, key ≠ heading.toList)
  /-- A heading and a key follow the mark, two underscores between them and no white space
  around them. -/
  | setting (heading key : List Char) (h : lowered name = loweredMark ++ (heading ++ gap ++ key))
    (htight : Text.Tight (heading ++ gap ++ key))

/-- It does not matter whether a name is trimmed or made small first. -/
theorem asciiLower_trimmed_name (name : String) :
    Text.asciiLower (Text.trimmed name.toList) = Text.trimmed (lowered name) :=
  Text.asciiLower_trimmed name.toList

/-- Names that differ in case only give the same setting. -/
theorem settingPath?_congr {name other : String} (h : lowered name = lowered other) :
    settingPath? name = settingPath? other := by
  rw [settingPath?, settingPath?, asciiLower_trimmed_name, asciiLower_trimmed_name, h]

/-- A name without the mark gives no setting. -/
theorem settingPath?_of_unrelated {name : String}
    (h : ¬loweredMark <+: Text.asciiLower (Text.trimmed name.toList)) :
    settingPath? name = none := by
  rw [settingPath?]
  exact if_neg fun hp => h (List.isPrefixOf_iff_prefix.mp hp)

/-- The log directives are no setting. -/
theorem settingPath?_of_log {name : String} (h : lowered name = loweredMark ++ logName.toList) :
    settingPath? name = none := by
  have hname : lowered name = lowered "RELSITE_LOG" := h.trans (by decide +kernel)
  rw [settingPath?_congr hname]
  decide +kernel

/-- The parts of a path stand between points in what follows the mark. -/
theorem pieces_of_settingPath? {name : String} {rest : List Char} {path : List String}
    (hname : lowered name = loweredMark ++ rest) (htight : Text.Tight rest)
    (h : settingPath? name = some path) :
    Text.pieces (· == '.') (dotted rest) = path.map String.toList := by
  have hlowered : Text.Tight (loweredMark ++ rest) := by
    refine ⟨fun c hc => ?_, fun c hc => ?_⟩
    · cases hc
      decide
    · rw [List.getLast?_append, Option.mem_def, Option.or_eq_some_iff] at hc
      rcases hc with hc | ⟨-, hc⟩
      · exact htight.finish c hc
      · cases hc
        decide
  have hstarts : loweredMark.isPrefixOf (loweredMark ++ rest) = true :=
    List.isPrefixOf_iff_prefix.mpr (List.prefix_append ..)
  rw [settingPath?, asciiLower_trimmed_name, hname, hlowered.trimmed_eq, ← loweredMark] at h
  simp only [hstarts, if_true, List.drop_left, (tight_dotted htight).trimmed_eq] at h
  split_ifs at h
  rw [← Option.some.inj h, List.map_map]
  have hround : String.toList ∘ String.ofList = id := funext fun _ => String.toList_ofList
  rw [hround, List.map_id]

/-- The path of a setting has a first part. -/
theorem settingPath?_ne_nil (name : String) : settingPath? name ≠ some [] := by
  intro h
  simp only [settingPath?] at h
  split_ifs at h
  have hpieces := List.map_eq_nil_iff.mp (Option.some.inj h)
  rw [Text.pieces_eq_splitOnP] at hpieces
  exact List.splitOnP_ne_nil _ _ hpieces

namespace RegularName

variable {name : String} {path : List String}

/-- A variable gives no whole section. -/
theorem ne_heading (hname : RegularName name) (h : settingPath? name = some path) {heading : String}
    (hh : heading ∈ headings) : path ≠ [heading] := by
  rintro rfl
  cases hname with
  | unrelated hu => rw [settingPath?_of_unrelated hu] at h; cases h
  | single key hs htight hpoint hkey =>
    have hpieces := pieces_of_settingPath? hs htight h
    rw [Text.pieces_of_not_mem hpoint, (dotted_eq_self hpoint).1] at hpieces
    exact hkey heading hh (List.singleton_inj.mp hpieces)
  | setting heading key hs htight =>
    have hpieces := pieces_of_settingPath? hs htight h
    have hpoint : '.' ∈ dotted (heading ++ gap ++ key) := by
      by_contra hno
      exact (dotted_eq_self hno).2 ⟨heading, key, rfl⟩
    obtain ⟨front, back, hsplit⟩ := List.append_of_mem hpoint
    obtain ⟨a, as, hfront⟩ := Text.exists_pieces_eq_cons (· == '.') front
    obtain ⟨b, bs, hback⟩ := Text.exists_pieces_eq_cons (· == '.') back
    have hcut : ('.' == '.') = true := beq_self_eq_true '.'
    rw [hsplit, @Text.pieces_append_cons (· == '.') '.' hcut, hfront, hback] at hpieces
    have hlength := congrArg List.length hpieces
    simp only [List.length_append, List.length_cons, List.length_map, List.length_nil] at hlength
    omega

/-- A variable that gives a setting has its heading and its key in the name. -/
theorem lowered_eq (hname : RegularName name) {heading key : String}
    (h : settingPath? name = some [heading, key]) :
    lowered name = loweredMark ++ (heading.toList ++ gap ++ key.toList) := by
  cases hname with
  | unrelated hu => rw [settingPath?_of_unrelated hu] at h; cases h
  | single other hs htight hpoint hkey =>
    have hpieces := pieces_of_settingPath? hs htight h
    rw [Text.pieces_of_not_mem hpoint] at hpieces
    exact absurd (congrArg List.length hpieces) (by simp)
  | setting first second hs htight =>
    have hpieces := pieces_of_settingPath? hs htight h
    have hno : ∀ piece ∈ [heading.toList, key.toList], '.' ∉ piece := by
      intro piece hp hc
      have hm : piece ∈ Text.pieces (· == '.') (dotted (first ++ gap ++ second)) := by
        rw [hpieces]
        exact hp
      exact absurd (Text.mem_and_not_cut_of_mem_pieces hm '.' hc).2 (by decide)
    have hdotted : dotted (first ++ gap ++ second) = heading.toList ++ '.' :: key.toList := by
      rw [← Text.intercalate_pieces '.' (dotted (first ++ gap ++ second)), hpieces]
      simp [List.intercalate_cons_cons]
    rw [hs, eq_of_dotted hdotted (hno _ List.mem_cons_self)
      (hno _ (List.mem_cons_of_mem _ List.mem_cons_self)) ⟨first, second, rfl⟩]

end RegularName

/-! ## Variables of an environment -/

/-- All variables have regular names, and no two that give settings have names that differ
in case only. -/
structure Environment.Regular (environment : Environment) : Prop where
  /-- The names. -/
  names : ∀ entry ∈ environment, RegularName entry.1
  /-- They differ, unless they give no setting. -/
  distinct : environment.Pairwise fun first second =>
    lowered first.1 = lowered second.1 → settingPath? first.1 = none

/-- The text of the variable of this name, in any case. -/
def Environment.textOf? (environment : Environment) (name : String) : Option String :=
  (environment.find? fun entry => lowered entry.1 = lowered name).map Prod.snd

/-- A setting is given by a variable of the environment. -/
theorem mem_settingTexts {environment : Environment} {path : List String} {text : String} :
    (path, text) ∈ settingTexts environment ↔
      ∃ name, (name, text) ∈ environment ∧ settingPath? name = some path := by
  rw [settingTexts, List.mem_filterMap]
  constructor
  · rintro ⟨⟨name, other⟩, hm, hp⟩
    obtain ⟨found, hf, hpair⟩ := Option.map_eq_some_iff.mp hp
    obtain ⟨rfl, rfl⟩ := Prod.mk.inj hpair
    exact ⟨name, hm, hf⟩
  · rintro ⟨name, hm, hp⟩
    exact ⟨(name, text), hm, Option.map_eq_some_iff.mpr ⟨path, hp, rfl⟩⟩

namespace Environment

variable {environment : Environment} {name text : String}

/-- The text that is found is that of a variable of the name. -/
theorem exists_of_textOf? (h : environment.textOf? name = some text) :
    ∃ other, (other, text) ∈ environment ∧ lowered other = lowered name := by
  obtain ⟨entry, hf, rfl⟩ := Option.map_eq_some_iff.mp h
  have hname := List.find?_some hf
  exact ⟨entry.1, List.mem_of_find?_eq_some hf, of_decide_eq_true hname⟩

/-- Nothing is found if no variable has the name. -/
theorem lowered_ne_of_textOf? (h : environment.textOf? name = none) {other : String}
    (hm : (other, text) ∈ environment) : lowered other ≠ lowered name := by
  have hf := List.find?_eq_none.mp (Option.map_eq_none_iff.mp h) _ hm
  exact fun hl => hf (decide_eq_true hl)

/-- Of the variables that give settings, those whose names differ in case only are one
variable. -/
theorem Regular.text_unique (h : environment.Regular) {other another found : String}
    (hp : settingPath? other ≠ none) (ho : (other, text) ∈ environment)
    (ha : (another, found) ∈ environment) (hl : lowered other = lowered another) :
    text = found := by
  have hsymm : Std.Symm fun first second : String × String =>
      lowered first.1 = lowered second.1 → settingPath? first.1 = none := by
    refine ⟨fun first second hnone hlow => ?_⟩
    rw [settingPath?_congr hlow]
    exact hnone hlow.symm
  by_contra hne
  have hpair : (other, text) ≠ (another, found) := fun heq => hne (Prod.mk.inj heq).2
  have hnone := h.distinct.forall ho ha hpair
  exact hp (hnone hl)

/-- In a regular environment the text of a name that gives a setting is that of the only
variable of the name. -/
theorem Regular.textOf?_eq_some (h : environment.Regular) (hp : settingPath? name ≠ none) :
    environment.textOf? name = some text ↔
      ∃ other, (other, text) ∈ environment ∧ lowered other = lowered name := by
  refine ⟨exists_of_textOf?, ?_⟩
  rintro ⟨other, hm, hl⟩
  cases hf : environment.textOf? name with
  | none => exact absurd hl (lowered_ne_of_textOf? hf hm)
  | some found =>
    obtain ⟨another, ha, hal⟩ := exists_of_textOf? hf
    rw [← settingPath?_congr hl] at hp
    rw [h.text_unique hp hm ha (hl.trans hal.symm)]

/-- Only the variables of a name decide which text the name has. -/
theorem Regular.textOf?_congr {changed : Environment} (h : environment.Regular)
    (hc : changed.Regular) (hp : settingPath? name ≠ none)
    (hsame : ∀ other text, lowered other = lowered name →
      ((other, text) ∈ changed ↔ (other, text) ∈ environment)) :
    changed.textOf? name = environment.textOf? name := by
  ext text
  rw [hc.textOf?_eq_some hp, h.textOf?_eq_some hp]
  constructor
  · rintro ⟨other, hm, hl⟩
    exact ⟨other, (hsame other text hl).mp hm, hl⟩
  · rintro ⟨other, hm, hl⟩
    exact ⟨other, (hsame other text hl).mpr hm, hl⟩

/-- The environment stays regular without a variable. -/
theorem Regular.unset (h : environment.Regular) (name : String) :
    Regular (environment.unset name) where
  names entry he := h.names entry (List.mem_of_mem_filter he)
  distinct := h.distinct.sublist List.filter_sublist

/-- Setting a variable leaves the other ones as they are. -/
theorem mem_set_of_ne {other : String} (hne : other ≠ name) (content : String) :
    (other, text) ∈ environment.set name content ↔ (other, text) ∈ environment := by
  rw [set]
  split_ifs
  · rw [List.mem_map]
    constructor
    · rintro ⟨entry, he, hentry⟩
      split_ifs at hentry with hname
      · exact absurd (Prod.mk.inj hentry).1.symm hne
      · rw [← hentry]
        exact he
    · exact fun hm => ⟨(other, text), hm, if_neg hne⟩
  · rw [List.mem_append, List.mem_singleton, Prod.mk.injEq]
    exact or_iff_left fun h => hne h.1

/-- Removing a variable leaves the other ones as they are. -/
theorem mem_unset_of_ne {other : String} (hne : other ≠ name) :
    (other, text) ∈ environment.unset name ↔ (other, text) ∈ environment := by
  rw [Environment.unset, List.mem_filter]
  exact and_iff_left (decide_eq_true hne)

/-- Setting a variable that gives no setting leaves the settings as they are. -/
theorem settingTexts_set (h : settingPath? name = none) (text : String) :
    settingTexts (environment.set name text) = settingTexts environment := by
  rw [set]
  split_ifs
  · rw [settingTexts, settingTexts, List.filterMap_map]
    refine List.filterMap_congr fun entry _ => ?_
    by_cases hname : entry.1 = name
    · simp [hname, h]
    · simp [hname]
  · rw [settingTexts, settingTexts, List.filterMap_append]
    simp [h]

/-- Removing a variable that gives no setting leaves the settings as they are. -/
theorem settingTexts_unset (h : settingPath? name = none) :
    settingTexts (environment.unset name) = settingTexts environment := by
  rw [Environment.unset, settingTexts, settingTexts, List.filterMap_filter]
  refine List.filterMap_congr fun entry _ => ?_
  by_cases hname : entry.1 = name
  · simp [hname, h]
  · simp [hname]

end Environment

end ReleasePage.Settings
