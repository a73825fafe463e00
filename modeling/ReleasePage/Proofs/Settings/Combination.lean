import Mathlib
import ReleasePage.Proofs.Settings.Leaf
import ReleasePage.Proofs.Settings.Overrides

/-!
# Layers are combined setting by setting

The variables are laid over the settings file, and the file over the standard settings. Where
settings are loaded, each is the value of its own variable if this is set, otherwise the
value that the file has for it, otherwise the standard one. So nothing that is said about
another setting, or about none, changes it.
-/

namespace ReleasePage.Settings

open ReleasePage.Files (Path Volume)

/-! ## Reading a layer over a layer -/

section Layers

variable {later earlier tree : Tree} {leaf : Leaf} {standard result : leaf.Kind}

/-- The tree of a value that is no table has this value. -/
theorem value_ofValue {origin : Origin} {value : Value}
    (h : ¬(Tree.ofValue origin value).IsTable) : (Tree.ofValue origin value).value = value := by
  cases value with
  | table members => exact absurd ⟨origin, _, rfl⟩ h
  | _ => rfl

/-- A setting in the layer of a value that is no table has the value of the setting. -/
theorem exists_of_setting?_ofValue {origin : Origin} {value : Value} {heading key : String}
    {inner : Tree} (hi : (Tree.ofValue origin value).setting? heading key = some inner)
    (ht : ¬inner.IsTable) :
    ∃ found, value.setting? heading key = some found ∧ inner.value = found := by
  rw [Tree.setting?_ofValue, Option.map_eq_some_iff] at hi
  obtain ⟨found, hf, rfl⟩ := hi
  exact ⟨found, hf, value_ofValue ht⟩

/-- A tree that gives a setting is no table. -/
theorem not_isTable_of_read (h : leaf.read tree.value = .ok result) : ¬tree.IsTable := by
  rintro ⟨origin, members, rfl⟩
  exact Leaf.not_isTable_of_read h ⟨_, rfl⟩

/-- What is read of a setting is that of the later layer, or that of the earlier layer if the
later one does not have the setting. -/
theorem Given.of_laidOver (hs : later.Sectioned leaf.heading) (ho : later.Ordered)
    (h : Given leaf.read standard ((later.laidOver earlier).setting? leaf.heading leaf.key)
      result) :
    (∃ inner, later.setting? leaf.heading leaf.key = some inner ∧ ¬inner.IsTable ∧
      leaf.read inner.value = .ok result) ∨
    later.setting? leaf.heading leaf.key = none ∧
      Given leaf.read standard (earlier.setting? leaf.heading leaf.key) result := by
  rw [Tree.setting?_laidOver hs ho] at h
  cases hl : later.setting? leaf.heading leaf.key with
  | none =>
    rw [hl] at h
    exact .inr ⟨rfl, h⟩
  | some inner =>
    rw [hl] at h
    have hleaf : ¬inner.IsTable := mt (fun ht => ht.overAny _) (not_isTable_of_read h)
    refine .inl ⟨inner, rfl, hleaf, ?_⟩
    rw [← Tree.overAny_eq_self hleaf (earlier.setting? leaf.heading leaf.key)]
    exact h

end Layers

/-! ## The standard settings and the file -/

/-- The layers that the variables are laid over. -/
def layersBelow : Option (String × Value) → Tree
  | some (shown, value) =>
    (Tree.ofValue (.file shown) value).laidOver (Tree.ofValue .defaults standard.toValue)
  | none => Tree.ofValue .defaults standard.toValue

/-- The variables are laid over the file, and the file over the standard settings. -/
theorem layered_eq (file : Option (String × Value)) (overrides : Tree) :
    layered file overrides = overrides.laidOver (layersBelow file) := by
  cases file <;> rfl

/-- The standard settings have tables under the headings of the sections. -/
theorem sectioned_standard {heading : String} (hh : heading ∈ headings) :
    (Tree.ofValue .defaults standard.toValue).Sectioned heading := by
  have hall : ∀ heading ∈ headings, standard.toValue.Sectioned heading := by decide +kernel
  exact Tree.sectioned_ofValue ⟨_, rfl⟩ (hall heading hh)

/-- The file is a table, and so is what it has under the headings of the sections. -/
def FileSectioned (file : Option (String × Value)) : Prop :=
  ∀ entry ∈ file, entry.2.IsTable ∧ ∀ heading ∈ headings, entry.2.Sectioned heading

/-- The layers below the variables have tables under the headings of the sections. -/
theorem sectioned_layersBelow {file : Option (String × Value)} (hf : FileSectioned file)
    {heading : String} (hh : heading ∈ headings) : (layersBelow file).Sectioned heading := by
  cases file with
  | none => exact sectioned_standard hh
  | some entry =>
    obtain ⟨ht, hs⟩ := hf entry rfl
    exact (Tree.sectioned_ofValue ht (hs heading hh)).laidOver (Tree.ordered_ofValue ..)
      (sectioned_standard hh)

/-- What is read of a setting off the standard layer is the standard value. -/
theorem Given.of_standard {leaf : Leaf} {result : leaf.Kind}
    (h : Given leaf.read (leaf.get standard)
      ((Tree.ofValue .defaults standard.toValue).setting? leaf.heading leaf.key) result) :
    result = leaf.get standard := by
  obtain ⟨value, hv, hread⟩ := leaf.standard_given
  have htree : (Tree.ofValue .defaults standard.toValue).setting? leaf.heading leaf.key =
      some (Tree.ofValue .defaults value) := by
    rw [Tree.setting?_ofValue, hv]
    rfl
  rw [htree] at h
  obtain ⟨found, hf, hvalue⟩ := exists_of_setting?_ofValue htree (not_isTable_of_read h)
  cases hv.symm.trans hf
  change leaf.read (Tree.ofValue .defaults value).value = .ok result at h
  rw [hvalue, hread] at h
  exact (Except.ok.inj h).symm

/-- What is read of a setting below the variables is the value of the file, or the standard
one if the file has none. -/
theorem Given.of_layersBelow {file : Option (String × Value)} (hf : FileSectioned file)
    {leaf : Leaf} {result : leaf.Kind}
    (h : Given leaf.read (leaf.get standard)
      ((layersBelow file).setting? leaf.heading leaf.key) result) :
    (∃ value, (file.bind fun entry => entry.2.setting? leaf.heading leaf.key) = some value ∧
      leaf.read value = .ok result) ∨
    (file.bind fun entry => entry.2.setting? leaf.heading leaf.key) = none ∧
      result = leaf.get standard := by
  cases file with
  | none => exact .inr ⟨rfl, h.of_standard⟩
  | some entry =>
    obtain ⟨shown, value⟩ := entry
    obtain ⟨ht, hs⟩ := hf _ rfl
    rcases h.of_laidOver (Tree.sectioned_ofValue ht (hs _ leaf.heading_mem))
      (Tree.ordered_ofValue ..) with ⟨inner, hi, hleaf, hread⟩ | ⟨hnone, hbelow⟩
    · obtain ⟨found, hfound, hvalue⟩ := exists_of_setting?_ofValue hi hleaf
      rw [hvalue] at hread
      exact .inl ⟨found, hfound, hread⟩
    · rw [Tree.setting?_ofValue, Option.map_eq_none_iff] at hnone
      exact .inr ⟨hnone, hbelow.of_standard⟩

/-! ## The variables -/

/-- In a regular environment a setting is given by the variable of its name. -/
theorem Environment.Regular.mem_settingTexts {environment : Environment}
    (henv : environment.Regular) (leaf : Leaf) (text : String) :
    ([leaf.heading, leaf.key], text) ∈ settingTexts environment ↔
      environment.textOf? leaf.variableName = some text := by
  rw [henv.textOf?_eq_some leaf.settingPath?_variableName_ne_none, Settings.mem_settingTexts]
  refine exists_congr fun name => and_congr_right fun hm => ?_
  constructor
  · intro hp
    rw [(henv.names _ hm).lowered_eq hp, leaf.lowered_variableName]
  · intro hl
    rw [settingPath?_congr hl, leaf.settingPath?_variableName]

/-! ## Loading -/

/-- The value that the settings file of a path describes, if there is such a file. -/
def fileValue? (volume : Volume) (path : Path) : Option Value :=
  (findFile volume path).bind fun (shown, content) => (readFile shown content).toOption

/-- A document is a table. -/
theorem isTable_of_readFile {shown : String} {content : Text.Bytes} {value : Value}
    (h : readFile shown content = .ok value) : value.IsTable := by
  rw [readFile] at h
  split at h
  · cases h
  · split at h
    · cases h
    · next hd =>
      obtain ⟨members, -, rfl⟩ := Option.map_eq_some_iff.mp hd
      cases h
      exact ⟨_, rfl⟩

/-- Settings that are loaded are combined from the file that is found, and from the layer of
the variables. -/
theorem load_eq_ok {volume : Volume} {path : Path} {environment : Environment}
    {settings : Settings} (h : load volume path environment = .ok settings) :
    ∃ file overrides, variableLayer? environment = some overrides ∧
      combine file overrides = .ok settings ∧ file.map Prod.snd = fileValue? volume path ∧
      ∀ entry ∈ file, entry.2.IsTable := by
  rw [load] at h
  cases hv : variableLayer? environment with
  | none => rw [hv] at h; cases h
  | some overrides =>
    rw [hv] at h
    simp only at h
    cases hf : findFile volume path with
    | none =>
      rw [hf] at h
      exact ⟨none, overrides, rfl, h, by rw [fileValue?, hf]; rfl, nofun⟩
    | some found =>
      obtain ⟨shown, content⟩ := found
      rw [hf] at h
      obtain ⟨given, hgiven, h⟩ := bind_eq_ok.mp h
      obtain ⟨value, hr, hc⟩ := bind_eq_ok.mp h
      obtain ⟨-, rfl⟩ := Files.Device.deliver_eq_ok.mp (Files.mapError_eq_ok.mp hgiven)
      refine ⟨some (shown, value), overrides, rfl, hc, ?_, ?_⟩
      · change some value = (findFile volume path).bind _
        rw [hf, Option.bind_some]
        simp only [hr]
        rfl
      · intro entry he
        cases he
        exact isTable_of_readFile hr

/-- Settings are loaded from a file, or none, that has tables under the headings of the
sections, and from a regular environment. -/
structure Loads (volume : Volume) (path : Path) (environment : Environment)
    (settings : Settings) : Prop where
  /-- What the file has under a heading is a table. -/
  sectioned : ∀ value ∈ fileValue? volume path, ∀ heading ∈ headings, value.Sectioned heading
  /-- The variables have regular names. -/
  regular : environment.Regular
  /-- The settings are loaded. -/
  loaded : load volume path environment = .ok settings

/-- The value that a file has for a setting. -/
def Leaf.given? (leaf : Leaf) (volume : Volume) (path : Path) : Option Value :=
  (fileValue? volume path).bind fun value => value.setting? leaf.heading leaf.key

/-- A setting is what the text of its variable means if there is one, otherwise what the file
gives, otherwise the standard one. -/
structure Leaf.Follows (leaf : Leaf) (settings : Settings) (text? : Option String)
    (given? : Option Value) : Prop where
  /-- The variable is set. -/
  ofVariable : ∀ text, text? = some text →
    ∃ value, variableValue? text = some value ∧ leaf.read value = .ok (leaf.get settings)
  /-- The file has a value, and the variable is not set. -/
  ofFile : text? = none → ∀ value, given? = some value →
    leaf.read value = .ok (leaf.get settings)
  /-- There is neither. -/
  ofStandard : text? = none → given? = none → leaf.get settings = leaf.get standard

/-- There is only one way to follow the layers. -/
theorem Leaf.Follows.unique {leaf : Leaf} {settings other : Settings} {text? : Option String}
    {given? : Option Value} (h : leaf.Follows settings text? given?)
    (ho : leaf.Follows other text? given?) : leaf.get other = leaf.get settings := by
  cases text? with
  | some text =>
    obtain ⟨value, hv, hread⟩ := h.ofVariable text rfl
    obtain ⟨found, hf, hother⟩ := ho.ofVariable text rfl
    cases hv.symm.trans hf
    exact Except.ok.inj (hother.symm.trans hread)
  | none =>
    cases given? with
    | some value => exact Except.ok.inj ((ho.ofFile rfl value rfl).symm.trans (h.ofFile rfl value rfl))
    | none => exact (ho.ofStandard rfl rfl).trans (h.ofStandard rfl rfl).symm

variable {volume : Volume} {path : Path} {environment : Environment} {settings : Settings}

/-- Every setting that is loaded follows the layers. -/
theorem Loads.follows (h : Loads volume path environment settings) (leaf : Leaf) :
    leaf.Follows settings (environment.textOf? leaf.variableName) (leaf.given? volume path) := by
  obtain ⟨file, overrides, hv, hc, hfile, htable⟩ := load_eq_ok h.loaded
  have hsectioned : FileSectioned file := by
    intro entry he
    refine ⟨htable entry he, h.sectioned entry.2 ?_⟩
    rw [← hfile, he]
    rfl
  have hgiven : leaf.given? volume path =
      file.bind fun entry => entry.2.setting? leaf.heading leaf.key := by
    rw [Leaf.given?, ← hfile, Option.bind_map]
    rfl
  have hg := gathers_of_variableLayer? h.regular.names hv
  have hall : ∀ heading ∈ headings, (layered file overrides).Sectioned heading := by
    intro heading hh
    rw [layered_eq]
    exact (hg.sectioned heading hh).laidOver hg.ordered (sectioned_layersBelow hsectioned hh)
  have hread := given_of_ofMembers hall hc leaf
  rw [layered_eq] at hread
  rw [hgiven]
  rcases hread.of_laidOver (hg.sectioned _ leaf.heading_mem) hg.ordered with
    ⟨inner, hi, hleaf, hread⟩ | ⟨hnone, hbelow⟩
  · obtain ⟨text, value, hm, hval, rfl⟩ := hg.present _ leaf.heading_mem _ inner hi hleaf
    rw [value_ofValue hleaf] at hread
    rw [(h.regular.mem_settingTexts leaf text).mp hm]
    refine ⟨fun other ho => ?_, nofun, nofun⟩
    cases ho
    exact ⟨value, hval, hread⟩
  · have htext : environment.textOf? leaf.variableName = none := by
      rw [Option.eq_none_iff_forall_ne_some]
      intro text ht
      exact hg.missing _ leaf.heading_mem _ hnone text
        ((h.regular.mem_settingTexts leaf text).mpr ht)
    rw [htext]
    rcases hbelow.of_layersBelow hsectioned with ⟨value, hv, hread⟩ | ⟨hv, hstandard⟩
    · rw [hv]
      exact ⟨nofun, fun _ found hf => by cases hf; exact hread, nofun⟩
    · rw [hv]
      exact ⟨nofun, nofun, fun _ _ => hstandard⟩

/-- Where a setting has the same variable and the same value in the file, it is the same. -/
theorem Loads.get_eq (h : Loads volume path environment settings) {changed : Volume}
    {place : Path} {surroundings : Environment} {other : Settings}
    (ho : Loads changed place surroundings other) {leaf : Leaf}
    (htext : surroundings.textOf? leaf.variableName = environment.textOf? leaf.variableName)
    (hgiven : leaf.given? changed place = leaf.given? volume path) :
    leaf.get other = leaf.get settings := by
  have hfollows := ho.follows leaf
  rw [htext, hgiven] at hfollows
  exact (h.follows leaf).unique hfollows

/-- Where one variable is set, the settings that it does not name keep their texts. -/
theorem Environment.Regular.textOf?_set {name text : String} (henv : environment.Regular)
    (hset : Environment.Regular (environment.set name text)) {leaf : Leaf}
    (hne : lowered name ≠ lowered leaf.variableName) :
    Environment.textOf? (environment.set name text) leaf.variableName =
      environment.textOf? leaf.variableName := by
  refine henv.textOf?_congr hset leaf.settingPath?_variableName_ne_none fun other found hl => ?_
  exact Environment.mem_set_of_ne (fun he => hne (by rw [← he, hl])) text

/-- Where one variable is removed, the settings that it does not name keep their texts. -/
theorem Environment.Regular.textOf?_unset {name : String} (henv : environment.Regular)
    {leaf : Leaf} (hne : lowered name ≠ lowered leaf.variableName) :
    Environment.textOf? (environment.unset name) leaf.variableName =
      environment.textOf? leaf.variableName := by
  refine henv.textOf?_congr (henv.unset name) leaf.settingPath?_variableName_ne_none
    fun other found hl => ?_
  exact Environment.mem_unset_of_ne fun he => hne (by rw [← he, hl])

/-- Settings come from the texts of the variables that give them, and from nothing else of
the environment. -/
theorem load_congr {surroundings : Environment}
    (h : settingTexts surroundings = settingTexts environment) (volume : Volume) (path : Path) :
    load volume path surroundings = load volume path environment := by
  rw [load, load, variableLayer?, variableLayer?, h]

/-- Settings are combined one by one. Each of the ten is what its variable says if it is set,
in any case of its name, otherwise what the file says, otherwise the standard value. So it
is the same wherever these two are the same for it, whatever else the file and the variables
say. Setting or removing a variable changes no setting but the one that it names, of which
there is at most one, and none at all if it names none; variables without the mark, and the
one with the log directives, do not change the outcome in any way. -/
theorem load_combines_leaf_by_leaf (h : Loads volume path environment settings) :
    (∀ leaf : Leaf, leaf.Follows settings (environment.textOf? leaf.variableName)
      (leaf.given? volume path)) ∧
    (∀ changed place surroundings other, Loads changed place surroundings other →
      ∀ leaf : Leaf,
        surroundings.textOf? leaf.variableName = environment.textOf? leaf.variableName →
        leaf.given? changed place = leaf.given? volume path →
        leaf.get other = leaf.get settings) ∧
    (∀ leaf other : Leaf, lowered leaf.variableName = lowered other.variableName →
      leaf = other) ∧
    (∀ name text other, Loads volume path (environment.set name text) other ∨
        load volume path (environment.unset name) = .ok other →
      (∀ leaf : Leaf, lowered name ≠ lowered leaf.variableName →
        leaf.get other = leaf.get settings) ∧
      ((∀ leaf : Leaf, lowered name ≠ lowered leaf.variableName) → other = settings)) ∧
    ∀ name text, lowered name = loweredMark ++ logName.toList ∨
        ¬loweredMark <+: Text.asciiLower (Text.trimmed name.toList) →
      load volume path (environment.set name text) = .ok settings ∧
        load volume path (environment.unset name) = .ok settings := by
  refine ⟨h.follows, fun changed place surroundings other ho leaf => h.get_eq ho,
    fun leaf other => Leaf.variableName_injective, ?_, ?_⟩
  · intro name text other ho
    have hkeep : ∀ leaf : Leaf, lowered name ≠ lowered leaf.variableName →
        leaf.get other = leaf.get settings := by
      intro leaf hne
      rcases ho with ho | ho
      · exact h.get_eq ho (h.regular.textOf?_set ho.regular hne) rfl
      · exact h.get_eq ⟨h.sectioned, h.regular.unset name, ho⟩ (h.regular.textOf?_unset hne) rfl
    exact ⟨hkeep, fun hnone => Leaf.settings_ext fun leaf => hkeep leaf (hnone leaf)⟩
  · intro name text hname
    have hpath : settingPath? name = none :=
      hname.elim settingPath?_of_log settingPath?_of_unrelated
    rw [load_congr (Environment.settingTexts_set hpath text),
      load_congr (Environment.settingTexts_unset hpath)]
    exact ⟨h.loaded, h.loaded⟩

/-- What is left of a result besides its error is the result if there is one. -/
theorem ok_of_toOption {ε α : Type} {x : Except ε α} {a : α} (h : x.toOption = some a) :
    x = .ok a := by
  cases x with
  | error _ => cases h
  | ok _ => exact congrArg Except.ok (Option.some.inj h)

/-- A settings file with two of the three sections, both in part. -/
def partialFile : String :=
  "[upstream]\nowner = \"someone\"\ntimeout_secs = 3\n\n[render]\ntime_zone = \"UTC\"\n"

/-- A volume with this file. -/
def partialVolume : Volume :=
  ((Volume.blank ["home"]).place standardPath (Text.bytes partialFile) .withParents).2

/-- Variables of two settings, one of which the file gives as well. -/
def partialEnvironment : Environment :=
  [("RELSITE_LOG", "debug"), ("HOME", "/home"), ("RELSITE_UPSTREAM__OWNER", "other"),
    ("relsite_cache__max_bytes", "1024")]

/-- The settings that the file and the variables give. -/
def partialSettings : Settings where
  service := { standard.service with owner := "other", timeoutSeconds := 3 }
  rendering := { standard.rendering with zone := "UTC" }
  caching := { standard.caching with maxBytes := 1024 }

/-- The variables of two settings are regular, the ones around them as well. -/
theorem regular_partialEnvironment : partialEnvironment.Regular where
  names := by
    have hlog : RegularName "RELSITE_LOG" :=
      .single "log".toList (by decide +kernel) ⟨by simp [Text.isBlank], by simp [Text.isBlank]⟩
        (by decide +kernel) (by decide +kernel)
    have hhome : RegularName "HOME" := .unrelated (by decide +kernel)
    have howner : RegularName "RELSITE_UPSTREAM__OWNER" :=
      .setting "upstream".toList "owner".toList (by decide +kernel)
        ⟨by simp [Text.isBlank], by simp [gap, Text.isBlank]⟩
    have hbytes : RegularName "relsite_cache__max_bytes" :=
      .setting "cache".toList "max_bytes".toList (by decide +kernel)
        ⟨by simp [Text.isBlank], by simp [gap, Text.isBlank]⟩
    simp [partialEnvironment, hlog, hhome, howner, hbytes]
  distinct := by decide +kernel

/-- Settings with a file and variables that both leave most of them out. Without the variable
of the owner the owner is that of the file, and nothing else changes. -/
theorem load_combines_leaf_by_leaf_sample :
    Loads partialVolume standardPath partialEnvironment partialSettings ∧
    (∀ leaf : Leaf, leaf.Follows partialSettings
      (partialEnvironment.textOf? leaf.variableName) (leaf.given? partialVolume standardPath)) ∧
    (∃ other, load partialVolume standardPath
        (partialEnvironment.unset "RELSITE_UPSTREAM__OWNER") = .ok other ∧
      other.service.owner = "someone" ∧
      ∀ leaf : Leaf, leaf ≠ .owner → leaf.get other = leaf.get partialSettings) ∧
    load partialVolume standardPath (partialEnvironment.set "RELSITE_LOG" "off") =
      .ok partialSettings := by
  have hloads : Loads partialVolume standardPath partialEnvironment partialSettings :=
    ⟨by decide +kernel, regular_partialEnvironment, ok_of_toOption (by decide +kernel)⟩
  have hunset : load partialVolume standardPath
      (partialEnvironment.unset "RELSITE_UPSTREAM__OWNER") =
        .ok { partialSettings with service.owner := "someone" } :=
    ok_of_toOption (by decide +kernel)
  obtain ⟨hfollows, -, hnames, hchange, hlog⟩ := load_combines_leaf_by_leaf hloads
  refine ⟨hloads, hfollows, ⟨_, hunset, rfl, fun leaf hne => ?_⟩, ?_⟩
  · have howner : lowered "RELSITE_UPSTREAM__OWNER" = lowered Leaf.owner.variableName := by
      decide +kernel
    refine (hchange "RELSITE_UPSTREAM__OWNER" "" _ (.inr hunset)).1 leaf fun hl => hne ?_
    exact (hnames .owner leaf (howner.symm.trans hl)).symm
  · exact (hlog "RELSITE_LOG" "off" (.inl (by decide +kernel))).1

end ReleasePage.Settings
