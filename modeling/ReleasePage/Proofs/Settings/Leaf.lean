import Mathlib
import ReleasePage.Proofs.Settings.Layering
import ReleasePage.Proofs.Settings.VariableName

/-!
# The ten settings

Every setting of the program stands under the heading of its section. It is read off the
tree of all layers on its own: whatever the tree says about other settings, a setting that
is read is what the tree has under its two names, or the standard one if there is nothing.
-/

namespace ReleasePage.Settings

/-- The settings of the program, one by one. -/
inductive Leaf where
  /-- The base of all addresses. -/
  | base
  /-- The owner of the repository. -/
  | owner
  /-- The repository. -/
  | repo
  /-- The name the program gives of itself. -/
  | agent
  /-- How long a request may take. -/
  | timeout
  /-- The time zone of dates. -/
  | zone
  /-- The file of the staged record. -/
  | snapshot
  /-- The file of the record of the last release. -/
  | record
  /-- The version of the record's layout. -/
  | version
  /-- The greatest size of the record. -/
  | maxBytes
  deriving Repr, DecidableEq

namespace Leaf

/-- The heading of the section that a setting belongs to. -/
def heading : Leaf → String
  | base | owner | repo | agent | timeout => "upstream"
  | zone | snapshot => "render"
  | record | version | maxBytes => "cache"

/-- The name of a setting under its heading. -/
def key : Leaf → String
  | base => "api_base"
  | owner => "owner"
  | repo => "repo"
  | agent => "user_agent"
  | timeout => "timeout_secs"
  | zone => "time_zone"
  | snapshot => "snapshot"
  | record => "path"
  | version => "schema_version"
  | maxBytes => "max_bytes"

/-- What a setting is: a number or a text. -/
def Kind : Leaf → Type
  | timeout | version | maxBytes => Nat
  | base | owner | repo | agent | zone | snapshot | record => String

/-- A setting in the settings of the program. -/
def get : (leaf : Leaf) → Settings → leaf.Kind
  | base, settings => settings.service.base
  | owner, settings => settings.service.owner
  | repo, settings => settings.service.repo
  | agent, settings => settings.service.agent
  | timeout, settings => settings.service.timeoutSeconds
  | zone, settings => settings.rendering.zone
  | snapshot, settings => settings.rendering.snapshot
  | record, settings => settings.caching.path
  | version, settings => settings.caching.version
  | maxBytes, settings => settings.caching.maxBytes

/-- Reads a value as the setting. -/
def read : (leaf : Leaf) → Value → Except Mismatch leaf.Kind
  | base | owner | repo | agent | zone => readText
  | snapshot | record => readPath
  | timeout => readSeconds
  | version => readVersion
  | maxBytes => readByteCount

/-- The name of the variable that gives a setting. -/
def variableName (leaf : Leaf) : String := Settings.variableName leaf.heading leaf.key

/-- Settings are the same if all ten are. -/
theorem settings_ext {settings other : Settings}
    (h : ∀ leaf : Leaf, leaf.get settings = leaf.get other) : settings = other := by
  obtain ⟨⟨_, _, _, _, _⟩, ⟨_, _⟩, ⟨_, _, _⟩⟩ := settings
  obtain ⟨⟨_, _, _, _, _⟩, ⟨_, _⟩, ⟨_, _, _⟩⟩ := other
  cases h base
  cases h owner
  cases h repo
  cases h agent
  cases h timeout
  cases h zone
  cases h snapshot
  cases h record
  cases h version
  cases h maxBytes
  rfl

/-- A setting stands under the heading of a section. -/
theorem heading_mem (leaf : Leaf) : leaf.heading ∈ headings := by
  cases leaf <;> decide

/-- Every setting has a name of its own. -/
theorem key_injective : Function.Injective key := by
  intro leaf other h
  cases leaf <;> cases other <;> first | rfl | simp [key] at h

/-- The name of a setting's variable leads to the setting. -/
theorem settingPath?_variableName (leaf : Leaf) :
    settingPath? leaf.variableName = some [leaf.heading, leaf.key] := by
  cases leaf <;> decide +kernel

/-- The variable of a setting gives something. -/
theorem settingPath?_variableName_ne_none (leaf : Leaf) :
    settingPath? leaf.variableName ≠ none := by
  rw [settingPath?_variableName]
  exact Option.some_ne_none _

/-- The name of a setting's variable, without regard to case. -/
theorem lowered_variableName (leaf : Leaf) :
    lowered leaf.variableName = loweredMark ++ (leaf.heading.toList ++ gap ++ leaf.key.toList) := by
  cases leaf <;> decide +kernel

/-- Every setting has a variable of its own, also without regard to case. -/
theorem variableName_injective {leaf other : Leaf}
    (h : lowered leaf.variableName = lowered other.variableName) : leaf = other := by
  have hpath := settingPath?_congr h
  rw [settingPath?_variableName, settingPath?_variableName] at hpath
  have hkey : [leaf.key] = [other.key] := (List.cons.inj (Option.some.inj hpath)).2
  exact key_injective (List.singleton_inj.mp hkey)

/-- The standard layer has every setting. -/
theorem standard_given (leaf : Leaf) :
    ∃ value, standard.toValue.setting? leaf.heading leaf.key = some value ∧
      leaf.read value = .ok (leaf.get standard) := by
  cases leaf <;> exact ⟨_, rfl, rfl⟩

/-- No setting is a table. -/
theorem not_isTable_of_read {leaf : Leaf} {value : Value} {content : leaf.Kind}
    (h : leaf.read value = .ok content) : ¬value.IsTable := by
  rintro ⟨members, rfl⟩
  cases leaf <;> cases h

end Leaf

/-! ## Reading a section -/

/-- Steps that may fail succeed if each of them does. -/
theorem bind_eq_ok {ε α β : Type} {x : Except ε α} {f : α → Except ε β} {b : β} :
    (x >>= f) = .ok b ↔ ∃ a, x = .ok a ∧ f a = .ok b := by
  cases x <;> simp [bind, Except.bind]

section Section

variable {α : Type} {heading kind : String} {content : Content} {tree : Tree}

/-- What is read of a setting: the standard value if nothing is found. -/
def Given (reader : Value → Except Mismatch α) (standard : α) (found : Option Tree)
    (result : α) : Prop :=
  match found with
  | some tree => reader tree.value = .ok result
  | none => result = standard

/-- Settings are read by their names from a section that is a table. -/
theorem named_of_contentOf (hs : tree.Sectioned heading)
    (hc : contentOf heading kind tree.members = .ok content) :
    ∃ inner, content = .named inner ∧ ∀ name, tree.setting? heading name = inner.lookup name := by
  simp only [Tree.setting?]
  unfold contentOf at hc
  cases hl : tree.members.lookup heading with
  | none =>
    rw [hl] at hc
    exact ⟨[], (Except.ok.inj hc).symm, fun _ => rfl⟩
  | some found =>
    obtain ⟨origin, inner, rfl⟩ := hs.inner _ hl
    rw [hl] at hc
    exact ⟨inner, (Except.ok.inj hc).symm, fun _ => rfl⟩

/-- A setting that is read is what stands under its names. -/
theorem given_of_read {within name : String} {position : Nat}
    {reader : Value → Except Mismatch α} {standard result : α} (hs : tree.Sectioned heading)
    (hc : contentOf heading kind tree.members = .ok content)
    (h : content.read within name position reader standard = .ok result) :
    Given reader standard (tree.setting? heading name) result := by
  obtain ⟨inner, rfl, hinner⟩ := named_of_contentOf hs hc
  rw [hinner]
  simp only [Content.read] at h
  cases hl : inner.lookup name with
  | none =>
    rw [hl] at h
    exact (Except.ok.inj h).symm
  | some found =>
    rw [hl] at h
    simp only at h
    cases hr : reader found.value with
    | error cause => rw [hr] at h; cases h
    | ok value =>
      rw [hr] at h
      cases h
      exact hr

end Section

variable {members : List (String × Tree)}

/-- The service section is read setting by setting. -/
theorem readService_eq_ok {service : Service}
    (h : readService members standard.service = .ok service) :
    ∃ content, contentOf "upstream" "struct Upstream" members = .ok content ∧
      content.read "upstream" "api_base" 0 readText standard.service.base = .ok service.base ∧
      content.read "upstream" "owner" 1 readText standard.service.owner = .ok service.owner ∧
      content.read "upstream" "repo" 2 readText standard.service.repo = .ok service.repo ∧
      content.read "upstream" "user_agent" 3 readText standard.service.agent = .ok service.agent ∧
      content.read "upstream" "timeout_secs" 4 readSeconds standard.service.timeoutSeconds =
        .ok service.timeoutSeconds := by
  simp only [readService, bind_eq_ok] at h
  obtain ⟨content, hc, base, hbase, owner, howner, repo, hrepo, h⟩ := h
  split_ifs at h
  · simp only [bind_eq_ok] at h
    obtain ⟨agent, hagent, timeout, htimeout, h⟩ := h
    cases h
    exact ⟨content, hc, hbase, howner, hrepo, hagent, htimeout⟩
  · simp only [bind_eq_ok] at h
    obtain ⟨timeout, htimeout, agent, hagent, h⟩ := h
    cases h
    exact ⟨content, hc, hbase, howner, hrepo, hagent, htimeout⟩

/-- The rendering section is read setting by setting. -/
theorem readRendering_eq_ok {rendering : Rendering}
    (h : readRendering members standard.rendering = .ok rendering) :
    ∃ content, contentOf "render" "struct Render" members = .ok content ∧
      content.read "render" "time_zone" 0 readText standard.rendering.zone = .ok rendering.zone ∧
      content.read "render" "snapshot" 1 readPath standard.rendering.snapshot =
        .ok rendering.snapshot := by
  simp only [readRendering, bind_eq_ok] at h
  obtain ⟨content, hc, h⟩ := h
  split_ifs at h
  · simp only [bind_eq_ok] at h
    obtain ⟨zone, hzone, snapshot, hsnapshot, h⟩ := h
    cases h
    exact ⟨content, hc, hzone, hsnapshot⟩
  · simp only [bind_eq_ok] at h
    obtain ⟨snapshot, hsnapshot, zone, hzone, h⟩ := h
    cases h
    exact ⟨content, hc, hzone, hsnapshot⟩

/-- The caching section is read setting by setting. -/
theorem readCaching_eq_ok {caching : Caching}
    (h : readCaching members standard.caching = .ok caching) :
    ∃ content, contentOf "cache" "struct Cache" members = .ok content ∧
      content.read "cache" "path" 0 readPath standard.caching.path = .ok caching.path ∧
      content.read "cache" "schema_version" 1 readVersion standard.caching.version =
        .ok caching.version ∧
      content.read "cache" "max_bytes" 2 readByteCount standard.caching.maxBytes =
        .ok caching.maxBytes := by
  simp only [readCaching, bind_eq_ok] at h
  obtain ⟨content, hc, h⟩ := h
  split_ifs at h
  · simp only [bind_eq_ok] at h
    obtain ⟨path, hpath, version, hversion, maxBytes, hbytes, h⟩ := h
    cases h
    exact ⟨content, hc, hpath, hversion, hbytes⟩
  · simp only [bind_eq_ok] at h
    obtain ⟨maxBytes, hbytes, path, hpath, version, hversion, h⟩ := h
    cases h
    exact ⟨content, hc, hpath, hversion, hbytes⟩

/-- Settings that are read off a tree with tables under the headings are, one by one, what
stands under their names. -/
theorem given_of_ofMembers {tree : Tree} {settings : Settings}
    (hs : ∀ heading ∈ headings, tree.Sectioned heading)
    (h : ofMembers tree.members = .ok settings) (leaf : Leaf) :
    Given leaf.read (leaf.get standard) (tree.setting? leaf.heading leaf.key)
      (leaf.get settings) := by
  simp only [ofMembers, bind_eq_ok] at h
  obtain ⟨caching, hc, rendering, hr, service, hu, h⟩ := h
  cases h
  obtain ⟨_, hservice, hbase, howner, hrepo, hagent, htimeout⟩ := readService_eq_ok hu
  obtain ⟨_, hrendering, hzone, hsnapshot⟩ := readRendering_eq_ok hr
  obtain ⟨_, hcaching, hpath, hversion, hbytes⟩ := readCaching_eq_ok hc
  have hsection := hs leaf.heading leaf.heading_mem
  cases leaf with
  | base => exact given_of_read hsection hservice hbase
  | owner => exact given_of_read hsection hservice howner
  | repo => exact given_of_read hsection hservice hrepo
  | agent => exact given_of_read hsection hservice hagent
  | timeout => exact given_of_read hsection hservice htimeout
  | zone => exact given_of_read hsection hrendering hzone
  | snapshot => exact given_of_read hsection hrendering hsnapshot
  | record => exact given_of_read hsection hcaching hpath
  | version => exact given_of_read hsection hcaching hversion
  | maxBytes => exact given_of_read hsection hcaching hbytes

end ReleasePage.Settings
