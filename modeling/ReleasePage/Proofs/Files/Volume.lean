import Mathlib
import ReleasePage.Files.Volume
import ReleasePage.Proofs.Files.Path

/-!
# Volumes that grow by directories

Making directories adds directories in free places and changes nothing else. In a
well-formed volume, where everything stands in a directory, such a growth cannot
be seen by reading a path that never goes up, and making the same directories
again does what it did the first time.
-/

namespace ReleasePage.Files

open ReleasePage.Text (Bytes)

/-- Looking up a key among the entries of the other keys. -/
theorem lookup_filter_ne (entries : List (Location × Entry)) (location other : Location) :
    (entries.filter fun entry => entry.1 ≠ location).lookup other =
      if other = location then none else entries.lookup other := by
  induction entries with
  | nil => rw [List.filter_nil, List.lookup_nil, ite_self]
  | cons entry entries ih =>
    by_cases he : entry.1 = location
    · rw [List.filter_cons_of_neg (by simp [he]), ih]
      by_cases ho : other = location
      · rw [if_pos ho, if_pos ho]
      · have hk : (other == entry.1) = false := by
          rw [he]
          exact beq_false_of_ne ho
        rw [if_neg ho, if_neg ho, List.lookup_cons, hk]
    · rw [List.filter_cons_of_pos (by simp [he]), List.lookup_cons, ih, List.lookup_cons]
      cases hk : other == entry.1 with
      | true =>
        have ho : other ≠ location := by
          rw [beq_iff_eq.mp hk]
          exact he
        simp only [if_neg ho]
      | false => rfl

namespace Volume

/-- What stands at a location after something was put somewhere. -/
theorem get?_put (volume : Volume) (location other : Location) (entry : Entry) :
    (volume.put location entry).get? other =
      if other = [] then some .directory
      else if other = location then some entry else volume.get? other := by
  rw [get?]
  by_cases hn : other = []
  · rw [if_pos hn, if_pos hn]
  · have hl : (volume.put location entry).entries.lookup other =
        if other = location then some entry else volume.entries.lookup other := by
      simp only [put, erase, List.lookup_append, lookup_filter_ne]
      by_cases ho : other = location
      · rw [if_pos ho, if_pos ho, ho, List.lookup_cons, beq_self_eq_true]
        rfl
      · rw [if_neg ho, if_neg ho, List.lookup_cons, beq_false_of_ne ho, List.lookup_nil,
          Option.or_none]
    rw [if_neg hn, if_neg hn, hl, get?, if_neg hn]

/-- A directory stands at the location. -/
theorem isDirectory_iff {volume : Volume} {location : Location} :
    volume.isDirectory location = true ↔ volume.get? location = some .directory := by
  rw [isDirectory, beq_iff_eq]

/-- The root is a directory. -/
theorem isDirectory_nil (volume : Volume) : volume.isDirectory [] = true := rfl

/-- Directories exist. -/
theorem isSome_of_isDirectory {volume : Volume} {location : Location}
    (h : volume.isDirectory location = true) : (volume.get? location).isSome = true := by
  rw [isDirectory_iff.mp h]
  rfl

/-- The results of a step. -/
theorem stepTo_eq_ok {volume : Volume} {location next : Location} {name : String} :
    volume.stepTo location name = .ok next ↔
      volume.isDirectory location = true ∧
        (name = "." ∧ next = location ∨ name = ".." ∧ next = location.dropLast ∨
          name ≠ "." ∧ name ≠ ".." ∧ name.utf8ByteSize ≤ maxName ∧ next = location ++ [name]) := by
  rw [stepTo]
  by_cases hd : volume.isDirectory location = true
  · rw [if_pos hd]
    by_cases h1 : name = "."
    · rw [if_pos h1]
      subst h1
      simp only [hd, Except.ok.injEq, eq_comm, true_and]
      simp
    · rw [if_neg h1]
      by_cases h2 : name = ".."
      · rw [if_pos h2]
        subst h2
        simp only [hd, Except.ok.injEq, eq_comm, true_and]
        simp
      · rw [if_neg h2]
        by_cases h3 : maxName < name.utf8ByteSize
        · rw [if_pos h3]
          simp [h1, h2, Nat.not_le.mpr h3]
        · rw [if_neg h3]
          simp [hd, h1, h2, Nat.not_lt.mp h3, eq_comm]
  · rw [if_neg hd]
    simp [hd]

/-- A step goes on from a directory. -/
theorem isDirectory_of_stepTo {volume : Volume} {location next : Location} {name : String}
    (h : volume.stepTo location name = .ok next) : volume.isDirectory location = true :=
  (stepTo_eq_ok.mp h).1

/-- A step from a directory leads to the same location in every volume. -/
theorem stepTo_congr {volume other : Volume} {location : Location}
    (h : volume.isDirectory location = true) (h' : other.isDirectory location = true)
    (name : String) : volume.stepTo location name = other.stepTo location name := by
  rw [stepTo, stepTo, if_pos h, if_pos h']

/-- The results of a step to something that exists. -/
theorem enter_eq_ok {volume : Volume} {location next : Location} {name : String} :
    volume.enter location name = .ok next ↔
      volume.stepTo location name = .ok next ∧ (volume.get? next).isSome = true := by
  rw [enter]
  cases hs : volume.stepTo location name with
  | error fault => simp [bind, Except.bind]
  | ok target =>
    by_cases ht : (volume.get? target).isSome = true
    · simp only [bind, Except.bind, if_pos ht, pure, Except.pure, Except.ok.injEq]
      constructor
      · rintro rfl
        exact ⟨rfl, ht⟩
      · exact fun h => h.1
    · simp only [bind, Except.bind, if_neg ht, throw, throwThe, MonadExceptOf.throw, reduceCtorEq,
        Except.ok.injEq, false_iff]
      rintro ⟨rfl, h⟩
      exact ht h

/-- Following no steps. -/
theorem follow_nil (volume : Volume) (location : Location) :
    volume.follow location [] = .ok location := rfl

/-- Following one step and then others. -/
theorem follow_cons (volume : Volume) (location : Location) (name : String)
    (steps : List String) : volume.follow location (name :: steps) =
      volume.enter location name >>= fun next => volume.follow next steps :=
  List.foldlM_cons

/-- The results of following one step and then others. -/
theorem follow_cons_eq_ok {volume : Volume} {location last : Location} {name : String}
    {steps : List String} : volume.follow location (name :: steps) = .ok last ↔
      ∃ next, volume.enter location name = .ok next ∧ volume.follow next steps = .ok last := by
  rw [follow_cons]
  cases volume.enter location name with
  | error fault => simp [bind, Except.bind]
  | ok next => simp [bind, Except.bind]

/-- Following steps goes on where following the steps before has led. -/
theorem follow_append_of_ok {volume : Volume} {location next : Location} {front : List String}
    (h : volume.follow location front = .ok next) (back : List String) :
    volume.follow location (front ++ back) = volume.follow next back := by
  rw [follow, List.foldlM_append, ← follow, h]
  rfl

/-- Steps that cannot be followed cannot be followed any further. -/
theorem follow_append_of_error {volume : Volume} {location : Location} {front : List String}
    {fault : Fault} (h : volume.follow location front = .error fault) (back : List String) :
    volume.follow location (front ++ back) = .error fault := by
  rw [follow, List.foldlM_append, ← follow, h]
  rfl

/-- Single dots lead nowhere. -/
theorem follow_dots {volume : Volume} {location : Location}
    (h : volume.isDirectory location = true) {dots : List String} (hd : ∀ dot ∈ dots, dot = ".") :
    volume.follow location dots = .ok location := by
  induction dots with
  | nil => rfl
  | cons dot dots ih =>
    have hdot : dot = "." := hd dot List.mem_cons_self
    have he : volume.enter location dot = .ok location :=
      enter_eq_ok.mpr ⟨stepTo_eq_ok.mpr ⟨h, .inl ⟨hdot, rfl⟩⟩, isSome_of_isDirectory h⟩
    exact follow_cons_eq_ok.mpr ⟨location, he, ih fun other ho => hd other (List.mem_cons_of_mem _ ho)⟩

/-- Whatever leads to a directory goes through directories. -/
theorem isDirectory_of_follow {volume : Volume} {location last : Location} {steps : List String}
    (h : volume.follow location steps = .ok last) (hl : volume.isDirectory last = true) :
    volume.isDirectory location = true := by
  cases steps with
  | nil =>
    cases h
    exact hl
  | cons name steps =>
    obtain ⟨next, he, -⟩ := follow_cons_eq_ok.mp h
    exact isDirectory_of_stepTo (enter_eq_ok.mp he).1

/-- All directories of a volume are directories of another one. -/
def Keeps (volume other : Volume) : Prop :=
  ∀ location, volume.isDirectory location = true → other.isDirectory location = true

/-- The way to a directory stays as long as directories do. -/
theorem follow_keeps {volume other : Volume} (hk : volume.Keeps other) {location last : Location}
    {steps : List String} (h : volume.follow location steps = .ok last)
    (hl : volume.isDirectory last = true) : other.follow location steps = .ok last := by
  induction steps generalizing location with
  | nil => exact h
  | cons name steps ih =>
    obtain ⟨next, he, hf⟩ := follow_cons_eq_ok.mp h
    have hs := (enter_eq_ok.mp he).1
    have hd := isDirectory_of_stepTo hs
    have hn := hk next (isDirectory_of_follow hf hl)
    refine follow_cons_eq_ok.mpr ⟨next, enter_eq_ok.mpr ⟨?_, isSome_of_isDirectory hn⟩, ih hf⟩
    rw [← stepTo_congr hd (hk location hd)]
    exact hs

/-- The results of resolving a path. -/
theorem resolve_eq_ok {volume : Volume} {path : Path} {location : Location} :
    volume.resolve path = .ok location ↔
      checkPath path = .ok () ∧
        volume.follow (volume.start path) (Path.steps path) = .ok location ∧
        (Path.endsInSlash path = true → volume.isDirectory location = true) := by
  rw [resolve]
  cases checkPath path with
  | error fault => simp [bind, Except.bind]
  | ok check =>
    cases volume.follow (volume.start path) (Path.steps path) with
    | error fault => simp [bind, Except.bind]
    | ok found =>
      by_cases hs : (Path.endsInSlash path && !volume.isDirectory found) = true
      · simp only [bind, Except.bind, if_pos hs, throw, throwThe, MonadExceptOf.throw, reduceCtorEq,
          Except.ok.injEq, true_and, false_iff]
        rw [Bool.and_eq_true, Bool.not_eq_true'] at hs
        rintro ⟨rfl, h⟩
        rw [h hs.1] at hs
        exact absurd hs.2 (by decide)
      · simp only [bind, Except.bind, if_neg hs, pure, Except.pure, Except.ok.injEq, true_and]
        rw [Bool.and_eq_true, Bool.not_eq_true'] at hs
        constructor
        · rintro rfl
          exact ⟨rfl, fun h => Bool.not_eq_false _ |>.mp fun hf => hs ⟨h, hf⟩⟩
        · exact fun h => h.1

/-- The results of resolving the parent of a path. -/
theorem resolveParent_eq_ok {volume : Volume} {path : Path} {location : Location}
    {name : Option String} :
    volume.resolveParent path = .ok (location, name) ↔
      checkPath path = .ok () ∧
        volume.follow (volume.start path) (Path.steps path).dropLast = .ok location ∧
        volume.isDirectory location = true ∧ name = (Path.steps path).getLast? := by
  simp only [resolveParent]
  cases checkPath path with
  | error fault => simp [bind, Except.bind]
  | ok check =>
    cases volume.follow (volume.start path) (Path.steps path).dropLast with
    | error fault => simp [bind, Except.bind]
    | ok found =>
      by_cases hd : volume.isDirectory found = true
      · simp only [bind, Except.bind, if_pos hd, pure, Except.pure, Except.ok.injEq, true_and,
          Prod.mk.injEq]
        constructor
        · rintro ⟨rfl, rfl⟩
          exact ⟨rfl, hd, rfl⟩
        · rintro ⟨rfl, -, rfl⟩
          exact ⟨rfl, rfl⟩
      · simp only [bind, Except.bind, if_neg hd, throw, throwThe, MonadExceptOf.throw, reduceCtorEq,
          Except.ok.injEq, true_and, false_iff]
        rintro ⟨rfl, h, -⟩
        exact hd h

/-- The parent of a path is resolved only as far as its steps can be followed. -/
theorem resolveParent_of_error {volume : Volume} {path : Path} {fault : Fault}
    (hc : checkPath path = .ok ())
    (h : volume.follow (volume.start path) (Path.steps path).dropLast = .error fault) :
    volume.resolveParent path = .error fault := by
  simp only [resolveParent, hc, h, bind, Except.bind]

/-- There is no content if the steps of the path fail. -/
theorem contentOf_of_error {volume : Volume} {path : Path} {fault : Fault}
    (hc : checkPath path = .ok ())
    (h : volume.follow (volume.start path) (Path.steps path) = .error fault) :
    volume.contentOf path = .error fault := by
  simp only [contentOf, resolve, hc, h, bind, Except.bind]

/-- The content of a file stands where the path leads. -/
theorem contentOf_eq_ok {volume : Volume} {path : Path} {content : Bytes} :
    volume.contentOf path = .ok content ↔
      ∃ location mode, volume.resolve path = .ok location ∧
        volume.get? location = some (.file mode content) := by
  rw [contentOf]
  cases volume.resolve path with
  | error fault => simp [bind, Except.bind]
  | ok location =>
    simp only [bind, Except.bind]
    cases hg : volume.get? location with
    | none => simp [hg, throw, throwThe, MonadExceptOf.throw]
    | some entry =>
      cases entry with
      | directory => simp [hg, throw, throwThe, MonadExceptOf.throw]
      | file mode stored => simp [hg, pure, Except.pure]

/-- Nothing is read where there is no file. -/
theorem readFile_of_error {volume : Volume} {path : Path} {fault : Fault}
    (h : volume.contentOf path = .error fault) : volume.readFile path = .error fault := by
  rw [readFile, h]
  rfl

/-- A file is read as the device gives its content out. -/
theorem readFile_of_ok {volume : Volume} {path : Path} {content : Bytes}
    (h : volume.contentOf path = .ok content) :
    volume.readFile path = volume.device.deliver content := by
  rw [readFile, h]
  rfl

/-- What is read is the content of the file, from a device that gives it out. -/
theorem readFile_eq_ok {volume : Volume} {path : Path} {content : Bytes} :
    volume.readFile path = .ok content ↔
      volume.contentOf path = .ok content ∧ volume.device.Readable := by
  cases hc : volume.contentOf path with
  | error fault => simp [readFile_of_error hc]
  | ok stored =>
    rw [readFile_of_ok hc, Device.deliver_eq_ok, Except.ok.injEq, eq_comm, and_comm]

/-- A path that leads to a directory. -/
theorem leadsToDirectory_iff {volume : Volume} {path : Path} :
    volume.leadsToDirectory path = true ↔
      ∃ location, volume.resolve path = .ok location ∧ volume.isDirectory location = true := by
  rw [leadsToDirectory]
  cases volume.resolve path with
  | error fault => simp
  | ok location => simp

/-- Where a path starts does not depend on what a volume holds. -/
theorem start_congr {volume other : Volume} (h : other.home = volume.home) (path : Path) :
    other.start path = volume.start path := by
  rw [start, start, h]

/-- The volume with directories added, one after the other, in free places of
directories. -/
inductive Grown : Volume → Volume → Prop where
  /-- Nothing is added. -/
  | refl (volume : Volume) : Grown volume volume
  /-- One directory is added before the others, by a device that makes directories. -/
  | add {volume last : Volume} {dir : Location} {name : String}
    (hm : volume.device.directories = none) (hd : volume.isDirectory dir = true)
    (hn : volume.get? (dir ++ [name]) = none)
    (hg : Grown (volume.put (dir ++ [name]) .directory) last) : Grown volume last

/-- Growing twice is growing. -/
theorem Grown.trans {first second third : Volume} (h : Grown first second)
    (h' : Grown second third) : Grown first third := by
  induction h with
  | refl volume => exact h'
  | add hm hd hn _ ih => exact .add hm hd hn (ih h')

/-- Growing keeps the home directory. -/
theorem Grown.home {volume last : Volume} (h : Grown volume last) : last.home = volume.home := by
  induction h with
  | refl volume => rfl
  | add _ _ _ _ ih => exact ih

/-- Growing keeps the device. -/
theorem Grown.device {volume last : Volume} (h : Grown volume last) :
    last.device = volume.device := by
  induction h with
  | refl volume => rfl
  | add _ _ _ _ ih => exact ih

/-- Where the device makes no directories nothing grows. -/
theorem Grown.eq_of_refusal {volume last : Volume} (h : Grown volume last) {refusal : Refusal}
    (hr : volume.device.directories = some refusal) : last = volume := by
  cases h with
  | refl => rfl
  | add hm =>
    rw [hm] at hr
    cases hr

/-- What stands at a location stays there, and what is new is a directory. -/
theorem Grown.get? {volume last : Volume} (h : Grown volume last) (location : Location) :
    last.get? location = volume.get? location ∨
      volume.get? location = none ∧ last.get? location = some .directory := by
  induction h with
  | refl volume => exact .inl rfl
  | @add volume last dir name _ hd hn _ ih =>
    rw [get?_put] at ih
    by_cases he : location = []
    · rw [if_pos he] at ih
      rcases ih with ih | ⟨ih, -⟩
      · left
        rw [ih, he]
        rfl
      · cases ih
    · rw [if_neg he] at ih
      by_cases hl : location = dir ++ [name]
      · rw [if_pos hl] at ih
        rcases ih with ih | ⟨ih, -⟩
        · exact .inr ⟨hl ▸ hn, ih⟩
        · cases ih
      · rw [if_neg hl] at ih
        exact ih

/-- What exists stays as it is. -/
theorem Grown.get?_of_isSome {volume last : Volume} (h : Grown volume last)
    {location : Location} (hs : (volume.get? location).isSome = true) :
    last.get? location = volume.get? location := by
  rcases h.get? location with he | ⟨hn, -⟩
  · exact he
  · rw [hn] at hs
    cases hs

/-- Growing keeps directories. -/
theorem Grown.keeps {volume last : Volume} (h : Grown volume last) : volume.Keeps last := by
  intro location hd
  rw [isDirectory_iff, h.get?_of_isSome (isSome_of_isDirectory hd), ← isDirectory_iff]
  exact hd

/-- Growing neither adds nor changes files. -/
theorem Grown.file_iff {volume last : Volume} (h : Grown volume last) {location : Location}
    {mode : Nat} {content : Bytes} :
    last.get? location = some (.file mode content) ↔
      volume.get? location = some (.file mode content) := by
  rcases h.get? location with he | ⟨hn, hd⟩
  · rw [he]
  · rw [hn, hd]
    constructor
    · intro hf
      cases hf
    · intro hf
      cases hf

/-- A name that leads to an entry of a directory. -/
structure PlainName (name : String) : Prop where
  /-- It is not empty. -/
  ne_empty : name ≠ ""
  /-- It has no slashes. -/
  slashFree : '/' ∉ name.toList
  /-- It does not stay. -/
  ne_dot : name ≠ "."
  /-- It does not go up. -/
  ne_up : name ≠ ".."

/-- Everything stands in a directory, and the home directory has a proper
location. -/
structure WellFormed (volume : Volume) : Prop where
  /-- Everything stands in a directory. -/
  parent : ∀ location, (volume.get? location).isSome = true →
    volume.isDirectory location.dropLast = true
  /-- The names of the home directory. -/
  home : ∀ name ∈ volume.home, PlainName name

/-- What stands in a volume that holds nothing but its home directory. -/
theorem get?_blank (home location : Location) :
    (blank home).get? location = if location <+: home then some .directory else none := by
  rw [get?]
  by_cases hn : location = []
  · rw [if_pos hn, hn, if_pos List.nil_prefix]
  · rw [if_neg hn]
    cases hl : (blank home).entries.lookup location with
    | none =>
      rw [if_neg]
      intro hp
      have hlen : 0 < location.length := List.length_pos_iff.mpr hn
      have hmem : (location, Entry.directory) ∈ (blank home).entries := by
        refine List.mem_map.mpr ⟨location.length - 1, ?_, ?_⟩
        · rw [List.mem_range]
          have hle := hp.length_le
          omega
        · rw [Nat.sub_add_cancel hlen, ← List.prefix_iff_eq_take.mp hp]
      have hne := List.lookup_eq_none_iff.mp hl _ hmem
      rw [bne_self_eq_false] at hne
      cases hne
    | some entry =>
      obtain ⟨front, back, he, -⟩ := List.lookup_eq_some_iff.mp hl
      have hmem : (location, entry) ∈ (blank home).entries := by
        rw [he]
        exact List.mem_append_right _ List.mem_cons_self
      obtain ⟨i, -, hi⟩ := List.mem_map.mp hmem
      cases hi
      rw [if_pos (List.take_prefix _ _)]

/-- A volume that holds nothing but its home directory is well-formed. -/
theorem wellFormed_blank {home : Location} (h : ∀ name ∈ home, PlainName name) :
    (blank home).WellFormed := by
  refine ⟨?_, h⟩
  intro location hs
  rw [get?_blank] at hs
  by_cases hp : location <+: home
  · rw [isDirectory_iff, get?_blank, if_pos ((List.dropLast_prefix location).trans hp)]
  · rw [if_neg hp] at hs
    cases hs

/-- All that leads down to an entry are directories. -/
theorem WellFormed.isDirectory_of_prefix {volume : Volume} (h : volume.WellFormed)
    {location above : Location} (hs : (volume.get? location).isSome = true)
    (hp : above <+: location) (hn : above ≠ location) : volume.isDirectory above = true := by
  induction location using List.reverseRecOn with
  | nil => exact absurd (List.prefix_nil.mp hp) hn
  | append_singleton location name ih =>
    have hd := h.parent _ hs
    rw [List.dropLast_concat] at hd
    have hp' : above <+: location := (List.prefix_concat_iff.mp hp).resolve_left hn
    by_cases he : above = location
    · rw [he]
      exact hd
    · exact ih (isSome_of_isDirectory hd) hp' he

/-- A volume stays well-formed if something is put into a directory that does not
take the place of a directory. -/
theorem WellFormed.put {volume : Volume} (h : volume.WellFormed) {dir : Location} {name : String}
    (hd : volume.isDirectory dir = true) {entry : Entry}
    (he : entry = .directory ∨ volume.isDirectory (dir ++ [name]) = false) :
    (volume.put (dir ++ [name]) entry).WellFormed := by
  have hkeep : volume.Keeps (volume.put (dir ++ [name]) entry) := by
    intro location hl
    rw [isDirectory_iff, get?_put]
    by_cases hnil : location = []
    · rw [if_pos hnil]
    · rw [if_neg hnil]
      by_cases heq : location = dir ++ [name]
      · rw [if_pos heq]
        rw [heq] at hl
        rw [he.resolve_right (Bool.not_eq_false _ ▸ hl)]
      · rw [if_neg heq]
        exact isDirectory_iff.mp hl
  refine ⟨?_, h.home⟩
  intro location hs
  rw [get?_put] at hs
  by_cases hnil : location = []
  · rw [hnil]
    exact isDirectory_nil _
  · rw [if_neg hnil] at hs
    by_cases heq : location = dir ++ [name]
    · rw [heq, List.dropLast_concat]
      exact hkeep dir hd
    · rw [if_neg heq] at hs
      exact hkeep _ (h.parent location hs)

/-- Growing keeps a volume well-formed. -/
theorem Grown.wellFormed {volume last : Volume} (h : Grown volume last)
    (hw : volume.WellFormed) : last.WellFormed := by
  induction h with
  | refl volume => exact hw
  | add _ hd _ _ ih => exact ih (hw.put hd (.inl rfl))

/-- Steps that never go up lead further down. -/
theorem prefix_of_follow {volume : Volume} {location last : Location} {steps : List String}
    (hu : ".." ∉ steps) (h : volume.follow location steps = .ok last) : location <+: last := by
  induction steps generalizing location with
  | nil =>
    cases h
    exact List.prefix_rfl
  | cons name steps ih =>
    obtain ⟨hne, hu⟩ := not_or.mp (mt List.mem_cons.mpr hu)
    obtain ⟨next, he, hf⟩ := follow_cons_eq_ok.mp h
    have hnext : location <+: next := by
      rcases (stepTo_eq_ok.mp (enter_eq_ok.mp he).1).2 with ⟨-, rfl⟩ | ⟨hup, -⟩ | ⟨-, -, -, rfl⟩
      · exact List.prefix_rfl
      · exact absurd hup.symm hne
      · exact List.prefix_append _ _
    exact hnext.trans (ih hu hf)

/-- What steps that never go up lead to after a growth was reached before, if it
existed before. -/
theorem Grown.follow_below {volume last : Volume} (h : Grown volume last)
    (hw : volume.WellFormed) {location found : Location} {steps : List String}
    (hu : ".." ∉ steps) (hf : last.follow location steps = .ok found)
    (hs : (volume.get? found).isSome = true) : volume.follow location steps = .ok found := by
  have hsome : ∀ above, above <+: found → (volume.get? above).isSome = true := by
    intro above hp
    by_cases he : above = found
    · rw [he]
      exact hs
    · exact isSome_of_isDirectory (hw.isDirectory_of_prefix hs hp he)
  induction steps generalizing location with
  | nil => exact hf
  | cons name steps ih =>
    obtain ⟨-, hu'⟩ := not_or.mp (mt List.mem_cons.mpr hu)
    obtain ⟨next, he, hf'⟩ := follow_cons_eq_ok.mp hf
    have hstep := (enter_eq_ok.mp he).1
    have hdir : volume.isDirectory location = true := by
      rw [isDirectory_iff, ← h.get?_of_isSome (hsome location (prefix_of_follow hu hf)),
        ← isDirectory_iff]
      exact isDirectory_of_stepTo hstep
    refine follow_cons_eq_ok.mpr ⟨next, enter_eq_ok.mpr ⟨?_, ?_⟩, ih hu' hf'⟩
    · rw [stepTo_congr hdir (isDirectory_of_stepTo hstep)]
      exact hstep
    · exact hsome next (prefix_of_follow hu' hf')

/-- Steps lead to the same existing entry after a growth. -/
theorem Grown.follow {volume last : Volume} (h : Grown volume last) {location found : Location}
    {steps : List String} (hf : volume.follow location steps = .ok found) :
    last.follow location steps = .ok found := by
  induction steps generalizing location with
  | nil => exact hf
  | cons name steps ih =>
    obtain ⟨next, he, hf⟩ := follow_cons_eq_ok.mp hf
    obtain ⟨hstep, hsome⟩ := enter_eq_ok.mp he
    have hdir := isDirectory_of_stepTo hstep
    refine follow_cons_eq_ok.mpr ⟨next, enter_eq_ok.mpr ⟨?_, ?_⟩, ih hf⟩
    · rw [← stepTo_congr hdir (h.keeps location hdir)]
      exact hstep
    · rw [h.get?_of_isSome hsome]
      exact hsome

/-- Every step up goes from a directory that is there. -/
def Grounded (volume : Volume) (location : Location) (steps : List String) : Prop :=
  ∀ front back, steps = front ++ ".." :: back →
    ∃ dir, volume.follow location front = .ok dir ∧ volume.isDirectory dir = true

/-- The first steps of grounded ones are grounded. -/
theorem Grounded.of_prefix {volume : Volume} {location : Location} {first steps : List String}
    (h : volume.Grounded location steps) (hp : first <+: steps) :
    volume.Grounded location first := by
  rintro front back rfl
  obtain ⟨rest, rfl⟩ := hp
  exact h front (back ++ rest) (by rw [List.append_assoc, List.cons_append])

/-- Steps that never go up are grounded. -/
theorem grounded_of_not_mem {steps : List String} (h : ".." ∉ steps) (volume : Volume)
    (location : Location) : volume.Grounded location steps := by
  rintro front back rfl
  exact absurd (List.mem_append_right _ List.mem_cons_self) h

/-- Going up from a directory leads to the one that holds it. -/
theorem enter_up {volume : Volume} (hw : volume.WellFormed) {dir : Location}
    (h : volume.isDirectory dir = true) : volume.enter dir ".." = .ok dir.dropLast :=
  enter_eq_ok.mpr ⟨stepTo_eq_ok.mpr ⟨h, .inr (.inl ⟨rfl, rfl⟩)⟩,
    isSome_of_isDirectory (hw.parent dir (isSome_of_isDirectory h))⟩

/-- What grounded steps lead to after a growth was reached before, if it existed
before. -/
theorem Grown.follow_of_isSome {volume last : Volume} (h : Grown volume last)
    (hw : volume.WellFormed) {location found : Location} {steps : List String}
    (hu : volume.Grounded location steps) (hf : last.follow location steps = .ok found)
    (hs : (volume.get? found).isSome = true) : volume.follow location steps = .ok found := by
  by_cases hm : ".." ∈ steps
  · obtain ⟨back, front, he, hback⟩ := List.eq_append_cons_of_mem (List.mem_reverse.mpr hm)
    have hsteps : steps = front.reverse ++ ".." :: back.reverse := by
      rw [← List.reverse_reverse steps, he]
      simp
    obtain ⟨dir, hdir, hd⟩ := hu _ _ hsteps
    rw [hsteps, follow_append_of_ok (h.follow hdir)] at hf
    obtain ⟨next, hn, hf⟩ := follow_cons_eq_ok.mp hf
    rw [enter_up (h.wellFormed hw) (h.keeps dir hd)] at hn
    cases hn
    rw [hsteps, follow_append_of_ok hdir]
    have hbelow : ".." ∉ back.reverse := fun hb => hback (List.mem_reverse.mp hb)
    exact follow_cons_eq_ok.mpr ⟨_, enter_up hw hd, h.follow_below hw hbelow hf hs⟩
  · exact h.follow_below hw hm hf hs

/-- A path leads to the same existing entry after a growth. -/
theorem Grown.resolve {volume last : Volume} (h : Grown volume last) {path : Path}
    {location : Location} (hr : volume.resolve path = .ok location) :
    last.resolve path = .ok location := by
  obtain ⟨hc, hf, hs⟩ := resolve_eq_ok.mp hr
  refine resolve_eq_ok.mpr ⟨hc, ?_, fun he => h.keeps location (hs he)⟩
  rw [start_congr h.home]
  exact h.follow hf

/-- A growth cannot be seen through a grounded path. -/
theorem Grown.contentOf_iff {volume last : Volume} (h : Grown volume last)
    (hw : volume.WellFormed) {path : Path}
    (hu : volume.Grounded (volume.start path) (Path.steps path)) {content : Bytes} :
    last.contentOf path = .ok content ↔ volume.contentOf path = .ok content := by
  constructor
  · intro hr
    obtain ⟨location, mode, hl, hg⟩ := contentOf_eq_ok.mp hr
    have hg' := h.file_iff.mp hg
    obtain ⟨hc, hf, hs⟩ := resolve_eq_ok.mp hl
    rw [start_congr h.home] at hf
    have hf' := h.follow_of_isSome hw hu hf (by rw [hg']; rfl)
    have hend : Path.endsInSlash path = true → volume.isDirectory location = true := by
      intro he
      have hd := isDirectory_iff.mp (hs he)
      rw [hg] at hd
      cases hd
    exact contentOf_eq_ok.mpr ⟨location, mode, resolve_eq_ok.mpr ⟨hc, hf', hend⟩, hg'⟩
  · intro hr
    obtain ⟨location, mode, hl, hg⟩ := contentOf_eq_ok.mp hr
    exact contentOf_eq_ok.mpr ⟨location, mode, h.resolve hl, h.file_iff.mpr hg⟩

end Volume

end ReleasePage.Files
