import Mathlib
import ReleasePage.Proofs.Files.Placement

/-!
# A placement is all or nothing

Placing a file either puts the whole content where the path leads or does nothing to
any file, at whatever step it fails. The only other trace of a placement are parents of
the path that were missing and that it was asked to make: every directory that is new
stands where an ancestor of the path leads.
-/

namespace ReleasePage.Files

open ReleasePage.Text (Bytes)

/-- An ancestor of a path is its parent, or the parent of an ancestor. -/
def Path.Above (path ancestor : Path) : Prop :=
  Relation.TransGen (fun child parent => Path.parent? child = some parent) path ancestor

/-- The paths that are made for a directory are the directory and its ancestors. -/
theorem Path.above_of_mem_ancestorsFrom {fuel : Nat} {dir ancestor : Path}
    (h : ancestor ∈ Path.ancestorsFrom fuel dir) : ancestor = dir ∨ Path.Above dir ancestor := by
  induction fuel generalizing dir with
  | zero => exact absurd h List.not_mem_nil
  | succ fuel ih =>
    rw [Path.ancestorsFrom] at h
    cases hp : Path.parent? dir with
    | none =>
      rw [hp] at h
      exact absurd h List.not_mem_nil
    | some parent =>
      rw [hp] at h
      rcases List.mem_cons.mp h with rfl | h
      · exact .inl rfl
      · right
        rcases ih h with rfl | ha
        · exact .single hp
        · exact .head hp ha

/-- A file is put into the parent of its path, unless that is the current directory. -/
theorem Path.parent?_of_directory {path : Path} (h : Path.directory path ≠ ".") :
    Path.parent? path = some (Path.directory path) := by
  rw [Path.directory] at h ⊢
  cases hp : Path.parent? path with
  | none =>
    rw [hp] at h
    exact absurd rfl h
  | some dir =>
    rw [hp] at h
    simp only at h ⊢
    by_cases he : dir = ""
    · rw [if_pos he] at h
      exact absurd rfl h
    · rw [if_neg he]

namespace Volume

/-- Everything that is new stands where one of the paths leads. -/
def AddedFor (paths : List Path) (volume last : Volume) : Prop :=
  ∀ location, volume.get? location = none → (last.get? location).isSome = true →
    ∃ path ∈ paths, last.resolve path = .ok location

/-- Nothing is new. -/
theorem AddedFor.refl (paths : List Path) (volume : Volume) : AddedFor paths volume volume := by
  intro location hn hs
  rw [hn] at hs
  cases hs

/-- What is new after two growths was new after the first one or is new since. -/
theorem AddedFor.trans {paths : List Path} {first second third : Volume}
    (h : AddedFor paths first second) (hg : Grown second third)
    (h' : AddedFor paths second third) : AddedFor paths first third := by
  intro location hn hs
  cases hm : second.get? location with
  | none => exact h' location hm hs
  | some entry =>
    obtain ⟨path, hp, hr⟩ := h location hn (by rw [hm]; rfl)
    exact ⟨path, hp, hg.resolve hr⟩

/-- What was made for some paths was made for more. -/
theorem AddedFor.mono {paths more : List Path} {volume last : Volume}
    (h : AddedFor paths volume last) (hs : paths ⊆ more) : AddedFor more volume last := by
  intro location hn hl
  obtain ⟨path, hp, hr⟩ := h location hn hl
  exact ⟨path, hs hp, hr⟩

/-- Making a directory adds it where its path leads. -/
theorem addedFor_makeDirectory {volume other : Volume} {path : Path}
    (h : volume.makeDirectory path = .ok other) : AddedFor [path] volume other := by
  obtain ⟨made, hne, he, hr⟩ := resolve_makeDirectory h
  intro location hn hs
  refine ⟨path, List.mem_singleton_self path, ?_⟩
  have hlocation : location = made := by
    by_contra hl
    rw [he, get?_put] at hs
    split_ifs at hs with hnil
    · rw [hnil] at hn
      cases hn
    · rw [hn] at hs
      cases hs
  rw [hlocation]
  exact hr

/-- Making the first missing directory adds it where its path leads. -/
theorem addedFor_makeFirst {volume other : Volume} {paths : List Path} {count : Nat}
    (h : volume.makeFirst paths = .ok (count, other)) : AddedFor paths volume other := by
  induction paths generalizing count with
  | nil =>
    rw [makeFirst] at h
    cases h
    exact .refl _ volume
  | cons path paths ih =>
    rw [makeFirst] at h
    split at h
    · rename_i made hm
      cases h
      exact (addedFor_makeDirectory hm).mono (by simp)
    · cases hr : volume.makeFirst paths with
      | error fault =>
        rw [hr] at h
        cases h
      | ok result =>
        rw [hr] at h
        cases h
        exact (ih hr).mono (List.subset_cons_self _ _)
    · split at h
      · cases h
        exact .refl _ volume
      · cases h

/-- Making directories adds each where its path leads. -/
theorem addedFor_makeEach (volume : Volume) (paths : List Path) :
    AddedFor paths volume (volume.makeEach paths).2 := by
  induction paths generalizing volume with
  | nil => exact .refl _ volume
  | cons path paths ih =>
    rw [makeEach]
    split
    · rename_i made hm
      exact ((addedFor_makeDirectory hm).mono (by simp)).trans (grown_makeEach made paths)
        ((ih made).mono (List.subset_cons_self _ _))
    · split
      · exact (ih volume).mono (List.subset_cons_self _ _)
      · exact .refl _ volume

/-- Making a directory and its parents adds each where its path leads. -/
theorem addedFor_makeDirectories (volume : Volume) (path : Path) :
    AddedFor (Path.ancestors path) volume (volume.makeDirectories path).2 := by
  rw [makeDirectories_eq, makeAll]
  split
  · exact .refl _ volume
  · rename_i count made hm
    refine (addedFor_makeFirst hm).trans (grown_makeEach made _) ?_
    refine (addedFor_makeEach made _).mono fun other ho => ?_
    exact List.take_subset _ _ (List.mem_reverse.mp ho)

/-- The current directory cannot be made. -/
theorem makeDirectory_current (volume : Volume) :
    ∃ fault, volume.makeDirectory "." = .error fault := by
  cases h : volume.makeDirectory "." with
  | error fault => exact ⟨fault, rfl⟩
  | ok other =>
    obtain ⟨dir, name, hr, hs, -⟩ := makeDirectory_eq_ok h
    have hlast := (resolveParent_eq_ok.mp hr).2.2.2
    rw [show Path.steps "." = ["."] by decide +kernel] at hlast
    cases hlast
    rcases (stepTo_eq_ok.mp hs).2 with ⟨-, hd⟩ | ⟨hu, -⟩ | ⟨hn, -⟩
    · exact absurd hd (by simp)
    · exact absurd hu (by decide)
    · exact absurd rfl hn

/-- Making the current directory changes nothing. -/
theorem makeDirectories_current (volume : Volume) : (volume.makeDirectories ".").2 = volume := by
  have ha : Path.ancestors "." = ["."] := by decide +kernel
  obtain ⟨fault, hm⟩ := makeDirectory_current volume
  have heach : (volume.makeEach ["."]).2 = volume := by
    simp only [makeEach, hm]
    split
    · rfl
    · rfl
  rw [makeDirectories_eq, ha, makeAll_cons, hm]
  split
  · contradiction
  · exact heach
  · split
    · rfl
    · rfl

/-- What stands at a location is what stood there, or a new directory that an ancestor
of the path leads to. -/
inductive SameOrParent (volume : Volume) (path : Path) (after : Volume) (location : Location) :
    Prop where
  /-- The same entry stands there, or nothing as before. -/
  | same (h : after.get? location = volume.get? location)
  /-- A parent of the path was missing and was made. -/
  | parent {ancestor : Path} (hn : volume.get? location = none)
    (hd : after.get? location = some .directory) (ha : path.Above ancestor)
    (hr : after.resolve ancestor = .ok location)

/-- All files are the same in both volumes, except at some locations. -/
def SameFilesExcept (excepted : List Location) (volume after : Volume) : Prop :=
  ∀ location, location ∉ excepted → ∀ mode content,
    after.get? location = some (.file mode content) ↔
      volume.get? location = some (.file mode content)

/-- All files of a volume are its own. -/
theorem SameFilesExcept.refl (excepted : List Location) (volume : Volume) :
    SameFilesExcept excepted volume volume :=
  fun _ _ _ _ => Iff.rfl

/-- Where nothing is new but parents of a path, no file is new, changed or removed. -/
theorem sameFilesExcept_of_sameOrParent {volume after : Volume} {path : Path}
    {excepted : List Location}
    (h : ∀ location, location ∉ excepted → SameOrParent volume path after location) :
    SameFilesExcept excepted volume after := by
  intro location hl mode content
  cases h location hl with
  | same h => rw [h]
  | parent hn hd =>
    rw [hn, hd]
    constructor
    · intro hf
      cases hf
    · intro hf
      cases hf

/-- Nothing is new before a file is placed but parents of its path. -/
theorem sameOrParent_withParents (volume : Volume) (path : Path) (options : PlaceOptions)
    (location : Location) :
    SameOrParent volume path (volume.withParents path options) location := by
  rw [withParents]
  split
  · have hg := grown_makeDirectories volume (Path.directory path)
    rcases hg.get? location with he | ⟨hn, hd⟩
    · exact .same he
    · obtain ⟨ancestor, hm, hr⟩ := addedFor_makeDirectories volume (Path.directory path) location
        hn (by rw [hd]; rfl)
      have hcurrent : Path.directory path ≠ "." := by
        intro hc
        rw [hc, makeDirectories_current, hn] at hd
        cases hd
      have hparent := Path.parent?_of_directory hcurrent
      refine .parent hn hd ?_ hr
      rcases Path.above_of_mem_ancestorsFrom hm with rfl | ha
      · exact .single hparent
      · exact .head hparent ha
  · exact .same rfl

/-- The way to a directory stays as long as directories do. -/
theorem Keeps.resolve {volume other : Volume} (hk : volume.Keeps other)
    (hh : other.home = volume.home) {path : Path} {location : Location}
    (hr : volume.resolve path = .ok location) (hd : volume.isDirectory location = true) :
    other.resolve path = .ok location := by
  obtain ⟨hc, hf, -⟩ := resolve_eq_ok.mp hr
  refine resolve_eq_ok.mpr ⟨hc, ?_, fun _ => hk location hd⟩
  rw [start_congr hh]
  exact follow_keeps hk hf hd

/-- The file at a path was replaced: its content and its permission bits are those asked
for, and nothing else has changed but parents of the path that were missing. -/
structure Replaced (volume : Volume) (path : Path) (mode : Nat) (content : Bytes)
    (after : Volume) (target : Location) : Prop where
  /-- The path leads to the file. -/
  leads : after.resolve path = .ok target
  /-- The file has the content and the permission bits. -/
  file : after.get? target = some (.file mode content)
  /-- No directory was replaced. -/
  notDirectory : volume.isDirectory target = false
  /-- Everywhere else nothing is new but parents of the path. -/
  others : ∀ location, location ≠ target → SameOrParent volume path after location

/-- All other files are as they were. -/
theorem Replaced.sameFiles {volume after : Volume} {path : Path} {mode : Nat} {content : Bytes}
    {target : Location} (h : Replaced volume path mode content after target) :
    SameFilesExcept [target] volume after :=
  sameFilesExcept_of_sameOrParent fun location hl =>
    h.others location fun he => hl (List.mem_singleton.mpr he)

/-- A file that was placed after the parents of its path were made is replaced. -/
theorem Placed.replaced {volume made after : Volume} {path : Path} {mode : Nat}
    {content : Bytes} (h : Placed made path mode content after)
    (hmade : ∀ location, SameOrParent volume path made location) :
    ∃ target, Replaced volume path mode content after target ∧
      ∀ location, location ≠ target → after.get? location = made.get? location := by
  obtain ⟨hk, hhome⟩ := h.keeps
  obtain ⟨dir, name, hd, hf, he, hr⟩ := h.put
  have hothers : ∀ location, location ≠ dir ++ [name] →
      after.get? location = made.get? location := by
    intro location hl
    rw [he, get?_put, if_neg hl]
    split
    · rename_i hnil
      rw [hnil]
      rfl
    · rfl
  refine ⟨dir ++ [name], ⟨hr, ?_, ?_, ?_⟩, hothers⟩
  · rw [he]
    exact get?_put_self made (by simp) _
  · -- A directory that was there is still there among the parents.
    rw [Bool.eq_false_iff] at hf ⊢
    intro hv
    apply hf
    rw [isDirectory_iff] at hv ⊢
    cases hmade (dir ++ [name]) with
    | same h => rw [h, hv]
    | parent hn hd => exact hd
  · intro location hl
    have hsame := hothers location hl
    cases hmade location with
    | same h => exact .same (hsame.trans h)
    | parent hn hd ha hr =>
      exact .parent hn (hsame.trans hd) ha (hk.resolve hhome hr (isDirectory_iff.mpr hd))

section Place

variable {volume after : Volume} {path : Path} {content : Bytes} {options : PlaceOptions}

/-- Without being asked to, a placement makes no parents. -/
theorem withParents_of_not (h : options.createParent = false) :
    volume.withParents path options = volume := by
  rw [withParents, h]
  rfl

/-- A placement that succeeds replaces the file at its path. -/
theorem replaced_of_place (hh : ∀ name ∈ volume.home, PlainName name)
    (h : volume.place path content options = (.ok (), after)) :
    ∃ target, Replaced volume path options.mode content after target ∧
      (options.createParent = false → ∀ location, location ≠ target →
        after.get? location = volume.get? location) := by
  rcases place_cases hh path content options with ⟨error, he⟩ | ⟨placed, he, hp⟩
  · rw [h] at he
    cases he
  · rw [h] at he
    cases he
    obtain ⟨target, hreplaced, hothers⟩ :=
      hp.replaced (sameOrParent_withParents volume path options)
    refine ⟨target, hreplaced, ?_⟩
    intro hc location hl
    rw [hothers location hl, withParents_of_not hc]

/-- A placement that fails leaves nothing behind but parents of its path. -/
theorem withParents_of_place (hh : ∀ name ∈ volume.home, PlainName name) {error : FileError}
    (h : volume.place path content options = (.error error, after)) :
    after = volume.withParents path options := by
  rcases place_cases hh path content options with ⟨error', he⟩ | ⟨placed, he, hp⟩
  · rw [h] at he
    cases he
    rfl
  · rw [h] at he
    cases he

/-- A placement that fails changes no file. -/
theorem sameFiles_of_place (hh : ∀ name ∈ volume.home, PlainName name) {error : FileError}
    (h : volume.place path content options = (.error error, after)) :
    SameFilesExcept [] volume after := by
  rw [withParents_of_place hh h]
  exact sameFilesExcept_of_sameOrParent fun location _ =>
    sameOrParent_withParents volume path options location

end Place

/-- Placing a file is all or nothing. If it succeeds, the path leads to a file with exactly
the content and the permission bits that were asked for, the standard ones by default, and
every other file is as it was; the content is also what is read, if the device gives out
what it holds. If it fails, every file is as it was. In both cases nothing
else has changed but directories on the chain of parents that were missing, and not even
those unless they were asked for. -/
theorem place_is_all_or_nothing {volume : Volume} (hh : ∀ name ∈ volume.home, PlainName name)
    (path : Path) (content : Bytes) (options : PlaceOptions) :
    (∀ after, volume.place path content options = (.ok (), after) →
      after.contentOf path = .ok content ∧
      (volume.device.Readable → after.read path = .ok content) ∧
      ∃ target, Replaced volume path (permissionBits (options.permissions.getD 0o644)) content
          after target ∧
        SameFilesExcept [target] volume after ∧
        (options.createParent = false → ∀ location, location ≠ target →
          after.get? location = volume.get? location)) ∧
    ∀ error after, volume.place path content options = (.error error, after) →
      SameFilesExcept [] volume after ∧
      (∀ location, SameOrParent volume path after location) ∧
      (options.createParent = false → after = volume) := by
  constructor
  · intro after h
    obtain ⟨target, hreplaced, hothers⟩ := replaced_of_place hh h
    refine ⟨contentOf_of_place hh h, ?_, target, hreplaced, hreplaced.sameFiles, hothers⟩
    exact fun hr => read_eq_ok.mpr (readFile_of_place hh hr h)
  · intro error after h
    refine ⟨sameFiles_of_place hh h, ?_, ?_⟩
    · rw [withParents_of_place hh h]
      exact sameOrParent_withParents volume path options
    · intro hc
      rw [withParents_of_place hh h, withParents_of_not hc]

/-- A volume with one file, on a device that takes two bytes of a file. -/
def smallVolume : Volume where
  home := ["home"]
  entries := [(["home"], .directory), (["home", "old"], .file 0o640 [1])]
  device := { Device.reliable with room := some (2, .device 28 "No space left on device") }

/-- On a small device two bytes are placed below a new directory, and three bytes are not:
the directory is made, but no file is changed. -/
theorem place_is_all_or_nothing_sample :
    (∃ after, smallVolume.place "site/page" [1, 2] ⟨some 0o4600, true, true⟩ = (.ok (), after) ∧
      after.read "site/page" = .ok [1, 2] ∧
      after.get? ["home", "site", "page"] = some (.file 0o4600 [1, 2])) ∧
    ∃ error after, smallVolume.place "site/page" [1, 2, 3] .withParents = (.error error, after) ∧
      after.get? ["home", "site"] = some .directory ∧ SameFilesExcept [] smallVolume after := by
  have hh : ∀ name ∈ smallVolume.home, PlainName name := by
    intro name hn
    rw [List.mem_singleton.mp hn]
    exact ⟨by decide, by decide, by decide, by decide⟩
  constructor
  · have hr : (smallVolume.place "site/page" [1, 2] ⟨some 0o4600, true, true⟩).1 = .ok () := by
      decide +kernel
    have hg : (smallVolume.place "site/page" [1, 2] ⟨some 0o4600, true, true⟩).2.get?
        ["home", "site", "page"] = some (.file 0o4600 [1, 2]) := by decide +kernel
    obtain ⟨-, hread, -⟩ := (place_is_all_or_nothing hh _ _ _).1 _ (Prod.ext hr rfl)
    exact ⟨_, Prod.ext hr rfl, hread rfl, hg⟩
  · have hr : (smallVolume.place "site/page" [1, 2, 3] .withParents).1 =
        .error (.write "site" (.device 28 "No space left on device")
          (some "/home/site/.page.XXXXXX.tmp")) := by decide +kernel
    have hg : (smallVolume.place "site/page" [1, 2, 3] .withParents).2.get? ["home", "site"] =
        some .directory := by decide +kernel
    obtain ⟨hsame, -⟩ := (place_is_all_or_nothing hh _ _ _).2 _ _ (Prod.ext hr rfl)
    exact ⟨_, _, Prod.ext hr rfl, hg, hsame⟩

end Volume

end ReleasePage.Files
