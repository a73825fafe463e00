import Mathlib
import ReleasePage.Proofs.Files.Volume

/-!
# Making directories

Making a directory and all its parents lets a volume grow, does nothing to a
directory that is there, and leaves the directory behind unless it fails. If the
path never goes up, doing it again changes nothing more and ends in the same way:
after a success because the directory is there, and after a failure because the
name that is too long stands in the way again, or because the device makes no
directories at all.
-/

namespace ReleasePage.Files.Volume

/-- A directory is added by a device that makes directories. -/
theorem addDirectory_eq_ok {volume other : Volume} {location : Location} :
    volume.addDirectory location = .ok other ↔
      volume.device.directories = none ∧ other = volume.put location .directory := by
  rw [addDirectory]
  cases volume.device.directories with
  | none => simp [eq_comm]
  | some refusal => simp

/-- What making a directory does. -/
theorem makeDirectory_eq_ok {volume other : Volume} {path : Path}
    (h : volume.makeDirectory path = .ok other) :
    ∃ dir name, volume.resolveParent path = .ok (dir, some name) ∧
      volume.stepTo dir name = .ok (dir ++ [name]) ∧ volume.get? (dir ++ [name]) = none ∧
      volume.addDirectory (dir ++ [name]) = .ok other := by
  rw [makeDirectory] at h
  cases hr : volume.resolveParent path with
  | error fault =>
    rw [hr] at h
    cases h
  | ok result =>
    obtain ⟨dir, name⟩ := result
    rw [hr] at h
    cases name with
    | none => cases h
    | some name =>
      simp only [bind, Except.bind] at h
      by_cases hn : name = "." ∨ name = ".."
      · rw [if_pos hn] at h
        cases h
      · rw [if_neg hn] at h
        rw [not_or] at hn
        cases hs : volume.stepTo dir name with
        | error fault =>
          rw [hs] at h
          cases h
        | ok location =>
          have hl : location = dir ++ [name] := by
            rcases (stepTo_eq_ok.mp hs).2 with ⟨h1, -⟩ | ⟨h2, -⟩ | ⟨-, -, -, hl⟩
            · exact absurd h1 hn.1
            · exact absurd h2 hn.2
            · exact hl
          subst hl
          rw [hs] at h
          simp only at h
          cases hg : volume.get? (dir ++ [name]) with
          | none =>
            rw [hg] at h
            exact ⟨dir, name, rfl, hs, hg, h⟩
          | some entry =>
            rw [hg] at h
            cases h

/-- Making a directory adds it in a free place. -/
theorem grown_makeDirectory {volume other : Volume} {path : Path}
    (h : volume.makeDirectory path = .ok other) : Grown volume other := by
  obtain ⟨dir, name, hr, -, hg, hadd⟩ := makeDirectory_eq_ok h
  obtain ⟨hm, rfl⟩ := addDirectory_eq_ok.mp hadd
  exact .add hm (resolveParent_eq_ok.mp hr).2.2.1 hg (.refl _)

/-- A directory that was made stands where its path leads, and nothing else is new. -/
theorem resolve_makeDirectory {volume other : Volume} {path : Path}
    (h : volume.makeDirectory path = .ok other) :
    ∃ location, location ≠ [] ∧ other = volume.put location .directory ∧
      other.resolve path = .ok location := by
  have hgrown := grown_makeDirectory h
  obtain ⟨dir, name, hr, hs, -, hadd⟩ := makeDirectory_eq_ok h
  obtain ⟨-, he⟩ := addDirectory_eq_ok.mp hadd
  obtain ⟨hc, hf, hd, hlast⟩ := resolveParent_eq_ok.mp hr
  have hnew : other.isDirectory (dir ++ [name]) = true := by
    rw [isDirectory_iff, he, get?_put, if_neg (by simp), if_pos rfl]
  have hstep : other.stepTo dir name = .ok (dir ++ [name]) := by
    rw [← stepTo_congr hd (hgrown.keeps dir hd)]
    exact hs
  have hfollow : other.follow (other.start path) (Path.steps path) = .ok (dir ++ [name]) := by
    have hsteps : Path.steps path = (Path.steps path).dropLast ++ [name] :=
      (List.dropLast_append_getLast? name hlast.symm).symm
    rw [hsteps, start_congr hgrown.home,
      follow_append_of_ok (follow_keeps hgrown.keeps hf hd)]
    exact follow_cons_eq_ok.mpr
      ⟨_, enter_eq_ok.mpr ⟨hstep, isSome_of_isDirectory hnew⟩, follow_nil _ _⟩
  exact ⟨dir ++ [name], by simp, he, resolve_eq_ok.mpr ⟨hc, hfollow, fun _ => hnew⟩⟩

/-- A directory that was made is there. -/
theorem leadsToDirectory_makeDirectory {volume other : Volume} {path : Path}
    (h : volume.makeDirectory path = .ok other) : other.leadsToDirectory path = true := by
  obtain ⟨location, hn, he, hr⟩ := resolve_makeDirectory h
  refine leadsToDirectory_iff.mpr ⟨location, hr, isDirectory_iff.mpr ?_⟩
  rw [he, get?_put, if_neg hn, if_pos rfl]

/-- Making the first missing directory lets a volume grow. -/
theorem grown_makeFirst {volume other : Volume} {paths : List Path} {count : Nat}
    (h : volume.makeFirst paths = .ok (count, other)) : Grown volume other := by
  induction paths generalizing count with
  | nil =>
    rw [makeFirst] at h
    cases h
    exact .refl volume
  | cons path paths ih =>
    rw [makeFirst] at h
    split at h
    · rename_i made hm
      cases h
      exact grown_makeDirectory hm
    · cases hr : volume.makeFirst paths with
      | error fault =>
        rw [hr] at h
        cases h
      | ok result =>
        rw [hr] at h
        cases h
        exact ih hr
    · split at h
      · cases h
        exact .refl volume
      · cases h

/-- Making directories lets a volume grow. -/
theorem grown_makeEach (volume : Volume) (paths : List Path) :
    Grown volume (volume.makeEach paths).2 := by
  induction paths generalizing volume with
  | nil => exact .refl volume
  | cons path paths ih =>
    rw [makeEach]
    split
    · rename_i made hm
      exact (grown_makeDirectory hm).trans (ih made)
    · split
      · exact ih volume
      · exact .refl volume

/-- Making a list of directories that starts with the longest path. -/
def makeAll (volume : Volume) (paths : List Path) : Except Fault Unit × Volume :=
  match volume.makeFirst paths with
  | .error fault => (.error fault, volume)
  | .ok (count, volume) => volume.makeEach (paths.take count).reverse

/-- Making a directory and all its parents. -/
theorem makeDirectories_eq (volume : Volume) (path : Path) :
    volume.makeDirectories path = volume.makeAll (Path.ancestors path) := rfl

/-- Making a list of directories lets a volume grow. -/
theorem grown_makeAll (volume : Volume) (paths : List Path) :
    Grown volume (volume.makeAll paths).2 := by
  rw [makeAll]
  split
  · exact .refl volume
  · rename_i count made hm
    exact (grown_makeFirst hm).trans (grown_makeEach made _)

/-- Making a directory and all its parents lets a volume grow. -/
theorem grown_makeDirectories (volume : Volume) (path : Path) :
    Grown volume (volume.makeDirectories path).2 := by
  rw [makeDirectories_eq]
  exact grown_makeAll volume _

/-- Making directories stops at the first failure. -/
theorem makeEach_concat (volume : Volume) (paths : List Path) (path : Path) :
    volume.makeEach (paths ++ [path]) =
      match volume.makeEach paths with
      | (.ok (), made) => made.makeEach [path]
      | (.error fault, made) => (.error fault, made) := by
  induction paths generalizing volume with
  | nil => rfl
  | cons first paths ih =>
    rw [List.cons_append, makeEach, makeEach]
    cases hm : volume.makeDirectory first with
    | ok made => exact ih made
    | error fault =>
      simp only
      by_cases hf : fault = .alreadyExists ∧ volume.leadsToDirectory first = true
      · rw [if_pos hf, if_pos hf]
        exact ih volume
      · rw [if_neg hf, if_neg hf]

/-- Making a list of directories, from its longest path on: the parents are made
only if they are missing. -/
theorem makeAll_cons (volume : Volume) (path : Path) (paths : List Path) :
    volume.makeAll (path :: paths) =
      match volume.makeDirectory path with
      | .ok made => (.ok (), made)
      | .error .notFound =>
        match volume.makeAll paths with
        | (.ok (), made) => made.makeEach [path]
        | (.error fault, made) => (.error fault, made)
      | .error fault =>
        if fault = .alreadyExists ∧ volume.leadsToDirectory path then (.ok (), volume)
        else (.error fault, volume) := by
  rw [makeAll, makeFirst]
  cases hm : volume.makeDirectory path with
  | ok made => rfl
  | error fault =>
    cases fault with
    | notFound =>
      simp only
      rw [makeAll]
      cases hr : volume.makeFirst paths with
      | error fault => rfl
      | ok result =>
        obtain ⟨count, made⟩ := result
        have he := makeEach_concat made (paths.take count).reverse path
        simp only [Except.map, List.take_succ_cons, List.reverse_cons]
        exact he
    | alreadyExists =>
      simp only [true_and]
      by_cases hl : volume.leadsToDirectory path = true
      · simp only [if_pos hl]
        rfl
      · simp only [if_neg hl]
    | notDirectory => rfl
    | isDirectory => rfl
    | nameTooLong => rfl
    | busy => rfl
    | zeroByte => rfl
    | device => rfl

/-- Making a directory fails if its parent cannot be resolved. -/
theorem makeDirectory_of_error {volume : Volume} {path : Path} {fault : Fault}
    (h : volume.resolveParent path = .error fault) : volume.makeDirectory path = .error fault := by
  rw [makeDirectory, h]
  rfl

/-- Making a directory whose parent is there. -/
theorem makeDirectory_of_parent {volume : Volume} {path : Path} {dir : Location} {name : String}
    (h : volume.resolveParent path = .ok (dir, some name)) :
    volume.makeDirectory path =
      if name = "." ∨ name = ".." then .error .alreadyExists
      else
        match volume.stepTo dir name with
        | .error fault => .error fault
        | .ok location =>
          if (volume.get? location).isSome then .error .alreadyExists
          else volume.addDirectory location := by
  rw [makeDirectory, h]
  simp only [bind, Except.bind]
  by_cases hn : name = "." ∨ name = ".."
  · rw [if_pos hn, if_pos hn]
    rfl
  · rw [if_neg hn, if_neg hn]
    cases volume.stepTo dir name with
    | error fault => rfl
    | ok location =>
      simp only
      by_cases hg : (volume.get? location).isSome = true
      · rw [if_pos hg, if_pos hg]
        rfl
      · rw [if_neg hg, if_neg hg]

/-- A path leads to the directory its steps lead to. -/
theorem leadsToDirectory_of_follow {volume : Volume} {path : Path} {location : Location}
    (hc : checkPath path = .ok ())
    (hf : volume.follow (volume.start path) (Path.steps path) = .ok location)
    (hd : volume.isDirectory location = true) : volume.leadsToDirectory path = true :=
  leadsToDirectory_iff.mpr ⟨location, resolve_eq_ok.mpr ⟨hc, hf, fun _ => hd⟩, hd⟩

/-- A directory that is there is not made. -/
theorem makeDirectory_of_leads {volume : Volume} {path : Path}
    (h : volume.leadsToDirectory path = true) :
    volume.makeDirectory path = .error .alreadyExists := by
  obtain ⟨location, hr, hd⟩ := leadsToDirectory_iff.mp h
  obtain ⟨hc, hf, -⟩ := resolve_eq_ok.mp hr
  rcases List.eq_nil_or_concat' (Path.steps path) with hn | ⟨front, name, hn⟩
  · have hp : volume.resolveParent path = .ok (location, none) := by
      rw [hn] at hf
      rw [resolveParent_eq_ok, hn]
      exact ⟨hc, hf, hd, rfl⟩
    rw [makeDirectory, hp]
    rfl
  · rw [hn] at hf
    cases hfront : volume.follow (volume.start path) front with
    | error fault =>
      rw [follow_append_of_error hfront] at hf
      cases hf
    | ok dir =>
      rw [follow_append_of_ok hfront] at hf
      obtain ⟨next, he, hl⟩ := follow_cons_eq_ok.mp hf
      obtain ⟨hs, hsome⟩ := enter_eq_ok.mp he
      have hp : volume.resolveParent path = .ok (dir, some name) := by
        rw [resolveParent_eq_ok, hn, List.dropLast_concat, List.getLast?_concat]
        exact ⟨hc, hfront, isDirectory_of_stepTo hs, rfl⟩
      rw [makeDirectory_of_parent hp, hs]
      simp only [hsome, if_true, ite_self]

/-- A path comes first among its ancestors, if it has any. -/
theorem ancestorsFrom_cases (fuel : Nat) (path : Path) :
    Path.ancestorsFrom fuel path = [] ∨ ∃ paths, Path.ancestorsFrom fuel path = path :: paths := by
  cases fuel with
  | zero => exact .inl rfl
  | succ fuel =>
    rw [Path.ancestorsFrom]
    cases Path.parent? path with
    | none => exact .inl rfl
    | some dir => exact .inr ⟨_, rfl⟩

/-- If the parent of a directory is made, and the directory is there with it, then
nothing more is done. -/
theorem makeDirectories_of_parent {volume made : Volume} {path dir root : Path}
    (hp : Path.parent? path = some dir) (hr : Path.parent? dir = some root)
    (hm : volume.makeDirectory path = .error .notFound) (hd : volume.makeDirectory dir = .ok made)
    (hl : made.leadsToDirectory path = true) : volume.makeDirectories path = (.ok (), made) := by
  have hlen : path.length ≠ 0 := by
    intro he
    rw [String.length_eq_zero_iff.mp he] at hp
    cases hp
  obtain ⟨fuel, hfuel⟩ := Nat.exists_eq_succ_of_ne_zero hlen
  have ha : Path.ancestors path = path :: dir :: Path.ancestorsFrom fuel root := by
    rw [Path.ancestors, hfuel]
    simp only [Path.ancestorsFrom, hp, hr]
  rw [makeDirectories_eq, ha, makeAll_cons, hm, makeAll_cons, hd]
  simp only [makeEach, makeDirectory_of_leads hl, hl, and_self, if_true]

/-- Making one directory leaves it behind unless it fails. -/
theorem leads_of_makeEach {volume made : Volume} {path : Path}
    (h : volume.makeEach [path] = (.ok (), made)) : made.leadsToDirectory path = true := by
  rw [makeEach] at h
  split at h
  · rename_i other hm
    cases h
    exact leadsToDirectory_makeDirectory hm
  · split at h
    · rename_i hl
      cases h
      exact hl.2
    · cases h

/-- Making directories leaves the longest one behind unless it fails. -/
theorem leads_of_makeAll {volume made : Volume} {path : Path} {paths : List Path}
    (h : volume.makeAll (path :: paths) = (.ok (), made)) : made.leadsToDirectory path = true := by
  rw [makeAll_cons] at h
  split at h
  · rename_i other hm
    cases h
    exact leadsToDirectory_makeDirectory hm
  · split at h
    · exact leads_of_makeEach h
    · cases h
  · split at h
    · rename_i hl
      cases h
      exact hl.2
    · cases h

/-- Only a path to something that can be checked is found to be missing. -/
theorem checkPath_of_notFound {volume : Volume} {path : Path} (hp : path ≠ "")
    (h : volume.makeDirectory path = .error .notFound) : checkPath path = .ok () := by
  have hfault : ∀ fault, checkPath path = .error fault → fault = .notFound := by
    intro fault hc
    have hr : volume.resolveParent path = .error fault := by
      simp only [resolveParent, hc, bind, Except.bind]
    rw [makeDirectory_of_error hr] at h
    exact Except.error.inj h
  rw [checkPath] at hfault ⊢
  by_cases hz : (path.toList.any fun c => c.toNat == 0) = true
  · rw [if_pos hz] at hfault
    cases hfault _ rfl
  · rw [if_neg hz, if_neg hp] at hfault ⊢
    by_cases hl : maxPath < path.utf8ByteSize
    · rw [if_pos hl] at hfault
      cases hfault _ rfl
    · rw [if_neg hl]

/-- A directory whose parent can be reached is not found to be missing. -/
theorem makeDirectory_ne_notFound {volume : Volume} {path : Path} {dir : Location} {name : String}
    (h : volume.resolveParent path = .ok (dir, some name)) :
    volume.makeDirectory path ≠ .error .notFound := by
  have hd := (resolveParent_eq_ok.mp h).2.2.1
  intro he
  rw [makeDirectory_of_parent h] at he
  by_cases hn : name = "." ∨ name = ".."
  · rw [if_pos hn] at he
    cases he
  · rw [if_neg hn] at he
    rw [not_or] at hn
    rw [stepTo, if_pos hd, if_neg hn.1, if_neg hn.2] at he
    by_cases hl : maxName < name.utf8ByteSize
    · rw [if_pos hl] at he
      cases he
    · rw [if_neg hl] at he
      simp only at he
      split at he
      · cases he
      · rw [addDirectory] at he
        split at he
        · cases he
        · cases he

/-- The name of a directory is too long, and so no path can go through it. -/
def Blocked (volume : Volume) (path : Path) : Prop :=
  volume.makeDirectory path = .error .nameTooLong ∧
    volume.follow (volume.start path) (Path.steps path) = .error .nameTooLong

/-- A directory whose parent is there can be made or is there, unless a file is in
its place, its name is too long or the device makes no directories. -/
theorem makeDirectory_child {volume : Volume} {path : Path} {dir : Location}
    {name : String} {fault : Fault} (hup : name ≠ "..")
    (hp : volume.resolveParent path = .ok (dir, some name))
    (hfree : (volume.get? (dir ++ [name])).isSome = true →
      volume.isDirectory (dir ++ [name]) = true)
    (hm : volume.makeDirectory path = .error fault) :
    fault = .alreadyExists ∧
        volume.leadsToDirectory path = true ∨
      fault = .nameTooLong ∧ volume.Blocked path ∨
      ∃ refusal, volume.device.directories = some refusal := by
  obtain ⟨hc, hf, hd, hlast⟩ := resolveParent_eq_ok.mp hp
  have hsteps := (List.dropLast_append_getLast? name hlast.symm).symm
  have hleads : ∀ location, volume.enter dir name = .ok location →
      volume.isDirectory location = true →
        volume.leadsToDirectory path = true := by
    intro location he hl
    refine leadsToDirectory_of_follow hc ?_ hl
    rw [hsteps, follow_append_of_ok hf]
    exact follow_cons_eq_ok.mpr ⟨location, he, follow_nil _ _⟩
  have hm' := hm
  rw [makeDirectory_of_parent hp] at hm
  by_cases hdot : name = "."
  · rw [if_pos (.inl hdot)] at hm
    have he : volume.enter dir name = .ok dir :=
      enter_eq_ok.mpr ⟨stepTo_eq_ok.mpr ⟨hd, .inl ⟨hdot, rfl⟩⟩, isSome_of_isDirectory hd⟩
    exact .inl ⟨(Except.error.inj hm).symm, hleads dir he hd⟩
  · rw [if_neg (not_or.mpr ⟨hdot, hup⟩)] at hm
    by_cases hlong : maxName < name.utf8ByteSize
    · have hs : volume.stepTo dir name = .error .nameTooLong := by
        rw [stepTo, if_pos hd, if_neg hdot, if_neg hup, if_pos hlong]
      rw [hs] at hm
      have hfault : fault = .nameTooLong := (Except.error.inj hm).symm
      refine .inr (.inl ⟨hfault, hfault ▸ hm', ?_⟩)
      rw [hsteps, follow_append_of_ok hf, follow_cons, enter, hs]
      rfl
    · have hs : volume.stepTo dir name = .ok (dir ++ [name]) :=
        stepTo_eq_ok.mpr ⟨hd, .inr (.inr ⟨hdot, hup, Nat.not_lt.mp hlong, rfl⟩)⟩
      rw [hs] at hm
      simp only at hm
      by_cases hg : (volume.get? (dir ++ [name])).isSome = true
      · rw [if_pos hg] at hm
        have he := enter_eq_ok.mpr ⟨hs, hg⟩
        exact .inl ⟨(Except.error.inj hm).symm, hleads _ he (hfree hg)⟩
      · rw [if_neg hg, addDirectory] at hm
        cases hr : volume.device.directories with
        | none =>
          rw [hr] at hm
          cases hm
        | some refusal => exact .inr (.inr ⟨refusal, rfl⟩)

section Parents

variable {absolute : Bool} {piece : String} {rest : List String}

/-- A path starts where its parent does. -/
theorem start_parent (h : Path.Trimmed absolute (piece :: rest)) (volume : Volume) :
    volume.start (Path.ofTrail absolute (piece :: rest)) =
      volume.start (Path.ofTrail absolute (Path.dropFillers absolute rest)) := by
  rw [start, start, Path.isAbsolute_ofTrail h, Path.isAbsolute_ofTrail h.tail]

/-- The steps of a path before the last one lead to its parent. -/
theorem resolveParent_of_leads (h : Path.Trimmed absolute (piece :: rest)) {volume : Volume}
    (hc : checkPath (Path.ofTrail absolute (piece :: rest)) = .ok ())
    (hl : volume.leadsToDirectory
      (Path.ofTrail absolute (Path.dropFillers absolute rest)) = true) :
    ∃ dir, volume.resolveParent (Path.ofTrail absolute (piece :: rest)) = .ok (dir, some piece) := by
  obtain ⟨dots, hdots, hsteps⟩ := Path.steps_parent h
  obtain ⟨dir, hr, hd⟩ := leadsToDirectory_iff.mp hl
  obtain ⟨-, hf, -⟩ := resolve_eq_ok.mp hr
  refine ⟨dir, resolveParent_eq_ok.mpr ⟨hc, ?_, hd, ?_⟩⟩
  · rw [start_parent h, hsteps, List.dropLast_concat, follow_append_of_ok hf]
    exact follow_dots hd hdots
  · rw [hsteps, List.getLast?_concat]

/-- What goes through a blocked path is blocked. -/
theorem Blocked.child (h : Path.Trimmed absolute (piece :: rest)) {volume : Volume}
    (hc : checkPath (Path.ofTrail absolute (piece :: rest)) = .ok ())
    (hb : volume.Blocked (Path.ofTrail absolute (Path.dropFillers absolute rest))) :
    volume.Blocked (Path.ofTrail absolute (piece :: rest)) := by
  obtain ⟨dots, -, hsteps⟩ := Path.steps_parent h
  have hf := hb.2
  rw [← start_parent h] at hf
  refine ⟨makeDirectory_of_error (resolveParent_of_error hc ?_), ?_⟩
  · rw [hsteps, List.dropLast_concat]
    exact follow_append_of_error hf dots
  · rw [hsteps, List.append_assoc]
    exact follow_append_of_error hf _

end Parents

/-- Where a directory was missing, only directories are found after a growth. -/
theorem Grown.isDirectory_of_missing {volume made : Volume} (hg : Grown volume made)
    (hw : volume.WellFormed) {path : Path}
    (hu : volume.Grounded (volume.start path) (Path.steps path))
    (hm : volume.makeDirectory path = .error .notFound) {dir : Location} {name : String}
    (hp : made.resolveParent path = .ok (dir, some name))
    (hs : (made.get? (dir ++ [name])).isSome = true) :
    made.isDirectory (dir ++ [name]) = true := by
  rcases hg.get? (dir ++ [name]) with he | ⟨-, hd⟩
  · rw [he] at hs
    have hdir := hw.parent _ hs
    rw [List.dropLast_concat] at hdir
    obtain ⟨hc, hf, -, hlast⟩ := resolveParent_eq_ok.mp hp
    rw [start_congr hg.home] at hf
    have hf' := hg.follow_of_isSome hw (hu.of_prefix (List.dropLast_prefix _)) hf
      (isSome_of_isDirectory hdir)
    have hp' := resolveParent_eq_ok.mpr ⟨hc, hf', hdir, hlast⟩
    exact absurd hm (makeDirectory_ne_notFound hp')
  · exact isDirectory_iff.mpr hd

/-- A step up at the end of a grounded path is not missing. -/
theorem Grounded.last_ne_up {volume : Volume} {path : Path}
    (hu : volume.Grounded (volume.start path) (Path.steps path)) (hp : path ≠ "")
    (hm : volume.makeDirectory path = .error .notFound) {front : List String} {name : String}
    (hs : Path.steps path = front ++ [name]) : name ≠ ".." := by
  rintro rfl
  obtain ⟨dir, hf, hd⟩ := hu front [] hs
  have hr : volume.resolveParent path = .ok (dir, some "..") := by
    rw [resolveParent_eq_ok, hs, List.dropLast_concat, List.getLast?_concat]
    exact ⟨checkPath_of_notFound hp hm, hf, hd, rfl⟩
  exact makeDirectory_ne_notFound hr hm

/-- If the parents of a grounded path cannot be made, then nothing was changed, or a
name that is too long blocks the path. -/
theorem makeAll_failed {volume : Volume} (hw : volume.WellFormed) {fuel : Nat} {absolute : Bool}
    {trail : List String} (ht : Path.Trimmed absolute trail)
    (hu : volume.Grounded (volume.start (Path.ofTrail absolute trail))
      (Path.steps (Path.ofTrail absolute trail))) {fault : Fault} {made : Volume}
    (h : volume.makeAll (Path.ancestorsFrom fuel (Path.ofTrail absolute trail)) =
      (.error fault, made)) :
    made = volume ∨
      fault = .nameTooLong ∧ made.Blocked (Path.ofTrail absolute trail) := by
  induction fuel generalizing trail fault made with
  | zero => cases h
  | succ fuel ih =>
    cases trail with
    | nil =>
      rw [Path.ancestorsFrom, Path.parent?_ofTrail_nil ht] at h
      cases h
    | cons piece rest =>
      obtain ⟨dots, -, hsteps⟩ := Path.steps_parent ht
      have hne : Path.ofTrail absolute (piece :: rest) ≠ "" := by
        intro he
        have htrail := Path.trail_ofTrail ht
        rw [he] at htrail
        cases htrail
      have hrest : volume.Grounded
          (volume.start (Path.ofTrail absolute (Path.dropFillers absolute rest)))
          (Path.steps (Path.ofTrail absolute (Path.dropFillers absolute rest))) := by
        rw [← start_parent ht]
        apply hu.of_prefix
        rw [hsteps, List.append_assoc]
        exact List.prefix_append _ _
      rw [Path.ancestorsFrom, Path.parent?_ofTrail ht, makeAll_cons] at h
      split at h
      · cases h
      · rename_i hm
        have hc := checkPath_of_notFound hne hm
        have hpiece := hu.last_ne_up hne hm hsteps
        split at h
        · rename_i parents hall
          have hgrown := grown_makeAll volume
            (Path.ancestorsFrom fuel (Path.ofTrail absolute (Path.dropFillers absolute rest)))
          rw [hall] at hgrown
          rw [makeEach] at h
          split at h
          · cases h
          · rename_i fault' hm'
            split at h
            · cases h
            · rename_i hnot
              cases h
              rcases ancestorsFrom_cases fuel
                (Path.ofTrail absolute (Path.dropFillers absolute rest)) with hn | ⟨paths, hp⟩
              · left
                rw [hn] at hall
                cases hall
                rfl
              · rw [hp] at hall
                obtain ⟨dir, hdir⟩ := resolveParent_of_leads ht hc (leads_of_makeAll hall)
                have hfree := hgrown.isDirectory_of_missing hw hu hm hdir
                rcases (makeDirectory_child hpiece hdir hfree hm').resolve_left hnot with
                  hblocked | ⟨refusal, hrefusal⟩
                · exact .inr hblocked
                · left
                  rw [hgrown.device] at hrefusal
                  exact hgrown.eq_of_refusal hrefusal
        · rename_i fault' parents hall
          cases h
          rcases ih ht.tail hrest hall with he | ⟨he, hb⟩
          · exact .inl he
          · exact .inr ⟨he, hb.child ht hc⟩
      · split at h
        · cases h
        · cases h
          exact .inl rfl

/-- Making the same directories again changes nothing more and ends in the same
way, if the path is grounded. -/
theorem makeDirectories_again {volume : Volume} (hw : volume.WellFormed) {path : Path}
    (hu : volume.Grounded (volume.start path) (Path.steps path)) :
    (volume.makeDirectories (Path.directory path)).2.makeDirectories (Path.directory path) =
      volume.makeDirectories (Path.directory path) := by
  obtain ⟨absolute, trail, ht, hd, hsteps⟩ := Path.directory_eq path
  have hu' : volume.Grounded (volume.start (Path.ofTrail absolute trail))
      (Path.steps (Path.ofTrail absolute trail)) := by
    rw [← hd]
    rcases hsteps with hdot | ⟨ha, hp⟩
    · rw [hdot]
      exact grounded_of_not_mem (by decide) _ _
    · have hstart : volume.start (Path.directory path) = volume.start path := by
        rw [start, start, hd, Path.isAbsolute_ofTrail ht, ha]
      rw [hstart]
      exact hu.of_prefix hp
  rw [hd]
  simp only [makeDirectories_eq, Path.ancestors]
  generalize (Path.ofTrail absolute trail).length + 1 = fuel
  cases hm : volume.makeAll (Path.ancestorsFrom fuel (Path.ofTrail absolute trail)) with
  | mk result made =>
    simp only
    rcases ancestorsFrom_cases fuel (Path.ofTrail absolute trail) with hn | ⟨paths, hp⟩
    · rw [hn] at hm ⊢
      cases hm
      rfl
    · cases result with
      | ok =>
        rw [hp] at hm ⊢
        have hl := leads_of_makeAll hm
        rw [makeAll_cons, makeDirectory_of_leads hl]
        exact if_pos ⟨rfl, hl⟩
      | error fault =>
        rcases makeAll_failed hw ht hu' hm with rfl | ⟨rfl, hb⟩
        · exact hm
        · rw [hp, makeAll_cons, hb.1]
          rfl

end ReleasePage.Files.Volume
