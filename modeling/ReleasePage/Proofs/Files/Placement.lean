import Mathlib
import ReleasePage.Files.Placement
import ReleasePage.Proofs.Files.Directories
import ReleasePage.Proofs.Number.Digits

/-!
# Placing a file

The staging file never takes the place of anything: there is one more token than
there are entries, so one of them is free. Hence a placement that fails leaves
nothing behind but directories, at whatever step it fails, and one that succeeds
puts exactly one file where its path leads, from where it is read again.
-/

namespace ReleasePage

namespace Files

open ReleasePage.Text (Bytes)

/-- The tokens have no slashes. -/
theorem slashFree_of_mem_tokens {volume : Volume} {token : String} (h : token ∈ tokens volume) :
    '/' ∉ token.toList := by
  rcases List.mem_cons.mp h with rfl | h
  · decide
  · obtain ⟨n, -, rfl⟩ := List.mem_map.mp h
    intro hs
    exact absurd (Number.isDigit_of_mem_padded hs) (by decide)

/-- The tokens are different. -/
theorem nodup_tokens (volume : Volume) : (tokens volume).Nodup := by
  refine List.nodup_cons.mpr ⟨?_, List.nodup_range.map (Number.padded_injective 6)⟩
  intro h
  obtain ⟨n, -, hn⟩ := List.mem_map.mp h
  have hx : 'X' ∈ (Number.padded 6 n).toList := by
    rw [hn]
    decide
  exact absurd (Number.isDigit_of_mem_padded hx) (by decide)

/-- Different tokens give different staging names. -/
theorem stagingName_injective (name : String) : Function.Injective (stagingName name) := by
  intro a b h
  have hl := congrArg String.toList h
  simp only [stagingName, String.toList_append, List.append_assoc, List.append_cancel_left_eq,
    List.append_cancel_right_eq] at hl
  exact String.toList_injective hl

/-- What stands at a location other than the root is among the entries. -/
theorem Volume.mem_of_isSome {volume : Volume} {location : Location} (hn : location ≠ [])
    (h : (volume.get? location).isSome = true) : location ∈ volume.entries.map (·.1) := by
  rw [Volume.get?, if_neg hn] at h
  by_contra hm
  rw [List.lookup_eq_none_iff.mpr] at h
  · cases h
  · intro entry he
    rw [bne_iff_ne]
    rintro rfl
    exact hm (List.mem_map_of_mem he)

/-- One of the staging names is free. -/
theorem exists_freshToken (volume : Volume) (dir : Location) (name : String) :
    ∃ token ∈ tokens volume, volume.get? (dir ++ [stagingName name token]) = none := by
  by_contra hc
  have htaken : ∀ token ∈ tokens volume,
      dir ++ [stagingName name token] ∈ volume.entries.map (·.1) := by
    intro token ht
    apply Volume.mem_of_isSome (by simp)
    rw [Option.isSome_iff_ne_none]
    exact fun hn => hc ⟨token, ht, hn⟩
  have hinj : Function.Injective fun token => dir ++ [stagingName name token] := by
    intro a b h
    exact stagingName_injective name (List.singleton_inj.mp (List.append_cancel_left h))
  have hsub : (tokens volume).map (fun token => dir ++ [stagingName name token]) ⊆
      volume.entries.map (·.1) := by
    intro location hl
    obtain ⟨token, ht, rfl⟩ := List.mem_map.mp hl
    exact htaken token ht
  have hle := (((nodup_tokens volume).map hinj).subperm hsub).length_le
  simp only [List.length_map, tokens, List.length_cons, List.length_range] at hle
  omega

/-- The chosen token is one of the tokens, and its staging name is free. -/
theorem freshToken_spec (volume : Volume) (dir : Location) (name : String) :
    freshToken volume dir name ∈ tokens volume ∧
      volume.get? (dir ++ [stagingName name (freshToken volume dir name)]) = none := by
  obtain ⟨token, ht, hn⟩ := exists_freshToken volume dir name
  rw [freshToken]
  cases hf : (tokens volume).find? fun token =>
      (volume.get? (dir ++ [stagingName name token])).isNone with
  | none =>
    have hnot := List.find?_eq_none.mp hf token ht
    rw [hn] at hnot
    exact absurd rfl hnot
  | some found =>
    have hfound := List.find?_some hf
    exact ⟨List.mem_of_find?_eq_some hf, Option.isNone_iff_eq_none.mp hfound⟩

/-- A staging name has no slashes if the name has none. -/
theorem slashFree_stagingName {name token : String} (hn : '/' ∉ name.toList)
    (ht : '/' ∉ token.toList) : '/' ∉ (stagingName name token).toList := by
  simp only [stagingName, String.toList_append, List.mem_append, not_or]
  exact ⟨⟨⟨⟨by decide, hn⟩, by decide⟩, ht⟩, by decide⟩

/-- A staging name is longer than any step that is no name. -/
theorem six_le_length_stagingName (name token : String) :
    6 ≤ (stagingName name token).toList.length := by
  have h1 : ".".toList.length = 1 := rfl
  have h4 : ".tmp".toList.length = 4 := rfl
  simp only [stagingName, String.toList_append, List.length_append, h1, h4]
  omega

/-- A staging name leads to an entry of a directory. -/
theorem plainName_stagingName {name token : String} (hn : '/' ∉ name.toList)
    (ht : '/' ∉ token.toList) : Volume.PlainName (stagingName name token) := by
  have hl := six_le_length_stagingName name token
  refine ⟨?_, slashFree_stagingName hn ht, ?_, ?_⟩
  · intro h
    rw [h] at hl
    exact absurd hl (by decide)
  · intro h
    rw [h] at hl
    exact absurd hl (by decide)
  · intro h
    rw [h] at hl
    exact absurd hl (by decide)

/-- The steps of a plain name. -/
theorem Volume.PlainName.steps {name : String} (h : Volume.PlainName name) :
    Path.steps name = [name] := by
  rw [Path.steps, Path.pieces_of_slashFree h.slashFree, List.filter_singleton,
    decide_eq_true h.ne_empty, cond_true]

/-- The last two of the texts that are joined stand at the end of the result. -/
theorem exists_joined_append (between : String) (parts : List String) (x y : String) :
    ∃ a, Text.joined between (parts ++ [x, y]) = a ++ x ++ (between ++ y) := by
  induction parts with
  | nil =>
    refine ⟨"", ?_⟩
    rw [List.nil_append, Text.joined, String.intercalate_cons_cons, String.intercalate_singleton,
      String.empty_append, String.append_assoc]
  | cons part parts ih =>
    obtain ⟨a, ha⟩ := ih
    refine ⟨part ++ between ++ a, ?_⟩
    rw [List.cons_append, Text.joined, String.intercalate_cons_of_ne_nil (by simp), ← Text.joined,
      ha]
    simp only [String.append_assoc]

/-- The path of a staging file holds its directory and ends with its name. -/
theorem exists_stagingPath (volume : Volume) (dir : Path) (name : String) :
    ∃ a b, stagingPath volume dir name = a ++ dir ++ (b ++ name) := by
  rw [stagingPath]
  by_cases ha : Path.isAbsolute dir = true
  · rw [if_pos ha]
    by_cases hs : Path.endsInSlash dir = true
    · rw [if_pos hs]
      exact ⟨"", "", by rw [String.empty_append, String.empty_append]⟩
    · rw [if_neg hs]
      exact ⟨"", "/", by rw [String.empty_append, String.append_assoc]⟩
  · rw [if_neg ha]
    obtain ⟨a, he⟩ := exists_joined_append "/" volume.home dir name
    exact ⟨"/" ++ a, "/", by rw [he]; simp only [String.append_assoc]⟩

/-- A part of a path that can be checked can be checked, unless it is empty. -/
theorem Volume.checkPath_part {a path b : Path} (hn : path ≠ "")
    (h : checkPath (a ++ path ++ b) = .ok ()) : checkPath path = .ok () := by
  rw [checkPath] at h ⊢
  split_ifs at h with hz he hl
  have hz' : ¬(path.toList.any fun c => c.toNat == 0) = true := by
    simp only [String.toList_append, List.any_append, Bool.or_eq_true, not_or] at hz
    exact hz.1.2
  have hl' : ¬maxPath < path.utf8ByteSize := by
    simp only [String.utf8ByteSize_append] at hl
    omega
  rw [if_neg hz', if_neg hn, if_neg hl']

/-- The path of a staging file starts at the root. -/
theorem isAbsolute_stagingPath (volume : Volume) (dir : Path) (name : String) :
    Path.isAbsolute (stagingPath volume dir name) = true := by
  rw [stagingPath]
  by_cases ha : Path.isAbsolute dir = true
  · obtain ⟨rest, rfl⟩ := Path.exists_of_isAbsolute ha
    rw [if_pos ha]
    split
    · rw [String.append_assoc]
      exact Path.isAbsolute_slash _
    · rw [String.append_assoc, String.append_assoc]
      exact Path.isAbsolute_slash _
  · rw [if_neg ha]
    exact Path.isAbsolute_slash _

/-- The steps of the path of a staging file: those to the directory, from the root
on, and the name. -/
theorem steps_stagingPath {volume : Volume} (hh : ∀ name ∈ volume.home, Volume.PlainName name)
    (dir : Path) {name : String} (hn : Volume.PlainName name) :
    Path.steps (stagingPath volume dir name) =
      volume.start dir ++ Path.steps dir ++ [name] := by
  rw [stagingPath, Volume.start]
  by_cases ha : Path.isAbsolute dir = true
  · rw [if_pos ha, if_pos ha, List.nil_append]
    by_cases hs : Path.endsInSlash dir = true
    · obtain ⟨front, rfl⟩ := Path.exists_of_endsInSlash hs
      have he : Path.steps (front ++ "/") = Path.steps front := by
        have h := Path.steps_slash front ""
        rw [String.append_empty, show Path.steps "" = [] from rfl, List.append_nil] at h
        exact h
      rw [if_pos hs, Path.steps_slash, hn.steps, he]
    · rw [if_neg hs, Path.steps_slash, hn.steps]
  · have hhome : volume.home.flatMap Path.steps = volume.home := by
      calc volume.home.flatMap Path.steps = volume.home.flatMap fun name => [name] :=
            List.flatMap_congr fun name hm => (hh name hm).steps
        _ = volume.home := List.flatMap_singleton' volume.home
    rw [if_neg ha, if_neg ha, Path.steps_root, Path.steps_joined, List.flatMap_append, hhome,
      List.flatMap_cons, List.flatMap_singleton, hn.steps, List.append_assoc]

namespace Volume

/-- Plain names lead further down. -/
theorem follow_plain {volume : Volume} {location last : Location} {names : List String}
    (hp : ∀ name ∈ names, PlainName name) (h : volume.follow location names = .ok last) :
    last = location ++ names := by
  induction names generalizing location with
  | nil =>
    cases h
    rw [List.append_nil]
  | cons name names ih =>
    have hn := hp name List.mem_cons_self
    obtain ⟨next, he, hf⟩ := follow_cons_eq_ok.mp h
    have hnext : next = location ++ [name] := by
      rcases (stepTo_eq_ok.mp (enter_eq_ok.mp he).1).2 with ⟨h1, -⟩ | ⟨h2, -⟩ | ⟨-, -, -, hl⟩
      · exact absurd h1 hn.ne_dot
      · exact absurd h2 hn.ne_up
      · exact hl
    rw [ih (fun other ho => hp other (List.mem_cons_of_mem _ ho)) hf, hnext, List.append_assoc,
      List.singleton_append]

/-- The staging file stands in the directory that its path names. -/
theorem resolve_of_stagingPath {volume : Volume}
    (hh : ∀ name ∈ volume.home, PlainName name) {dir : Path} (hd : dir ≠ "") {name : String}
    (hn : PlainName name) {parent : Location} {last : Option String}
    (h : volume.resolveParent (stagingPath volume dir name) = .ok (parent, last)) :
    volume.resolve dir = .ok parent := by
  obtain ⟨hc, hf, hdir, -⟩ := resolveParent_eq_ok.mp h
  obtain ⟨a, b, he⟩ := exists_stagingPath volume dir name
  have hroot : volume.start (stagingPath volume dir name) = [] := by
    rw [start, if_pos (isAbsolute_stagingPath volume dir name)]
  rw [hroot, steps_stagingPath hh dir hn, List.dropLast_concat] at hf
  rw [he] at hc
  refine resolve_eq_ok.mpr ⟨checkPath_part hd hc, ?_, fun _ => hdir⟩
  have hplain : ∀ name ∈ volume.start dir, PlainName name := by
    intro other ho
    rw [start] at ho
    split at ho
    · exact absurd ho List.not_mem_nil
    · exact hh other ho
  cases hs : volume.follow [] (volume.start dir) with
  | error fault =>
    rw [follow_append_of_error hs] at hf
    cases hf
  | ok origin =>
    have ho := follow_plain hplain hs
    rw [List.nil_append] at ho
    rw [follow_append_of_ok hs, ho] at hf
    exact hf

/-- The staging file with a given name goes into its directory. -/
theorem location_of_stagingPath {volume : Volume} (hh : ∀ name ∈ volume.home, PlainName name)
    {dir : Path} (hd : dir ≠ "") {name : String} (hn : PlainName name) {location : Location}
    (h : (do
      let (parent, _) ← volume.resolveParent (stagingPath volume dir name)
      volume.stepTo parent name) = .ok location) :
    ∃ parent, volume.resolve dir = .ok parent ∧ location = parent ++ [name] := by
  cases hp : volume.resolveParent (stagingPath volume dir name) with
  | error fault =>
    simp only [hp, bind, Except.bind] at h
    cases h
  | ok result =>
    obtain ⟨parent, last⟩ := result
    simp only [hp, bind, Except.bind] at h
    refine ⟨parent, resolve_of_stagingPath hh hd hn hp, ?_⟩
    rcases (stepTo_eq_ok.mp h).2 with ⟨h1, -⟩ | ⟨h2, -⟩ | ⟨-, -, -, hl⟩
    · exact absurd h1 hn.ne_dot
    · exact absurd h2 hn.ne_up
    · exact hl

/-- The staging file takes the place of nothing. -/
theorem stagingLocation_fresh {volume : Volume} (hh : ∀ name ∈ volume.home, PlainName name)
    {dir : Path} (hd : dir ≠ "") {name : String} (hn : '/' ∉ name.toList) {location : Location}
    (h : volume.stagingLocation dir name = .ok location) :
    location ≠ [] ∧ volume.get? location = none := by
  rw [stagingLocation] at h
  cases hr : volume.resolve dir with
  | error fault =>
    rw [hr] at h
    have hplain : PlainName (stagingName name "XXXXXX") := plainName_stagingName hn (by decide)
    obtain ⟨parent, hp, -⟩ := location_of_stagingPath hh hd hplain h
    rw [hr] at hp
    cases hp
  | ok found =>
    rw [hr] at h
    obtain ⟨ht, hfree⟩ := freshToken_spec volume found name
    have hplain := plainName_stagingName hn (slashFree_of_mem_tokens ht)
    obtain ⟨parent, hp, hl⟩ := location_of_stagingPath hh hd hplain h
    rw [hr] at hp
    cases hp
    rw [hl]
    exact ⟨by simp, hfree⟩

/-- Erasing what was put in a free place undoes putting it there. -/
theorem erase_put {volume : Volume} {location : Location} (hn : location ≠ [])
    (hg : volume.get? location = none) (entry : Entry) :
    (volume.put location entry).erase location = volume := by
  rw [get?, if_neg hn, List.lookup_eq_none_iff] at hg
  have hfilter : (volume.entries.filter fun entry => entry.1 ≠ location) = volume.entries := by
    apply List.filter_eq_self.mpr
    intro other ho
    have hne := hg other ho
    rw [bne_iff_ne] at hne
    exact decide_eq_true hne.symm
  rw [erase, put, erase]
  simp only [List.filter_append, hfilter, List.filter_singleton, ne_eq, not_true_eq_false,
    decide_false, cond_false, List.append_nil]

/-- Where a renamed file ends up. -/
theorem renameTarget_eq_ok {volume : Volume} {path : Path} {target : Location}
    (h : volume.renameTarget path = .ok target) :
    ∃ dir name, volume.resolveParent path = .ok (dir, some name) ∧ target = dir ++ [name] ∧
      volume.stepTo dir name = .ok target ∧ Path.endsInSlash path = false ∧
      volume.isDirectory target = false := by
  rw [renameTarget] at h
  cases hr : volume.resolveParent path with
  | error fault =>
    rw [hr] at h
    cases h
  | ok result =>
    obtain ⟨dir, name⟩ := result
    rw [hr] at h
    cases name with
    | none => cases h
    | some name =>
      simp only [bind, Except.bind] at h
      by_cases hn : name = "." ∨ name = ".."
      · rw [if_pos hn] at h
        cases h
      · rw [if_neg hn] at h
        rw [not_or] at hn
        simp only [pure, Except.pure] at h
        cases hs : volume.stepTo dir name with
        | error fault =>
          rw [hs] at h
          cases h
        | ok location =>
          rw [hs] at h
          simp only at h
          split_ifs at h with hslash hdir
          cases h
          refine ⟨dir, name, rfl, ?_, hs, Bool.eq_false_iff.mpr hslash, Bool.eq_false_iff.mpr hdir⟩
          rcases (stepTo_eq_ok.mp hs).2 with ⟨h1, -⟩ | ⟨h2, -⟩ | ⟨-, -, -, hl⟩
          · exact absurd h1 hn.1
          · exact absurd h2 hn.2
          · exact hl

/-- A volume with a file where a path leads that was not a directory before. One file
was put into a directory, and nothing else was changed. -/
structure Placed (volume : Volume) (path : Path) (mode : Nat) (content : Bytes)
    (after : Volume) : Prop where
  /-- The path leads to the file. -/
  put : ∃ dir name, volume.isDirectory dir = true ∧ volume.isDirectory (dir ++ [name]) = false ∧
    after = volume.put (dir ++ [name]) (.file mode content) ∧
    after.resolve path = .ok (dir ++ [name])

/-- What was put somewhere other than the root stands there. -/
theorem get?_put_self (volume : Volume) {location : Location} (hn : location ≠ [])
    (entry : Entry) : (volume.put location entry).get? location = some entry := by
  rw [get?_put, if_neg hn, if_pos rfl]

/-- A placed file has its content under its path. -/
theorem Placed.contentOf {volume after : Volume} {path : Path} {mode : Nat} {content : Bytes}
    (h : Placed volume path mode content after) : after.contentOf path = .ok content := by
  obtain ⟨dir, name, -, -, rfl, hr⟩ := h.put
  exact contentOf_eq_ok.mpr ⟨_, mode, hr, get?_put_self volume (by simp) _⟩

/-- Putting a file in no directory's place keeps directories. -/
theorem keeps_put_file {volume : Volume} {location : Location}
    (hd : volume.isDirectory location = false) (entry : Entry) :
    volume.Keeps (volume.put location entry) := by
  intro other ho
  rw [isDirectory_iff, get?_put]
  by_cases hn : other = []
  · rw [if_pos hn]
  · have hne : other ≠ location := by
      rintro rfl
      rw [hd] at ho
      cases ho
    rw [if_neg hn, if_neg hne]
    exact isDirectory_iff.mp ho

/-- A file that was put somewhere adds no directories. -/
theorem keeps_of_put_file (volume : Volume) (location : Location) (mode : Nat) (content : Bytes) :
    (volume.put location (.file mode content)).Keeps volume := by
  intro other ho
  rw [isDirectory_iff, get?_put] at ho
  by_cases hn : other = []
  · rw [hn]
    exact isDirectory_nil volume
  · rw [if_neg hn] at ho
    by_cases he : other = location
    · rw [if_pos he] at ho
      cases ho
    · rw [if_neg he] at ho
      exact isDirectory_iff.mpr ho

/-- A file that is renamed to a path is placed there. -/
theorem placed_of_renameTarget {volume : Volume} {staging target : Location} {path : Path}
    {content : Bytes} {mode : Nat} (hfree : volume.get? staging = none)
    (h : (volume.put staging (.file mode content)).renameTarget path = .ok target) :
    Placed volume path mode content (volume.put target (.file mode content)) := by
  obtain ⟨dir, name, hr, ht, hs, hslash, hdir⟩ := renameTarget_eq_ok h
  obtain ⟨hc, hf, hd, hlast⟩ := resolveParent_eq_ok.mp hr
  have hback := keeps_of_put_file volume staging mode content
  have hvd := hback dir hd
  have hvf : volume.follow (volume.start path) (Path.steps path).dropLast = .ok dir :=
    follow_keeps hback hf hd
  have hvt : volume.isDirectory target = false := by
    rw [Bool.eq_false_iff] at hdir ⊢
    intro hv
    apply hdir
    apply keeps_put_file _ _ target hv
    rw [Bool.eq_false_iff]
    intro hst
    rw [isDirectory_iff, hfree] at hst
    cases hst
  have hkeep := keeps_put_file hvt (.file mode content)
  have hget : (volume.put target (.file mode content)).get? target = some (.file mode content) :=
    get?_put_self volume (by rw [ht]; simp) _
  have hstep : (volume.put target (.file mode content)).stepTo dir name = .ok target := by
    rw [← stepTo_congr hd (hkeep dir hvd)]
    exact hs
  have hsteps := (List.dropLast_append_getLast? name hlast.symm).symm
  have hfollow : (volume.put target (.file mode content)).follow
      ((volume.put target (.file mode content)).start path) (Path.steps path) = .ok target := by
    have hkf : (volume.put target (.file mode content)).follow
        ((volume.put target (.file mode content)).start path) (Path.steps path).dropLast = .ok dir :=
      follow_keeps hkeep hvf hvd
    rw [hsteps, follow_append_of_ok hkf]
    exact follow_cons_eq_ok.mpr ⟨target, enter_eq_ok.mpr ⟨hstep, by rw [hget]; rfl⟩, follow_nil _ _⟩
  have hresolve : (volume.put target (.file mode content)).resolve path = .ok target := by
    refine resolve_eq_ok.mpr ⟨hc, hfollow, ?_⟩
    rw [hslash]
    exact fun h => absurd h (by decide)
  exact ⟨dir, name, hvd, ht ▸ hvt, by rw [ht], ht ▸ hresolve⟩

/-- Placing a file keeps the device. -/
theorem Placed.device {volume after : Volume} {path : Path} {mode : Nat} {content : Bytes}
    (h : Placed volume path mode content after) : after.device = volume.device := by
  obtain ⟨dir, name, -, -, rfl, -⟩ := h.put
  rfl

/-- Placing a file keeps directories. -/
theorem Placed.keeps {volume after : Volume} {path : Path} {mode : Nat} {content : Bytes}
    (h : Placed volume path mode content after) :
    volume.Keeps after ∧ after.home = volume.home := by
  obtain ⟨dir, name, -, hf, rfl, -⟩ := h.put
  exact ⟨keeps_put_file hf _, rfl⟩

/-- Placing a file keeps a volume well-formed. -/
theorem Placed.wellFormed {volume after : Volume} {path : Path} {mode : Nat} {content : Bytes}
    (h : Placed volume path mode content after) (hw : volume.WellFormed) :
    after.WellFormed := by
  obtain ⟨dir, name, hd, hf, rfl, -⟩ := h.put
  exact hw.put hd (.inr hf)

/-- The name of the file at a path has no slashes. -/
theorem slashFree_fileName (path : Path) : '/' ∉ ((Path.fileName? path).getD "").toList := by
  rw [Path.fileName?]
  cases ht : Path.trail path with
  | nil => decide
  | cons piece rest =>
    have hs := (Path.trimmed_trail path).slashFree piece (by rw [ht]; exact List.mem_cons_self)
    simp only
    split
    · decide
    · exact hs

/-- The directory a file is put into has a name. -/
theorem directory_ne_empty (path : Path) : Path.directory path ≠ "" := by
  rw [Path.directory]
  split
  · decide
  · split
    · decide
    · assumption

/-- What is put somewhere takes the place of what was put there before. -/
theorem put_put (volume : Volume) (location : Location) (first second : Entry) :
    (volume.put location first).put location second = volume.put location second := by
  simp only [put, erase, List.filter_append, List.filter_filter, Bool.and_self,
    List.filter_singleton, ne_eq, not_true_eq_false, decide_false, cond_false, List.append_nil]

/-- Filling a staging file changes nothing else. If it succeeds, the file has the
content and the permission bits that were asked for. -/
theorem fill_cases (volume : Volume) (dir shown : Path) (staging : Location) (content : Bytes)
    (options : PlaceOptions) :
    (∃ error mode part, volume.fill dir shown staging content options =
        (.error error, volume.put staging (.file mode part))) ∨
      volume.fill dir shown staging content options =
        (.ok (), volume.put staging (.file options.mode content)) := by
  unfold fill
  dsimp only
  cases volume.device.room.overflow? content with
  | some fault => exact .inl ⟨_, _, _, rfl⟩
  | none =>
    cases volume.device.modes with
    | some fault => exact .inl ⟨_, _, _, rfl⟩
    | none =>
      simp only [put_put]
      cases if options.sync = true then volume.device.flushes else none with
      | some fault => exact .inl ⟨_, _, _, rfl⟩
      | none => exact .inr rfl

/-- Staging a file either fails and changes nothing, or adds the staging file in a free
place. -/
theorem stage_cases {volume : Volume} (hh : ∀ name ∈ volume.home, PlainName name) (path : Path)
    (content : Bytes) (options : PlaceOptions) :
    (∃ error, volume.stage (Path.directory path) path content options =
        (.error error, volume)) ∨
      ∃ staging, staging ≠ [] ∧ volume.get? staging = none ∧
        volume.stage (Path.directory path) path content options =
          (.ok staging, volume.put staging (.file options.mode content)) := by
  unfold stage
  dsimp only
  cases hl : volume.stagingLocation (Path.directory path) ((Path.fileName? path).getD "") with
  | error fault => exact .inl ⟨_, rfl⟩
  | ok staging =>
    obtain ⟨hn, hfree⟩ :=
      stagingLocation_fresh hh (directory_ne_empty path) (slashFree_fileName path) hl
    cases volume.device.creation with
    | some fault => exact .inl ⟨_, rfl⟩
    | none =>
      have hfill := fill_cases (volume.put staging (.file stagingMode [])) (Path.directory path)
        (stagingPath volume (Path.directory path)
          (stagingName ((Path.fileName? path).getD "") "XXXXXX")) staging content options
      simp only [put_put] at hfill
      rcases hfill with ⟨error, mode, part, he⟩ | he
      · left
        simp only [he, erase_put hn hfree]
        exact ⟨error, rfl⟩
      · right
        simp only [he]
        exact ⟨staging, hn, hfree, rfl⟩

/-- Moving what was put in a free place is putting it elsewhere. -/
theorem move_put {volume : Volume} {source : Location} (hn : source ≠ [])
    (hfree : volume.get? source = none) (target : Location) (entry : Entry) :
    (volume.put source entry).move source target = volume.put target entry := by
  rw [move, get?_put_self volume hn]
  simp only [erase_put hn hfree]

/-- What renaming a file does. -/
theorem rename_eq_ok {volume after : Volume} {source : Location} {path : Path}
    (h : volume.rename source path = .ok after) :
    ∃ target, volume.renameTarget path = .ok target ∧ after = volume.move source target := by
  rw [rename] at h
  cases ht : volume.renameTarget path with
  | error fault =>
    rw [ht] at h
    cases h
  | ok target =>
    rw [ht] at h
    simp only [bind, Except.bind] at h
    cases hd : volume.device.renames with
    | some fault =>
      rw [hd] at h
      cases h
    | none =>
      rw [hd] at h
      cases h
      exact ⟨target, rfl, rfl⟩

/-- Placing a file either fails and changes nothing, or places it. -/
theorem placeIn_cases {volume : Volume} (hh : ∀ name ∈ volume.home, PlainName name) (path : Path)
    (content : Bytes) (options : PlaceOptions) :
    (∃ error, volume.placeIn (Path.directory path) path content options =
        (.error error, volume)) ∨
      ∃ after, volume.placeIn (Path.directory path) path content options = (.ok (), after) ∧
        Placed volume path options.mode content after := by
  unfold placeIn
  rcases stage_cases hh path content options with ⟨error, he⟩ | ⟨staging, hn, hfree, he⟩
  · rw [he]
    exact .inl ⟨error, rfl⟩
  · rw [he]
    dsimp only
    cases hr : (volume.put staging (.file options.mode content)).rename staging path with
    | error fault =>
      left
      simp only [erase_put hn hfree]
      exact ⟨_, rfl⟩
    | ok after =>
      obtain ⟨target, ht, ha⟩ := rename_eq_ok hr
      rw [move_put hn hfree] at ha
      right
      refine ⟨after, rfl, ?_⟩
      rw [ha]
      exact placed_of_renameTarget hfree ht

/-- The volume before a file is placed, with the parents of the file if they are to be
made. -/
def withParents (volume : Volume) (path : Path) (options : PlaceOptions) : Volume :=
  if options.createParent then (volume.makeDirectories (Path.directory path)).2 else volume

/-- Placing a file either fails and leaves nothing behind but the parents, or places it
among them. -/
theorem place_cases {volume : Volume} (hh : ∀ name ∈ volume.home, PlainName name) (path : Path)
    (content : Bytes) (options : PlaceOptions) :
    (∃ error, volume.place path content options =
        (.error error, volume.withParents path options)) ∨
      ∃ after, volume.place path content options = (.ok (), after) ∧
        Placed (volume.withParents path options) path options.mode content after := by
  rw [place, withParents]
  by_cases hp : options.createParent = true
  · have hhome : (volume.makeDirectories (Path.directory path)).2.home = volume.home :=
      (grown_makeDirectories volume _).home
    simp only [if_pos hp]
    cases hm : volume.makeDirectories (Path.directory path) with
    | mk result made =>
      rw [hm] at hhome
      cases result with
      | error fault => exact .inl ⟨_, rfl⟩
      | ok =>
        simp only at hhome ⊢
        exact placeIn_cases (by rw [hhome]; exact hh) path content options
  · simp only [if_neg hp]
    exact placeIn_cases hh path content options

/-- Making the parents of a file keeps the device. -/
theorem device_withParents (volume : Volume) (path : Path) (options : PlaceOptions) :
    (volume.withParents path options).device = volume.device := by
  rw [withParents]
  split
  · exact (grown_makeDirectories volume _).device
  · rfl

/-- Placing a file keeps the device. -/
theorem device_place {volume : Volume} (hh : ∀ name ∈ volume.home, PlainName name) (path : Path)
    (content : Bytes) (options : PlaceOptions) :
    (volume.place path content options).2.device = volume.device := by
  rcases place_cases hh path content options with ⟨error, he⟩ | ⟨after, he, hp⟩
  · rw [he]
    exact device_withParents volume path options
  · rw [he]
    exact hp.device.trans (device_withParents volume path options)

/-- A file that was placed has its content under its path. -/
theorem contentOf_of_place {volume after : Volume} (hh : ∀ name ∈ volume.home, PlainName name)
    {path : Path} {content : Bytes} {options : PlaceOptions}
    (h : volume.place path content options = (.ok (), after)) :
    after.contentOf path = .ok content := by
  rcases place_cases hh path content options with ⟨error, he⟩ | ⟨other, he, hp⟩
  · rw [h] at he
    cases he
  · rw [h] at he
    cases he
    exact hp.contentOf

/-- A file that was placed is read back from a device that gives it out. -/
theorem readFile_of_place {volume after : Volume} (hh : ∀ name ∈ volume.home, PlainName name)
    {path : Path} {content : Bytes} {options : PlaceOptions} (hr : volume.device.Readable)
    (h : volume.place path content options = (.ok (), after)) :
    after.readFile path = .ok content := by
  have hdevice := device_place hh path content options
  rw [h] at hdevice
  refine readFile_eq_ok.mpr ⟨contentOf_of_place hh h, ?_⟩
  rw [hdevice]
  exact hr

/-- What is read at a path is what is read of the file. -/
theorem read_eq_ok {volume : Volume} {path : Path} {content : Bytes} :
    volume.read path = .ok content ↔ volume.readFile path = .ok content := by
  rw [Volume.read]
  exact mapError_eq_ok

/-- A path with a directory of 4090 bytes or more is too long for a staging
file. -/
theorem stagingLocation_ne_ok {dir : Path} (h : 4090 ≤ dir.utf8ByteSize) (volume : Volume)
    (name : String) (location : Location) : volume.stagingLocation dir name ≠ .ok location := by
  have hlong : ∀ token result,
      volume.resolveParent (stagingPath volume dir (stagingName name token)) ≠ .ok result := by
    intro token result hr
    obtain ⟨a, b, he⟩ := exists_stagingPath volume dir (stagingName name token)
    have hsize : maxPath < (stagingPath volume dir (stagingName name token)).utf8ByteSize := by
      have h1 : ".".utf8ByteSize = 1 := rfl
      have h4 : ".tmp".utf8ByteSize = 4 := rfl
      rw [he]
      simp only [stagingName, String.utf8ByteSize_append, h1, h4, maxPath]
      omega
    have hc := (resolveParent_eq_ok.mp hr).1
    rw [checkPath] at hc
    split_ifs at hc
  intro hs
  rw [stagingLocation] at hs
  simp only [bind, Except.bind] at hs
  split at hs
  · cases hs
  · rename_i result hr
    exact hlong _ _ hr

/-- A file whose directory has a path that is too long for a staging file is not
placed, but the directory is made. -/
theorem place_of_long_directory {path : Path} (h : 4090 ≤ (Path.directory path).utf8ByteSize)
    (volume : Volume) (content : Bytes) :
    ∃ error, volume.place path content .withParents =
      (.error error, (volume.makeDirectories (Path.directory path)).2) := by
  rw [place]
  simp only [PlaceOptions.withParents, if_true]
  cases hm : volume.makeDirectories (Path.directory path) with
  | mk result made =>
    cases result with
    | error fault => exact ⟨_, rfl⟩
    | ok =>
      unfold placeIn stage
      dsimp only
      cases hl : made.stagingLocation (Path.directory path) ((Path.fileName? path).getD "") with
      | error fault => exact ⟨_, rfl⟩
      | ok location => exact absurd hl (stagingLocation_ne_ok h made _ location)

end Volume

end Files

end ReleasePage
