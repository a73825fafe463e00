import Mathlib
import ReleasePage.Files.Path
import ReleasePage.Proofs.Pieces

/-!
# Steps of a path

Joining paths with slashes joins their steps. So the steps of a path are those of
its parent followed by the last step, with nothing but single dots in between,
and all that the parents of a path do can be said of its trail, the list of its
pieces in reverse.
-/

namespace ReleasePage

/-- The length of texts that slashes join. -/
theorem Text.utf8ByteSize_joined {parts : List String} (h : parts ≠ []) :
    (joined "/" parts).utf8ByteSize + 1 = (parts.map String.utf8ByteSize).sum + parts.length := by
  have h1 : "/".utf8ByteSize = 1 := rfl
  induction parts with
  | nil => exact absurd rfl h
  | cons part parts ih =>
    cases parts with
    | nil =>
      rw [joined, String.intercalate_singleton, List.map_singleton, List.sum_singleton,
        List.length_singleton]
    | cons next parts =>
      have hrest := ih (List.cons_ne_nil _ _)
      rw [joined, String.intercalate_cons_cons, ← joined, String.utf8ByteSize_append,
        String.utf8ByteSize_append, h1, List.map_cons, List.sum_cons, List.length_cons]
      omega

/-- Texts that slashes join have only their characters and slashes. -/
theorem Text.mem_joined {parts : List String} {c : Char} (h : c ∈ (joined "/" parts).toList) :
    c = '/' ∨ ∃ part ∈ parts, c ∈ part.toList := by
  induction parts with
  | nil => exact absurd h (by simp [joined])
  | cons part parts ih =>
    cases parts with
    | nil =>
      rw [joined, String.intercalate_singleton] at h
      exact .inr ⟨part, List.mem_singleton_self _, h⟩
    | cons next parts =>
      rw [joined, String.intercalate_cons_cons, ← joined] at h
      simp only [String.toList_append, List.mem_append] at h
      rcases h with (h | h) | h
      · exact .inr ⟨part, List.mem_cons_self, h⟩
      · exact .inl (List.mem_singleton.mp h)
      · rcases ih h with hc | ⟨other, ho, hc⟩
        · exact .inl hc
        · exact .inr ⟨other, List.mem_cons_of_mem _ ho, hc⟩

namespace Files.Path

/-- The pieces of two paths that a slash joins. -/
theorem pieces_slash (a b : Path) : pieces (a ++ "/" ++ b) = pieces a ++ pieces b := by
  have h := @Text.pieces_append_cons (· == '/') '/' rfl a.toList b.toList
  simp only [pieces, String.toList_append]
  rw [show "/".toList = ['/'] from rfl, List.append_assoc, List.singleton_append, h,
    List.map_append]

/-- The steps of two paths that a slash joins. -/
theorem steps_slash (a b : Path) : steps (a ++ "/" ++ b) = steps a ++ steps b := by
  rw [steps, pieces_slash, List.filter_append]
  rfl

/-- A text without slashes is its only piece. -/
theorem pieces_of_slashFree {piece : Path} (h : '/' ∉ piece.toList) : pieces piece = [piece] := by
  rw [pieces, Text.pieces_of_not_mem h, List.map_singleton, String.ofList_toList]

/-- Pieces have no slashes. -/
theorem slashFree_of_mem_pieces {path : Path} {piece : String} (h : piece ∈ pieces path) :
    '/' ∉ piece.toList := by
  obtain ⟨chars, hc, rfl⟩ := List.mem_map.mp h
  rw [String.toList_ofList]
  intro hs
  have hn := (Text.mem_and_not_cut_of_mem_pieces hc '/' hs).2
  exact absurd hn (by decide)

/-- A path that starts with a slash is absolute. -/
theorem isAbsolute_slash (path : Path) : isAbsolute ("/" ++ path) = true := by
  rw [isAbsolute, String.toList_append]
  rfl

/-- An absolute path starts with a slash. -/
theorem exists_of_isAbsolute {path : Path} (h : isAbsolute path = true) :
    ∃ rest : Path, path = "/" ++ rest := by
  rw [isAbsolute, beq_iff_eq] at h
  cases hp : path.toList with
  | nil =>
    rw [hp] at h
    cases h
  | cons c chars =>
    rw [hp] at h
    cases h
    refine ⟨String.ofList chars, ?_⟩
    apply String.toList_injective
    simp only [hp, String.toList_append, String.toList_ofList]
    rfl

/-- The pieces of an absolute path. -/
theorem pieces_root (path : Path) : pieces ("/" ++ path) = "" :: pieces path :=
  pieces_slash "" path

/-- The first piece of a relative path is a name, unless the path is empty. -/
theorem head_pieces_of_relative {path : Path} (h : isAbsolute path = false) (hn : path ≠ "") :
    ∀ first ∈ (pieces path).head?, first ≠ "" := by
  intro first hf he
  rw [pieces, List.head?_map, Option.mem_map] at hf
  obtain ⟨chars, hc, hs⟩ := hf
  have hnil : chars = [] := by
    have hl := congrArg String.toList (hs.trans he)
    rwa [String.toList_ofList, String.toList_empty] at hl
  rw [hnil, Option.mem_def, Text.head_pieces_eq_nil] at hc
  cases hp : path.toList with
  | nil => exact hn (String.toList_injective hp)
  | cons c rest =>
    have hcut := hc c (by rw [hp]; rfl)
    rw [beq_iff_eq] at hcut
    rw [isAbsolute, hp, hcut] at h
    cases h

/-- The pieces of paths that slashes join. -/
theorem pieces_joined {parts : List Path} (hn : parts ≠ []) :
    pieces (Text.joined "/" parts) = parts.flatMap pieces := by
  induction parts with
  | nil => exact absurd rfl hn
  | cons part parts ih =>
    cases parts with
    | nil => rw [Text.joined, String.intercalate_singleton, List.flatMap_singleton]
    | cons next parts =>
      rw [Text.joined, String.intercalate_cons_cons, pieces_slash, List.flatMap_cons]
      exact congrArg (pieces part ++ ·) (ih (List.cons_ne_nil _ _))

/-- Names that slashes join are the pieces of the path. -/
theorem pieces_joined_slashFree {parts : List String} (hn : parts ≠ [])
    (h : ∀ part ∈ parts, '/' ∉ part.toList) : pieces (Text.joined "/" parts) = parts := by
  rw [pieces_joined hn]
  calc parts.flatMap pieces = parts.flatMap fun part => [part] :=
        List.flatMap_congr fun part hp => pieces_of_slashFree (h part hp)
    _ = parts := List.flatMap_singleton' parts

/-- The steps of paths that slashes join. -/
theorem steps_joined (parts : List Path) :
    steps (Text.joined "/" parts) = parts.flatMap steps := by
  by_cases hn : parts = []
  · subst hn
    rfl
  · rw [steps, pieces_joined hn, List.filter_flatMap]
    rfl

/-- The steps of an absolute path. -/
theorem steps_root (path : Path) : steps ("/" ++ path) = steps path :=
  steps_slash "" path

/-- The pieces of the body have no slashes. -/
theorem slashFree_of_mem_body {path : Path} {piece : String} (h : piece ∈ body path) :
    '/' ∉ piece.toList := by
  rw [body] at h
  split at h
  · exact slashFree_of_mem_pieces (List.mem_of_mem_drop h)
  · exact slashFree_of_mem_pieces h

/-- The steps are the pieces of the body that are not empty. -/
theorem steps_eq_body (path : Path) : steps path = (body path).filter (· ≠ "") := by
  by_cases h : isAbsolute path = true
  · obtain ⟨rest, rfl⟩ := exists_of_isAbsolute h
    rw [body, if_pos h, steps_root, pieces_root, List.drop_one, List.tail_cons]
    rfl
  · rw [body, if_neg h]
    rfl

/-- What is left out in front are fillers. -/
theorem exists_fillers (absolute : Bool) (trail : List String) :
    ∃ fillers, trail = fillers ++ dropFillers absolute trail ∧
      ∀ filler ∈ fillers, filler = "" ∨ filler = "." := by
  fun_induction dropFillers absolute trail with
  | case1 => exact ⟨[], rfl, fun _ h => absurd h List.not_mem_nil⟩
  | case2 piece h =>
    refine ⟨[piece], rfl, ?_⟩
    intro filler hf
    rw [List.mem_singleton.mp hf]
    exact h.imp_right And.left
  | case3 piece h => exact ⟨[], rfl, fun _ hf => absurd hf List.not_mem_nil⟩
  | case4 piece rest hr h ih =>
    obtain ⟨fillers, he, hf⟩ := ih
    refine ⟨piece :: fillers, ?_, ?_⟩
    · rw [List.cons_append, ← he]
    · intro filler hm
      rcases List.mem_cons.mp hm with rfl | hm
      · exact h
      · exact hf filler hm
  | case5 piece rest hr h => exact ⟨[], rfl, fun _ hf => absurd hf List.not_mem_nil⟩

/-- Leaving out fillers twice is leaving them out once. -/
theorem dropFillers_idem (absolute : Bool) (trail : List String) :
    dropFillers absolute (dropFillers absolute trail) = dropFillers absolute trail := by
  fun_induction dropFillers absolute trail with
  | case1 => rfl
  | case2 piece h => rfl
  | case3 piece h => rw [dropFillers, if_neg h]
  | case4 piece rest hr h ih => exact ih
  | case5 piece rest hr h =>
    rw [dropFillers, if_neg h]
    exact hr

/-- What is left does not start with an empty piece. -/
theorem head_dropFillers {absolute : Bool} {trail rest : List String} {piece : String}
    (h : dropFillers absolute trail = piece :: rest) : piece ≠ "" := by
  fun_induction dropFillers absolute trail with
  | case1 => cases h
  | case2 => cases h
  | case3 first hf =>
    cases h
    exact fun he => hf (.inl he)
  | case4 first more hr hf ih => exact ih h
  | case5 first more hr hf =>
    cases h
    exact fun he => hf (.inl he)

/-- A trail whose first piece is no filler stays as it is. -/
theorem dropFillers_of_name {piece : String} (hp : piece ≠ "") (hd : piece ≠ ".") (absolute : Bool)
    (rest : List String) : dropFillers absolute (piece :: rest) = piece :: rest := by
  cases rest with
  | nil => rw [dropFillers, if_neg (not_or.mpr ⟨hp, fun h => hd h.1⟩)]
  | cons next rest =>
    rw [dropFillers, if_neg (not_or.mpr ⟨hp, hd⟩)]
    exact List.cons_ne_nil _ _

/-- A trail without slashes and without fillers in front. A relative one starts
with a name. -/
structure Trimmed (absolute : Bool) (trail : List String) : Prop where
  /-- The pieces have no slashes. -/
  slashFree : ∀ piece ∈ trail, '/' ∉ piece.toList
  /-- There are no fillers in front. -/
  dropFillers_eq : dropFillers absolute trail = trail
  /-- The first piece of a relative path is a name. -/
  first : absolute = false → ∀ piece ∈ trail.getLast?, piece ≠ ""

/-- Leaving out fillers trims a trail. -/
theorem trimmed_dropFillers {absolute : Bool} {trail : List String}
    (hs : ∀ piece ∈ trail, '/' ∉ piece.toList)
    (hf : absolute = false → dropFillers absolute trail ≠ [] →
      ∀ piece ∈ trail.getLast?, piece ≠ "") :
    Trimmed absolute (dropFillers absolute trail) := by
  obtain ⟨fillers, he, -⟩ := exists_fillers absolute trail
  have hsuffix : dropFillers absolute trail <:+ trail := ⟨fillers, he.symm⟩
  refine ⟨fun piece hp => hs piece (hsuffix.subset hp), dropFillers_idem absolute trail, ?_⟩
  intro ha piece hp
  have hn : dropFillers absolute trail ≠ [] := by
    intro hnil
    rw [hnil] at hp
    cases hp
  apply hf ha hn piece
  rw [he, List.getLast?_append_of_ne_nil _ hn]
  exact hp

/-- The trail of a path is trimmed. -/
theorem trimmed_trail (path : Path) : Trimmed (isAbsolute path) (trail path) := by
  apply trimmed_dropFillers
  · intro piece hp
    exact slashFree_of_mem_body (List.mem_reverse.mp hp)
  · intro ha hn piece hp
    have hne : path ≠ "" := by
      rintro rfl
      exact hn rfl
    rw [List.getLast?_reverse, body, ha] at hp
    exact head_pieces_of_relative ha hne piece hp

/-- The trail of the parent is trimmed. -/
theorem Trimmed.tail {absolute : Bool} {piece : String} {rest : List String}
    (h : Trimmed absolute (piece :: rest)) : Trimmed absolute (dropFillers absolute rest) := by
  apply trimmed_dropFillers
  · exact fun other ho => h.slashFree other (List.mem_cons_of_mem _ ho)
  · intro ha hn other ho
    have hr : rest ≠ [] := by
      rintro rfl
      exact hn rfl
    apply h.first ha other
    rw [← List.singleton_append, List.getLast?_append_of_ne_nil _ hr]
    exact ho

/-- The path of a relative trail. -/
theorem ofTrail_false (trail : List String) :
    ofTrail false trail = Text.joined "/" trail.reverse := String.empty_append

/-- Whether the path of a trail is absolute. -/
theorem isAbsolute_ofTrail {absolute : Bool} {trail : List String}
    (h : Trimmed absolute trail) : isAbsolute (ofTrail absolute trail) = absolute := by
  cases absolute with
  | true => exact isAbsolute_slash _
  | false =>
    rw [ofTrail_false]
    by_contra hc
    obtain ⟨rest, hrest⟩ := exists_of_isAbsolute (Bool.not_eq_false _ ▸ hc)
    have hn : trail.reverse ≠ [] := by
      intro hn
      rw [hn] at hrest
      have hl := congrArg String.toList hrest
      rw [String.toList_append] at hl
      cases hl
    have hp := pieces_joined_slashFree hn fun part hm => h.slashFree part (List.mem_reverse.mp hm)
    rw [hrest, pieces_root] at hp
    apply h.first rfl ""
    · rw [← List.head?_reverse, ← hp]
      rfl
    · rfl

/-- The body of the path of a trail. -/
theorem body_ofTrail {absolute : Bool} {trail : List String} (h : Trimmed absolute trail) :
    body (ofTrail absolute trail) = pieces (Text.joined "/" trail.reverse) := by
  rw [body, isAbsolute_ofTrail h]
  cases absolute with
  | true =>
    rw [if_pos rfl, ofTrail, if_pos rfl, pieces_root, List.drop_one, List.tail_cons]
  | false =>
    rw [ofTrail]
    simp only [Bool.false_eq_true, if_false, String.empty_append]

/-- The trail of the path of a trail. -/
theorem trail_ofTrail {absolute : Bool} {trail : List String} (h : Trimmed absolute trail) :
    Path.trail (ofTrail absolute trail) = trail := by
  rw [Path.trail, isAbsolute_ofTrail h, body_ofTrail h]
  by_cases hn : trail.reverse = []
  · rw [hn, List.reverse_eq_nil_iff.mp hn]
    rfl
  · rw [pieces_joined_slashFree hn fun part hm => h.slashFree part (List.mem_reverse.mp hm),
      List.reverse_reverse, h.dropFillers_eq]

/-- The steps of the path of a trail. -/
theorem steps_ofTrail {absolute : Bool} {trail : List String} (h : Trimmed absolute trail) :
    steps (ofTrail absolute trail) = trail.reverse.filter (· ≠ "") := by
  rw [steps_eq_body, body_ofTrail h]
  by_cases hn : trail.reverse = []
  · rw [hn]
    rfl
  · rw [pieces_joined_slashFree hn fun part hm => h.slashFree part (List.mem_reverse.mp hm)]

/-- A path that ends in a slash. -/
theorem exists_of_endsInSlash {path : Path} (h : endsInSlash path = true) :
    ∃ front : Path, path = front ++ "/" := by
  rw [endsInSlash, beq_iff_eq, List.getLast?_eq_some_iff] at h
  obtain ⟨front, hf⟩ := h
  refine ⟨String.ofList front, String.toList_injective ?_⟩
  rw [hf, String.toList_append, String.toList_ofList]
  rfl

/-- A trimmed path does not end in a slash. -/
theorem endsInSlash_ofTrail {piece : String} {rest : List String}
    (ht : Trimmed false (piece :: rest)) (hn : piece ≠ "") :
    endsInSlash (ofTrail false (piece :: rest)) = false := by
  have hp : pieces (ofTrail false (piece :: rest)) = rest.reverse ++ [piece] := by
    rw [ofTrail_false, List.reverse_cons]
    apply pieces_joined_slashFree (by simp)
    intro other ho
    apply ht.slashFree
    rw [← List.mem_reverse, List.reverse_cons]
    exact ho
  by_contra he
  obtain ⟨front, hf⟩ := exists_of_endsInSlash (Bool.not_eq_false _ ▸ he)
  have hlast := congrArg List.getLast? (hp.symm.trans (congrArg pieces hf))
  have hslash := pieces_slash front ""
  rw [String.append_empty] at hslash
  rw [hslash, List.getLast?_concat, show pieces "" = [""] from rfl, List.getLast?_concat] at hlast
  exact hn (Option.some.inj hlast)

/-- The parent of the path of a trail. -/
theorem parent?_ofTrail {absolute : Bool} {piece : String} {rest : List String}
    (h : Trimmed absolute (piece :: rest)) :
    parent? (ofTrail absolute (piece :: rest)) =
      some (ofTrail absolute (dropFillers absolute rest)) := by
  rw [parent?, trail_ofTrail h, isAbsolute_ofTrail h]

/-- A path with an empty trail has no parent. -/
theorem parent?_ofTrail_nil {absolute : Bool} (h : Trimmed absolute []) :
    parent? (ofTrail absolute []) = none := by
  rw [parent?, trail_ofTrail h]

/-- The steps of a path are those of its parent and the last one, with single dots
in between. -/
theorem steps_parent {absolute : Bool} {piece : String} {rest : List String}
    (h : Trimmed absolute (piece :: rest)) :
    ∃ dots, (∀ dot ∈ dots, dot = ".") ∧
      steps (ofTrail absolute (piece :: rest)) =
        steps (ofTrail absolute (dropFillers absolute rest)) ++ dots ++ [piece] := by
  obtain ⟨fillers, he, hf⟩ := exists_fillers absolute rest
  refine ⟨fillers.reverse.filter (· ≠ ""), ?_, ?_⟩
  · intro dot hd
    rw [List.mem_filter, List.mem_reverse, decide_eq_true_iff] at hd
    exact (hf dot hd.1).resolve_left hd.2
  · have hp : piece ≠ "" := head_dropFillers h.dropFillers_eq
    have hr : rest.reverse = (dropFillers absolute rest).reverse ++ fillers.reverse := by
      rw [← List.reverse_append, ← he]
    rw [steps_ofTrail h, steps_ofTrail h.tail, List.reverse_cons, hr, List.filter_append,
      List.filter_append, List.filter_singleton, decide_eq_true hp, cond_true]

/-- The steps of a path are those of its trail, with single dots behind them. -/
theorem steps_trail_prefix (path : Path) :
    steps (ofTrail (isAbsolute path) (trail path)) <+: steps path := by
  obtain ⟨fillers, he, -⟩ := exists_fillers (isAbsolute path) (body path).reverse
  have hbody : body path = (trail path).reverse ++ fillers.reverse := by
    rw [← List.reverse_append, trail, ← he, List.reverse_reverse]
  rw [steps_ofTrail (trimmed_trail path), steps_eq_body, hbody, List.filter_append]
  exact List.prefix_append _ _

/-- The directory a file is put into is the path of a trimmed trail. It is the
current directory, or the path of the file goes through it. -/
theorem directory_eq (path : Path) :
    ∃ absolute trail, Trimmed absolute trail ∧ directory path = ofTrail absolute trail ∧
      (directory path = "." ∨
        absolute = isAbsolute path ∧ steps (directory path) <+: steps path) := by
  have hdot : Trimmed false ["."] := by
    refine ⟨?_, rfl, ?_⟩
    · intro piece hp
      rw [List.mem_singleton.mp hp]
      decide
    · intro _ piece hp
      cases hp
      decide
  have ht := trimmed_trail path
  have hsteps := steps_trail_prefix path
  cases hp : trail path with
  | nil =>
    have hd : directory path = "." := by rw [directory, parent?, hp]
    exact ⟨false, ["."], hdot, hd, .inl hd⟩
  | cons piece rest =>
    rw [hp] at ht hsteps
    have hpar : parent? path =
        some (ofTrail (isAbsolute path) (dropFillers (isAbsolute path) rest)) := by
      rw [parent?, hp]
    by_cases hempty : ofTrail (isAbsolute path) (dropFillers (isAbsolute path) rest) = ""
    · have hd : directory path = "." := by
        rw [directory, hpar]
        exact if_pos hempty
      exact ⟨false, ["."], hdot, hd, .inl hd⟩
    · have hd : directory path =
          ofTrail (isAbsolute path) (dropFillers (isAbsolute path) rest) := by
        rw [directory, hpar]
        exact if_neg hempty
      refine ⟨_, _, ht.tail, hd, .inr ⟨rfl, ?_⟩⟩
      obtain ⟨dots, -, he⟩ := steps_parent ht
      rw [he, List.append_assoc] at hsteps
      rw [hd]
      exact (List.prefix_append _ _).trans hsteps

end Files.Path

end ReleasePage
