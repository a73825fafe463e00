import Mathlib
import ReleasePage.Proofs.Pieces
import ReleasePage.Web.Link

/-!
# Where the next page is named

Here an entry for the next page is a text of a certain form that occurs in a part of the
header, and of several such occurrences the one that starts first counts. The reader of
the header scans it from left to right and finds exactly that entry, in the earliest part
that has one.
-/

namespace ReleasePage.Web

/-- A text of white space only. -/
def AllBlank (text : List Char) : Prop := ∀ c ∈ text, Text.isBlank c = true

/-- An entry for the next page starts right after `front`: its address in angle brackets,
a semicolon and the mark, with white space before either. -/
structure EntryAfter (text front target : List Char) : Prop where
  /-- The address ends at the first closing bracket. -/
  unclosed : '>' ∉ target
  /-- What stands after `front`. -/
  form : ∃ space gap rest, AllBlank space ∧ AllBlank gap ∧
    text = front ++ '<' :: (target ++ '>' ::
      (space ++ ';' :: (gap ++ ("rel=\"next\"".toList ++ rest))))

/-- There is an entry for the next page somewhere in the text. -/
def HasEntry (text : List Char) : Prop := ∃ front target, EntryAfter text front target

/-- Of all entries for the next page in the text, the one that starts first has this
address. -/
def LeftmostEntry (text target : List Char) : Prop :=
  ∃ front, EntryAfter text front target ∧
    ∀ other another, EntryAfter text other another → front.length ≤ other.length

/-- What is left behind the characters that satisfy a condition. -/
theorem dropWhile_eq_cons {p : Char → Bool} {text rest : List Char} {c : Char} :
    text.dropWhile p = c :: rest ↔
      p c = false ∧ ∃ front, (∀ d ∈ front, p d = true) ∧ text = front ++ c :: rest := by
  constructor
  · intro h
    have hne : text.dropWhile p ≠ [] := by
      rw [h]
      exact List.cons_ne_nil _ _
    have hc := List.head_dropWhile_not p hne
    simp only [h, List.head_cons] at hc
    refine ⟨hc, text.takeWhile p, fun d hd => List.mem_takeWhile_imp hd, ?_⟩
    rw [← h, List.takeWhile_append_dropWhile]
  · rintro ⟨hc, front, hf, rfl⟩
    rw [List.dropWhile_append_of_pos hf, List.dropWhile_cons_of_neg (by rw [hc]; simp)]

/-- The mark stands behind white space. -/
theorem nextMark_isPrefixOf {text : List Char} :
    nextMark.isPrefixOf (text.dropWhile Text.isBlank) = true ↔
      ∃ gap rest, AllBlank gap ∧ text = gap ++ (nextMark ++ rest) := by
  rw [List.isPrefixOf_iff_prefix]
  constructor
  · rintro ⟨rest, h⟩
    refine ⟨text.takeWhile Text.isBlank, rest, fun c hc => List.mem_takeWhile_imp hc, ?_⟩
    rw [h, List.takeWhile_append_dropWhile]
  · rintro ⟨gap, rest, hg, rfl⟩
    -- The mark starts with a letter, so the white space ends there.
    have hmark : (nextMark ++ rest).dropWhile Text.isBlank = nextMark ++ rest :=
      List.dropWhile_cons_of_neg (by decide)
    rw [List.dropWhile_append_of_pos hg, hmark]
    exact List.prefix_append nextMark rest

/-- The mark of the next page stands behind a semicolon, with white space before either of them
or none. -/
theorem marksNext_iff {text : List Char} :
    marksNext text = true ↔ ∃ space gap rest, AllBlank space ∧ AllBlank gap ∧
      text = space ++ ';' :: (gap ++ (nextMark ++ rest)) := by
  constructor
  · intro h
    rw [marksNext] at h
    split at h
    · rename_i rest hd
      obtain ⟨-, space, hs, rfl⟩ := dropWhile_eq_cons.mp hd
      obtain ⟨gap, rest', hg, rfl⟩ := nextMark_isPrefixOf.mp h
      exact ⟨space, gap, rest', hs, hg, rfl⟩
    · cases h
  · rintro ⟨space, gap, rest, hs, hg, rfl⟩
    have hd : (space ++ ';' :: (gap ++ (nextMark ++ rest))).dropWhile Text.isBlank =
        ';' :: (gap ++ (nextMark ++ rest)) :=
      dropWhile_eq_cons.mpr ⟨by decide, space, hs, rfl⟩
    simp only [marksNext, hd]
    exact nextMark_isPrefixOf.mpr ⟨gap, rest, hg, rfl⟩

/-- The address ends at the first closing bracket, and what follows there decides. -/
theorem entryTarget?_append {target : List Char} (ht : '>' ∉ target) (rest : List Char) :
    entryTarget? (target ++ '>' :: rest) = if marksNext rest then some target else none := by
  have hopen : ∀ c ∈ target, (c != '>') = true := fun c hc =>
    bne_iff_ne.mpr fun he => ht (he ▸ hc)
  have hdrop : (target ++ '>' :: rest).dropWhile (· != '>') = '>' :: rest :=
    dropWhile_eq_cons.mpr ⟨by decide, target, hopen, rfl⟩
  have htake : (target ++ '>' :: rest).takeWhile (· != '>') = target := by
    rw [List.takeWhile_append_of_pos hopen, List.takeWhile_cons_of_neg (by decide),
      List.append_nil]
  simp only [entryTarget?, hdrop, htake]

/-- Without a closing bracket there is no entry. -/
theorem entryTarget?_of_not_mem {text : List Char} (h : '>' ∉ text) :
    entryTarget? text = none := by
  have hdrop : text.dropWhile (· != '>') = [] := by
    rw [List.dropWhile_eq_nil_iff]
    exact fun c hc => bne_iff_ne.mpr fun he => h (he ▸ hc)
  simp only [entryTarget?, hdrop]

/-- An entry is read where an address is closed and what follows marks it as the next
page. -/
theorem entryTarget?_eq_some {text target : List Char} :
    entryTarget? text = some target ↔
      '>' ∉ target ∧ ∃ rest, marksNext rest = true ∧ text = target ++ '>' :: rest := by
  constructor
  · intro h
    by_cases hm : '>' ∈ text
    · obtain ⟨front, rest, rfl, hf⟩ := List.eq_append_cons_of_mem hm
      rw [entryTarget?_append hf, Option.ite_none_right_eq_some] at h
      obtain ⟨hmarks, he⟩ := h
      cases he
      exact ⟨hf, rest, hmarks, rfl⟩
    · rw [entryTarget?_of_not_mem hm] at h
      cases h
  · rintro ⟨ht, rest, hmarks, rfl⟩
    rw [entryTarget?_append ht, if_pos hmarks]

section Part

variable {c d : Char} {text front target : List Char}

/-- No entry is in an empty text. -/
theorem not_entryAfter_nil : ¬EntryAfter [] front target := by
  rintro ⟨-, space, gap, rest, -, -, h⟩
  exact absurd h (by simp)

/-- An entry at the very start is what is looked for at its opening bracket. -/
theorem entryAfter_start :
    EntryAfter (c :: text) [] target ↔ c = '<' ∧ entryTarget? text = some target := by
  rw [entryTarget?_eq_some]
  constructor
  · rintro ⟨ht, space, gap, rest, hs, hg, h⟩
    obtain ⟨rfl, rfl⟩ := List.cons_eq_cons.mp h
    exact ⟨rfl, ht, _, marksNext_iff.mpr ⟨space, gap, rest, hs, hg, rfl⟩, rfl⟩
  · rintro ⟨rfl, ht, after, hm, rfl⟩
    obtain ⟨space, gap, rest, hs, hg, rfl⟩ := marksNext_iff.mp hm
    exact ⟨ht, space, gap, rest, hs, hg, rfl⟩

/-- An entry further on is one of the rest of the text. -/
theorem entryAfter_cons :
    EntryAfter (c :: text) (d :: front) target ↔ c = d ∧ EntryAfter text front target := by
  constructor
  · rintro ⟨ht, space, gap, rest, hs, hg, h⟩
    obtain ⟨rfl, rfl⟩ := List.cons_eq_cons.mp h
    exact ⟨rfl, ht, space, gap, rest, hs, hg, rfl⟩
  · rintro ⟨rfl, ht, space, gap, rest, hs, hg, rfl⟩
    exact ⟨ht, space, gap, rest, hs, hg, rfl⟩

/-- If an entry stands at the very start, it is the leftmost one, and no other one is. -/
theorem leftmostEntry_of_start (h : EntryAfter (c :: text) [] target) {address : List Char} :
    LeftmostEntry (c :: text) address ↔ target = address := by
  constructor
  · rintro ⟨first, ha, hmin⟩
    obtain rfl : first = [] := List.length_eq_zero_iff.mp (Nat.le_zero.mp (hmin [] target h))
    have htarget := (entryAfter_start.mp h).2
    rw [(entryAfter_start.mp ha).2] at htarget
    exact (Option.some.inj htarget).symm
  · rintro rfl
    exact ⟨[], h, fun _ _ _ => Nat.zero_le _⟩

/-- If no entry stands at the very start, the leftmost one is that of the rest. -/
theorem leftmostEntry_of_later (h : ∀ address, ¬EntryAfter (c :: text) [] address) :
    LeftmostEntry (c :: text) target ↔ LeftmostEntry text target := by
  constructor
  · rintro ⟨_ | ⟨d, front⟩, ht, hmin⟩
    · exact absurd ht (h target)
    · obtain ⟨rfl, hrest⟩ := entryAfter_cons.mp ht
      refine ⟨front, hrest, fun other another ho => ?_⟩
      exact Nat.le_of_succ_le_succ (hmin (c :: other) another (entryAfter_cons.mpr ⟨rfl, ho⟩))
  · rintro ⟨front, ht, hmin⟩
    refine ⟨c :: front, entryAfter_cons.mpr ⟨rfl, ht⟩, ?_⟩
    rintro (_ | ⟨d, other⟩) another ho
    · exact absurd ho (h another)
    · exact Nat.succ_le_succ (hmin other another (entryAfter_cons.mp ho).2)

/-- The scan goes on behind a character at which no entry starts. -/
theorem partTarget?_of_later (h : ∀ address, ¬EntryAfter (c :: text) [] address) :
    partTarget? (c :: text) = partTarget? text := by
  rw [partTarget?]
  split
  · rename_i hc
    cases he : entryTarget? text with
    | none => rfl
    | some address => exact absurd (entryAfter_start.mpr ⟨hc, he⟩) (h address)
  · rfl

/-- The scan stops at a character at which an entry starts. -/
theorem partTarget?_of_start (h : EntryAfter (c :: text) [] target) :
    partTarget? (c :: text) = some target := by
  obtain ⟨hc, he⟩ := entryAfter_start.mp h
  simp only [partTarget?, if_pos hc, he]

/-- In a part of a header the leftmost entry for the next page is found. -/
theorem partTarget?_eq_some : partTarget? text = some target ↔ LeftmostEntry text target := by
  induction text with
  | nil =>
    constructor
    · intro h
      cases h
    · rintro ⟨front, h, -⟩
      exact absurd h not_entryAfter_nil
  | cons c text ih =>
    by_cases h : ∃ address, EntryAfter (c :: text) [] address
    · obtain ⟨address, ha⟩ := h
      rw [partTarget?_of_start ha, leftmostEntry_of_start ha, Option.some.injEq]
    · have hl := not_exists.mp h
      rw [partTarget?_of_later hl, leftmostEntry_of_later hl, ih]

/-- If there is an entry for the next page, one of them starts first. -/
theorem hasEntry_iff : HasEntry text ↔ ∃ target, LeftmostEntry text target := by
  constructor
  · rintro ⟨front, target, h⟩
    induction text generalizing front with
    | nil => exact absurd h not_entryAfter_nil
    | cons c text ih =>
      by_cases hs : ∃ address, EntryAfter (c :: text) [] address
      · obtain ⟨address, ha⟩ := hs
        exact ⟨address, (leftmostEntry_of_start ha).mpr rfl⟩
      · have hl := not_exists.mp hs
        cases front with
        | nil => exact absurd h (hl target)
        | cons d front =>
          obtain ⟨first, hf⟩ := ih front (entryAfter_cons.mp h).2
          exact ⟨first, (leftmostEntry_of_later hl).mpr hf⟩
  · rintro ⟨target, front, h, -⟩
    exact ⟨front, target, h⟩

/-- Nothing is found exactly in the parts without an entry. -/
theorem partTarget?_eq_none : partTarget? text = none ↔ ¬HasEntry text := by
  rw [hasEntry_iff, Option.eq_none_iff_forall_ne_some, not_exists]
  exact forall_congr' fun target => not_congr partTarget?_eq_some

end Part

/-- The reader of a header looks through the parts between its commas. -/
theorem nextLink?_eq_some {header target : String} :
    nextLink? header = some target ↔
      (header.toList.splitOn ',').findSome? partTarget? = some target.toList := by
  rw [nextLink?, Text.pieces_eq_splitOnP, Option.map_eq_some_iff, List.splitOn]
  constructor
  · rintro ⟨chars, h, rfl⟩
    rw [h, String.toList_ofList]
  · intro h
    exact ⟨target.toList, h, String.ofList_toList⟩

/-- The next page is that of the leftmost entry in the earliest part between commas that
has an entry for the next page, and there is none exactly if no part has such an entry. -/
theorem nextLink?_finds_leftmost_entry (header : String) :
    (∀ target : String, nextLink? header = some target ↔
      ∃ before part after, header.toList.splitOn ',' = before ++ part :: after ∧
        (∀ earlier ∈ before, ¬HasEntry earlier) ∧ LeftmostEntry part target.toList) ∧
    (nextLink? header = none ↔ ∀ part ∈ header.toList.splitOn ',', ¬HasEntry part) := by
  constructor
  · intro target
    rw [nextLink?_eq_some, List.findSome?_eq_some_iff]
    simp only [partTarget?_eq_some, partTarget?_eq_none]
    constructor
    · rintro ⟨before, part, after, he, hp, hb⟩
      exact ⟨before, part, after, he, hb, hp⟩
    · rintro ⟨before, part, after, he, hb, hp⟩
      exact ⟨before, part, after, he, hp, hb⟩
  · rw [nextLink?, Option.map_eq_none_iff, Text.pieces_eq_splitOnP, List.findSome?_eq_none_iff]
    exact forall₂_congr fun part _ => partTarget?_eq_none

/-- The address starts at the first bracket that works, even if there is another bracket in
it. -/
example : nextLink? "<a>; <b <c>\t; rel=\"next\"" = some "b <c" := by decide +kernel

end ReleasePage.Web
