import Mathlib
import ReleasePage.Text.Pieces

/-!
# Pieces of a text

The pieces between separators are what splitting a list at its separators gives, so the
library's lemmas on splitting apply to them.
-/

namespace ReleasePage.Text

variable {cut : Char → Bool}

/-- Cutting a text is splitting the list of its characters. -/
theorem pieces_eq_splitOnP (cut : Char → Bool) (text : List Char) :
    pieces cut text = text.splitOnP cut := by
  induction text with
  | nil => rw [List.splitOnP_nil, pieces, List.foldr_nil]
  | cons c text ih =>
    change cutStep cut c (pieces cut text) = (c :: text).splitOnP cut
    rw [ih, List.splitOnP_cons_eq_if_modifyHead]
    cases h : text.splitOnP cut with
    | nil => exact absurd h (List.splitOnP_ne_nil cut text)
    | cons first rest => rw [cutStep, List.modifyHead_cons]

/-- A separator cuts a text in two. -/
theorem pieces_append_cons {c : Char} (hc : cut c = true) (a b : List Char) :
    pieces cut (a ++ c :: b) = pieces cut a ++ pieces cut b := by
  simp only [pieces_eq_splitOnP]
  exact List.splitOnP_append_cons a b hc

/-- A text without the separator is one piece. -/
theorem pieces_of_not_mem {separator : Char} {text : List Char} (h : separator ∉ text) :
    pieces (· == separator) text = [text] := by
  rw [pieces_eq_splitOnP]
  exact List.splitOnP_eq_singleton fun c hc => beq_eq_false_iff_ne.mpr (ne_of_mem_of_not_mem hc h)

/-- A piece has only characters of the text, and no separators. -/
theorem mem_and_not_cut_of_mem_pieces {text piece : List Char} (hp : piece ∈ pieces cut text) :
    ∀ c ∈ piece, c ∈ text ∧ cut c = false := by
  rw [pieces_eq_splitOnP] at hp
  induction text generalizing piece with
  | nil =>
    rw [List.splitOnP_nil, List.mem_singleton] at hp
    rw [hp]
    exact fun c hc => absurd hc List.not_mem_nil
  | cons d text ih =>
    have hrest : ∀ {other : List Char}, other ∈ text.splitOnP cut →
        ∀ c ∈ other, c ∈ d :: text ∧ cut c = false := fun ho c hc =>
      ⟨List.mem_cons_of_mem d (ih ho c hc).1, (ih ho c hc).2⟩
    rw [List.splitOnP_cons_eq_if_modifyHead] at hp
    by_cases hd : cut d = true
    · rw [if_pos hd, List.mem_cons] at hp
      rcases hp with rfl | hp
      · exact fun c hc => absurd hc List.not_mem_nil
      · exact hrest hp
    · obtain ⟨first, others, hs⟩ := List.exists_cons_of_ne_nil (List.splitOnP_ne_nil cut text)
      rw [hs] at hrest
      rw [if_neg hd, hs, List.modifyHead_cons, List.mem_cons] at hp
      rcases hp with rfl | hp
      · exact List.forall_mem_cons.mpr
          ⟨⟨List.mem_cons_self, Bool.eq_false_iff.mpr hd⟩, hrest List.mem_cons_self⟩
      · exact hrest (List.mem_cons_of_mem _ hp)

/-- The first piece is empty exactly if the text is, or starts with a separator. -/
theorem head_pieces_eq_nil {text : List Char} :
    (pieces cut text).head? = some [] ↔ ∀ c ∈ text.head?, cut c = true := by
  rw [pieces_eq_splitOnP]
  cases text with
  | nil => simp
  | cons c text =>
    obtain ⟨first, rest, hs⟩ := List.exists_cons_of_ne_nil (List.splitOnP_ne_nil cut text)
    rw [List.splitOnP_cons_eq_if_modifyHead, hs]
    by_cases hc : cut c = true
    · simp [hc]
    · simp [hc]

/-- One more character changes the pieces by one step. -/
theorem pieces_cons (cut : Char → Bool) (c : Char) (text : List Char) :
    pieces cut (c :: text) = cutStep cut c (pieces cut text) := rfl

/-- There is always a first piece. -/
theorem exists_pieces_eq_cons (cut : Char → Bool) (text : List Char) :
    ∃ first rest, pieces cut text = first :: rest := by
  rw [pieces_eq_splitOnP]
  exact List.exists_cons_of_ne_nil (List.splitOnP_ne_nil cut text)

/-- To cut at more characters is to cut each piece again. -/
theorem pieces_or (cut also : Char → Bool) (text : List Char) :
    pieces (fun c => cut c || also c) text = (pieces cut text).flatMap (pieces also) := by
  induction text with
  | nil => rfl
  | cons c text ih =>
    obtain ⟨first, rest, hs⟩ := exists_pieces_eq_cons cut text
    obtain ⟨start, others, hf⟩ := exists_pieces_eq_cons also first
    rw [hs, List.flatMap_cons, hf, List.cons_append] at ih
    rw [pieces_cons, ih, pieces_cons, hs, cutStep, cutStep]
    by_cases hcut : cut c = true
    · rw [if_pos hcut, hcut, Bool.true_or, if_pos rfl, List.flatMap_cons, List.flatMap_cons, hf]
      rfl
    · rw [if_neg hcut, Bool.eq_false_iff.mpr hcut, Bool.false_or, List.flatMap_cons, pieces_cons,
        hf, cutStep]
      split_ifs <;> rfl

/-- A piece is a part of the text. -/
theorem isInfix_of_mem_pieces {text piece : List Char} (h : piece ∈ pieces cut text) :
    piece <:+: text := by
  -- The first piece is even a beginning, because the next character may extend it.
  suffices hs : ∀ first rest, pieces cut text = first :: rest →
      first <+: text ∧ ∀ other ∈ rest, other <:+: text by
    obtain ⟨first, rest, hp⟩ := exists_pieces_eq_cons cut text
    rw [hp, List.mem_cons] at h
    rcases h with rfl | h
    · exact (hs piece rest hp).1.isInfix
    · exact (hs first rest hp).2 piece h
  clear h
  induction text with
  | nil =>
    intro first rest hp
    cases hp
    exact ⟨List.nil_prefix, fun other ho => absurd ho List.not_mem_nil⟩
  | cons c text ih =>
    intro first rest hp
    obtain ⟨start, others, hs⟩ := exists_pieces_eq_cons cut text
    obtain ⟨hstart, hothers⟩ := ih start others hs
    rw [pieces_cons, hs, cutStep] at hp
    split_ifs at hp with hc
    · cases hp
      refine ⟨List.nil_prefix, fun other ho => List.infix_cons ?_⟩
      rcases List.mem_cons.mp ho with rfl | ho
      · exact hstart.isInfix
      · exact hothers other ho
    · cases hp
      exact ⟨(List.prefix_cons_inj c).mpr hstart, fun other ho => List.infix_cons (hothers other ho)⟩

/-- The pieces with the separator between them make up the text. -/
theorem intercalate_pieces (separator : Char) (text : List Char) :
    [separator].intercalate (pieces (· == separator) text) = text := by
  rw [pieces_eq_splitOnP]
  exact List.intercalate_splitOn separator

/-- Neighbouring pieces stand in the text with the separator between them. -/
theorem isInfix_of_neighbours {separator : Char} {text first second : List Char}
    {before after : List (List Char)}
    (h : pieces (· == separator) text = before ++ first :: second :: after) :
    first ++ separator :: second <:+: text := by
  rw [← intercalate_pieces separator text, h]
  clear h
  induction before with
  | nil =>
    rw [List.nil_append, List.intercalate_cons_cons]
    cases after with
    | nil => simp
    | cons third after =>
      rw [List.intercalate_cons_cons]
      exact ⟨[], [separator] ++ [separator].intercalate (third :: after), by simp⟩
  | cons other before ih =>
    obtain ⟨next, rest, hne⟩ : ∃ next rest, before ++ first :: second :: after = next :: rest :=
      List.exists_cons_of_ne_nil (by simp)
    rw [hne] at ih
    rw [List.cons_append, hne, List.intercalate_cons_cons]
    exact List.infix_append_of_infix_right ih

/-- A text occurs in another one if it is a part of it. -/
theorem occursIn_iff {part text : List Char} : occursIn part text = true ↔ part <:+: text := by
  induction text with
  | nil => rw [occursIn, List.isEmpty_iff, List.infix_nil]
  | cons c text ih =>
    rw [occursIn, Bool.or_eq_true, List.isPrefixOf_iff_prefix, ih, List.infix_cons_iff]

end ReleasePage.Text
