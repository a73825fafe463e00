import Mathlib
import ReleasePage.Page.Fragment

/-!
# Escaped texts

An escaped text holds none of the characters that make up markup, and the text can be
read off it again. So what stands between two pieces of markup is one escaped text, and
it tells which text that was. The text may hold entities itself: every ampersand is
escaped too, so an ampersand of an escaped text always begins an entity.
-/

namespace ReleasePage.Page

/-- The characters that begin, end or delimit markup. -/
def isMark (c : Char) : Bool := c == '<' || c == '>' || c == '"' || c == '\''

/-- The text of which an escaped text was made: each entity is replaced, from left to
right, by the character it stands for. -/
def unescape : List Char → List Char
  | '&' :: 'a' :: 'm' :: 'p' :: ';' :: rest => '&' :: unescape rest
  | '&' :: 'l' :: 't' :: ';' :: rest => '<' :: unescape rest
  | '&' :: 'g' :: 't' :: ';' :: rest => '>' :: unescape rest
  | '&' :: 'q' :: 'u' :: 'o' :: 't' :: ';' :: rest => '"' :: unescape rest
  | '&' :: '#' :: '3' :: '9' :: ';' :: rest => '\'' :: unescape rest
  | c :: rest => c :: unescape rest
  | [] => []

/-- Only an ampersand starts an entity. -/
theorem unescape_cons {c : Char} (h : c ≠ '&') (rest : List Char) :
    unescape (c :: rest) = c :: unescape rest := by
  conv_lhs => unfold unescape
  split <;> simp_all

/-- A written character is read back. -/
theorem unescape_escapeChar (c : Char) (rest : List Char) :
    unescape (escapeChar c ++ rest) = c :: unescape rest := by
  rw [escapeChar]
  split_ifs with hamp hlt hgt hquot hapos
  · rw [hamp]
    rfl
  · rw [hlt]
    rfl
  · rw [hgt]
    rfl
  · rw [hquot]
    rfl
  · rw [hapos]
    rfl
  · exact unescape_cons hamp rest

/-- The characters of an escaped text. -/
theorem toList_escape (text : String) : (escape text).toList = text.toList.flatMap escapeChar :=
  String.toList_ofList

/-- Reading an escaped text gives the text back. -/
theorem unescape_escape (text : String) : unescape (escape text).toList = text.toList := by
  rw [toList_escape]
  induction text.toList with
  | nil => rfl
  | cons c rest ih => rw [List.flatMap_cons, unescape_escapeChar, ih]

/-- Different texts are escaped differently. -/
theorem escape_injective : Function.Injective escape := by
  intro a b h
  apply String.toList_injective
  rw [← unescape_escape a, h, unescape_escape]

/-- The marks of a text, in order. -/
def marks (text : String) : List Char := text.toList.filter isMark

/-- No character is written with marks. -/
theorem filter_isMark_escapeChar (c : Char) : (escapeChar c).filter isMark = [] := by
  rw [escapeChar]
  split_ifs with hamp hlt hgt hquot hapos
  · decide
  · decide
  · decide
  · decide
  · decide
  · have hc : isMark c = false := by simp [isMark, hlt, hgt, hquot, hapos]
    rw [List.filter_singleton, hc, cond_false]

/-- An escaped text has no marks. -/
theorem marks_escape (text : String) : marks (escape text) = [] := by
  rw [marks, toList_escape, List.filter_flatMap]
  exact List.flatMap_eq_nil_iff.mpr fun c _ => filter_isMark_escapeChar c

/-- The marks of two texts, one after the other. -/
theorem marks_append (a b : String) : marks (a ++ b) = marks a ++ marks b := by
  rw [marks, String.toList_append, List.filter_append]
  rfl

/-- The entities of escaped texts. -/
def entities : List (List Char) :=
  ["&amp;".toList, "&lt;".toList, "&gt;".toList, "&quot;".toList, "&#39;".toList]

/-- A character is written as itself, if it is no ampersand, or as an entity, in which the
only ampersand comes first. -/
theorem escapeChar_cases (c : Char) :
    (escapeChar c = [c] ∧ c ≠ '&') ∨
      ∃ name, escapeChar c = '&' :: name ∧ '&' :: name ∈ entities ∧ '&' ∉ name := by
  rw [escapeChar]
  split_ifs with hamp hlt hgt hquot hapos
  · exact .inr ⟨"amp;".toList, by decide⟩
  · exact .inr ⟨"lt;".toList, by decide⟩
  · exact .inr ⟨"gt;".toList, by decide⟩
  · exact .inr ⟨"quot;".toList, by decide⟩
  · exact .inr ⟨"#39;".toList, by decide⟩
  · exact .inl ⟨rfl, hamp⟩

/-- An ampersand in what a character is written as begins an entity. -/
theorem entity_of_escapeChar {c : Char} {before after : List Char}
    (h : escapeChar c = before ++ '&' :: after) : '&' :: after ∈ entities := by
  rcases escapeChar_cases c with ⟨hc, hamp⟩ | ⟨name, hname, hentity, hno⟩
  · rw [hc] at h
    have hm : '&' ∈ [c] := by
      rw [h]
      exact List.mem_append_right _ List.mem_cons_self
    exact absurd (List.mem_singleton.mp hm).symm hamp
  · rw [hname] at h
    cases before with
    | nil =>
      rw [List.nil_append] at h
      rw [← h]
      exact hentity
    | cons first before =>
      rw [(List.cons.inj h).2] at hno
      exact absurd (List.mem_append_right before List.mem_cons_self) hno

/-- An ampersand in an escaped text begins an entity. -/
theorem entity_of_ampersand {text before after : List Char}
    (h : text.flatMap escapeChar = before ++ '&' :: after) :
    ∃ entity ∈ entities, entity <+: '&' :: after := by
  induction text generalizing before with
  | nil => simp at h
  | cons c text ih =>
    rw [List.flatMap_cons, List.append_eq_append_iff] at h
    rcases h with ⟨middle, -, htext⟩ | ⟨tail, hc, hafter⟩
    · exact ih htext
    · cases tail with
      | nil => exact @ih [] hafter.symm
      | cons first tail =>
        obtain ⟨rfl, rfl⟩ := List.cons.inj hafter
        exact ⟨_, entity_of_escapeChar hc, List.prefix_append _ _⟩

/-- Reading an escaped text gives the text back, so different texts are escaped differently.
An escaped text has no marks, and each of its ampersands begins an entity. -/
theorem escape_is_reversible_and_safe :
    Function.Injective escape ∧ ∀ text : String,
      unescape (escape text).toList = text.toList ∧
      (∀ c ∈ (escape text).toList, c ≠ '<' ∧ c ≠ '>' ∧ c ≠ '"' ∧ c ≠ '\'') ∧
      ∀ before after, (escape text).toList = before ++ '&' :: after →
        ∃ entity ∈ entities, entity <+: '&' :: after := by
  refine ⟨escape_injective, fun text => ⟨unescape_escape text, fun c hc => ?_, ?_⟩⟩
  · have hmark : isMark c ≠ true := List.filter_eq_nil_iff.mp (marks_escape text) c hc
    simpa [isMark, and_assoc] using hmark
  · intro before after h
    rw [toList_escape] at h
    exact entity_of_ampersand h

/-- A text that looks escaped and ends in an ampersand is told from the text that it looks
like. -/
theorem escape_is_reversible_and_safe_sample :
    unescape (escape "&lt;\"&").toList = "&lt;\"&".toList ∧ escape "&lt;\"&" ≠ escape "<\"&" ∧
      (escape "&lt;\"&").toList = "&amp;lt;&quot;".toList ++ '&' :: "amp;".toList ∧
      ∃ entity ∈ entities, entity <+: '&' :: "amp;".toList := by
  obtain ⟨hinjective, hall⟩ := escape_is_reversible_and_safe
  obtain ⟨hread, -, hentity⟩ := hall "&lt;\"&"
  have hsplit : (escape "&lt;\"&").toList = "&amp;lt;&quot;".toList ++ '&' :: "amp;".toList := by
    decide +kernel
  refine ⟨hread, fun h => ?_, hsplit, hentity _ _ hsplit⟩
  exact absurd (hinjective h) (by decide)

end ReleasePage.Page
