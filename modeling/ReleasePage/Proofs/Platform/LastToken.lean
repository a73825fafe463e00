import Mathlib
import ReleasePage.Platform.Architecture
import ReleasePage.Proofs.Pieces

/-!
# The last token of a file name

A file name suggests the architecture that its last recognised token spells. The tokens
stand between full stops, hyphens and underscores, but one spelling has an underscore of
its own, so two neighbouring pieces can be one token. The guess looks for this spelling in
the whole name before it looks at tokens. It agrees with the last token exactly if the
spelling does not occur, or the last token suggests the architecture of that spelling.
-/

namespace ReleasePage.Architecture

/-- The spelling that has a separator in it. -/
def jointSpelling : List Char := "x86_64".toList

/-- The spelling with a separator stands somewhere in the file name, in any case. -/
def SpelledJointly (filename : String) : Prop :=
  jointSpelling <:+: Text.asciiLower filename.toList

/-- The search for the spelling decides whether it stands in the file name. -/
theorem occursIn_iff_spelledJointly {filename : String} :
    Text.occursIn "x86_64".toList (Text.asciiLower filename.toList) = true ↔
      SpelledJointly filename := Text.occursIn_iff

/-- Two pieces that make the spelling with a separator. -/
def AreJoint (first second : List Char) : Prop :=
  Text.asciiLower first = "x86".toList ∧ Text.asciiLower second = "64".toList

instance (first second : List Char) : Decidable (AreJoint first second) :=
  inferInstanceAs (Decidable (_ ∧ _))

/-- Puts pieces between underscores together where two neighbours make one spelling. -/
def rejoined : List (List Char) → List (List Char)
  | first :: second :: rest =>
    if AreJoint first second then (first ++ '_' :: second) :: rejoined rest
    else first :: rejoined (second :: rest)
  | [piece] => [piece]
  | [] => []

/-- The tokens of a file name. -/
def tokens (filename : String) : List (List Char) :=
  (Text.pieces (fun c => c == '.' || c == '-') filename.toList).flatMap fun field =>
    rejoined (Text.pieces (· == '_') field)

/-- The token that is recognised as this architecture is the last recognised one. -/
def LastRecognized (all : List (List Char)) (architecture : Architecture) : Prop :=
  ∃ before token after, all = before ++ token :: after ∧ ofToken? token = some architecture ∧
    ∀ other ∈ after, ofToken? other = none

/-- What the tokens of a file name suggest: the architecture of the last recognised one,
and nothing known if none is recognised. -/
def Suggested (filename : String) (architecture : Architecture) : Prop :=
  LastRecognized (tokens filename) architecture ∨
    architecture = .unknown ∧ ∀ token ∈ tokens filename, ofToken? token = none

/-- The last of the recognised architectures is that of the last recognised token. -/
theorem getLast?_filterMap_eq_some {all : List (List Char)} {architecture : Architecture} :
    (all.filterMap ofToken?).getLast? = some architecture ↔ LastRecognized all architecture := by
  rw [List.getLast?_eq_some_iff]
  constructor
  · rintro ⟨found, hf⟩
    obtain ⟨before, middle, rfl, -, hm⟩ := List.filterMap_eq_append_iff.mp hf
    obtain ⟨silent, token, after, rfl, -, ht, ha⟩ := List.filterMap_eq_cons_iff.mp hm
    exact ⟨before ++ silent, token, after, (List.append_assoc ..).symm, ht,
      List.filterMap_eq_nil_iff.mp ha⟩
  · rintro ⟨before, token, after, rfl, ht, ha⟩
    refine ⟨before.filterMap ofToken?, ?_⟩
    rw [List.filterMap_append, List.filterMap_cons, ht, List.filterMap_eq_nil_iff.mpr ha]

/-- What the tokens suggest, computed. -/
theorem suggested_iff {filename : String} {architecture : Architecture} :
    Suggested filename architecture ↔
      (((tokens filename).filterMap ofToken?).getLast?).getD .unknown = architecture := by
  rw [Suggested, ← getLast?_filterMap_eq_some, ← List.filterMap_eq_nil_iff,
    ← List.getLast?_eq_none_iff]
  cases ((tokens filename).filterMap ofToken?).getLast? with
  | none => simp [eq_comm]
  | some found => simp

/-- A token never spells the architecture that is not known. -/
theorem ofToken?_ne_unknown (token : List Char) : ofToken? token ≠ some .unknown := by
  intro h
  obtain ⟨before, after, hs, -⟩ := List.lookup_eq_some_iff.mp h
  have hm : (String.ofList (Text.asciiLower token), .unknown) ∈ spellings := by
    rw [hs]
    exact List.mem_append_right _ List.mem_cons_self
  have hknown : ∀ spelling ∈ spellings, spelling.2 ≠ .unknown := by decide
  exact hknown _ hm rfl

/-- Nothing is known about the name exactly if no token is recognised. -/
theorem suggested_unknown_iff {filename : String} :
    Suggested filename .unknown ↔ ∀ token ∈ tokens filename, ofToken? token = none := by
  constructor
  · rintro (⟨before, token, after, -, ht, -⟩ | ⟨-, h⟩)
    · exact absurd ht (ofToken?_ne_unknown token)
    · exact h
  · exact fun h => .inr ⟨rfl, h⟩

/-- Pieces of which no two neighbours make one spelling stay as they are. -/
theorem rejoined_eq_self {all : List (List Char)}
    (h : ∀ before first second after, all = before ++ first :: second :: after →
      ¬AreJoint first second) : rejoined all = all := by
  fun_induction rejoined all with
  | case1 first second rest hjoint => exact absurd hjoint (h [] first second rest rfl)
  | case2 first second rest _ ih =>
    rw [ih]
    rintro before third fourth after hs
    exact h (first :: before) third fourth after (congrArg (first :: ·) hs)
  | case3 piece => rfl
  | case4 => rfl

/-- Two neighbours in a field of the name that make the spelling show that it occurs. -/
theorem spelledJointly_of_neighbours {filename : String} {field first second : List Char}
    {before after : List (List Char)} (hfield : field <:+: filename.toList)
    (h : Text.pieces (· == '_') field = before ++ first :: second :: after)
    (hjoint : AreJoint first second) : SpelledJointly filename := by
  have hpart : first ++ '_' :: second <:+: filename.toList :=
    (Text.isInfix_of_neighbours h).trans hfield
  have hlower : Text.asciiLower (first ++ '_' :: second) = jointSpelling := by
    rw [Text.asciiLower, List.map_append, List.map_cons, ← Text.asciiLower, ← Text.asciiLower,
      hjoint.1, hjoint.2]
    rfl
  rw [SpelledJointly, ← hlower]
  exact hpart.map Char.toLower

/-- In a name without the spelling the tokens are the pieces between separators. -/
theorem tokens_of_not_spelledJointly {filename : String} (h : ¬SpelledJointly filename) :
    tokens filename = Text.pieces isSeparator filename.toList := by
  have hcut : isSeparator = fun c => (c == '.' || c == '-') || c == '_' := rfl
  rw [hcut, Text.pieces_or, tokens, List.flatMap_congr]
  intro field hf
  refine rejoined_eq_self fun before first second after hs hjoint => h ?_
  exact spelledJointly_of_neighbours (Text.isInfix_of_mem_pieces hf) hs hjoint

/-- The guess is made by the spelling with a separator first. -/
theorem guess_of_spelledJointly {filename : String} (h : SpelledJointly filename) :
    guess filename = .x8664 := by
  rw [guess, if_pos (occursIn_iff_spelledJointly.mpr h)]

/-- In a name without the spelling the guess is what the tokens suggest. -/
theorem suggested_guess {filename : String} (h : ¬SpelledJointly filename) :
    Suggested filename (guess filename) := by
  rw [suggested_iff, tokens_of_not_spelledJointly h, guess,
    if_neg (mt occursIn_iff_spelledJointly.mp h)]

/-- The tokens of a name suggest exactly one architecture. If the spelling with a separator
does not occur in the name, it is the one that is guessed, and nothing is known exactly if
no token is recognised. If the spelling occurs, its architecture is guessed. So the guess is
what the tokens suggest exactly if the spelling does not occur or the tokens suggest its
architecture too. -/
theorem guess_is_last_token_unless_spelled_jointly (filename : String) :
    (∃! architecture, Suggested filename architecture) ∧
    (¬SpelledJointly filename → Suggested filename (guess filename) ∧
      (guess filename = .unknown ↔ ∀ token ∈ tokens filename, ofToken? token = none)) ∧
    (SpelledJointly filename → guess filename = .x8664) ∧
    (Suggested filename (guess filename) ↔
      (SpelledJointly filename → Suggested filename .x8664)) := by
  have hunique : ∃! architecture, Suggested filename architecture :=
    ⟨_, suggested_iff.mpr rfl, fun other ho => (suggested_iff.mp ho).symm⟩
  refine ⟨hunique, fun h => ⟨suggested_guess h, ?_⟩, guess_of_spelledJointly, ?_⟩
  · rw [← suggested_unknown_iff]
    constructor
    · intro hu
      rw [← hu]
      exact suggested_guess h
    · exact fun hs => hunique.unique (suggested_guess h) hs
  · constructor
    · intro hs hj
      rw [← guess_of_spelledJointly hj]
      exact hs
    · intro hs
      by_cases hj : SpelledJointly filename
      · rw [guess_of_spelledJointly hj]
        exact hs hj
      · exact suggested_guess hj

/-- A name with two architectures in which the last one is guessed, and one without any. -/
theorem guess_is_last_token_unless_spelled_jointly_sample :
    (SpelledJointly "tool-arm64_X86_64.zip" ∧ Suggested "tool-arm64_X86_64.zip" .x8664 ∧
      Suggested "tool-arm64_X86_64.zip" (guess "tool-arm64_X86_64.zip")) ∧
    (¬SpelledJointly "AMD64_arm.i686.pkg" ∧
      Suggested "AMD64_arm.i686.pkg" (guess "AMD64_arm.i686.pkg") ∧
      guess "AMD64_arm.i686.pkg" = .x86) := by
  have hspelled : SpelledJointly "tool-arm64_X86_64.zip" :=
    occursIn_iff_spelledJointly.mp (by decide +kernel)
  have hsuggested : Suggested "tool-arm64_X86_64.zip" .x8664 :=
    suggested_iff.mpr (by decide +kernel)
  have hplain : ¬SpelledJointly "AMD64_arm.i686.pkg" :=
    mt occursIn_iff_spelledJointly.mpr (by decide +kernel)
  obtain ⟨-, -, -, hiff⟩ := guess_is_last_token_unless_spelled_jointly "tool-arm64_X86_64.zip"
  obtain ⟨-, hguess, -, -⟩ := guess_is_last_token_unless_spelled_jointly "AMD64_arm.i686.pkg"
  exact ⟨⟨hspelled, hsuggested, hiff.mpr fun _ => hsuggested⟩, hplain, (hguess hplain).1,
    by decide +kernel⟩

/-- A name whose last recognised token spells another architecture than the spelling with
a separator in front of it, and a name in which this spelling is no token. -/
theorem last_token_can_be_passed_over :
    (Suggested "jobber_x86_64-arm64.tar.gz" .arm64 ∧
      guess "jobber_x86_64-arm64.tar.gz" = .x8664) ∧
    (Suggested "jobber-linux86_64.zip" .unknown ∧ guess "jobber-linux86_64.zip" = .x8664) := by
  refine ⟨⟨suggested_iff.mpr ?_, ?_⟩, suggested_iff.mpr ?_, ?_⟩
  all_goals decide +kernel

end ReleasePage.Architecture
