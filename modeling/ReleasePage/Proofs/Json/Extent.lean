import Mathlib
import ReleasePage.Json.Skip
import ReleasePage.Proofs.Json.Reading

/-!
# How far readers look

A reader takes a beginning of its input. If the last byte it takes closes a quote or
a bracket, then what it makes of this beginning does not depend on what follows, and
otherwise at most on the first byte that follows. This is said of one run of a reader
and carried from each reader to those that use it.
-/

namespace ReleasePage.Json

open ReleasePage.Text (Bytes)

/-- The reader takes at least one byte of the input up to `rest`, and it would end
in the same way whatever followed. -/
def Takes {γ : Type} (read result : Bytes → γ) (input rest : Bytes) : Prop :=
  ∃ text, text ≠ [] ∧ input = text ++ rest ∧ ∀ other, read (text ++ other) = result other

/-- The reader takes the input up to `rest`, and it would end in the same way
whatever followed that starts with the same byte. -/
def Peeks {γ : Type} (read result : Bytes → γ) (input rest : Bytes) : Prop :=
  ∃ text, input = text ++ rest ∧
    ∀ other, other.head? = rest.head? → read (text ++ other) = result other

section

variable {γ δ : Type} {first first' : Bytes → γ} {second second' read : Bytes → δ}
  {input middle rest : Bytes}

/-- A reader that does not look at what follows may look at its first byte. -/
theorem Takes.peeks (h : Takes first first' input rest) : Peeks first first' input rest := by
  obtain ⟨text, -, he, hr⟩ := h
  exact ⟨text, he, fun other _ => hr other⟩

/-- A reader that goes on with a second one behind the first ends where the second
one does. -/
theorem Peeks.trans (h : Peeks first first' input middle) (h' : Peeks second second' middle rest)
    (hread : ∀ x y, first x = first' y → read x = second y) :
    Peeks read second' input rest := by
  obtain ⟨text, rfl, hf⟩ := h
  obtain ⟨text', rfl, hs⟩ := h'
  refine ⟨text ++ text', (List.append_assoc _ _ _).symm, fun other ho => ?_⟩
  have hm : (text' ++ other).head? = (text' ++ rest).head? := by
    rw [List.head?_append, List.head?_append, ho]
  rw [List.append_assoc, hread _ _ (hf _ hm), hs other ho]

/-- The second reader settles what the first one had to look at. -/
theorem Peeks.trans_takes (h : Peeks first first' input middle)
    (h' : Takes second second' middle rest)
    (hread : ∀ x y, first x = first' y → read x = second y) :
    Takes read second' input rest := by
  obtain ⟨text, rfl, hf⟩ := h
  obtain ⟨text', hn, rfl, hs⟩ := h'
  refine ⟨text ++ text', ?_, (List.append_assoc _ _ _).symm, fun other => ?_⟩
  · exact fun he => hn (List.append_eq_nil_iff.mp he).2
  · have hm : (text' ++ other).head? = (text' ++ rest).head? := by
      rw [List.head?_append_of_ne_nil _ hn, List.head?_append_of_ne_nil _ hn]
    rw [List.append_assoc, hread _ _ (hf _ hm), hs other]

/-- What follows the bytes that the first reader takes decides how much of it the
second one has to look at. -/
theorem Takes.trans_peeks (h : Takes first first' input middle)
    (h' : Peeks second second' middle rest)
    (hread : ∀ x y, first x = first' y → read x = second y) :
    Peeks read second' input rest ∧ rest.length < input.length := by
  refine ⟨h.peeks.trans h' hread, ?_⟩
  obtain ⟨text, hn, rfl, -⟩ := h
  obtain ⟨text', rfl, -⟩ := h'
  have hpos := List.length_pos_iff.mpr hn
  simp only [List.length_append]
  omega

/-- One reader behind another one. -/
theorem Takes.trans (h : Takes first first' input middle) (h' : Takes second second' middle rest)
    (hread : ∀ x y, first x = first' y → read x = second y) :
    Takes read second' input rest :=
  h.peeks.trans_takes h' hread

/-- A reader that only reshapes what another one gives. -/
theorem Takes.reshape (h : Takes first first' input rest)
    (hread : ∀ x y, first x = first' y → read x = second' y) :
    Takes read second' input rest := by
  obtain ⟨text, hn, he, hf⟩ := h
  exact ⟨text, hn, he, fun other => hread _ _ (hf other)⟩

/-- A reader that only reshapes what another one gives. -/
theorem Peeks.reshape (h : Peeks first first' input rest)
    (hread : ∀ x y, first x = first' y → read x = second' y) :
    Peeks read second' input rest := by
  obtain ⟨text, he, hf⟩ := h
  exact ⟨text, he, fun other ho => hread _ _ (hf other ho)⟩

/-- A reader that takes one byte and goes on with another one. -/
theorem Peeks.cons (h : Peeks second second' input rest) {b : UInt8}
    (hread : ∀ x, read (b :: x) = second x) : Peeks read second' (b :: input) rest := by
  obtain ⟨text, rfl, hs⟩ := h
  refine ⟨b :: text, rfl, fun other ho => ?_⟩
  rw [List.cons_append, hread, hs other ho]

/-- Readers that agree on all inputs with the same first byte. -/
theorem Peeks.congr (h : Peeks second second' input rest)
    (hread : ∀ x, x.head? = input.head? → read x = second x) : Peeks read second' input rest := by
  obtain ⟨text, rfl, hs⟩ := h
  refine ⟨text, rfl, fun other ho => ?_⟩
  rw [hread, hs other ho]
  rw [List.head?_append, List.head?_append, ho]

/-- A reader that takes nothing. -/
theorem peeks_rest (rest : Bytes) : Peeks second second rest rest :=
  ⟨[], rfl, fun _ _ => rfl⟩

end

/-- White space in front of the first other byte. -/
theorem exists_blank {input rest : Bytes} {b : UInt8} (h : skipBlanks input = b :: rest) :
    ∃ space, Blank space ∧ isSpace b = false ∧ input = space ++ b :: rest := by
  refine ⟨input.takeWhile isSpace, fun c hc => List.mem_takeWhile_imp hc, ?_, ?_⟩
  · have hd := List.head?_dropWhile_not isSpace input
    rw [← skipBlanks, h] at hd
    simpa using hd
  · rw [← h]
    exact List.takeWhile_append_dropWhile.symm

/-- The first byte after white space. -/
theorem takes_skipBlanks {input rest : Bytes} {b : UInt8} (h : skipBlanks input = b :: rest) :
    Takes skipBlanks (b :: ·) input rest := by
  obtain ⟨space, hs, hb, rfl⟩ := exists_blank h
  refine ⟨space ++ [b], List.append_ne_nil_of_right_ne_nil _ (List.cons_ne_nil _ _), ?_,
    fun other => ?_⟩
  · rw [List.append_assoc, List.singleton_append]
  · rw [List.append_assoc, List.singleton_append, skipBlanks_blank hs hb]

/-- The bytes of a word. -/
theorem takes_readWord {word : Bytes} (hn : word ≠ []) {input rest : Bytes}
    (h : readWord word input = .ok rest) : Takes (readWord word) .ok input rest := by
  have hword : ∀ other, readWord word (word ++ other) = .ok other := by
    intro other
    clear hn h
    induction word with
    | nil => rfl
    | cons b word ih => rw [List.cons_append, readWord, if_pos rfl, ih]
  refine ⟨word, hn, ?_, hword⟩
  clear hn hword
  fun_induction readWord word input with
  | case1 input =>
    cases h
    rfl
  | case2 b word => cases h
  | case3 b word input ih => rw [List.cons_append, ← ih h]
  | case4 => cases h

/-- Four digits. -/
theorem takes_readQuad {input rest : Bytes} {n : Nat} (h : readQuad input = .ok (n, rest)) :
    Takes readQuad (fun other => .ok (n, other)) input rest := by
  unfold readQuad at h
  split at h
  · rename_i a b c d after
    cases hq : hexQuad? a b c d with
    | none =>
      rw [hq] at h
      cases h
    | some m =>
      rw [hq] at h
      cases h
      refine ⟨[a, b, c, d], by simp, rfl, fun other => ?_⟩
      simp only [readQuad, List.cons_append, List.nil_append, hq]
  · cases h

/-- The second half of a surrogate pair. -/
theorem takes_readLowSurrogate {input rest : Bytes} {low : Nat}
    (h : readLowSurrogate input = .ok (low, rest)) :
    Takes readLowSurrogate (fun other => .ok (low, other)) input rest := by
  unfold readLowSurrogate at h
  split at h
  · cases h
  · rename_i slash after
    split_ifs at h with hs
    split at h
    · cases h
    · rename_i letter digits
      split_ifs at h with hl
      split at h
      · cases h
      · rename_i n left hq
        split_ifs at h with hlow
        cases h
        obtain ⟨text, -, rfl, hr⟩ := takes_readQuad hq
        refine ⟨slash :: letter :: text, by simp, rfl, fun other => ?_⟩
        simp only [readLowSurrogate, List.cons_append, if_neg hs, if_neg hl, hr, if_pos hlow]

/-- A numeric escape. -/
theorem takes_readCodePoint {input rest out : Bytes} (h : readCodePoint input = .ok (out, rest)) :
    Takes readCodePoint (fun other => .ok (out, other)) input rest := by
  unfold readCodePoint at h
  split at h
  · cases h
  · rename_i n after hq
    obtain ⟨text, hn, rfl, hr⟩ := takes_readQuad hq
    split_ifs at h with hlow hhigh
    · split at h
      · cases h
      · rename_i low left hs
        obtain ⟨text', -, rfl, hr'⟩ := takes_readLowSurrogate hs
        obtain ⟨rfl, rfl⟩ := Prod.mk.inj (Except.ok.inj h)
        refine ⟨text ++ text', List.append_ne_nil_of_left_ne_nil hn _,
          (List.append_assoc _ _ _).symm, fun other => ?_⟩
        rw [readCodePoint, List.append_assoc, hr]
        simp only [if_neg hlow, if_pos hhigh, hr']
    · cases h
      refine ⟨text, hn, rfl, fun other => ?_⟩
      rw [readCodePoint, hr]
      simp only [if_neg hlow, if_neg hhigh]

/-- An escape. -/
theorem takes_readEscape {input rest out : Bytes} (h : readEscape input = .ok (out, rest)) :
    Takes readEscape (fun other => .ok (out, other)) input rest := by
  unfold readEscape at h
  split at h
  · cases h
  · rename_i letter after
    split_ifs at h with hu
    · obtain ⟨text, -, rfl, hr⟩ := takes_readCodePoint h
      refine ⟨letter :: text, List.cons_ne_nil _ _, rfl, fun other => ?_⟩
      rw [List.cons_append, readEscape, if_pos hu, hr]
    · split at h
      · rename_i b hb
        cases h
        refine ⟨[letter], List.cons_ne_nil _ _, rfl, fun other => ?_⟩
        rw [List.singleton_append, readEscape, if_neg hu, hb]
      · cases h

/-- The content of a text and its closing quote. -/
theorem takes_readContent {read input rest content : Bytes}
    (h : readContent read input = .ok (content, rest)) :
    Takes (readContent read) (fun other => .ok (content, other)) input rest := by
  fun_induction readContent read input with
  | case1 read => cases h
  | case2 read after =>
    cases h
    refine ⟨['"'.toUInt8], List.cons_ne_nil _ _, rfl, fun other => ?_⟩
    rw [List.singleton_append, readContent, if_pos rfl]
  | case3 read after hq e he => cases h
  | case4 read after out left he hq ih =>
    obtain ⟨text, -, rfl, hr⟩ := takes_readEscape he
    obtain ⟨text', -, rfl, hr'⟩ := ih h
    refine ⟨'\\'.toUInt8 :: (text ++ text'), List.cons_ne_nil _ _, ?_, fun other => ?_⟩
    · rw [List.cons_append, List.append_assoc]
    · rw [List.cons_append, List.append_assoc, readContent, if_neg hq, if_pos rfl]
      split
      · rename_i e he'
        rw [hr] at he'
        cases he'
      · rename_i out' left' he'
        rw [hr] at he'
        cases he'
        exact hr' other
  | case5 read b after hq hs hc => cases h
  | case6 read b after hq hs hc ih =>
    obtain ⟨text, -, rfl, hr⟩ := ih h
    refine ⟨b :: text, List.cons_ne_nil _ _, rfl, fun other => ?_⟩
    rw [List.cons_append, readContent, if_neg hq, if_neg hs, if_neg hc, hr]

/-- A text and its closing quote. -/
theorem takes_readText {input rest : Bytes} {value : String}
    (h : readText input = .ok (value, rest)) :
    Takes readText (fun other => .ok (value, other)) input rest := by
  unfold readText at h
  split at h
  · cases h
  · rename_i content after hc
    split at h
    · rename_i chars hu
      cases h
      refine (takes_readContent hc).reshape fun x y hx => ?_
      simp only [readText, hx, hu]
    · cases h

/-- An escape that is passed over. -/
theorem takes_passEscape {input rest : Bytes} (h : passEscape input = .ok rest) :
    Takes passEscape .ok input rest := by
  unfold passEscape at h
  split at h
  · cases h
  · rename_i letter after
    split_ifs at h with hu hs
    · split at h
      · cases h
      · rename_i n left hq
        cases h
        obtain ⟨text, -, rfl, hr⟩ := takes_readQuad hq
        refine ⟨letter :: text, List.cons_ne_nil _ _, rfl, fun other => ?_⟩
        rw [List.cons_append, passEscape, if_pos hu, hr]
    · cases h
      refine ⟨[letter], List.cons_ne_nil _ _, rfl, fun other => ?_⟩
      rw [List.singleton_append, passEscape, if_neg hu, if_pos hs]

/-- A text that is passed over. -/
theorem takes_passText {input rest : Bytes} (h : passText input = .ok rest) :
    Takes passText .ok input rest := by
  fun_induction passText input with
  | case1 => cases h
  | case2 after =>
    cases h
    refine ⟨['"'.toUInt8], List.cons_ne_nil _ _, rfl, fun other => ?_⟩
    rw [List.singleton_append, passText, if_pos rfl]
  | case3 after hq e he => cases h
  | case4 after left he hq ih =>
    obtain ⟨text, -, rfl, hr⟩ := takes_passEscape he
    obtain ⟨text', -, rfl, hr'⟩ := ih h
    refine ⟨'\\'.toUInt8 :: (text ++ text'), List.cons_ne_nil _ _, ?_, fun other => ?_⟩
    · rw [List.cons_append, List.append_assoc]
    · rw [List.cons_append, List.append_assoc, passText, if_neg hq, if_pos rfl]
      split
      · rename_i e he'
        rw [hr] at he'
        cases he'
      · rename_i left' he'
        rw [hr] at he'
        cases he'
        exact hr' other
  | case5 b after hq hs hc => cases h
  | case6 b after hq hs hc ih =>
    obtain ⟨text, -, rfl, hr⟩ := ih h
    refine ⟨b :: text, List.cons_ne_nil _ _, rfl, fun other => ?_⟩
    rw [List.cons_append, passText, if_neg hq, if_neg hs, if_neg hc, hr]

/-- Digits up to the first other byte. -/
theorem peeks_dropDigits (input : Bytes) : Peeks dropDigits id input (dropDigits input) := by
  refine ⟨input.takeWhile isDigit, List.takeWhile_append_dropWhile.symm, fun other ho => ?_⟩
  have hstop : dropDigits other = other := by
    cases other with
    | nil => rfl
    | cons b other =>
      have hd := List.head?_dropWhile_not isDigit input
      rw [← dropDigits, ← ho, List.head?_cons] at hd
      rw [dropDigits, List.dropWhile_cons_of_neg (by simpa using hd)]
  rw [dropDigits, List.dropWhile_append_of_pos fun b hb => List.mem_takeWhile_imp hb]
  exact hstop

/-- A sign in front of the first digit of an exponent. -/
theorem takes_exponentSign {input digits : Bytes} {b : UInt8}
    (h : (exponentSign input).2 = b :: digits) :
    Takes (fun x => (exponentSign x).2) (b :: ·) input digits := by
  cases input with
  | nil => cases h
  | cons c rest =>
    rw [exponentSign] at h
    by_cases hp : c = '+'.toUInt8
    · rw [if_pos hp] at h
      refine ⟨[c, b], List.cons_ne_nil _ _, congrArg (c :: ·) h, fun other => ?_⟩
      simp only [List.cons_append, List.nil_append, exponentSign, if_pos hp]
    · rw [if_neg hp] at h
      by_cases hm : c = '-'.toUInt8
      · rw [if_pos hm] at h
        refine ⟨[c, b], List.cons_ne_nil _ _, congrArg (c :: ·) h, fun other => ?_⟩
        simp only [List.cons_append, List.nil_append, exponentSign, if_neg hp, if_pos hm]
      · rw [if_neg hm] at h
        cases h
        refine ⟨[b], List.cons_ne_nil _ _, rfl, fun other => ?_⟩
        simp only [List.cons_append, List.nil_append, exponentSign, if_neg hp, if_neg hm]

/-- The exponent of a number that is passed over. -/
theorem peeks_passExponent {input rest : Bytes} (h : passExponent input = .ok rest) :
    Peeks passExponent .ok input rest := by
  unfold passExponent at h
  split at h
  · cases h
  · rename_i b digits hs
    split_ifs at h with hd
    cases h
    have hdigits : Peeks (γ := Except Failure Bytes) (.ok ∘ dropDigits) .ok digits
        (dropDigits digits) :=
      (peeks_dropDigits digits).reshape fun x y hx => congrArg Except.ok hx
    refine (takes_exponentSign hs).peeks.trans hdigits fun x y hx => ?_
    simp only [passExponent, hx, if_pos hd, Function.comp_apply]

/-- The first byte of an input decides whether an exponent follows. -/
theorem atExponent_congr {input other : Bytes} (h : other.head? = input.head?) :
    atExponent other = atExponent input := by
  cases input with
  | nil => rw [List.head?_eq_none_iff.mp h]
  | cons b rest =>
    obtain ⟨tail, rfl⟩ := List.head?_eq_some_iff.mp h
    rfl

/-- The first byte of an input decides whether a fraction follows. -/
theorem atPoint_congr {input other : Bytes} (h : other.head? = input.head?) :
    atPoint other = atPoint input := by
  cases input with
  | nil => rw [List.head?_eq_none_iff.mp h]
  | cons b rest =>
    obtain ⟨tail, rfl⟩ := List.head?_eq_some_iff.mp h
    rfl

/-- The exponent of a number that is passed over, if there is one. -/
theorem peeks_passScale {input rest : Bytes} (h : passScale input = .ok rest) :
    Peeks passScale .ok input rest := by
  rw [passScale] at h
  split_ifs at h with he
  · cases input with
    | nil => cases he
    | cons b tail => exact (peeks_passExponent h).cons fun x => if_pos he
  · cases h
    refine (peeks_rest input).congr fun x hx => ?_
    rw [passScale, atExponent_congr hx, if_neg he]

/-- What follows the integer part of a number that is passed over. -/
theorem peeks_passTail {input rest : Bytes} (h : passTail input = .ok rest) :
    Peeks passTail .ok input rest := by
  rw [passTail] at h
  split_ifs at h with hp
  · split at h
    · cases h
    · rename_i b digits hd
      split_ifs at h with hb
      cases input with
      | nil => cases hp
      | cons point tail =>
        rw [List.drop_one, List.tail_cons] at hd
        subst hd
        have hscale : Peeks (passScale ∘ dropDigits) .ok digits rest :=
          (peeks_dropDigits digits).trans (peeks_passScale h) fun x y hx => congrArg passScale hx
        have hdigit : Peeks (fun x => passTail (point :: x)) .ok (b :: digits) rest := by
          refine hscale.cons fun x => ?_
          have hx : atPoint (point :: b :: x) = true := hp
          rw [passTail, if_pos hx]
          exact if_pos hb
        exact hdigit.cons fun x => rfl
  · refine (peeks_passScale h).congr fun x hx => ?_
    rw [passTail, atPoint_congr hx, if_neg hp]

/-- A number that is passed over from its first digit on. -/
theorem peeks_passNumeral_cons {b : UInt8} {after rest : Bytes}
    (h : passNumeral (b :: after) = .ok rest) :
    Peeks (fun x => passNumeral (b :: x)) .ok after rest := by
  simp only [passNumeral] at h
  split_ifs at h with hz hd
  · -- a zero, which no digit may follow
    have htail : passTail after = .ok rest ∧ ∀ d ∈ after.head?, isDigit d = false := by
      cases after with
      | nil =>
        cases h
        exact ⟨rfl, fun d hd => absurd hd (Option.not_mem_none d)⟩
      | cons d digits =>
        simp only at h
        split_ifs at h with hd
        refine ⟨h, fun c hc => ?_⟩
        cases hc
        exact Bool.eq_false_iff.mpr hd
    refine (peeks_passTail htail.1).congr fun x hx => ?_
    cases x with
    | nil =>
      simp only [passNumeral, if_pos hz]
      rfl
    | cons d digits =>
      have hd := htail.2 d (hx ▸ rfl)
      simp only [passNumeral, if_pos hz, hd, Bool.false_eq_true, if_false]
  · refine (peeks_dropDigits after).trans (peeks_passTail h) fun x y hx => ?_
    simp only [passNumeral, if_neg hz, if_pos hd]
    exact congrArg passTail hx

/-- A number without its sign that is passed over. -/
theorem peeks_passNumeral {input rest : Bytes} (h : passNumeral input = .ok rest) :
    Peeks passNumeral .ok input rest := by
  cases input with
  | nil => cases h
  | cons b after => exact (peeks_passNumeral_cons h).cons fun x => rfl

/-- A key that is passed over with its colon. -/
theorem takes_passKey {input rest : Bytes} (h : passKey input = .ok rest) :
    Takes passKey .ok input rest := by
  unfold passKey at h
  split at h
  · cases h
  · rename_i b after hb
    split_ifs at h with hq
    split at h
    · cases h
    · rename_i left ht
      split at h
      · cases h
      · rename_i colon final hc
        split_ifs at h with hcolon
        cases h
        obtain ⟨quote, hn, rfl, hquote⟩ := takes_skipBlanks hb
        obtain ⟨key, -, rfl, hkey⟩ := takes_passText ht
        obtain ⟨space, -, rfl, hspace⟩ := takes_skipBlanks hc
        refine ⟨quote ++ (key ++ space), List.append_ne_nil_of_left_ne_nil hn _, ?_,
          fun other => ?_⟩
        · simp only [List.append_assoc]
        · simp only [passKey, List.append_assoc, hquote, if_pos hq, hkey, hspace, if_pos hcolon]

/-- A scalar that is passed over. -/
theorem Peeks.scalar {pass : Bytes → Except Failure Bytes} {brackets brackets' : List Bracket}
    {expecting : Expecting} {input rest : Bytes}
    (hp : ∀ rest, pass input = .ok rest → Peeks pass .ok input rest)
    (h : (pass input).map (fun rest => (Expecting.next, brackets, rest)) =
      .ok (expecting, brackets', rest)) :
    Peeks (fun x => (pass x).map fun rest => (Expecting.next, brackets, rest))
      (fun other => .ok (expecting, brackets', other)) input rest := by
  cases hr : pass input with
  | error e =>
    rw [hr] at h
    cases h
  | ok left =>
    rw [hr] at h
    cases h
    refine (hp rest hr).reshape fun x y hx => ?_
    rw [hx]
    rfl

/-- What follows the opening bracket of an array. -/
def listStart (brackets : List Bracket) (input : Bytes) : Except Failure SkipState :=
  match skipBlanks input with
  | [] => .error (.at .endInList [])
  | c :: after =>
    if c = ']'.toUInt8 then .ok (.next, brackets, after)
    else .ok (.value, .list :: brackets, c :: after)

/-- What follows the opening bracket of an object. -/
def objectStart (brackets : List Bracket) (input : Bytes) : Except Failure SkipState :=
  match skipBlanks input with
  | [] => .error (.at .endInObject [])
  | c :: after =>
    if c = '}'.toUInt8 then .ok (.next, brackets, after)
    else (passKey (c :: after)).map fun rest => (.value, .object :: brackets, rest)

/-- The beginning of an array, up to its first element. -/
theorem peeks_listStart {brackets brackets' : List Bracket} {expecting : Expecting}
    {input rest : Bytes} (h : listStart brackets input = .ok (expecting, brackets', rest)) :
    Peeks (listStart brackets) (fun other => .ok (expecting, brackets', other)) input rest := by
  cases hc : skipBlanks input with
  | nil =>
    rw [listStart, hc] at h
    cases h
  | cons c after =>
    simp only [listStart, hc] at h
    split_ifs at h with hend
    · cases h
      refine ((takes_skipBlanks hc).reshape fun x y hx => ?_).peeks
      simp only [listStart, hx, if_pos hend]
    · cases h
      obtain ⟨space, hs, hb, rfl⟩ := exists_blank hc
      refine ⟨space, rfl, fun other ho => ?_⟩
      obtain ⟨tail, rfl⟩ := List.head?_eq_some_iff.mp ho
      simp only [listStart, skipBlanks_blank hs hb, if_neg hend]

/-- The beginning of an object, up to the value of its first member. -/
theorem peeks_objectStart {brackets brackets' : List Bracket} {expecting : Expecting}
    {input rest : Bytes} (h : objectStart brackets input = .ok (expecting, brackets', rest)) :
    Peeks (objectStart brackets) (fun other => .ok (expecting, brackets', other)) input rest := by
  cases hc : skipBlanks input with
  | nil =>
    rw [objectStart, hc] at h
    cases h
  | cons c after =>
    simp only [objectStart, hc] at h
    split_ifs at h with hend
    · cases h
      refine ((takes_skipBlanks hc).reshape fun x y hx => ?_).peeks
      simp only [objectStart, hx, if_pos hend]
    · cases hk : passKey (c :: after) with
      | error e =>
        rw [hk] at h
        cases h
      | ok left =>
        rw [hk] at h
        cases h
        obtain ⟨space, hs, hb, rfl⟩ := exists_blank hc
        obtain ⟨key, hn, he, hkey⟩ := takes_passKey hk
        obtain ⟨key, rfl⟩ : ∃ tail, key = c :: tail := by
          cases key with
          | nil => exact absurd rfl hn
          | cons b key =>
            cases he
            exact ⟨key, rfl⟩
        refine ⟨space ++ c :: key, ?_, fun other _ => ?_⟩
        · rw [List.append_assoc, ← he]
        · rw [List.append_assoc]
          simp only [objectStart, List.cons_append, skipBlanks_blank hs hb, if_neg hend]
          rw [← List.cons_append, hkey]
          rfl

/-- The first step over a value. -/
theorem peeks_passStart {brackets brackets' : List Bracket} {expecting : Expecting}
    {input rest : Bytes} (h : passStart brackets input = .ok (expecting, brackets', rest)) :
    Peeks (passStart brackets) (fun other => .ok (expecting, brackets', other)) input rest ∧
      rest.length < input.length := by
  cases hb : skipBlanks input with
  | nil =>
    rw [passStart, hb] at h
    cases h
  | cons b after =>
    simp only [passStart, hb] at h
    by_cases hn : b = 'n'.toUInt8
    · rw [if_pos hn] at h
      refine (takes_skipBlanks hb).trans_peeks (Peeks.scalar
        (fun rest hr => (takes_readWord (by decide) hr).peeks) h) fun x y hx => ?_
      simp only [passStart, hx, if_pos hn]
    rw [if_neg hn] at h
    by_cases ht : b = 't'.toUInt8
    · rw [if_pos ht] at h
      refine (takes_skipBlanks hb).trans_peeks (Peeks.scalar
        (fun rest hr => (takes_readWord (by decide) hr).peeks) h) fun x y hx => ?_
      simp only [passStart, hx, if_neg hn, if_pos ht]
    rw [if_neg ht] at h
    by_cases hf : b = 'f'.toUInt8
    · rw [if_pos hf] at h
      refine (takes_skipBlanks hb).trans_peeks (Peeks.scalar
        (fun rest hr => (takes_readWord (by decide) hr).peeks) h) fun x y hx => ?_
      simp only [passStart, hx, if_neg hn, if_neg ht, if_pos hf]
    rw [if_neg hf] at h
    by_cases hm : b = '-'.toUInt8
    · rw [if_pos hm] at h
      refine (takes_skipBlanks hb).trans_peeks (Peeks.scalar
        (fun rest hr => peeks_passNumeral hr) h) fun x y hx => ?_
      simp only [passStart, hx, if_neg hn, if_neg ht, if_neg hf, if_pos hm]
    rw [if_neg hm] at h
    by_cases hd : isDigit b = true
    · rw [if_pos hd] at h
      refine (takes_skipBlanks hb).trans_peeks (Peeks.scalar
        (fun rest hr => peeks_passNumeral_cons hr) h) fun x y hx => ?_
      simp only [passStart, hx, if_neg hn, if_neg ht, if_neg hf, if_neg hm, if_pos hd]
    rw [if_neg hd] at h
    by_cases hq : b = '"'.toUInt8
    · rw [if_pos hq] at h
      refine (takes_skipBlanks hb).trans_peeks (Peeks.scalar
        (fun rest hr => (takes_passText hr).peeks) h) fun x y hx => ?_
      simp only [passStart, hx, if_neg hn, if_neg ht, if_neg hf, if_neg hm, if_neg hd, if_pos hq]
    rw [if_neg hq] at h
    by_cases hl : b = '['.toUInt8
    · rw [if_pos hl] at h
      refine (takes_skipBlanks hb).trans_peeks (peeks_listStart h) fun x y hx => ?_
      simp only [passStart, hx, if_neg hn, if_neg ht, if_neg hf, if_neg hm, if_neg hd, if_neg hq,
        if_pos hl]
      rfl
    rw [if_neg hl] at h
    by_cases ho : b = '{'.toUInt8
    · rw [if_pos ho] at h
      refine (takes_skipBlanks hb).trans_peeks (peeks_objectStart h) fun x y hx => ?_
      simp only [passStart, hx, if_neg hn, if_neg ht, if_neg hf, if_neg hm, if_neg hd, if_neg hq,
        if_neg hl, if_pos ho]
      rfl
    rw [if_neg ho] at h
    cases h

/-- The step from a value to the next one, or out of a bracket. -/
theorem takes_passNext {innermost : Bracket} {outer brackets : List Bracket}
    {expecting : Expecting} {input rest : Bytes}
    (h : passNext innermost outer input = .ok (expecting, brackets, rest)) :
    Takes (passNext innermost outer) (fun other => .ok (expecting, brackets, other))
      input rest := by
  cases hb : skipBlanks input with
  | nil =>
    cases innermost <;> simp only [passNext, hb] at h <;> cases h
  | cons b after =>
    obtain ⟨start, hn, rfl, hstart⟩ := takes_skipBlanks hb
    cases innermost with
    | list =>
      simp only [passNext, hb] at h
      split_ifs at h with hc he
      · cases h
        refine ⟨start, hn, rfl, fun other => ?_⟩
        simp only [passNext, hstart, if_pos hc]
      · cases h
        refine ⟨start, hn, rfl, fun other => ?_⟩
        simp only [passNext, hstart, if_neg hc, if_pos he]
    | object =>
      simp only [passNext, hb] at h
      split_ifs at h with hc he
      · cases hk : passKey after with
        | error e =>
          rw [hk] at h
          cases h
        | ok left =>
          rw [hk] at h
          cases h
          obtain ⟨key, -, rfl, hkey⟩ := takes_passKey hk
          refine ⟨start ++ key, List.append_ne_nil_of_left_ne_nil hn _,
            (List.append_assoc _ _ _).symm, fun other => ?_⟩
          simp only [passNext, List.append_assoc, hstart, if_pos hc, hkey]
          rfl
      · cases h
        refine ⟨start, hn, rfl, fun other => ?_⟩
        simp only [passNext, hstart, if_neg hc, if_pos he]

/-- The steps over a value. Every step takes a byte, so the number of bytes taken is
enough fuel. -/
theorem peeks_passFrom {fuel : Nat} {expecting : Expecting} {brackets : List Bracket}
    {input rest : Bytes} (h : passFrom fuel (expecting, brackets, input) = .ok rest) :
    ∃ text, input = text ++ rest ∧ ∀ other, other.head? = rest.head? →
      ∀ fuel', text.length ≤ fuel' →
        passFrom fuel' (expecting, brackets, text ++ other) = .ok other := by
  induction fuel generalizing expecting brackets input with
  | zero =>
    cases expecting with
    | value => cases h
    | next =>
      cases brackets with
      | nil =>
        cases h
        exact ⟨[], rfl, fun other _ fuel' _ => by rw [List.nil_append, passFrom]⟩
      | cons innermost outer => cases h
  | succ fuel ih =>
    cases expecting with
    | value =>
      rw [passFrom] at h
      split at h
      · cases h
      · rename_i state hs
        obtain ⟨expecting', brackets', middle⟩ := state
        obtain ⟨⟨start, rfl, hstart⟩, hlen⟩ := peeks_passStart hs
        obtain ⟨text, rfl, hr⟩ := ih h
        refine ⟨start ++ text, (List.append_assoc _ _ _).symm, fun other ho fuel' hf => ?_⟩
        have hhead : (text ++ other).head? = (text ++ rest).head? := by
          rw [List.head?_append, List.head?_append, ho]
        simp only [List.length_append] at hlen hf
        obtain ⟨fuel', rfl⟩ : ∃ n, fuel' = n + 1 := Nat.exists_eq_add_one.mpr (by omega)
        rw [List.append_assoc, passFrom, hstart _ hhead]
        exact hr other ho fuel' (by omega)
    | next =>
      cases brackets with
      | nil =>
        rw [passFrom] at h
        cases h
        exact ⟨[], rfl, fun other _ fuel' _ => by rw [List.nil_append, passFrom]⟩
      | cons innermost outer =>
        rw [passFrom] at h
        split at h
        · cases h
        · rename_i state hs
          obtain ⟨expecting', brackets', middle⟩ := state
          obtain ⟨start, hn, rfl, hstart⟩ := takes_passNext hs
          obtain ⟨text, rfl, hr⟩ := ih h
          refine ⟨start ++ text, (List.append_assoc _ _ _).symm, fun other ho fuel' hf => ?_⟩
          have hpos := List.length_pos_iff.mpr hn
          rw [List.length_append] at hf
          obtain ⟨fuel', rfl⟩ : ∃ n, fuel' = n + 1 := Nat.exists_eq_add_one.mpr (by omega)
          rw [List.append_assoc, passFrom, hstart]
          exact hr other ho fuel' (by omega)

/-- A value that is passed over. -/
theorem peeks_skipValue {input rest : Bytes} (h : skipValue input = .ok rest) :
    Peeks skipValue .ok input rest := by
  obtain ⟨text, he, hr⟩ := peeks_passFrom h
  refine ⟨text, he, fun other ho => hr other ho _ ?_⟩
  rw [List.length_append]
  omega

end ReleasePage.Json
