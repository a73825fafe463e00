import Mathlib
import ReleasePage.Proofs.NextLink

/-!
# Reading a header with links

A header with links is a list of entries, each an address in angle brackets and what it is
to the current page. The reader cuts the header at every comma, also at those inside an
address. So it finds the first entry for the next page whose address has no comma, and an
entry whose address has one is never found.
-/

namespace ReleasePage.Web

/-- An entry of a header with links. -/
structure LinkEntry where
  /-- The address. -/
  url : String
  /-- What the address is to the current page. -/
  relation : String
  deriving Repr, DecidableEq

namespace LinkEntry

/-- The address has no angle brackets and quotation marks, and the relation is a word of
ASCII letters. -/
structure WellFormed (entry : LinkEntry) : Prop where
  /-- No bracket or quotation mark is in the address. -/
  url : ∀ c ∈ entry.url.toList, c ≠ '<' ∧ c ≠ '>' ∧ c ≠ '"'
  /-- The relation is a word. -/
  nonempty : entry.relation ≠ ""
  /-- The word has letters only. -/
  letters : ∀ c ∈ entry.relation.toList, c.isAlpha = true

/-- The entry is for the next page. -/
def isNext (entry : LinkEntry) : Bool := entry.relation == "next"

/-- There is a comma in the address. -/
def hasComma (entry : LinkEntry) : Bool := entry.url.toList.contains ','

/-- An entry as text. -/
def text (entry : LinkEntry) : String :=
  "<" ++ entry.url ++ ">; rel=\"" ++ entry.relation ++ "\""

end LinkEntry

/-- A header with these entries. -/
def linkHeader (entries : List LinkEntry) : String :=
  ", ".intercalate (entries.map LinkEntry.text)

/-- An entry for the next page has both brackets. -/
theorem HasEntry.mem {text : List Char} (h : HasEntry text) : '<' ∈ text ∧ '>' ∈ text := by
  obtain ⟨front, target, -, space, gap, rest, -, -, rfl⟩ := h
  exact ⟨by simp, by simp⟩

/-- Without an opening bracket there is no entry. -/
theorem partTarget?_of_no_open {text : List Char} (h : '<' ∉ text) : partTarget? text = none :=
  partTarget?_eq_none.mpr fun he => h he.mem.1

/-- The scan goes past what has no opening bracket. -/
theorem partTarget?_append {front : List Char} (h : '<' ∉ front) (text : List Char) :
    partTarget? (front ++ text) = partTarget? text := by
  induction front with
  | nil => rfl
  | cons c front ih =>
    obtain ⟨hc, hf⟩ := not_or.mp (List.mem_cons.not.mp h)
    rw [List.cons_append, partTarget?, if_neg (Ne.symm hc), ih hf]

/-- Behind the only opening bracket the entry is there, or there is none. -/
theorem partTarget?_open {text : List Char} (h : '<' ∉ text) :
    partTarget? ('<' :: text) = entryTarget? text := by
  rw [partTarget?, if_pos rfl, partTarget?_of_no_open h]
  cases entryTarget? text with
  | none => rfl
  | some target => rfl

namespace LinkEntry

variable {entry : LinkEntry}

/-- What follows the address of an entry. -/
def tail (entry : LinkEntry) : List Char :=
  ';' :: ' ' :: 'r' :: 'e' :: 'l' :: '=' :: '"' :: (entry.relation.toList ++ ['"'])

/-- The characters of an entry: its address between brackets, and what follows it. -/
theorem text_toList (entry : LinkEntry) :
    entry.text.toList = '<' :: (entry.url.toList ++ '>' :: entry.tail) := by
  rw [text, tail]
  simp

/-- There is no comma or opening bracket behind the address. -/
theorem WellFormed.not_mem_tail (h : entry.WellFormed) :
    ',' ∉ entry.tail ∧ '<' ∉ entry.tail := by
  have hletters : ∀ c, c.isAlpha = false → c ∉ entry.relation.toList := by
    intro c hc hm
    rw [h.letters c hm] at hc
    cases hc
  have hcomma := hletters ',' (by decide)
  have hopen := hletters '<' (by decide)
  constructor
  · simp [tail, hcomma]
  · simp [tail, hopen]

/-- What follows the address of an entry marks it as the next page if the relation says
so. -/
theorem WellFormed.marksNext_tail (h : entry.WellFormed) :
    marksNext entry.tail = entry.isNext := by
  have hquote : '"' ∉ entry.relation.toList := fun hm =>
    absurd (h.letters '"' hm) (by decide)
  have hnext : "next".toList = ['n', 'e', 'x', 't'] := rfl
  have hmark : nextMark = ['r', 'e', 'l', '=', '"', 'n', 'e', 'x', 't', '"'] := by decide
  have hmarks : marksNext entry.tail =
      ['n', 'e', 'x', 't', '"'].isPrefixOf (entry.relation.toList ++ ['"']) := by
    rw [marksNext, tail, List.dropWhile_cons_of_neg (by decide)]
    simp only [hmark, List.dropWhile_cons_of_pos (show Text.isBlank ' ' = true by decide),
      List.dropWhile_cons_of_neg (show ¬Text.isBlank 'r' = true by decide), List.isPrefixOf,
      beq_self_eq_true, Bool.true_and]
  rw [hmarks, Bool.eq_iff_iff, List.isPrefixOf_iff_prefix, isNext, beq_iff_eq]
  constructor
  · -- The mark ends with the only quotation mark behind the relation.
    rintro ⟨rest, hr⟩
    have hsplit : entry.relation.toList ++ '"' :: [] = ['n', 'e', 'x', 't'] ++ '"' :: rest :=
      hr.symm
    obtain ⟨hword, -⟩ := (List.append_cons_inj_of_notMem hquote List.not_mem_nil).mp hsplit
    exact String.toList_injective (hword.trans hnext.symm)
  · intro he
    rw [he, hnext]
    exact List.prefix_refl _

/-- What is found in an entry: its address if the entry is for the next page and its
address has no comma. -/
def found? (entry : LinkEntry) : Option (List Char) :=
  if entry.isNext && !entry.hasComma then some entry.url.toList else none

/-- An entry without a comma in its address is one part of the header. -/
theorem WellFormed.findSome?_of_no_comma (h : entry.WellFormed) {lead : List Char}
    (hlead : ',' ∉ lead ∧ '<' ∉ lead) (hc : ',' ∉ entry.url.toList) :
    (Text.pieces (· == ',') (lead ++ entry.text.toList)).findSome? partTarget? =
      if entry.isNext then some entry.url.toList else none := by
  obtain ⟨htail, hopen⟩ := h.not_mem_tail
  have hcomma : ',' ∉ lead ++ entry.text.toList := by
    simp [text_toList, hlead.1, hc, htail]
  have hbehind : '<' ∉ entry.url.toList ++ '>' :: entry.tail := by
    have hurl : '<' ∉ entry.url.toList := fun hm => (h.url _ hm).1 rfl
    simp [hurl, hopen]
  have hclosed : '>' ∉ entry.url.toList := fun hm => (h.url _ hm).2.1 rfl
  rw [Text.pieces_of_not_mem hcomma, List.findSome?_singleton, partTarget?_append hlead.2,
    text_toList, partTarget?_open hbehind, entryTarget?_append hclosed, h.marksNext_tail]

/-- An entry with a comma in its address is cut in two: no part of it has both brackets. -/
theorem WellFormed.findSome?_of_comma (h : entry.WellFormed) {lead : List Char}
    (hlead : ',' ∉ lead ∧ '<' ∉ lead) (hc : ',' ∈ entry.url.toList) :
    (Text.pieces (· == ',') (lead ++ entry.text.toList)).findSome? partTarget? = none := by
  obtain ⟨front, back, hurl, hf⟩ := List.eq_append_cons_of_mem hc
  have hmem : ∀ c ∈ front ++ ',' :: back, c ≠ '<' ∧ c ≠ '>' ∧ c ≠ '"' := by
    rw [← hurl]
    exact h.url
  have hcut : lead ++ entry.text.toList =
      (lead ++ '<' :: front) ++ ',' :: (back ++ '>' :: entry.tail) := by
    simp [text_toList, hurl]
  have hopen : '<' ∉ back ++ '>' :: entry.tail := by
    have hback : '<' ∉ back := fun hm => (hmem '<' (by simp [hm])).1 rfl
    simp [hback, h.not_mem_tail.2]
  have hfirst : ',' ∉ lead ++ '<' :: front := by
    simp [hlead.1, hf]
  have hnone : partTarget? (lead ++ '<' :: front) = none := by
    have hfront : ∀ c ∈ front, c ≠ '<' ∧ c ≠ '>' := fun c hm =>
      ⟨(hmem c (by simp [hm])).1, (hmem c (by simp [hm])).2.1⟩
    rw [partTarget?_append hlead.2, partTarget?_open fun hm => (hfront _ hm).1 rfl]
    exact entryTarget?_of_not_mem fun hm => (hfront _ hm).2 rfl
  have hrest : (Text.pieces (· == ',') (back ++ '>' :: entry.tail)).findSome? partTarget? =
      none := by
    rw [List.findSome?_eq_none_iff]
    intro part hp
    exact partTarget?_of_no_open fun hm =>
      hopen (Text.mem_and_not_cut_of_mem_pieces hp '<' hm).1
  rw [hcut, Text.pieces_append_cons rfl, List.findSome?_append, Text.pieces_of_not_mem hfirst,
    List.findSome?_singleton, hnone, hrest]
  rfl

/-- What is found in the parts of an entry, whatever blanks stand before it. -/
theorem WellFormed.findSome?_pieces (h : entry.WellFormed) {lead : List Char}
    (hlead : ',' ∉ lead ∧ '<' ∉ lead) :
    (Text.pieces (· == ',') (lead ++ entry.text.toList)).findSome? partTarget? =
      entry.found? := by
  rw [found?, hasComma]
  by_cases hc : ',' ∈ entry.url.toList
  · simp [h.findSome?_of_comma hlead hc, hc]
  · simp [h.findSome?_of_no_comma hlead hc, hc]

end LinkEntry

/-- What is found in the parts of a header is what is found first in its entries. -/
theorem findSome?_linkHeader {entries : List LinkEntry}
    (h : ∀ entry ∈ entries, entry.WellFormed) {lead : List Char}
    (hlead : ',' ∉ lead ∧ '<' ∉ lead) :
    (Text.pieces (· == ',') (lead ++ (linkHeader entries).toList)).findSome? partTarget? =
      entries.findSome? LinkEntry.found? := by
  induction entries generalizing lead with
  | nil =>
    rw [List.findSome?_eq_none_iff.mpr, List.findSome?_nil]
    intro part hp
    refine partTarget?_of_no_open fun hm => hlead.2 ?_
    simpa [linkHeader] using (Text.mem_and_not_cut_of_mem_pieces hp '<' hm).1
  | cons entry entries ih =>
    obtain ⟨hentry, hentries⟩ := List.forall_mem_cons.mp h
    cases entries with
    | nil =>
      have hone : linkHeader [entry] = entry.text := String.intercalate_singleton
      rw [hone, hentry.findSome?_pieces hlead]
      cases hf : entry.found? <;> simp [hf]
    | cons next others =>
      have htext : lead ++ (linkHeader (entry :: next :: others)).toList =
          (lead ++ entry.text.toList) ++
            ',' :: ([' '] ++ (linkHeader (next :: others)).toList) := by
        rw [linkHeader, List.map_cons, List.map_cons, String.intercalate_cons_cons,
          ← List.map_cons, ← linkHeader]
        simp
      have hrest := @ih hentries [' '] (by decide)
      rw [htext, Text.pieces_append_cons rfl, List.findSome?_append,
        hentry.findSome?_pieces hlead, hrest]
      cases hf : entry.found? <;> simp [hf]

/-- What is found first is the address of the first entry for the next page that has no
comma. -/
theorem findSome?_found? (entries : List LinkEntry) :
    entries.findSome? LinkEntry.found? =
      (entries.find? fun entry => entry.isNext && !entry.hasComma).map (·.url.toList) := by
  induction entries with
  | nil => rfl
  | cons entry entries ih =>
    rw [List.findSome?_cons, List.find?_cons, LinkEntry.found?, ih]
    cases entry.isNext && !entry.hasComma <;> rfl

/-- In a header with links the first entry for the next page whose address has no comma is
found. -/
theorem nextLink?_linkHeader {entries : List LinkEntry}
    (h : ∀ entry ∈ entries, entry.WellFormed) :
    nextLink? (linkHeader entries) =
      (entries.find? fun entry => entry.isNext && !entry.hasComma).map (·.url) := by
  have hfound := @findSome?_linkHeader entries h [] (by simp)
  rw [List.nil_append] at hfound
  rw [nextLink?, hfound, findSome?_found?, Option.map_map]
  exact congrFun (congrArg Option.map (funext fun entry => String.ofList_toList)) _

/-- Whether the first entry for the next page is found depends on its address alone. -/
theorem find?_plain_eq_iff (entries : List LinkEntry) :
    (entries.find? fun entry => entry.isNext && !entry.hasComma).map (·.url) =
        (entries.find? (·.isNext)).map (·.url) ↔
      ∀ entry, entries.find? (·.isNext) = some entry → entry.hasComma = false := by
  constructor
  · intro he entry hf
    rw [hf, Option.map_some, Option.map_eq_some_iff] at he
    obtain ⟨found, hfound, hurl⟩ := he
    have hplain := List.find?_some hfound
    rw [Bool.and_eq_true, Bool.not_eq_true', LinkEntry.hasComma, hurl] at hplain
    exact hplain.2
  · intro hplain
    cases hf : entries.find? (·.isNext) with
    | none =>
      have hnone := List.find?_eq_none.mp hf
      rw [List.find?_eq_none.mpr]
      intro entry hm hn
      exact hnone entry hm (Bool.and_eq_true_iff.mp hn).1
    | some entry =>
      obtain ⟨hn, before, after, hsplit, hbefore⟩ := List.find?_eq_some_iff_append.mp hf
      have hfound : (entries.find? fun entry => entry.isNext && !entry.hasComma) = some entry := by
        refine List.find?_eq_some_iff_append.mpr ⟨?_, before, after, hsplit, fun other ho => ?_⟩
        · rw [hn, hplain entry hf]
          rfl
        · rw [Bool.not_and, hbefore other ho, Bool.true_or]
      rw [hfound]

/-- In a header with links the first entry for the next page whose address has no comma is
found. So what is found is the first entry for the next page exactly if the address of that
entry has no comma. -/
theorem next_entry_is_found_unless_comma {entries : List LinkEntry}
    (h : ∀ entry ∈ entries, entry.WellFormed) :
    nextLink? (linkHeader entries) =
        (entries.find? fun entry => entry.isNext && !entry.hasComma).map (·.url) ∧
      (nextLink? (linkHeader entries) = (entries.find? (·.isNext)).map (·.url) ↔
        ∀ entry, entries.find? (·.isNext) = some entry → entry.hasComma = false) := by
  refine ⟨nextLink?_linkHeader h, ?_⟩
  rw [nextLink?_linkHeader h]
  exact find?_plain_eq_iff entries

/-- The second of three pages, of which the first has a comma in its address. -/
def sampleEntries : List LinkEntry :=
  [⟨"https://h/?labels=a,b&page=1", "prev"⟩, ⟨"https://h/?labels=a;b&page=3", "next"⟩]

/-- Commas in other addresses do no harm. -/
theorem next_entry_is_found_unless_comma_sample :
    (∀ entry ∈ sampleEntries, entry.WellFormed) ∧
      nextLink? (linkHeader sampleEntries) = some "https://h/?labels=a;b&page=3" := by
  have h : ∀ entry ∈ sampleEntries, entry.WellFormed := by
    intro entry hm
    rcases List.mem_pair.mp hm with rfl | rfl
    · exact ⟨by simp, by decide, by simp⟩
    · exact ⟨by simp, by decide, by simp⟩
  have hfirst : sampleEntries.find? (·.isNext) =
      some ⟨"https://h/?labels=a;b&page=3", "next"⟩ := by decide
  refine ⟨h, ?_⟩
  rw [(next_entry_is_found_unless_comma h).2.mpr, hfirst]
  · rfl
  · intro entry he
    rw [hfirst] at he
    cases he
    decide +kernel

/-- An entry for the next page with a comma in its address. -/
def commaEntry : LinkEntry := ⟨"https://h/?labels=a,b&page=2", "next"⟩

/-- The entry is well-formed and for the next page, but it is not found. -/
theorem next_entry_with_comma_is_missed :
    (∀ entry ∈ [commaEntry], entry.WellFormed) ∧
      ([commaEntry].find? (·.isNext)).map (·.url) = some "https://h/?labels=a,b&page=2" ∧
      nextLink? (linkHeader [commaEntry]) = none := by
  refine ⟨?_, by decide, by decide +kernel⟩
  intro entry hm
  rw [List.mem_singleton.mp hm, commaEntry]
  exact ⟨by simp, by decide, by simp⟩

end ReleasePage.Web
