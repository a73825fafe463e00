import Mathlib
import ReleasePage.Time.Timestamp
import ReleasePage.Proofs.Number.Digits
import ReleasePage.Proofs.Time.Calendar
import ReleasePage.Proofs.Utf8

/-!
# Written timestamps

The texts that denote a date, a time of day and a distance from universal time: the
parts in digits of fixed length, a choice of separators and of the letter for universal
time, and a fraction of a second of any length. Every such text is read back as what it
was written from.
-/

namespace ReleasePage.Time

open ReleasePage.Text (Bytes)

/-- How the distance from universal time is written. -/
inductive WrittenOffset where
  /-- No distance, as a letter. -/
  | universal (letter : Char)
  /-- Hours and minutes that local time is ahead or behind. -/
  | signed (ahead : Bool) (hours minutes : Nat)

namespace WrittenOffset

/-- The letter is the one for universal time, and the distance is less than a day. -/
def Valid : WrittenOffset → Prop
  | universal letter => letter = 'Z' ∨ letter = 'z'
  | signed _ hours minutes => hours < 24 ∧ minutes < 60

/-- The characters of a distance. -/
def chars : WrittenOffset → List Char
  | universal letter => [letter]
  | signed ahead hours minutes => (if ahead then '+' else '-') ::
      ((Number.padded 2 hours).toList ++ ':' :: (Number.padded 2 minutes).toList)

/-- The seconds by which local time is ahead. -/
def seconds : WrittenOffset → Int
  | universal _ => 0
  | signed ahead hours minutes =>
    if ahead then ((hours * 60 + minutes) * 60 : Nat) else -((hours * 60 + minutes) * 60 : Nat)

end WrittenOffset

/-- A local date and time with its distance from universal time, as it is written. -/
structure WrittenTime where
  /-- The date. -/
  date : CivilDate
  /-- What stands between date and time. -/
  separator : Char
  /-- The hour of the day. -/
  hour : Nat
  /-- The minute of the hour. -/
  minute : Nat
  /-- The second of the minute. -/
  second : Nat
  /-- The digits of the fraction of a second, if there are any. -/
  fraction : List Char
  /-- The distance from universal time. -/
  offset : WrittenOffset

namespace WrittenTime

/-- The date exists and has a year of four digits, the time of day exists, and the marks
are the allowed ones. -/
structure Valid (time : WrittenTime) : Prop where
  /-- The date exists. -/
  date : time.date.valid = true
  /-- The year has four digits. -/
  year : 0 ≤ time.date.year ∧ time.date.year ≤ 9999
  /-- The separator is a letter or a space. -/
  separator : time.separator = 'T' ∨ time.separator = 't' ∨ time.separator = ' '
  /-- The hour exists. -/
  hour : time.hour < 24
  /-- The minute exists. -/
  minute : time.minute < 60
  /-- The second exists. -/
  second : time.second < 60
  /-- The fraction consists of digits. -/
  fraction : ∀ c ∈ time.fraction, c.isDigit = true
  /-- The distance is less than a day. -/
  offset : time.offset.Valid

/-- The characters of the date. -/
def dateChars (date : CivilDate) : List Char :=
  (Number.padded 4 date.year.toNat).toList ++ '-' :: ((Number.padded 2 date.month).toList ++
    '-' :: (Number.padded 2 date.day).toList)

/-- The characters of the fraction with its point. -/
def fractionChars (fraction : List Char) : List Char :=
  if fraction = [] then [] else '.' :: fraction

/-- The characters of the time of day. -/
def clockChars (time : WrittenTime) : List Char :=
  (Number.padded 2 time.hour).toList ++ ':' :: ((Number.padded 2 time.minute).toList ++
    ':' :: ((Number.padded 2 time.second).toList ++ fractionChars time.fraction))

/-- The whole text. -/
def text (time : WrittenTime) : String :=
  String.ofList (dateChars time.date ++ time.separator :: (time.clockChars ++ time.offset.chars))

/-- The second of the local day. -/
def secondOfDay (time : WrittenTime) : Nat := time.hour * 3600 + time.minute * 60 + time.second

end WrittenTime

/-- One byte for each of some characters of ASCII. -/
def asciiBytes (chars : List Char) : Bytes := chars.map Char.toUInt8

/-- The bytes of parts that are put together. -/
theorem asciiBytes_append (a b : List Char) :
    asciiBytes (a ++ b) = asciiBytes a ++ asciiBytes b := List.map_append

/-- The bytes behind a first character. -/
theorem asciiBytes_cons (c : Char) (chars : List Char) :
    asciiBytes (c :: chars) = c.toUInt8 :: asciiBytes chars := rfl

/-- The bytes of a text of ASCII characters. -/
theorem bytes_ascii {chars : List Char} (h : ∀ c ∈ chars, c.toNat < 128) :
    Text.bytes (String.ofList chars) = asciiBytes chars := by
  rw [Text.bytes_ofList]
  induction chars with
  | nil => rfl
  | cons c chars ih =>
    rw [List.flatMap_cons, ih fun d hd => h d (List.mem_cons_of_mem c hd),
      Text.utf8EncodeChar_ascii (h c List.mem_cons_self)]
    rfl

/-- The value of the byte of a digit. -/
theorem digit?_toUInt8 {c : Char} (h : c.isDigit = true) :
    digit? c.toUInt8 = some (c.toNat - '0'.toNat) := by
  have hr : 48 ≤ c.toNat ∧ c.toNat ≤ 57 := by
    simp only [Char.isDigit, Bool.and_eq_true, decide_eq_true_eq, UInt32.le_iff_toNat_le] at h
    exact h
  have hb : c.toUInt8.toNat = c.toNat :=
    Text.Utf8.toNat_byte (n := c.toNat) (by omega)
  rw [digit?, hb, if_pos hr]
  rfl

/-- Digits are read as the number they denote. -/
theorem readDigits_append {digits : List Char} (h : ∀ c ∈ digits, c.isDigit = true)
    (value : Nat) (rest : Bytes) :
    readDigits digits.length value (asciiBytes digits ++ rest) =
      .ok (Nat.ofDigitChars 10 digits value, rest) := by
  induction digits generalizing value with
  | nil => rw [Nat.ofDigitChars_nil]; rfl
  | cons c digits ih =>
    have hdigit := digit?_toUInt8 (h c List.mem_cons_self)
    rw [asciiBytes_cons, List.length_cons, List.cons_append, readDigits, hdigit,
      Nat.ofDigitChars_cons, Nat.mul_comm 10 value]
    exact ih (fun d hd => h d (List.mem_cons_of_mem c hd)) _

/-- A number in digits of fixed length is read back. -/
theorem readDigits_padded {width n : Nat} (hw : 0 < width) (hn : n < 10 ^ width) (rest : Bytes) :
    readDigits width 0 (asciiBytes (Number.padded width n).toList ++ rest) = .ok (n, rest) := by
  have hdigits : ∀ c ∈ (Number.padded width n).toList, c.isDigit = true :=
    fun c hc => Number.isDigit_of_mem_padded hc
  have h := readDigits_append hdigits 0 rest
  rwa [Number.length_padded hw hn, Number.ofDigitChars_padded] at h

/-- An expected mark is passed. -/
theorem readMark_cons {marks : List Char} {mark : Char} (h : mark ∈ marks) (rest : Bytes) :
    readMark marks (mark.toUInt8 :: rest) = .ok rest := by
  have hany : (marks.any fun other => mark.toUInt8 == other.toUInt8) = true :=
    List.any_eq_true.mpr ⟨mark, h, beq_self_eq_true mark.toUInt8⟩
  rw [readMark, if_pos hany]

/-- A written date is read back. -/
theorem readDate_dateChars {date : CivilDate} (hv : date.valid = true)
    (hy : 0 ≤ date.year ∧ date.year ≤ 9999) (rest : Bytes) :
    readDate (asciiBytes (WrittenTime.dateChars date) ++ rest) = .ok (date, rest) := by
  obtain ⟨-, hmonth, -, hday⟩ := CivilDate.month_of_valid hv
  have hlength := monthLength_le date.year date.month
  have hyear : ((date.year.toNat : Nat) : Int) = date.year := Int.toNat_of_nonneg hy.1
  have hdash := fun rest => readMark_cons (List.mem_singleton_self '-') rest
  simp only [WrittenTime.dateChars, asciiBytes_append, asciiBytes_cons, List.append_assoc,
    List.cons_append, readDate, bind, Except.bind]
  rw [readDigits_padded (by decide) (by omega)]
  simp only [hdash]
  rw [readDigits_padded (by decide) (by omega)]
  simp only [hdash]
  rw [readDigits_padded (by decide) (by omega)]
  simp only [hyear]
  exact if_pos hv

/-- What follows the seconds starts neither with a point nor with a digit. -/
def EndsTime (rest : Bytes) : Prop := ∀ b ∈ rest.head?, b ≠ '.'.toUInt8 ∧ digit? b = none

/-- A fraction is passed over, if there is one. -/
theorem readFraction_fractionChars {fraction : List Char} (h : ∀ c ∈ fraction, c.isDigit = true)
    {rest : Bytes} (hr : EndsTime rest) :
    readFraction (asciiBytes (WrittenTime.fractionChars fraction) ++ rest) = .ok rest := by
  cases fraction with
  | nil =>
    cases rest with
    | nil => rfl
    | cons b rest => exact if_neg (hr b rfl).1
  | cons c fraction =>
    have hc := digit?_toUInt8 (h c List.mem_cons_self)
    have hmore : ∀ b ∈ asciiBytes fraction, (digit? b).isSome = true := by
      intro b hb
      obtain ⟨d, hd, rfl⟩ := List.mem_map.mp hb
      rw [digit?_toUInt8 (h d (List.mem_cons_of_mem c hd))]
      rfl
    have hstop : rest.dropWhile (fun b => (digit? b).isSome) = rest := by
      cases rest with
      | nil => rfl
      | cons b rest =>
        refine List.dropWhile_cons_of_neg ?_
        rw [(hr b rfl).2]
        decide
    rw [WrittenTime.fractionChars, if_neg (List.cons_ne_nil _ _), asciiBytes_cons,
      asciiBytes_cons, List.cons_append, List.cons_append, readFraction, if_pos rfl, hc]
    dsimp only [Option.isSome_some]
    rw [if_pos rfl, List.dropWhile_append_of_pos hmore, hstop]

/-- A written time of day is read back as the second of the day. -/
theorem readTime_clockChars {time : WrittenTime} (h : time.Valid) {rest : Bytes}
    (hr : EndsTime rest) :
    readTime (asciiBytes time.clockChars ++ rest) = .ok (time.secondOfDay, rest) := by
  obtain ⟨-, -, -, hhour, hminute, hsecond, hfraction, -⟩ := h
  have hcolon := fun rest => readMark_cons (List.mem_singleton_self ':') rest
  simp only [WrittenTime.clockChars, asciiBytes_append, asciiBytes_cons, List.append_assoc,
    List.cons_append, readTime, bind, Except.bind]
  rw [readDigits_padded (by decide) (by omega)]
  simp only [hcolon]
  rw [readDigits_padded (by decide) (by omega)]
  simp only [hcolon]
  rw [readDigits_padded (by decide) (by omega)]
  simp only [readFraction_fractionChars hfraction hr, if_neg (by omega : ¬time.second = 60)]
  exact if_pos ⟨hhour, hminute, hsecond⟩

/-- The minutes of a distance are read back. -/
theorem readOffsetMinutes_padded {minutes : Nat} (h : minutes < 60) (rest : Bytes) :
    readOffsetMinutes (asciiBytes (Number.padded 2 minutes).toList ++ rest) =
      .ok (minutes, rest) := by
  have hlen := Number.length_padded (by decide : 0 < 2) (by omega : minutes < 10 ^ 2)
  have hvalue := Number.ofDigitChars_padded 2 minutes
  obtain ⟨a, b, hab⟩ := List.length_eq_two.mp hlen
  have ha : a.isDigit = true := Number.isDigit_of_mem_padded (hab ▸ List.mem_cons_self)
  have hb : b.isDigit = true :=
    Number.isDigit_of_mem_padded (hab ▸ List.mem_cons_of_mem a List.mem_cons_self)
  rw [hab, Nat.ofDigitChars_cons, Nat.ofDigitChars_cons, Nat.ofDigitChars_nil] at hvalue
  rw [hab, asciiBytes_cons, asciiBytes_cons, List.cons_append, List.cons_append,
    readOffsetMinutes, digit?_toUInt8 ha, digit?_toUInt8 hb]
  generalize a.toNat - '0'.toNat = tens at hvalue ⊢
  generalize b.toNat - '0'.toNat = ones at hvalue ⊢
  have htens : tens < 6 := by omega
  have hsum : tens * 10 + ones = minutes := by omega
  simp only [if_pos htens, hsum]
  rfl

/-- The hours and minutes of a distance are read back as minutes. -/
theorem readOffsetSize_padded {hours minutes : Nat} (hh : hours < 24) (hm : minutes < 60) :
    readOffsetSize (asciiBytes ((Number.padded 2 hours).toList ++
      ':' :: (Number.padded 2 minutes).toList)) = .ok (hours * 60 + minutes, []) := by
  have hlen := Number.length_padded (by decide : 0 < 2) (by omega : hours < 10 ^ 2)
  have hlong : ¬(asciiBytes ((Number.padded 2 hours).toList ++
      ':' :: (Number.padded 2 minutes).toList)).length < 2 := by
    rw [asciiBytes, List.length_map, List.length_append, hlen]
    omega
  have hdigits := readOffsetMinutes_padded hm []
  rw [List.append_nil] at hdigits
  unfold readOffsetSize
  rw [if_neg hlong, asciiBytes_append, asciiBytes_cons]
  simp only [bind, Except.bind, pure, Except.pure]
  rw [readDigits_padded (by decide) (by omega)]
  simp only [readMark_cons (List.mem_singleton_self ':'), hdigits]

/-- A written distance from universal time is read back in seconds. -/
theorem readOffset_chars {offset : WrittenOffset} (h : offset.Valid) :
    readOffset (asciiBytes offset.chars) = .ok (offset.seconds, []) := by
  cases offset with
  | universal letter =>
    rcases h with rfl | rfl <;> rfl
  | signed ahead hours minutes =>
    have hsize := readOffsetSize_padded h.1 h.2
    cases ahead with
    | true =>
      rw [WrittenOffset.chars, if_pos rfl, asciiBytes_cons,
        readOffset.eq_3 _ _ (fun _ hb => absurd hb (by decide)), if_neg (by decide), if_pos rfl,
        hsize]
      rfl
    | false =>
      rw [WrittenOffset.chars, if_neg (by decide), asciiBytes_cons,
        readOffset.eq_3 _ _ (fun _ hb => absurd hb (by decide)), if_neg (by decide),
        if_neg (by decide), if_pos rfl, hsize]
      rfl

/-- A distance from universal time ends the time of day. -/
theorem endsTime_chars {offset : WrittenOffset} (h : offset.Valid) :
    EndsTime (asciiBytes offset.chars) := by
  intro b hb
  cases offset with
  | universal letter =>
    rcases h with rfl | rfl <;> cases hb <;> decide
  | signed ahead hours minutes =>
    cases ahead <;> cases hb <;> decide

/-- Digits belong to ASCII. -/
theorem ascii_of_isDigit {c : Char} (h : c.isDigit = true) : c.toNat < 128 := by
  simp only [Char.isDigit, Bool.and_eq_true, decide_eq_true_eq, UInt32.le_iff_toNat_le] at h
  exact h.2.trans_lt (by decide)

/-- Numbers in digits are written in ASCII. -/
theorem ascii_padded (width n : Nat) : ∀ c ∈ (Number.padded width n).toList, c.toNat < 128 :=
  fun _ hc => ascii_of_isDigit (Number.isDigit_of_mem_padded hc)

/-- A distance from universal time is written in ASCII. -/
theorem WrittenOffset.ascii_chars {offset : WrittenOffset} (h : offset.Valid) :
    ∀ c ∈ offset.chars, c.toNat < 128 := by
  cases offset with
  | universal letter =>
    intro c hc
    rw [List.mem_singleton.mp hc]
    rcases h with rfl | rfl <;> decide
  | signed ahead hours minutes =>
    rw [chars, List.forall_mem_cons, List.forall_mem_append, List.forall_mem_cons]
    exact ⟨by cases ahead <;> decide, ascii_padded 2 hours, by decide, ascii_padded 2 minutes⟩

namespace WrittenTime

/-- A timestamp is written in ASCII. -/
theorem ascii_chars {time : WrittenTime} (h : time.Valid) :
    ∀ c ∈ dateChars time.date ++ time.separator :: (time.clockChars ++ time.offset.chars),
      c.toNat < 128 := by
  have hs : time.separator.toNat < 128 := by
    rcases h.separator with hs | hs | hs <;> rw [hs] <;> decide
  have hf : ∀ c ∈ fractionChars time.fraction, c.toNat < 128 := by
    unfold fractionChars
    split_ifs with hn
    · exact fun c hc => absurd hc List.not_mem_nil
    · rw [List.forall_mem_cons]
      exact ⟨by decide, fun c hc => ascii_of_isDigit (h.fraction c hc)⟩
  simp only [dateChars, clockChars, List.forall_mem_append, List.forall_mem_cons]
  exact ⟨⟨ascii_padded _ _, by decide, ascii_padded _ _, by decide, ascii_padded _ _⟩, hs,
    ⟨ascii_padded _ _, by decide, ascii_padded _ _, by decide, ascii_padded _ _, hf⟩,
    WrittenOffset.ascii_chars h.offset⟩

/-- A written timestamp has at least nineteen characters. -/
theorem le_length_chars {time : WrittenTime} (h : time.Valid) :
    19 ≤ (dateChars time.date ++ time.separator :: (time.clockChars ++
      time.offset.chars)).length := by
  obtain ⟨hdate, hy, -, hhour, hminute, hsecond, -, -⟩ := h
  obtain ⟨-, hmonth, -, hday⟩ := CivilDate.month_of_valid hdate
  have hlength := monthLength_le time.date.year time.date.month
  have htwo : ∀ n, n < 100 → (Number.padded 2 n).toList.length = 2 :=
    fun n hn => Number.length_padded (by decide) hn
  have hfour := Number.length_padded (by decide : 0 < 4)
    (by omega : time.date.year.toNat < 10 ^ 4)
  simp only [dateChars, clockChars, List.length_append, List.length_cons, hfour,
    htwo time.date.month (by omega), htwo time.date.day (by omega), htwo time.hour (by omega),
    htwo time.minute (by omega), htwo time.second (by omega)]
  omega

/-- A distance from universal time is less than a day. -/
theorem natAbs_seconds_lt {offset : WrittenOffset} (h : offset.Valid) :
    offset.seconds.natAbs < 86400 := by
  cases offset with
  | universal letter => exact Nat.zero_lt_succ _
  | signed ahead hours minutes =>
    obtain ⟨hh, hm⟩ := h
    unfold WrittenOffset.seconds
    dsimp only
    split_ifs <;> omega

/-- A written timestamp is read back. -/
theorem read_text {time : WrittenTime} (h : time.Valid) :
    Timestamp.read (Text.bytes time.text) =
      .ok ⟨time.date, time.secondOfDay, time.offset.seconds⟩ := by
  have hlen : ¬(asciiBytes (dateChars time.date ++ time.separator :: (time.clockChars ++
      time.offset.chars))).length < 19 := by
    rw [asciiBytes, List.length_map]
    exact (le_length_chars h).not_gt
  have hmark : time.separator ∈ ['T', 't', ' '] := by
    rcases h.separator with hs | hs | hs <;> rw [hs] <;> decide
  have hclock := readTime_clockChars h (endsTime_chars h.offset)
  have hoffset := readOffset_chars h.offset
  rw [text, bytes_ascii (ascii_chars h), Timestamp.read, if_neg hlen]
  simp only [asciiBytes_append, asciiBytes_cons, bind, Except.bind, pure, Except.pure,
    readDate_dateChars h.date h.year, readMark_cons hmark, hclock, hoffset]
  exact if_neg (natAbs_seconds_lt h.offset).not_ge

end WrittenTime

end ReleasePage.Time
