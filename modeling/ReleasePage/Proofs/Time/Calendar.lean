import Mathlib
import ReleasePage.Time.Civil

/-!
# Counting days

Dates follow one another day by day: a month ends at its length, and a year ends with
December. The number of a date counts these steps, and the date of a number is the only
one that has this number. So going from date to number, adding days and going back is
the same as taking that many steps in the calendar.
-/

namespace ReleasePage.Time

namespace CivilDate

/-- The date after a date. -/
def tomorrow (date : CivilDate) : CivilDate :=
  if date.day < monthLength date.year date.month then ⟨date.year, date.month, date.day + 1⟩
  else if date.month < 12 then ⟨date.year, date.month + 1, 1⟩
  else ⟨date.year + 1, 1, 1⟩

/-- The date before a date. -/
def yesterday (date : CivilDate) : CivilDate :=
  if 1 < date.day then ⟨date.year, date.month, date.day - 1⟩
  else if 1 < date.month then
    ⟨date.year, date.month - 1, monthLength date.year (date.month - 1)⟩
  else ⟨date.year - 1, 12, 31⟩

/-- The date a number of days after a date, or before it if the number is negative. -/
def shifted (days : Int) (date : CivilDate) : CivilDate :=
  if 0 ≤ days then tomorrow^[days.toNat] date else yesterday^[(-days).toNat] date

end CivilDate

/-- Months of a year that exist have a positive length, and no others do. -/
theorem monthLength_pos_iff (year : Int) (month : Nat) :
    0 < monthLength year month ↔ 1 ≤ month ∧ month ≤ 12 := by
  constructor
  · intro h
    by_contra hout
    have hlen : (monthLengths year).length = 12 := rfl
    have hzero : monthLength year month = 0 := by
      unfold monthLength
      split_ifs with hm
      · rfl
      · exact List.getD_eq_default _ _ (by omega)
    omega
  · rintro ⟨hlow, hhigh⟩
    cases hl : isLeap year <;> interval_cases month <;> simp [monthLength, monthLengths, hl]

/-- No month has more than thirty-one days. -/
theorem monthLength_le (year : Int) (month : Nat) : monthLength year month ≤ 31 := by
  rcases Nat.eq_zero_or_pos (monthLength year month) with hzero | hpos
  · omega
  · obtain ⟨hlow, hhigh⟩ := (monthLength_pos_iff year month).mp hpos
    cases hl : isLeap year <;> interval_cases month <;> simp [monthLength, monthLengths, hl]

/-- A date that exists has a month between one and twelve and a day of that month. -/
theorem CivilDate.month_of_valid {date : CivilDate} (h : date.valid = true) :
    1 ≤ date.month ∧ date.month ≤ 12 ∧ 1 ≤ date.day ∧
      date.day ≤ monthLength date.year date.month := by
  simp only [valid, Bool.and_eq_true, decide_eq_true_eq] at h
  have hm := (monthLength_pos_iff date.year date.month).mp (by omega)
  exact ⟨hm.1, hm.2, h.1, h.2⟩

/-- The days before a month are those before the month in front of it and that month. -/
theorem daysBeforeMonth_succ (year : Int) (month : Nat) (h : 1 ≤ month ∧ month ≤ 12) :
    daysBeforeMonth year (month + 1) = daysBeforeMonth year month + monthLength year month := by
  obtain ⟨hlow, hhigh⟩ := h
  cases hl : isLeap year <;> interval_cases month <;>
    simp [daysBeforeMonth, monthLength, monthLengths, hl]

/-- The length of a year. -/
def yearLength (year : Int) : Nat := if isLeap year then 366 else 365

/-- The months make up the year. -/
theorem daysBeforeMonth_end (year : Int) : daysBeforeMonth year 13 = yearLength year := by
  cases hl : isLeap year <;> simp [daysBeforeMonth, monthLengths, yearLength, hl]

/-- The days before a year are those before the year in front of it and that year. -/
theorem daysBeforeYear_succ (year : Int) :
    daysBeforeYear (year + 1) = daysBeforeYear year + yearLength year := by
  unfold daysBeforeYear yearLength
  have hleap : isLeap year = true ↔ year % 4 = 0 ∧ (year % 100 ≠ 0 ∨ year % 400 = 0) := by
    simp [isLeap]
  split_ifs with h
  · rw [hleap] at h
    omega
  · rw [hleap] at h
    omega

namespace CivilDate

/-- A date lies in its month. -/
theorem daysBeforeMonth_add_day {date : CivilDate} (h : date.valid = true) :
    daysBeforeMonth date.year date.month + date.day ≤ yearLength date.year := by
  obtain ⟨hlow, hhigh, -, hday⟩ := month_of_valid h
  rw [← daysBeforeMonth_end]
  have hmono : ∀ k, date.month + 1 + k ≤ 13 →
      daysBeforeMonth date.year (date.month + 1) ≤
        daysBeforeMonth date.year (date.month + 1 + k) := by
    intro k hk
    induction k with
    | zero => exact le_rfl
    | succ k ih =>
      have hs := daysBeforeMonth_succ date.year (date.month + 1 + k) (by omega)
      rw [← Nat.add_assoc, hs]
      exact (ih (by omega)).trans (Nat.le_add_right _ _)
  have hend := hmono (12 - date.month) (by omega)
  rw [daysBeforeMonth_succ date.year date.month ⟨hlow, hhigh⟩,
    show date.month + 1 + (12 - date.month) = 13 by omega] at hend
  omega

/-- The date after an existing date exists, and its number is the next one. -/
theorem tomorrow_spec {date : CivilDate} (h : date.valid = true) :
    date.tomorrow.valid = true ∧ date.tomorrow.toDays = date.toDays + 1 := by
  obtain ⟨hlow, hhigh, hfirst, hlast⟩ := month_of_valid h
  unfold tomorrow
  split_ifs with hday hmonth
  · refine ⟨?_, ?_⟩
    · simp only [valid, Bool.and_eq_true, decide_eq_true_eq]
      omega
    · simp only [toDays]
      push_cast
      ring
  · refine ⟨?_, ?_⟩
    · have hpos := (monthLength_pos_iff date.year (date.month + 1)).mpr (by omega)
      simp only [valid, Bool.and_eq_true, decide_eq_true_eq]
      omega
    · simp only [toDays, daysBeforeMonth_succ date.year date.month ⟨hlow, hhigh⟩]
      omega
  · obtain hm : date.month = 12 := by omega
    refine ⟨?_, ?_⟩
    · have hpos := (monthLength_pos_iff (date.year + 1) 1).mpr (by omega)
      simp only [valid, Bool.and_eq_true, decide_eq_true_eq]
      omega
    · have hend := daysBeforeMonth_succ date.year date.month ⟨hlow, hhigh⟩
      rw [hm, daysBeforeMonth_end] at hend
      have hstart : daysBeforeMonth (date.year + 1) 1 = 0 := rfl
      rw [hm] at hday hlast
      simp only [toDays, daysBeforeYear_succ, hstart, hm]
      omega

/-- The date before an existing date exists, and its number is the one before. -/
theorem yesterday_spec {date : CivilDate} (h : date.valid = true) :
    date.yesterday.valid = true ∧ date.yesterday.toDays = date.toDays - 1 := by
  obtain ⟨hlow, hhigh, hfirst, hlast⟩ := month_of_valid h
  unfold yesterday
  split_ifs with hday hmonth
  · refine ⟨?_, ?_⟩
    · simp only [valid, Bool.and_eq_true, decide_eq_true_eq]
      omega
    · simp only [toDays]
      omega
  · have hpos := (monthLength_pos_iff date.year (date.month - 1)).mpr (by omega)
    refine ⟨?_, ?_⟩
    · simp only [valid, Bool.and_eq_true, decide_eq_true_eq]
      omega
    · have hs := daysBeforeMonth_succ date.year (date.month - 1) (by omega)
      rw [show date.month - 1 + 1 = date.month by omega] at hs
      simp only [toDays, hs]
      omega
  · obtain hm : date.month = 1 := by omega
    have hdec : monthLength (date.year - 1) 12 = 31 := rfl
    refine ⟨?_, ?_⟩
    · simp only [valid, hdec]
      rfl
    · have hend := daysBeforeMonth_succ (date.year - 1) 12 (by omega)
      have hyear := daysBeforeYear_succ (date.year - 1)
      rw [daysBeforeMonth_end, hdec] at hend
      rw [sub_add_cancel] at hyear
      have hstart : daysBeforeMonth date.year 1 = 0 := rfl
      simp only [toDays, hyear, hm, hstart]
      omega

/-- Steps in the calendar count days. -/
theorem shifted_spec {date : CivilDate} (h : date.valid = true) (days : Int) :
    (date.shifted days).valid = true ∧ (date.shifted days).toDays = date.toDays + days := by
  have hforward : ∀ n : Nat, (tomorrow^[n] date).valid = true ∧
      (tomorrow^[n] date).toDays = date.toDays + n := by
    intro n
    induction n with
    | zero => exact ⟨h, (add_zero _).symm⟩
    | succ n ih =>
      obtain ⟨hv, hd⟩ := tomorrow_spec ih.1
      rw [Function.iterate_succ_apply']
      refine ⟨hv, ?_⟩
      rw [hd, ih.2]
      push_cast
      ring
  have hback : ∀ n : Nat, (yesterday^[n] date).valid = true ∧
      (yesterday^[n] date).toDays = date.toDays - n := by
    intro n
    induction n with
    | zero => exact ⟨h, (sub_zero _).symm⟩
    | succ n ih =>
      obtain ⟨hv, hd⟩ := yesterday_spec ih.1
      rw [Function.iterate_succ_apply']
      refine ⟨hv, ?_⟩
      rw [hd, ih.2]
      push_cast
      ring
  unfold shifted
  split_ifs with hsign
  · obtain ⟨hv, hd⟩ := hforward days.toNat
    exact ⟨hv, by rw [hd, Int.toNat_of_nonneg hsign]⟩
  · obtain ⟨hv, hd⟩ := hback (-days).toNat
    exact ⟨hv, by rw [hd, Int.toNat_of_nonneg (by omega)]; ring⟩

end CivilDate

/-- Sums of lengths, one after the other. -/
theorem foldl_add_eq (lengths : List Nat) (start : Nat) :
    lengths.foldl Nat.add start = start + lengths.foldl Nat.add 0 := by
  induction lengths generalizing start with
  | nil => rfl
  | cons length lengths ih =>
    rw [List.foldl_cons, List.foldl_cons, ih (start.add length), ih (Nat.add 0 length)]
    change start + length + _ = start + (0 + length + _)
    omega

/-- A day that lies in a month is found there. -/
theorem monthOfDay_add (first : Nat) (lengths : List Nat) {index : Nat}
    (hi : index < lengths.length) {day : Nat} (hd : day < lengths[index]) :
    monthOfDay first lengths ((lengths.take index).foldl Nat.add 0 + day) =
      (first + index, day + 1) := by
  induction lengths generalizing first index with
  | nil => exact absurd hi (Nat.not_lt_zero _)
  | cons length lengths ih =>
    cases index with
    | zero =>
      rw [List.getElem_cons_zero] at hd
      rw [List.take_zero, List.foldl_nil, Nat.zero_add, monthOfDay, if_pos hd]
      rfl
    | succ index =>
      have hrest := ih (first + 1) (Nat.lt_of_succ_lt_succ hi) hd
      rw [List.take_succ_cons, List.foldl_cons, foldl_add_eq, Nat.add_assoc]
      change monthOfDay first (length :: lengths) (0 + length + _) = _
      rw [Nat.zero_add, monthOfDay, if_neg (by omega), Nat.add_sub_cancel_left, hrest]
      congr 1
      omega

/-- A day between the starts of two years is found in the first of them. -/
theorem yearOfDay_eq {year days : Int} (hlow : daysBeforeYear year ≤ days)
    (hhigh : days < daysBeforeYear (year + 1)) : yearOfDay days = year := by
  have hguess : year - 1 ≤ days * 400 / 146097 ∧ days * 400 / 146097 ≤ year + 1 := by
    unfold daysBeforeYear at hlow hhigh
    omega
  have hbefore := daysBeforeYear_succ (year - 1)
  rw [sub_add_cancel] at hbefore
  unfold yearOfDay
  dsimp only
  rcases (by omega : days * 400 / 146097 = year - 1 ∨ days * 400 / 146097 = year ∨
    days * 400 / 146097 = year + 1) with hg | hg | hg
  · rw [hg, if_neg (by omega), sub_add_cancel, if_pos hlow]
  · rw [hg, if_neg (by omega), if_neg (by omega)]
  · rw [hg, if_pos hhigh, add_sub_cancel_right]

namespace CivilDate

/-- The date of the number of a date is that date. -/
theorem ofDays_toDays {date : CivilDate} (h : date.valid = true) : ofDays date.toDays = date := by
  obtain ⟨hlow, hhigh, hfirst, hlast⟩ := month_of_valid h
  have hin := daysBeforeMonth_add_day h
  have hyear : yearOfDay date.toDays = date.year := by
    have hnext := daysBeforeYear_succ date.year
    refine yearOfDay_eq ?_ ?_ <;> unfold toDays <;> omega
  have hrest : (date.toDays - daysBeforeYear date.year).toNat =
      ((monthLengths date.year).take (date.month - 1)).foldl Nat.add 0 + (date.day - 1) := by
    change _ = daysBeforeMonth date.year date.month + (date.day - 1)
    unfold toDays
    omega
  have hlen : date.month - 1 < (monthLengths date.year).length := by
    simp only [monthLengths, List.length_cons, List.length_nil]
    omega
  have hday : date.day - 1 < (monthLengths date.year)[date.month - 1] := by
    rw [monthLength, if_neg (by omega), List.getD_eq_getElem _ _ hlen] at hlast
    omega
  have hmonth := monthOfDay_add 1 (monthLengths date.year) hlen hday
  rw [← hrest] at hmonth
  unfold ofDays
  simp only [hyear, hmonth]
  obtain ⟨year, month, day⟩ := date
  simp only [mk.injEq, true_and]
  simp only at hlow hfirst
  omega

/-- Adding days to the number of a date is taking steps in the calendar. -/
theorem ofDays_add {date : CivilDate} (h : date.valid = true) (days : Int) :
    ofDays (date.toDays + days) = date.shifted days := by
  obtain ⟨hv, hd⟩ := shifted_spec h days
  rw [← hd, ofDays_toDays hv]

/-- Dates are the same if as many steps lead to them, and only then. -/
theorem shifted_eq_iff {date other : CivilDate} (h : date.valid = true)
    (ho : other.valid = true) (days : Int) :
    date.shifted days = other ↔ days = other.toDays - date.toDays := by
  obtain ⟨hv, hd⟩ := shifted_spec h days
  constructor
  · rintro rfl
    omega
  · rintro rfl
    rw [← ofDays_add h, add_sub_cancel, ofDays_toDays ho]

end CivilDate

end ReleasePage.Time
