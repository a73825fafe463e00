import Mathlib
import ReleasePage.Time.ZoneTable
import ReleasePage.Proofs.Time.Written

/-!
# The date that is shown

A zone shows the day on which the moment of a timestamp falls there: the written day,
moved by as many days in the calendar as the distance that the text gives and the offset
of the zone at that moment make up together.
-/

namespace ReleasePage.Time

/-- A zone cannot show a timestamp exactly if the timestamp cannot be read. -/
theorem Zone.showDate_eq_error {zone : Zone} {timestamp : String} {fault : DateFault} :
    zone.showDate timestamp = .error fault ↔
      Timestamp.read (Text.bytes timestamp) = .error fault := by
  rw [showDate]
  cases Timestamp.read (Text.bytes timestamp) with
  | error other => simp [Except.map]
  | ok stamp => simp [Except.map]

/-- What is shown of a timestamp depends on its moment only. -/
theorem Zone.showDate_of_read {timestamp : String} {stamp : Timestamp}
    (h : Timestamp.read (Text.bytes timestamp) = .ok stamp) (zone : Zone) :
    zone.showDate timestamp = .ok (zone.dateAt stamp.instant).text := by
  rw [showDate, h]
  rfl

/-- The day from which moments are counted. -/
def epoch : CivilDate := ⟨1970, 1, 1⟩

/-- A day with the short name of its month and four digits of its year. -/
def dayText (date : CivilDate) : String :=
  Nat.repr date.day ++ " " ++ monthNames.getD (date.month - 1) "" ++ " " ++
    Number.padded 4 date.year.toNat

/-- A year of four digits has no sign. -/
theorem text_eq_dayText {date : CivilDate} (h : 0 ≤ date.year ∧ date.year ≤ 9999) :
    date.text = dayText date := by
  have hyear : yearText date.year = Number.padded 4 date.year.toNat := by
    rw [yearText, if_neg (by omega), if_neg (by omega)]
    congr 1
    omega
  rw [CivilDate.text, hyear, dayText]

/-- The days from the first one are the difference of the numbers of days. -/
theorem epoch_shifted_iff {date : CivilDate} (h : date.valid = true) (days : Int) :
    epoch.shifted days = date ↔ days = date.toDays - epochDays :=
  CivilDate.shifted_eq_iff (rfl : epoch.valid = true) h days

/-- The date of a zone at the moment that a local date and time denote is that date,
moved in the calendar. -/
theorem Zone.dateAt_instant (zone : Zone) {stamp : Timestamp} (h : stamp.date.valid = true) :
    zone.dateAt stamp.instant = stamp.date.shifted
      ((stamp.second - stamp.offset + zone.offsetAt stamp.instant) / 86400) := by
  have hdays : (stamp.instant + zone.offsetAt stamp.instant) / 86400 + epochDays =
      stamp.date.toDays + (stamp.second - stamp.offset + zone.offsetAt stamp.instant) / 86400 := by
    generalize zone.offsetAt stamp.instant = offset
    unfold Timestamp.instant
    omega
  rw [dateAt, hdays, CivilDate.ofDays_add h]

/-- Of every date and time of day with a distance from universal time, in any way it can
be written, a zone shows the day on which it falls there. Two texts that denote the same
moment are shown in the same way, and universal time shows the written date of a text in
universal time. -/
theorem showDate_shows_civil_day :
    (∀ time : WrittenTime, time.Valid → ∃ days : Int,
      (∀ n, epoch.shifted n = time.date ↔ n = days) ∧
      ∃ stamp, Timestamp.read (Text.bytes time.text) = .ok stamp ∧
        stamp.instant = days * 86400 + time.secondOfDay - time.offset.seconds ∧
        ∀ zone : Zone, ∃ day, day = time.date.shifted
            ((time.secondOfDay - time.offset.seconds + zone.offsetAt stamp.instant) / 86400) ∧
          (0 ≤ day.year ∧ day.year ≤ 9999 → zone.showDate time.text = .ok (dayText day))) ∧
    (∀ (text other : String) (stamp stamp' : Timestamp),
      Timestamp.read (Text.bytes text) = .ok stamp →
      Timestamp.read (Text.bytes other) = .ok stamp' → stamp.instant = stamp'.instant →
      ∀ zone : Zone, ∃ date, zone.showDate text = .ok date ∧ zone.showDate other = .ok date) ∧
    ∀ time : WrittenTime, time.Valid → time.offset = .universal 'Z' →
      Zone.universal.showDate time.text = .ok (dayText time.date) := by
  have hshow : ∀ (time : WrittenTime) (zone : Zone), time.Valid →
      zone.showDate time.text = .ok (time.date.shifted ((time.secondOfDay - time.offset.seconds +
        zone.offsetAt (Timestamp.instant ⟨time.date, time.secondOfDay, time.offset.seconds⟩)) /
          86400)).text := by
    intro time zone h
    rw [Zone.showDate_of_read (WrittenTime.read_text h), Zone.dateAt_instant zone h.date]
  refine ⟨fun time h => ⟨time.date.toDays - epochDays, epoch_shifted_iff h.date, _,
    WrittenTime.read_text h, rfl, fun zone => ⟨_, rfl, fun hy => ?_⟩⟩, ?_, ?_⟩
  · rw [hshow time zone h, text_eq_dayText hy]
  · intro text other stamp stamp' ht ho he zone
    refine ⟨_, Zone.showDate_of_read ht zone, ?_⟩
    rw [Zone.showDate_of_read ho, he]
  · intro time h hz
    have hsecond : (time.secondOfDay : Int) - 0 + 0 < 86400 := by
      have hh := h.hour
      have hm := h.minute
      have hs := h.second
      unfold WrittenTime.secondOfDay
      omega
    have hoffset : time.offset.seconds = 0 := by
      rw [hz]
      rfl
    have hstay : ((time.secondOfDay : Int) - 0 + 0) / 86400 = 0 := by omega
    rw [hshow time _ h, hoffset]
    change Except.ok (time.date.shifted (((time.secondOfDay : Int) - 0 + 0) / 86400)).text = _
    rw [hstay]
    exact congrArg Except.ok (text_eq_dayText h.year)

/-- Five in the morning of the first of March 2020 in universal time. -/
def marchMorning : WrittenTime := ⟨⟨2020, 3, 1⟩, 'T', 5, 0, 0, [], .universal 'Z'⟩

/-- The moment of `marchMorning`, as it is written half an hour before midnight in a
place seven and a half hours behind. -/
def februaryNight : WrittenTime := ⟨⟨2020, 2, 29⟩, ' ', 21, 30, 0, ['7', '5'], .signed false 7 30⟩

/-- The first morning of March is still the last evening of February in Los Angeles. -/
theorem showDate_shows_civil_day_sample :
    marchMorning.Valid ∧ februaryNight.Valid ∧
      Zone.losAngeles.showDate "2020-03-01T05:00:00Z" = .ok "29 Feb 2020" ∧
      Zone.losAngeles.showDate "2020-02-29 21:30:00.75-07:30" = .ok "29 Feb 2020" ∧
      Zone.universal.showDate "2020-03-01T05:00:00Z" = .ok "1 Mar 2020" := by
  have hmarch : marchMorning.Valid := ⟨rfl, by decide, .inl rfl, by decide, by decide, by decide,
    fun c hc => absurd hc List.not_mem_nil, .inl rfl⟩
  have hfebruary : februaryNight.Valid := ⟨rfl, by decide, .inr (.inr rfl), by decide, by decide,
    by decide, List.forall_mem_cons.mpr ⟨rfl, List.forall_mem_singleton.mpr rfl⟩, by decide,
    by decide⟩
  have htext : marchMorning.text = "2020-03-01T05:00:00Z" := by decide +kernel
  have htext' : februaryNight.text = "2020-02-29 21:30:00.75-07:30" := by decide +kernel
  obtain ⟨hday, hsame, huniversal⟩ := showDate_shows_civil_day
  obtain ⟨days, hdays, stamp, hr, hi, hzone⟩ := hday marchMorning hmarch
  obtain ⟨days', hdays', stamp', hr', hi', -⟩ := hday februaryNight hfebruary
  obtain rfl : 18322 = days := (hdays 18322).mp ((epoch_shifted_iff rfl 18322).mpr (by decide))
  obtain rfl : 18321 = days' := (hdays' 18321).mp ((epoch_shifted_iff rfl 18321).mpr (by decide))
  have hinstant : stamp.instant = 1583038800 := hi
  have hinstant' : stamp'.instant = 1583038800 := hi'
  have hoffset : Zone.losAngeles.offsetAt 1583038800 = -28800 := by decide +kernel
  obtain ⟨day, hd, hshow⟩ := hzone Zone.losAngeles
  rw [hinstant, hoffset] at hd
  obtain rfl : day = ⟨2020, 2, 29⟩ := hd
  have hevening := hshow (by decide)
  obtain ⟨date, hdate, hdate'⟩ := hsame _ _ _ _ hr hr' (hinstant.trans hinstant'.symm)
    Zone.losAngeles
  rw [hevening] at hdate
  cases hdate
  rw [htext] at hevening
  rw [htext'] at hdate'
  have hmorning := huniversal marchMorning hmarch rfl
  rw [htext] at hmorning
  exact ⟨hmarch, hfebruary, hevening, hdate', hmorning⟩

end ReleasePage.Time
