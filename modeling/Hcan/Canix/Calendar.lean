import Hcan.Canix.Clock

/-!
# The clock against the calendar

A clock is compared with the moment it should show, in seconds since the midnight before the first
of January of the year 0.  The time of day and the weekday always stay right.  The date moves on by
one day at every midnight, but at the end of the 28th of February of a leap year by two.
-/

namespace Hcan.Canix

open Hcan.Controller Hcan.Library.Gregorian

/-- The date of a clock; the years are counted from 2000. -/
structure ReadsDate (clock : RtcClock) (date : Date) : Prop where
  year : 2000 + clock.year.toNat = date.year
  month : clock.monthOfYear.toNat = date.month
  day : clock.dayOfMonth.toNat = date.day

/-- The clock shows the valid date, the weekday and the time of day of a moment. -/
structure Shows (clock : RtcClock) (moment : Nat) : Prop where
  date : ∃ date : Date, ReadsDate clock date ∧ date.number = moment / 86400
  dayOfWeek : clock.dayOfWeek.toNat = weekday (moment / 86400)
  time : ValidTime clock.hour clock.minute clock.second
  second : secondOfDay clock.hour clock.minute clock.second = (moment % 86400 : Nat)

/-- The first second of the year 2100. -/
def endOfRange : Nat := yearStart 2100 * 86400

/-- A 29th of February begins after the first moment and not after the last one. -/
def PassesLeapDay (first last : Nat) : Prop :=
  ∃ date : Date, date.IsLeapDay ∧ first < date.number * 86400 ∧ date.number * 86400 ≤ last

section Reading

variable {clock other : RtcClock} {date otherDate : Date}

theorem ReadsDate.unique (reads : ReadsDate clock date) (otherReads : ReadsDate clock otherDate) :
    date = otherDate := by
  have year := reads.year.symm.trans otherReads.year
  have month := reads.month.symm.trans otherReads.month
  have day := reads.day.symm.trans otherReads.day
  cases date
  cases otherDate
  cases year
  cases month
  cases day
  rfl

theorem secondOfDay_injective {hour minute second hour' minute' second' : UInt8}
    (time : ValidTime hour minute second) (time' : ValidTime hour' minute' second')
    (same : secondOfDay hour minute second = secondOfDay hour' minute' second') :
    hour = hour' ∧ minute = minute' ∧ second = second' := by
  have minutes : minute.toNat < 60 := time.2.1
  have seconds : second.toNat < 60 := time.2.2
  have minutes' : minute'.toNat < 60 := time'.2.1
  have seconds' : second'.toNat < 60 := time'.2.2
  unfold secondOfDay at same
  exact ⟨UInt8.toNat_inj.mp (by omega), UInt8.toNat_inj.mp (by omega),
    UInt8.toNat_inj.mp (by omega)⟩

/-- A moment is shown in one way only. -/
theorem Shows.unique {moment : Nat} (shows_ : Shows clock moment)
    (otherShows : Shows other moment) : clock = other := by
  obtain ⟨date, reads, number⟩ := shows_.date
  obtain ⟨otherDate, otherReads, otherNumber⟩ := otherShows.date
  have same : date = otherDate := Date.number_injective (number.trans otherNumber.symm)
  rw [← same] at otherReads
  have year := reads.year
  have otherYear := otherReads.year
  have dayOfWeek := UInt8.toNat_inj.mp (shows_.dayOfWeek.trans otherShows.dayOfWeek.symm)
  have month := UInt8.toNat_inj.mp (reads.month.trans otherReads.month.symm)
  have day := UInt8.toNat_inj.mp (reads.day.trans otherReads.day.symm)
  have years : clock.year = other.year := UInt8.toNat_inj.mp (by omega)
  obtain ⟨hour, minute, second⟩ := secondOfDay_injective shows_.time otherShows.time
    (shows_.second.trans otherShows.second.symm)
  cases clock
  cases other
  congr

end Reading

section Midnight

variable {clock : RtcClock} {date : Date}

/-- A date over in a common year and not the last of its month is followed by a leap day. -/
theorem leapDay_tomorrow (inMonth : date.day < monthLength date.year date.month)
    (overflow : monthLength 1 date.month ≤ date.day) : date.next.IsLeapDay := by
  have common := monthLength_eq date.year date.month
  have days : monthLength 1 2 = 28 := by decide
  obtain ⟨-, month, day⟩ := date.next_inMonth inMonth
  unfold Date.IsLeapDay
  rw [month, day]
  by_cases february : date.month = 2
  · rw [february] at common overflow inMonth
    split_ifs at common <;> omega
  · rw [if_neg (fun both => february both.1)] at common
    omega

/-- At midnight the clock goes to the next date, but over a 29th of February. -/
theorem updateDay_reads (reads : ReadsDate clock date) (year : clock.year.toNat < 255) :
    (¬ date.next.IsLeapDay ∧ ReadsDate (updateDay clock) date.next) ∨
      (date.next.IsLeapDay ∧ ReadsDate (updateDay clock) date.next.next) := by
  have readYear := reads.year
  have readMonth := reads.month
  have readDay := reads.day
  have length := date.day_le
  have months := date.month_le
  have longest := monthLength_le date.year date.month
  have common := monthLength_eq date.year date.month
  have yearUp : (clock.year + 1).toNat = clock.year.toNat + 1 := field_succ year
  have one : (1 : UInt8).toNat = 1 := rfl
  have notLeap (first : date.next.day = 1) : ¬ date.next.IsLeapDay :=
    fun leapDay => absurd (first.symm.trans leapDay.2) (by decide)
  rcases @updateDay_cases clock (by omega) (by omega) with
    ⟨inMonth, sameYear, sameMonth, nextDay⟩ | ⟨overflow, inYear, sameYear, nextMonth, first⟩ |
      ⟨overflow, december, nextYear, january, first⟩
  · rw [readMonth, readDay] at inMonth
    obtain ⟨dateYear, dateMonth, dateDay⟩ := date.next_inMonth (by omega)
    refine Or.inl ⟨?_, ⟨by rw [sameYear]; omega, by rw [sameMonth]; omega, by omega⟩⟩
    rintro ⟨february, last⟩
    have days : monthLength 1 2 = 28 := by decide
    rw [dateMonth] at february
    rw [february] at inMonth
    omega
  · rw [readMonth, readDay] at overflow
    by_cases leapDay : date.day < monthLength date.year date.month
    · -- Only the 28th of February of a leap year is over and not the last of its month.
      have february := leapDay_tomorrow leapDay overflow
      obtain ⟨dateYear, dateMonth, dateDay⟩ := date.next_inMonth leapDay
      obtain ⟨laterYear, laterMonth, laterDay⟩ := Date.next_afterLeapDay date.next february
      refine Or.inr ⟨february, ⟨?_, ?_, ?_⟩⟩
      · rw [sameYear, laterYear, dateYear]
        exact readYear
      · rw [nextMonth, readMonth, laterMonth, ← dateMonth, february.1]
      · rw [first, laterDay]
        rfl
    · obtain ⟨dateYear, dateMonth, dateDay⟩ := date.next_inYear leapDay (by omega)
      refine Or.inl ⟨notLeap dateDay, ⟨?_, by omega, ?_⟩⟩
      · rw [sameYear, dateYear]
        exact readYear
      · rw [first, dateDay]
        rfl
  · rw [readMonth, readDay] at overflow
    rw [readMonth] at december
    have lastOfMonth : ¬ date.day < monthLength date.year date.month := by
      rw [december] at overflow common ⊢
      simp only [Nat.reduceEqDiff, false_and, if_false] at common
      omega
    obtain ⟨dateYear, dateMonth, dateDay⟩ := date.next_lastOfYear lastOfMonth (by omega)
    refine Or.inl ⟨notLeap dateDay, ⟨?_, ?_, ?_⟩⟩
    · rw [nextYear, yearUp, dateYear]
      omega
    · rw [january, dateMonth]
      rfl
    · rw [first, dateDay]
      rfl

end Midnight

/-! ## Days ahead -/

/-- The clock has the weekday and the time of day of a moment, and the date some days later.  It
has not passed more midnights than the moment. -/
structure Ahead (clock : RtcClock) (moment days : Nat) : Prop where
  date : ∃ date : Date, ReadsDate clock date ∧ date.number = moment / 86400 + days ∧
    date.commonNumber ≤ moment / 86400
  dayOfWeek : clock.dayOfWeek.toNat = weekday (moment / 86400)
  time : ValidTime clock.hour clock.minute clock.second
  second : secondOfDay clock.hour clock.minute clock.second = (moment % 86400 : Nat)

section Days

variable {clock : RtcClock} {rtc : CanixRtc} {moment days : Nat}

theorem ahead_of_shows (shows_ : Shows clock moment) : Ahead clock moment 0 := by
  obtain ⟨date, reads, number⟩ := shows_.date
  have common := date.commonNumber_le
  exact ⟨⟨date, reads, number, number ▸ common⟩, shows_.dayOfWeek, shows_.time, shows_.second⟩

/-- A clock shows the moment when it is not ahead. -/
theorem shows_iff_ahead (ahead : Ahead clock moment days) : Shows clock moment ↔ days = 0 := by
  obtain ⟨date, reads, number, -⟩ := ahead.date
  constructor
  · intro shows_
    obtain ⟨shown, readsShown, shownNumber⟩ := shows_.date
    rw [reads.unique readsShown] at number
    omega
  · rintro rfl
    exact ⟨⟨date, reads, number⟩, ahead.dayOfWeek, ahead.time, ahead.second⟩

/-- The year of a clock does not overflow before the end of the range. -/
theorem year_small {date : Date} (reads : ReadsDate clock date)
    (common : date.commonNumber ≤ moment / 86400) (range : moment < endOfRange) :
    clock.year.toNat < 255 := by
  have year := reads.year
  have last : endOfRange = 767010 * 86400 := by
    unfold endOfRange
    rw [yearStart_eq]
  unfold Date.commonNumber at common
  omega

theorem weekday_succ {day : UInt8} {number : Nat} (same : day.toNat = weekday number) :
    (if day + 1 = 8 then 1 else day + 1).toNat = weekday (number + 1) := by
  have one : (1 : UInt8).toNat = 1 := rfl
  have eight : (8 : UInt8).toNat = 8 := rfl
  unfold weekday at same ⊢
  split
  next overflow =>
    rw [field_succ_eq (by omega)] at overflow
    omega
  next inWeek =>
    rw [field_succ_eq (by omega)] at inWeek
    rw [field_succ (by omega)]
    omega

/-- A second within the day. -/
theorem Ahead.within (ahead : Ahead clock moment days) {hour minute second : UInt8}
    (time : ValidTime hour minute second)
    (later : secondOfDay hour minute second =
      secondOfDay clock.hour clock.minute clock.second + 1) :
    Ahead { clock with hour := hour, minute := minute, second := second } (moment + 1) days := by
  have now := ahead.second
  have inDay := (secondOfDay_valid time).2
  have sameDay : (moment + 1) / 86400 = moment / 86400 := by omega
  obtain ⟨date, reads, number, common⟩ := ahead.date
  refine ⟨⟨date, ⟨reads.year, reads.month, reads.day⟩, ?_, ?_⟩, ?_, time, ?_⟩
  · rw [sameDay]
    exact number
  · rw [sameDay]
    exact common
  · rw [sameDay]
    exact ahead.dayOfWeek
  · rw [later]
    omega

/-- The time of day after midnight. -/
theorem updateDay_midnight (clock : RtcClock) :
    ValidTime (updateDay { clock with second := 0, minute := 0, hour := 0 }).hour
        (updateDay { clock with second := 0, minute := 0, hour := 0 }).minute
        (updateDay { clock with second := 0, minute := 0, hour := 0 }).second ∧
      secondOfDay (updateDay { clock with second := 0, minute := 0, hour := 0 }).hour
        (updateDay { clock with second := 0, minute := 0, hour := 0 }).minute
        (updateDay { clock with second := 0, minute := 0, hour := 0 }).second = 0 := by
  obtain ⟨hour, minute, second, -⟩ :=
    updateDay_time { clock with second := 0, minute := 0, hour := 0 }
  rw [hour, minute, second]
  exact ⟨⟨(by decide : (0 : UInt8) < 24), (by decide : (0 : UInt8) < 60),
    (by decide : (0 : UInt8) < 60)⟩, (by decide : secondOfDay 0 0 0 = 0)⟩

/-- A 29th of February begins with the moment. -/
def LeapDayBegins (moment : Nat) : Prop :=
  ∃ date : Date, date.IsLeapDay ∧ date.number * 86400 = moment

/-- The second before midnight: the clock goes over the next date when it is a leap day. -/
theorem Ahead.midnight (ahead : Ahead clock moment days) (range : moment < endOfRange)
    (last : secondOfDay clock.hour clock.minute clock.second = 86399) :
    ∃ date : Date, date.number = (moment + 1) / 86400 + days ∧ (moment + 1) % 86400 = 0 ∧
      ∃ later, later = (if date.IsLeapDay then days + 1 else days) ∧
        Ahead (updateDay { clock with second := 0, minute := 0, hour := 0 }) (moment + 1)
          later := by
  have now := ahead.second
  have nextDay : (moment + 1) / 86400 = moment / 86400 + 1 := by omega
  have midnight : (moment + 1) % 86400 = 0 := by omega
  obtain ⟨date, reads, number, common⟩ := ahead.date
  have nextNumber := date.number_next
  have nextCommon := date.commonNumber_next_le
  have readsMidnight : ReadsDate { clock with second := 0, minute := 0, hour := 0 } date :=
    ⟨reads.year, reads.month, reads.day⟩
  have next := updateDay_reads readsMidnight (year_small readsMidnight common range)
  obtain ⟨-, -, -, dayOfWeek⟩ := updateDay_time { clock with second := 0, minute := 0, hour := 0 }
  obtain ⟨time, start⟩ := updateDay_midnight clock
  have week := weekday_succ ahead.dayOfWeek
  rw [← nextDay, ← dayOfWeek] at week
  generalize updateDay { clock with second := 0, minute := 0, hour := 0 } = tomorrow at *
  have second : secondOfDay tomorrow.hour tomorrow.minute tomorrow.second =
      ((moment + 1) % 86400 : Nat) := by rw [midnight, start]; rfl
  refine ⟨date.next, by omega, midnight, _, rfl, ?_⟩
  rcases next with ⟨notLeap, next⟩ | ⟨leapDay, next⟩
  · rw [if_neg notLeap]
    exact ⟨⟨date.next, next, by omega, by omega⟩, week, time, second⟩
  · have laterNumber := date.next.number_next
    have laterCommon := date.next.commonNumber_afterLeapDay leapDay
    rw [if_pos leapDay]
    exact ⟨⟨date.next.next, next, by omega, by omega⟩, week, time, second⟩

/-- A second: the clock never falls back, and a clock that shows the moment gets ahead exactly at
the beginning of a leap day. -/
theorem Ahead.update (ahead : Ahead rtc.clock moment days) (range : moment < endOfRange) :
    ∃ later, days ≤ later ∧ Ahead (canixUpdateDatetime rtc).clock (moment + 1) later ∧
      (days = 0 → (later = 0 ↔ ¬ LeapDayBegins (moment + 1))) := by
  rcases update_cases ahead.time with ⟨hour, minute, second, clock, time, next⟩ | ⟨last, clock⟩
  · have now := ahead.second
    have inDay := (secondOfDay_valid time).2
    rw [clock]
    refine ⟨days, le_refl _, ahead.within time next, fun none => iff_of_true none ?_⟩
    rintro ⟨date, -, begins⟩
    omega
  · obtain ⟨date, number, midnight, later, ahead', next⟩ := ahead.midnight range last
    rw [clock]
    refine ⟨later, ?_, next, fun none => ?_⟩
    · rw [ahead']
      split_ifs <;> omega
    · rw [none, Nat.add_zero] at number
      rw [ahead', none]
      have same : LeapDayBegins (moment + 1) ↔ date.IsLeapDay := by
        constructor
        · rintro ⟨other, leapDay, begins⟩
          have equal : other = date := Date.number_injective (by omega)
          exact equal ▸ leapDay
        · exact fun leapDay => ⟨date, leapDay, by omega⟩
      rw [same]
      split_ifs with leapDay
      · exact iff_of_false (by decide) (not_not.mpr leapDay)
      · exact iff_of_true rfl leapDay

theorem passesLeapDay_succ (first last : Nat) (ordered : first ≤ last) :
    PassesLeapDay first (last + 1) ↔ PassesLeapDay first last ∨ LeapDayBegins (last + 1) := by
  constructor
  · rintro ⟨date, leapDay, after, before⟩
    by_cases begins : date.number * 86400 = last + 1
    · exact Or.inr ⟨date, leapDay, begins⟩
    · exact Or.inl ⟨date, leapDay, after, by omega⟩
  · rintro (⟨date, leapDay, after, before⟩ | ⟨date, leapDay, begins⟩)
    · exact ⟨date, leapDay, after, by omega⟩
    · exact ⟨date, leapDay, by omega, by omega⟩

/-- After some seconds the clock is ahead exactly when a leap day began in them. -/
theorem Ahead.run (ahead : Ahead rtc.clock moment 0) (seconds : Nat)
    (range : moment + seconds ≤ endOfRange) :
    ∃ days, Ahead (canixUpdateDatetime^[seconds] rtc).clock (moment + seconds) days ∧
      (days = 0 ↔ ¬ PassesLeapDay moment (moment + seconds)) := by
  induction seconds with
  | zero =>
      refine ⟨0, ahead, iff_of_true rfl ?_⟩
      rintro ⟨date, -, after, before⟩
      omega
  | succ seconds ih =>
      obtain ⟨days, here, passed⟩ := ih (by omega)
      obtain ⟨later, grows, next, begins⟩ := here.update (by omega)
      rw [Function.iterate_succ_apply', ← Nat.add_assoc]
      refine ⟨later, next, ?_⟩
      rw [passesLeapDay_succ _ _ (Nat.le_add_right _ _), not_or, ← passed]
      constructor
      · intro none
        have before : days = 0 := by omega
        exact ⟨before, (begins before).mp none⟩
      · rintro ⟨before, notBegun⟩
        exact (begins before).mpr notBegun

end Days

/-- A clock that shows a moment shows the one some seconds later, up to the end of 2099, exactly
when no 29th of February began in between. -/
theorem calendar_iff {rtc : CanixRtc} {moment : Nat} (shows_ : Shows rtc.clock moment)
    (seconds : Nat) (range : moment + seconds < endOfRange) :
    Shows (canixUpdateDatetime^[seconds] rtc).clock (moment + seconds) ↔
      ¬ PassesLeapDay moment (moment + seconds) := by
  obtain ⟨days, ahead, passed⟩ := (ahead_of_shows shows_).run seconds range.le
  rw [shows_iff_ahead ahead, passed]

/-- The first of January of the year 2001, a Monday. -/
theorem newYear_shows :
    Shows { canixRtcInit.clock with dayOfWeek := 1, dayOfMonth := 1, monthOfYear := 1, year := 1 }
      (730851 * 86400) where
  date := by
    refine ⟨⟨2001, 1, 1, by decide, by decide, by decide⟩, ⟨rfl, rfl, rfl⟩, ?_⟩
    have years := yearStart_eq 2001
    have january := monthStart_one 2001
    simp only [Date.number]
    omega
  dayOfWeek := by decide
  time := ⟨by decide, by decide, by decide⟩
  second := by decide

theorem calendar_iff_newYear :
    Shows (canixUpdateDatetime^[1] ⟨{ canixRtcInit.clock with
        dayOfWeek := 1, dayOfMonth := 1, monthOfYear := 1, year := 1 }, 255⟩).clock
        (730851 * 86400 + 1) ↔
      ¬ PassesLeapDay (730851 * 86400) (730851 * 86400 + 1) :=
  calendar_iff newYear_shows 1 (by unfold endOfRange; rw [yearStart_eq]; decide)

/-- After the last second of the 28th of February 2000 the clock shows the first of March. -/
theorem leapDay_left_out :
    Shows ⟨1, 23, 59, 59, 28, 2, 0⟩ (730543 * 86400 + 86399) ∧
      730543 * 86400 + 86399 + 1 < endOfRange ∧
      ¬ Shows (canixUpdateDatetime ⟨⟨1, 23, 59, 59, 28, 2, 0⟩, 0⟩).clock
        (730543 * 86400 + 86399 + 1) := by
  refine ⟨⟨⟨⟨2000, 2, 28, by decide, by decide, by decide⟩, ⟨rfl, rfl, rfl⟩, ?_⟩, by decide,
    ⟨by decide, by decide, by decide⟩, by decide⟩, ?_, ?_⟩
  · have january : monthStart 2000 2 = 31 := by decide
    have years := yearStart_eq 2000
    simp only [Date.number]
    omega
  · unfold endOfRange
    rw [yearStart_eq]
    decide
  · rintro ⟨⟨date, reads, number⟩, -, -, -⟩
    have year : 2000 = date.year := reads.year
    have month : 3 = date.month := reads.month
    have day : 1 = date.day := reads.day
    have february : monthStart 2000 3 = 60 := by decide
    unfold Date.number at number
    rw [← year, ← month, ← day, yearStart_eq, february] at number
    exact absurd number (by decide)

end Hcan.Canix
