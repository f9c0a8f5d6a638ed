import Hcan.Canix.Rts
import Hcan.Library.Machine
import Hcan.Library.Gregorian

/-!
# The clock of CANIX

Once a second the clock goes on; the RTS frames set the time and the date as they come.  Every
overflow is seen by a comparison for equality, so the fields stay in range only as long as the
frames that are taken over carry fields in range.  The months have the lengths of a common year:
the clock leaves out every 29th of February and is a day ahead from then on.
-/

namespace Hcan.Canix

open Hcan.Controller Hcan.Library Hcan.Library.Gregorian

/-- `ndays` of `canix_update_datetime`. -/
def ndays (month : UInt8) : UInt8 :=
  if month = 1 then 31
  else if month = 2 then 28
  else if month = 3 then 31
  else if month = 4 then 30
  else if month = 5 then 31
  else if month = 6 then 30
  else if month = 7 then 31
  else if month = 8 then 31
  else if month = 9 then 30
  else if month = 10 then 31
  else if month = 11 then 30
  else if month = 12 then 31
  else 0

/-- The new day in `canix_update_datetime`. -/
def updateDay (clock : RtcClock) : RtcClock :=
  let clock := { clock with
    dayOfWeek := if clock.dayOfWeek + 1 = 8 then 1 else clock.dayOfWeek + 1
    dayOfMonth := clock.dayOfMonth + 1 }
  if ndays clock.monthOfYear < clock.dayOfMonth then
    if 12 < clock.monthOfYear + 1 then
      { clock with dayOfMonth := 1, monthOfYear := 1, year := clock.year + 1 }
    else { clock with dayOfMonth := 1, monthOfYear := clock.monthOfYear + 1 }
  else clock

/-- `canix_update_datetime`. -/
def canixUpdateDatetime (rtc : CanixRtc) : CanixRtc :=
  if rtc.clock.second + 1 = 60 then
    if rtc.clock.minute + 1 = 60 then
      let lastDateUpdate :=
        if rtc.lastDateUpdate < 255 then rtc.lastDateUpdate + 1 else rtc.lastDateUpdate
      if rtc.clock.hour + 1 = 24 then
        ⟨updateDay { rtc.clock with second := 0, minute := 0, hour := 0 }, lastDateUpdate⟩
      else
        ⟨{ rtc.clock with second := 0, minute := 0, hour := rtc.clock.hour + 1 }, lastDateUpdate⟩
    else { rtc with clock := { rtc.clock with second := 0, minute := rtc.clock.minute + 1 } }
  else { rtc with clock := { rtc.clock with second := rtc.clock.second + 1 } }

section Second

variable {rtc : CanixRtc}

theorem field_succ {field : UInt8} (below : field.toNat < 255) :
    (field + 1).toNat = field.toNat + 1 := by
  rw [UInt8.toNat_add]
  exact Nat.mod_eq_of_lt (Nat.succ_lt_succ below)

theorem field_succ_eq {field limit : UInt8} (below : field.toNat < 255) :
    field + 1 = limit ↔ field.toNat + 1 = limit.toNat := by
  rw [← UInt8.toNat_inj, field_succ below]

theorem field_succ_lt {field limit : UInt8} (below : field < limit) (open_ : field + 1 ≠ limit) :
    field + 1 < limit := by
  have bound : field.toNat < limit.toNat := below
  have size := UInt8.toNat_lt limit
  rw [Ne, field_succ_eq (by omega)] at open_
  rw [UInt8.lt_iff_toNat_lt, field_succ (by omega)]
  omega

/-- What a second does to the time of day; the date changes at midnight only. -/
theorem update_cases (time : ValidTime rtc.clock.hour rtc.clock.minute rtc.clock.second) :
    (∃ hour minute second,
      (canixUpdateDatetime rtc).clock =
        { rtc.clock with hour := hour, minute := minute, second := second } ∧
      ValidTime hour minute second ∧
      secondOfDay hour minute second =
        secondOfDay rtc.clock.hour rtc.clock.minute rtc.clock.second + 1) ∨
    (secondOfDay rtc.clock.hour rtc.clock.minute rtc.clock.second = 86399 ∧
      (canixUpdateDatetime rtc).clock =
        updateDay { rtc.clock with second := 0, minute := 0, hour := 0 }) := by
  have hours : rtc.clock.hour.toNat < 24 := time.1
  have minutes : rtc.clock.minute.toNat < 60 := time.2.1
  have seconds : rtc.clock.second.toNat < 60 := time.2.2
  have zero : (0 : UInt8).toNat = 0 := rfl
  unfold canixUpdateDatetime
  by_cases secondOver : rtc.clock.second + 1 = 60
  · rw [if_pos secondOver]
    have lastSecond : rtc.clock.second.toNat + 1 = 60 := (field_succ_eq (by omega)).mp secondOver
    by_cases minuteOver : rtc.clock.minute + 1 = 60
    · rw [if_pos minuteOver]
      have lastMinute : rtc.clock.minute.toNat + 1 = 60 :=
        (field_succ_eq (by omega)).mp minuteOver
      by_cases hourOver : rtc.clock.hour + 1 = 24
      · have lastHour : rtc.clock.hour.toNat + 1 = 24 := (field_succ_eq (by omega)).mp hourOver
        refine Or.inr ⟨?_, by rw [if_pos hourOver]⟩
        unfold secondOfDay
        omega
      · refine Or.inl ⟨rtc.clock.hour + 1, 0, 0, by rw [if_neg hourOver],
          ⟨field_succ_lt time.1 hourOver, by decide, by decide⟩, ?_⟩
        unfold secondOfDay
        rw [field_succ (by omega), zero]
        omega
    · rw [if_neg minuteOver]
      refine Or.inl ⟨rtc.clock.hour, rtc.clock.minute + 1, 0, rfl,
        ⟨time.1, field_succ_lt time.2.1 minuteOver, by decide⟩, ?_⟩
      unfold secondOfDay
      rw [field_succ (by omega), zero]
      omega
  · rw [if_neg secondOver]
    refine Or.inl ⟨rtc.clock.hour, rtc.clock.minute, rtc.clock.second + 1, rfl,
      ⟨time.1, time.2.1, field_succ_lt time.2.2 secondOver⟩, ?_⟩
    unfold secondOfDay
    rw [field_succ (by omega)]
    omega

/-- The months of the clock are those of a common year. -/
theorem ndays_toNat (month : UInt8) : (ndays month).toNat = monthLength 1 month.toNat := by
  have table : ∀ number : Fin 256,
      (ndays (UInt8.ofNat number)).toNat = monthLength 1 number := by decide +kernel
  have entry := table ⟨month.toNat, month.toNat_lt⟩
  rwa [UInt8.ofNat_toNat] at entry

end Second

/-- The date after midnight, by what overflows. -/
theorem updateDay_cases {clock : RtcClock} (month : clock.monthOfYear.toNat ≤ 12)
    (day : clock.dayOfMonth.toNat ≤ 31) :
    (clock.dayOfMonth.toNat < monthLength 1 clock.monthOfYear.toNat ∧
      (updateDay clock).year = clock.year ∧
      (updateDay clock).monthOfYear = clock.monthOfYear ∧
      (updateDay clock).dayOfMonth.toNat = clock.dayOfMonth.toNat + 1) ∨
    (monthLength 1 clock.monthOfYear.toNat ≤ clock.dayOfMonth.toNat ∧
      clock.monthOfYear.toNat < 12 ∧
      (updateDay clock).year = clock.year ∧
      (updateDay clock).monthOfYear.toNat = clock.monthOfYear.toNat + 1 ∧
      (updateDay clock).dayOfMonth = 1) ∨
    (monthLength 1 clock.monthOfYear.toNat ≤ clock.dayOfMonth.toNat ∧
      clock.monthOfYear.toNat = 12 ∧
      (updateDay clock).year = clock.year + 1 ∧
      (updateDay clock).monthOfYear = 1 ∧
      (updateDay clock).dayOfMonth = 1) := by
  have twelve : (12 : UInt8).toNat = 12 := rfl
  have dayUp : (clock.dayOfMonth + 1).toNat = clock.dayOfMonth.toNat + 1 := field_succ (by omega)
  have monthUp : (clock.monthOfYear + 1).toNat = clock.monthOfYear.toNat + 1 :=
    field_succ (by omega)
  unfold updateDay
  dsimp only
  by_cases overflow : ndays clock.monthOfYear < clock.dayOfMonth + 1
  · rw [if_pos overflow]
    rw [UInt8.lt_iff_toNat_lt, ndays_toNat, dayUp] at overflow
    by_cases yearOver : 12 < clock.monthOfYear + 1
    · rw [if_pos yearOver]
      rw [UInt8.lt_iff_toNat_lt, monthUp, twelve] at yearOver
      exact Or.inr (Or.inr ⟨by omega, by omega, rfl, rfl, rfl⟩)
    · rw [if_neg yearOver]
      rw [UInt8.lt_iff_toNat_lt, monthUp, twelve] at yearOver
      exact Or.inr (Or.inl ⟨by omega, by omega, rfl, monthUp, rfl⟩)
  · rw [if_neg overflow]
    rw [UInt8.lt_iff_toNat_lt, ndays_toNat, dayUp] at overflow
    exact Or.inl ⟨by omega, rfl, rfl, dayUp⟩

theorem updateDay_time (clock : RtcClock) :
    (updateDay clock).hour = clock.hour ∧ (updateDay clock).minute = clock.minute ∧
      (updateDay clock).second = clock.second ∧
      (updateDay clock).dayOfWeek =
        if clock.dayOfWeek + 1 = 8 then 1 else clock.dayOfWeek + 1 := by
  unfold updateDay
  dsimp only
  split
  next =>
    split
    next => exact ⟨rfl, rfl, rfl, rfl⟩
    next => exact ⟨rfl, rfl, rfl, rfl⟩
  next => exact ⟨rfl, rfl, rfl, rfl⟩

/-! ## The ranges of the fields -/

/-- The fields of a clock in their ranges. -/
structure InRange (clock : RtcClock) : Prop where
  hour : clock.hour < 24
  minute : clock.minute < 60
  second : clock.second < 60
  dayOfWeek : clock.dayOfWeek ≤ 7
  monthOfYear : clock.monthOfYear ≤ 12
  dayOfMonth :
    clock.dayOfMonth.toNat ≤ monthLength (2000 + clock.year.toNat) clock.monthOfYear.toNat

section Ranges

variable {clock : RtcClock}

theorem InRange.time (inRange : InRange clock) :
    ValidTime clock.hour clock.minute clock.second :=
  ⟨inRange.hour, inRange.minute, inRange.second⟩

theorem inRange_init : InRange canixRtcInit.clock where
  hour := by decide
  minute := by decide
  second := by decide
  dayOfWeek := by decide
  monthOfYear := by decide
  dayOfMonth := by decide

/-- Another valid time of day keeps the ranges. -/
theorem InRange.withTime (inRange : InRange clock) {hour minute second : UInt8}
    (time : ValidTime hour minute second) :
    InRange { clock with hour := hour, minute := minute, second := second } :=
  { inRange with
    hour := time.1
    minute := time.2.1
    second := time.2.2 }

theorem weekday_le {day : UInt8} (inWeek : day ≤ 7) :
    (if day + 1 = 8 then 1 else day + 1) ≤ (7 : UInt8) := by
  have bound : day.toNat ≤ 7 := inWeek
  split
  next => decide
  next notOver =>
    rw [field_succ_eq (by omega)] at notOver
    have limit : (8 : UInt8).toNat = 8 := rfl
    rw [UInt8.le_iff_toNat_le, field_succ (by omega)]
    change _ ≤ 7
    omega

theorem InRange.updateDay (inRange : InRange clock) : InRange (updateDay clock) := by
  have month : clock.monthOfYear.toNat ≤ 12 := inRange.monthOfYear
  have length := monthLength_le (2000 + clock.year.toNat) clock.monthOfYear.toNat
  have day := inRange.dayOfMonth
  have common := monthLength_eq (2000 + clock.year.toNat) clock.monthOfYear.toNat
  have one : (1 : UInt8).toNat = 1 := rfl
  have date : (Canix.updateDay clock).monthOfYear.toNat ≤ 12 ∧
      (Canix.updateDay clock).dayOfMonth.toNat ≤
        monthLength (2000 + (Canix.updateDay clock).year.toNat)
          (Canix.updateDay clock).monthOfYear.toNat := by
    rcases updateDay_cases month (by omega) with
      ⟨inMonth, year, sameMonth, next⟩ | ⟨-, inYear, year, nextMonth, next⟩ |
        ⟨-, -, year, nextMonth, next⟩
    · rw [year, sameMonth, next]
      omega
    · rw [year, nextMonth, next]
      exact ⟨inYear, monthLength_pos _ _ (Nat.succ_pos _) inYear⟩
    · rw [nextMonth, next]
      exact ⟨by decide, monthLength_pos _ 1 (by decide) (by decide)⟩
  obtain ⟨hour, minute, second, dayOfWeek⟩ := updateDay_time clock
  exact
    { hour := hour ▸ inRange.hour
      minute := minute ▸ inRange.minute
      second := second ▸ inRange.second
      dayOfWeek := dayOfWeek ▸ weekday_le inRange.dayOfWeek
      monthOfYear := date.1
      dayOfMonth := date.2 }

end Ranges

theorem InRange.update {rtc : CanixRtc} (inRange : InRange rtc.clock) :
    InRange (canixUpdateDatetime rtc).clock := by
  rcases update_cases inRange.time with ⟨hour, minute, second, clock, time, -⟩ | ⟨-, clock⟩
  · rw [clock]
    exact inRange.withTime time
  · rw [clock]
    have midnight : ValidTime 0 0 0 := ⟨by decide, by decide, by decide⟩
    exact (inRange.withTime midnight).updateDay

/-- What the clock of a node is exposed to. -/
inductive RtcEvent where
  | second
  | frame (frame : CanixFrame)
  deriving DecidableEq

def rtcStep (selfaddr : UInt16) (rtc : CanixRtc) : RtcEvent → CanixRtc
  | .second => canixUpdateDatetime rtc
  | .frame frame => (canixSfpRtsHandler selfaddr rtc frame).1

/-- A time frame that is taken over carries a valid time and a weekday, a date frame a date whose
month has its day. -/
structure FrameFits (rtc : CanixRtc) (frame : CanixFrame) : Prop where
  time : frame.data[1] = hcanRtsTimeInfo → SeenDifferent (timeOffset rtc frame) →
    ValidTime frame.data[4] frame.data[5] frame.data[6] ∧ frame.data[3] ≤ 7
  date : frame.data[1] = hcanRtsDateInfo →
    frame.data[4] ≤ 12 ∧
      frame.data[3].toNat ≤ monthLength (2000 + frame.data[5].toNat) frame.data[4].toNat

def EventFits (rtc : CanixRtc) : RtcEvent → Prop
  | .second => True
  | .frame frame => FrameFits rtc frame

section Frames

variable (selfaddr : UInt16) {rtc : CanixRtc} {frame : CanixFrame}

/-- The clock with the date of a frame. -/
def dated (rtc : CanixRtc) (frame : CanixFrame) : RtcClock :=
  { rtc.clock with
    dayOfMonth := frame.data[3]
    monthOfYear := frame.data[4]
    year := frame.data[5] }

/-- What a frame does to the clock. -/
theorem handler_cases (rtc : CanixRtc) (frame : CanixFrame) :
    (frame.data[1] = hcanRtsTimeInfo ∧ SeenDifferent (timeOffset rtc frame) ∧
      (canixSfpRtsHandler selfaddr rtc frame).1.clock = taken rtc frame) ∨
    (frame.data[1] = hcanRtsDateInfo ∧
      (canixSfpRtsHandler selfaddr rtc frame).1.clock = dated rtc frame) ∨
    ((frame.data[1] = hcanRtsTimeInfo → ¬ SeenDifferent (timeOffset rtc frame)) ∧
      frame.data[1] ≠ hcanRtsDateInfo ∧
      (canixSfpRtsHandler selfaddr rtc frame).1.clock = rtc.clock) := by
  unfold canixSfpRtsHandler
  dsimp only
  by_cases time : frame.data[1] = hcanRtsTimeInfo
  · rw [if_pos time]
    by_cases different : SeenDifferent (timeOffset rtc frame)
    · rw [if_pos ((timesDiffer_iff rtc frame).mpr different)]
      exact Or.inl ⟨time, different, rfl⟩
    · rw [if_neg (mt (timesDiffer_iff rtc frame).mp different)]
      exact Or.inr (Or.inr ⟨fun _ => different, by rw [time]; decide, rfl⟩)
  · rw [if_neg time]
    by_cases date : frame.data[1] = hcanRtsDateInfo
    · rw [if_pos date]
      exact Or.inr (Or.inl ⟨date, rfl⟩)
    · rw [if_neg date]
      refine Or.inr (Or.inr ⟨fun isTime => absurd isTime time, date, ?_⟩)
      split
      next => rfl
      next =>
        split
        next => rfl
        next => rfl

/-- A frame keeps the ranges exactly when it fits. -/
theorem handler_inRange_iff (inRange : InRange rtc.clock) :
    InRange (canixSfpRtsHandler selfaddr rtc frame).1.clock ↔ FrameFits rtc frame := by
  rcases handler_cases selfaddr rtc frame with
    ⟨time, different, clock⟩ | ⟨date, clock⟩ | ⟨notTaken, notDate, clock⟩
  · rw [clock]
    constructor
    · intro next
      exact ⟨fun _ _ => ⟨next.time, next.dayOfWeek⟩,
        fun date => absurd (time.symm.trans date) (by decide)⟩
    · intro fits
      obtain ⟨valid, day⟩ := fits.time time different
      exact { inRange with
        hour := valid.1
        minute := valid.2.1
        second := valid.2.2
        dayOfWeek := day }
  · rw [clock]
    constructor
    · intro next
      exact ⟨fun time => absurd (time.symm.trans date) (by decide),
        fun _ => ⟨next.monthOfYear, next.dayOfMonth⟩⟩
    · intro fits
      obtain ⟨month, day⟩ := fits.date date
      exact { inRange with
        monthOfYear := month
        dayOfMonth := day }
  · rw [clock]
    exact iff_of_true inRange
      ⟨fun time different => absurd different (notTaken time), fun date => absurd date notDate⟩

theorem rtcStep_inRange_iff (event : RtcEvent) (inRange : InRange rtc.clock) :
    InRange (rtcStep selfaddr rtc event).clock ↔ EventFits rtc event := by
  cases event with
  | second => exact iff_of_true inRange.update trivial
  | frame frame => exact handler_inRange_iff selfaddr inRange

end Frames

/-- The fields stay in their ranges in every state of a run exactly when every frame that is taken
over carries fields in range. -/
theorem clock_inRange_iff (selfaddr : UInt16) (events : List RtcEvent) :
    AlwaysHolds (rtcStep selfaddr) (fun rtc => InRange rtc.clock) canixRtcInit events ↔
      AlwaysFits (rtcStep selfaddr) EventFits canixRtcInit events :=
  alwaysHolds_iff inRange_init fun _ event inRange => rtcStep_inRange_iff selfaddr event inRange

/-- A time frame with the hour 25 is taken over. -/
theorem hour_outOfRange :
    ¬ AlwaysHolds (rtcStep 5) (fun rtc => InRange rtc.clock) canixRtcInit
      [.frame ⟨0x1be, 0x400, hcanProtoSfp, 7, #v[6, 1, 3, 1, 25, 0, 0, 0]⟩] := by
  intro always
  have hour := (always _ (List.prefix_refl _)).hour
  exact absurd hour (by decide)

end Hcan.Canix
