import Hcan.Controller.Timeservice
import Mathlib.Algebra.Order.Group.Unbundled.Abs
import Mathlib.Algebra.Order.Ring.Int

/-!
# The time service of CANIX

A node takes the time of a frame over when it differs from its own by more than three seconds.
On the AVR `int` has 16 bits: the seconds of a day are computed modulo 2^16, and `abs` sees the
difference of the two 32-bit times modulo 2^16.  The weekday is taken over with the time only.
-/

namespace Hcan.Canix

open Hcan.Controller

def hcanRtsTimeRequest : UInt8 := 3
def hcanRtsDateRequest : UInt8 := 4

/-- `canix_rtc_clock` with the hours since the last time frame. -/
structure CanixRtc where
  clock : RtcClock
  lastDateUpdate : UInt8
  deriving DecidableEq, Repr

def canixRtcInit : CanixRtc where
  clock :=
    { dayOfWeek := 0, hour := 0, minute := 0, second := 0
      dayOfMonth := 0, monthOfYear := 0, year := 0 }
  lastDateUpdate := 255

/-- `second + minute * 60 + hour * 3600`, computed in `int`. -/
def intTime (hour minute second : UInt8) : Int16 :=
  Int16.ofNat second.toNat + Int16.ofNat minute.toNat * 60 + Int16.ofNat hour.toNat * 3600

/-- `abs` of an `int`; the least value has no positive counterpart. -/
def intAbs (n : Int16) : Int16 := if n < 0 then -n else n

/-- `abs(their_time - our_time) > 3`: the two `int32_t` are cut to `int`. -/
def timesDiffer (ourTime theirTime : Int32) : Bool := 3 < intAbs (theirTime - ourTime).toInt16

/-- `canix_SFP_RTS_handler`: the clock and the answer. -/
def canixSfpRtsHandler (selfaddr : UInt16) (rtc : CanixRtc) (frame : CanixFrame) :
    CanixRtc × Option CanixFrame :=
  let answer (size : UInt8) (data : Vector UInt8 8) : Option CanixFrame :=
    if frame.dst = selfaddr then some ⟨selfaddr, frame.src, hcanProtoSfp, size, data⟩ else none
  if frame.data[1] = hcanRtsTimeInfo then
    let ourTime := (intTime rtc.clock.hour rtc.clock.minute rtc.clock.second).toInt32
    let theirTime := (intTime frame.data[4] frame.data[5] frame.data[6]).toInt32
    let clock := if timesDiffer ourTime theirTime then
        { rtc.clock with
          second := frame.data[6]
          minute := frame.data[5]
          hour := frame.data[4]
          dayOfWeek := frame.data[3] }
      else rtc.clock
    (⟨clock, 0⟩, none)
  else if frame.data[1] = hcanRtsDateInfo then
    ({ rtc with
        clock := { rtc.clock with
          dayOfMonth := frame.data[3]
          monthOfYear := frame.data[4]
          year := frame.data[5] } }, none)
  else if frame.data[1] = hcanRtsTimeRequest then
    (rtc, answer 7 #v[hcanSrvRts, hcanRtsTimeInfo, 0xff, rtc.clock.dayOfWeek, rtc.clock.hour,
      rtc.clock.minute, rtc.clock.second, 0])
  else if frame.data[1] = hcanRtsDateRequest then
    (rtc, answer 6 #v[hcanSrvRts, hcanRtsDateInfo, 0xff, rtc.clock.dayOfMonth,
      rtc.clock.monthOfYear, rtc.clock.year, 0, 0])
  else (rtc, none)

/-- The seconds of the day. -/
def secondOfDay (hour minute second : UInt8) : Int :=
  (second.toNat + minute.toNat * 60 + hour.toNat * 3600 : Nat)

def ValidTime (hour minute second : UInt8) : Prop := hour < 24 ∧ minute < 60 ∧ second < 60

/-- The time of a frame minus the local time. -/
def timeOffset (rtc : CanixRtc) (frame : CanixFrame) : Int :=
  secondOfDay frame.data[4] frame.data[5] frame.data[6] -
    secondOfDay rtc.clock.hour rtc.clock.minute rtc.clock.second

/-- The offset that the handler takes for a difference of more than three seconds. -/
def SeenDifferent (offset : Int) : Prop :=
  3 < offset % 65536 ∧ offset % 65536 < 65533 ∧ offset % 65536 ≠ 32768

section Times

variable {hour minute second : UInt8} {rtc : CanixRtc} {frame : CanixFrame}

theorem secondOfDay_valid (valid : ValidTime hour minute second) :
    0 ≤ secondOfDay hour minute second ∧ secondOfDay hour minute second < 86400 := by
  have hours : hour.toNat < 24 := valid.1
  have minutes : minute.toNat < 60 := valid.2.1
  have seconds : second.toNat < 60 := valid.2.2
  unfold secondOfDay
  omega

theorem intTime_eq (hour minute second : UInt8) :
    intTime hour minute second = Int16.ofInt (secondOfDay hour minute second) := by
  unfold intTime secondOfDay
  push_cast
  rw [Int16.ofInt_add, Int16.ofInt_add, Int16.ofInt_mul, Int16.ofInt_mul, Int16.ofInt_eq_ofNat,
    Int16.ofInt_eq_ofNat, Int16.ofInt_eq_ofNat]
  rfl

theorem intAbs_ofInt (offset : Int) : 3 < intAbs (Int16.ofInt offset) ↔ SeenDifferent offset := by
  have value : (Int16.ofInt offset).toInt = offset.bmod 65536 := Int16.toInt_ofInt
  unfold intAbs SeenDifferent
  rw [Int16.lt_iff_toInt_lt]
  split
  next negative =>
    have below : (Int16.ofInt offset).toInt < 0 := Int16.lt_iff_toInt_lt.mp negative
    rw [Int16.toInt_neg, value]
    rw [value] at below
    change 3 < (-(offset.bmod 65536)).bmod 65536 ↔ _
    simp only [Int.bmod] at below ⊢
    split at below <;> split <;> omega
  next positive =>
    have above : ¬ (Int16.ofInt offset).toInt < 0 :=
      fun below => positive (Int16.lt_iff_toInt_lt.mpr below)
    rw [value] at above ⊢
    change 3 < offset.bmod 65536 ↔ _
    simp only [Int.bmod] at above ⊢
    split at above <;> omega

theorem timesDiffer_iff (rtc : CanixRtc) (frame : CanixFrame) :
    timesDiffer (intTime rtc.clock.hour rtc.clock.minute rtc.clock.second).toInt32
      (intTime frame.data[4] frame.data[5] frame.data[6]).toInt32 = true ↔
        SeenDifferent (timeOffset rtc frame) := by
  unfold timesDiffer timeOffset
  rw [decide_eq_true_iff, Int32.toInt16_sub, Int16.toInt16_toInt32, Int16.toInt16_toInt32,
    intTime_eq, intTime_eq, ← Int16.ofInt_sub]
  exact intAbs_ofInt _

end Times

/-- A frame that carries a valid time. -/
structure CarriesTime (frame : CanixFrame) : Prop where
  command : frame.data[1] = hcanRtsTimeInfo
  time : ValidTime frame.data[4] frame.data[5] frame.data[6]

section Handler

variable (selfaddr : UInt16) {rtc : CanixRtc} {frame : CanixFrame}

/-- The clock with the time and the weekday of a frame. -/
def taken (rtc : CanixRtc) (frame : CanixFrame) : RtcClock :=
  { rtc.clock with
    second := frame.data[6]
    minute := frame.data[5]
    hour := frame.data[4]
    dayOfWeek := frame.data[3] }

theorem handler_different (carries : CarriesTime frame)
    (different : SeenDifferent (timeOffset rtc frame)) :
    (canixSfpRtsHandler selfaddr rtc frame).1.clock = taken rtc frame := by
  unfold canixSfpRtsHandler
  dsimp only
  rw [if_pos carries.command, if_pos ((timesDiffer_iff rtc frame).mpr different)]
  rfl

theorem handler_same (carries : CarriesTime frame)
    (same : ¬ SeenDifferent (timeOffset rtc frame)) :
    (canixSfpRtsHandler selfaddr rtc frame).1.clock = rtc.clock := by
  unfold canixSfpRtsHandler
  dsimp only
  rw [if_pos carries.command, if_neg (mt (timesDiffer_iff rtc frame).mp same)]

/-- The hour, the minute and the second follow the frame when the times differ by more than three
seconds, and stay otherwise. -/
def FollowsTime (rtc : CanixRtc) (frame : CanixFrame) (next : RtcClock) : Prop :=
  (3 < |timeOffset rtc frame| →
    next.hour = frame.data[4] ∧ next.minute = frame.data[5] ∧ next.second = frame.data[6]) ∧
  (|timeOffset rtc frame| ≤ 3 →
    next.hour = rtc.clock.hour ∧ next.minute = rtc.clock.minute ∧
      next.second = rtc.clock.second)

/-- A valid local clock follows a time frame exactly when the times of day are not 32768 seconds
and not 65533 to 65539 seconds apart. -/
theorem followsTime_iff
    (localTime : ValidTime rtc.clock.hour rtc.clock.minute rtc.clock.second)
    (carries : CarriesTime frame) :
    FollowsTime rtc frame (canixSfpRtsHandler selfaddr rtc frame).1.clock ↔
      |timeOffset rtc frame| ≠ 32768 ∧
        ¬ (65533 ≤ |timeOffset rtc frame| ∧ |timeOffset rtc frame| ≤ 65539) := by
  have here := secondOfDay_valid localTime
  have there := secondOfDay_valid carries.time
  have range : -86400 < timeOffset rtc frame ∧ timeOffset rtc frame < 86400 := by
    unfold timeOffset
    omega
  by_cases different : SeenDifferent (timeOffset rtc frame)
  · rw [handler_different selfaddr carries different]
    unfold SeenDifferent at different
    constructor
    · intro _
      rw [abs_eq_max_neg]
      omega
    · intro _
      refine ⟨fun _ => ⟨rfl, rfl, rfl⟩, fun near => ?_⟩
      rw [abs_eq_max_neg] at near
      omega
  · rw [handler_same selfaddr carries different]
    unfold SeenDifferent at different
    constructor
    · intro follows
      have near : |timeOffset rtc frame| ≤ 3 := by
        by_contra far
        obtain ⟨hour, minute, second⟩ := follows.1 (not_le.mp far)
        have zero : timeOffset rtc frame = 0 := by
          unfold timeOffset
          rw [hour, minute, second, Int.sub_self]
        rw [zero] at far
        exact far (by decide)
      omega
    · intro apart
      refine ⟨fun far => ?_, fun _ => ⟨rfl, rfl, rfl⟩⟩
      rw [abs_eq_max_neg] at far apart
      omega

end Handler

/-- The times 00:00:00 and 18:12:16 are 65536 seconds apart. -/
theorem followsTime_iff_midnight :
    FollowsTime canixRtcInit ⟨0x1be, 0x400, hcanProtoSfp, 7, #v[6, 1, 3, 1, 18, 12, 16, 0]⟩
        (canixSfpRtsHandler 5 canixRtcInit
          ⟨0x1be, 0x400, hcanProtoSfp, 7, #v[6, 1, 3, 1, 18, 12, 16, 0]⟩).1.clock ↔
      |timeOffset canixRtcInit ⟨0x1be, 0x400, hcanProtoSfp, 7, #v[6, 1, 3, 1, 18, 12, 16, 0]⟩| ≠
          32768 ∧
        ¬ (65533 ≤ |timeOffset canixRtcInit
            ⟨0x1be, 0x400, hcanProtoSfp, 7, #v[6, 1, 3, 1, 18, 12, 16, 0]⟩| ∧
          |timeOffset canixRtcInit
            ⟨0x1be, 0x400, hcanProtoSfp, 7, #v[6, 1, 3, 1, 18, 12, 16, 0]⟩| ≤ 65539) :=
  followsTime_iff 5 ⟨by decide, by decide, by decide⟩ ⟨rfl, by decide, by decide, by decide⟩

/-- A clock at 00:00:00 does not follow a frame with 18:12:16. -/
theorem midnight_keeps_time :
    ValidTime canixRtcInit.clock.hour canixRtcInit.clock.minute canixRtcInit.clock.second ∧
      CarriesTime ⟨0x1be, 0x400, hcanProtoSfp, 7, #v[6, 1, 3, 1, 18, 12, 16, 0]⟩ ∧
      ¬ FollowsTime canixRtcInit ⟨0x1be, 0x400, hcanProtoSfp, 7, #v[6, 1, 3, 1, 18, 12, 16, 0]⟩
        (canixSfpRtsHandler 5 canixRtcInit
          ⟨0x1be, 0x400, hcanProtoSfp, 7, #v[6, 1, 3, 1, 18, 12, 16, 0]⟩).1.clock := by
  refine ⟨⟨by decide, by decide, by decide⟩, ⟨rfl, by decide, by decide, by decide⟩, ?_⟩
  intro follows
  obtain ⟨hour, -, -⟩ := follows.1 (by decide)
  exact absurd hour (by decide)

/-! ## The moment of the week -/

/-- The seconds since the start of the week, with Monday as day 1. -/
def secondOfWeek (day hour minute second : UInt8) : Int :=
  ((day.toNat : Int) - 1) * 86400 + secondOfDay hour minute second

def ValidDay (day : UInt8) : Prop := 1 ≤ day ∧ day ≤ 7

/-- The clock denotes a moment of the week that is at most three seconds from the frame's one,
cyclically over the week. -/
def FollowsWeek (frame : CanixFrame) (clock : RtcClock) : Prop :=
  ValidDay clock.dayOfWeek ∧ ValidTime clock.hour clock.minute clock.second ∧
    ((secondOfWeek clock.dayOfWeek clock.hour clock.minute clock.second -
        secondOfWeek frame.data[3] frame.data[4] frame.data[5] frame.data[6] + 3) % 604800 ≤ 6)

section Week

variable (selfaddr : UInt16) (rtc : CanixRtc) {frame : CanixFrame}

/-- A clock that was taken over denotes the frame's moment. -/
theorem taken_followsWeek (carries : CarriesTime frame) (day : ValidDay frame.data[3]) :
    FollowsWeek frame (taken rtc frame) := by
  refine ⟨day, carries.time, ?_⟩
  unfold taken
  dsimp only
  omega

theorem weekdays_apart {day other : UInt8} (valid : ValidDay day) (otherValid : ValidDay other) :
    -6 ≤ (day.toNat - other.toNat : Int) ∧ (day.toNat - other.toNat : Int) ≤ 6 := by
  have first : 1 ≤ day.toNat := valid.1
  have last : day.toNat ≤ 7 := valid.2
  have otherFirst : 1 ≤ other.toNat := otherValid.1
  have otherLast : other.toNat ≤ 7 := otherValid.2
  omega

/-- Moments that are close while the handler sees the times agree lie on the same day: around
midnight the times of day differ by almost a day, which the handler sees. -/
theorem sameDay {days offset : Int} (week : -6 ≤ days ∧ days ≤ 6)
    (range : -86400 < offset ∧ offset < 86400) (same : ¬ SeenDifferent offset)
    (close : (days * 86400 - offset + 3) % 604800 ≤ 6) : days = 0 ∧ |offset| ≤ 3 := by
  have offsets : (-3 ≤ offset ∧ offset ≤ 3) ∨ offset = 32768 ∨ offset = -32768 ∨
      (65533 ≤ offset ∧ offset ≤ 65539) ∨ (-65539 ≤ offset ∧ offset ≤ -65533) := by
    unfold SeenDifferent at same
    omega
  rw [abs_eq_max_neg]
  rcases offsets with near | forward | backward | forward | backward <;> omega

/-- A clock that stays denotes a moment close to the frame's one exactly when it had the frame's
weekday and about its time before. -/
theorem kept_followsWeek_iff (carries : CarriesTime frame) (day : ValidDay frame.data[3])
    (same : ¬ SeenDifferent (timeOffset rtc frame)) :
    FollowsWeek frame rtc.clock ↔
      ValidTime rtc.clock.hour rtc.clock.minute rtc.clock.second ∧
        |timeOffset rtc frame| ≤ 3 ∧ rtc.clock.dayOfWeek = frame.data[3] := by
  constructor
  · rintro ⟨localDay, localTime, close⟩
    have here := secondOfDay_valid localTime
    have there := secondOfDay_valid carries.time
    have apart : ((rtc.clock.dayOfWeek.toNat - frame.data[3].toNat : Int) * 86400 -
        timeOffset rtc frame + 3) % 604800 ≤ 6 := by
      unfold secondOfWeek at close
      unfold timeOffset
      rw [show ∀ a b c d : Int, (a - b) * 86400 - (d - c) + 3 =
        (a - 1) * 86400 + c - ((b - 1) * 86400 + d) + 3 from fun _ _ _ _ => by omega]
      exact close
    have near := sameDay (weekdays_apart localDay day) (by unfold timeOffset; omega) same apart
    exact ⟨localTime, near.2, UInt8.toNat_inj.mp (by omega)⟩
  · rintro ⟨localTime, near, days⟩
    refine ⟨days ▸ day, localTime, ?_⟩
    rw [abs_eq_max_neg] at near
    unfold timeOffset at near
    unfold secondOfWeek
    rw [days]
    omega

/-- A clock follows the week of a time frame exactly when the handler sees the times differ, or
when they agree and the weekdays agreed before. -/
theorem followsWeek_iff (carries : CarriesTime frame) (day : ValidDay frame.data[3]) :
    FollowsWeek frame (canixSfpRtsHandler selfaddr rtc frame).1.clock ↔
      SeenDifferent (timeOffset rtc frame) ∨
        (ValidTime rtc.clock.hour rtc.clock.minute rtc.clock.second ∧
          |timeOffset rtc frame| ≤ 3 ∧ rtc.clock.dayOfWeek = frame.data[3]) := by
  by_cases different : SeenDifferent (timeOffset rtc frame)
  · rw [handler_different selfaddr carries different]
    exact iff_of_true (taken_followsWeek rtc carries day) (Or.inl different)
  · rw [handler_same selfaddr carries different, kept_followsWeek_iff rtc carries day different]
    exact (or_iff_right different).symm

end Week

theorem followsWeek_iff_init :
    FollowsWeek ⟨0x1be, 0x400, hcanProtoSfp, 7, #v[6, 1, 3, 1, 0, 0, 2, 0]⟩
        (canixSfpRtsHandler 5 canixRtcInit
          ⟨0x1be, 0x400, hcanProtoSfp, 7, #v[6, 1, 3, 1, 0, 0, 2, 0]⟩).1.clock ↔
      SeenDifferent (timeOffset canixRtcInit
          ⟨0x1be, 0x400, hcanProtoSfp, 7, #v[6, 1, 3, 1, 0, 0, 2, 0]⟩) ∨
        (ValidTime canixRtcInit.clock.hour canixRtcInit.clock.minute canixRtcInit.clock.second ∧
          |timeOffset canixRtcInit
            ⟨0x1be, 0x400, hcanProtoSfp, 7, #v[6, 1, 3, 1, 0, 0, 2, 0]⟩| ≤ 3 ∧
          canixRtcInit.clock.dayOfWeek = (1 : UInt8)) :=
  followsWeek_iff 5 canixRtcInit ⟨rfl, by decide, by decide, by decide⟩ ⟨by decide, by decide⟩

/-- A node that starts on Monday at 00:00:02 stays without a weekday. -/
theorem init_keeps_day :
    CarriesTime ⟨0x1be, 0x400, hcanProtoSfp, 7, #v[6, 1, 3, 1, 0, 0, 2, 0]⟩ ∧
      ValidDay 1 ∧
      ¬ FollowsWeek ⟨0x1be, 0x400, hcanProtoSfp, 7, #v[6, 1, 3, 1, 0, 0, 2, 0]⟩
        (canixSfpRtsHandler 5 canixRtcInit
          ⟨0x1be, 0x400, hcanProtoSfp, 7, #v[6, 1, 3, 1, 0, 0, 2, 0]⟩).1.clock := by
  refine ⟨⟨rfl, by decide, by decide, by decide⟩, ⟨by decide, by decide⟩, ?_⟩
  rintro ⟨⟨first, -⟩, -, -⟩
  exact absurd first (by decide)

end Hcan.Canix
