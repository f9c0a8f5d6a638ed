import Hcan.Hauselektrik.Power
import Hcan.Library.Cyclic

/-!
# The times of the zones

A zone covers a closed interval of minutes of the day, which may lead over midnight, on some
weekdays.  The automations ask for zones by their group, and the first one of the device table
with the group answers.
-/

namespace Hcan.Hauselektrik

open Hcan.Canix Hcan.Controller Hcan.Library

variable {mcu : Mcu}

/-- A time of day as its minute. -/
def minuteOfDay (hour minute : UInt8) : ℕ := hour.toNat * 60 + minute.toNat

theorem minuteOfDay_lt {hour minute : UInt8} (hours : hour < 24) (minutes : minute < 60) :
    minuteOfDay hour minute < 1440 := by
  have most : hour.toNat < 24 := hours
  have least : minute.toNat < 60 := minutes
  unfold minuteOfDay
  omega

namespace EdsZeitzoneBlock

/-- The times of the zone are times of a day. -/
structure Valid (zone : EdsZeitzoneBlock) : Prop where
  fromHour : zone.fromHour < 24
  fromMinute : zone.fromMinute < 60
  toHour : zone.toHour < 24
  toMinute : zone.toMinute < 60

/-- The zone covers the time of the clock. -/
def Covers (zone : EdsZeitzoneBlock) (clock : RtcClock) : Prop :=
  zone.dayPattern.toNat.testBit clock.dayOfWeek.toNat = true ∧
    InCyclic 1440 (minuteOfDay zone.fromHour zone.fromMinute)
      (minuteOfDay zone.toHour zone.toMinute) (minuteOfDay clock.hour clock.minute)

/-- `time_matches` with the values of a zone. -/
def timeMatch (zone : EdsZeitzoneBlock) (clock : RtcClock) : Bool :=
  timeMatches clock zone.fromHour zone.fromMinute zone.toHour zone.toMinute zone.dayPattern

/-- The comparisons of the code are those of the interval. -/
theorem timeMatch_iff {zone : EdsZeitzoneBlock} (valid : zone.Valid) {clock : RtcClock}
    (hours : clock.hour < 24) (minutes : clock.minute < 60) :
    zone.timeMatch clock = true ↔ zone.Covers clock := by
  have shifted := inCyclic_iff_shifted (minuteOfDay_lt valid.fromHour valid.fromMinute)
    (minuteOfDay_lt valid.toHour valid.toMinute) (minuteOfDay_lt hours minutes)
  unfold Covers
  rw [shifted, ← and_assoc]
  unfold timeMatch timeMatches
  rw [Bool.and_eq_true, Bool.and_eq_true, decide_eq_true_iff, decide_eq_true_iff]
  rfl

end EdsZeitzoneBlock

/-- The first zone of the device table that has the group. -/
def IsFirstZone (devices : List Device) (group : UInt8) (p : DeviceDataZeitzone) : Prop :=
  p.config.gruppe = group ∧ ∃ front back, devices = front ++ .zeitzone p :: back ∧
    ∀ q, .zeitzone q ∈ front → q.config.gruppe ≠ group

/-- What `time_matches` and `zeitzone_matches` answer on a board. -/
structure MatchesTimes (b : Board mcu) (group : UInt8) : Prop where
  time : ∀ zone : EdsZeitzoneBlock, zone.Valid →
    (zone.timeMatch b.clock = true ↔ zone.Covers b.clock)
  first : ∀ p, IsFirstZone b.devices group p → zeitzoneMatches b group = p.config.timeMatch b.clock
  none_ : (∀ p, .zeitzone p ∈ b.devices → p.config.gruppe ≠ group) → zeitzoneMatches b group = false

/-- The test of one record. -/
def zoneOf (group : UInt8) : Device → Option DeviceDataZeitzone
  | .zeitzone p => if p.config.gruppe = group then some p else none
  | _ => none

theorem zoneOf_eq_some_iff {group : UInt8} {device : Device} {p : DeviceDataZeitzone} :
    zoneOf group device = some p ↔ device = .zeitzone p ∧ p.config.gruppe = group := by
  constructor
  · intro found
    unfold zoneOf at found
    split at found
    case h_1 q =>
      split at found
      case isTrue own =>
        cases found
        exact ⟨rfl, own⟩
      case isFalse => cases found
    case h_2 => cases found
  · rintro ⟨rfl, own⟩
    exact if_pos own

/-- No zone of these records has the group. -/
theorem findSome_zoneOf_none {devices : List Device} {group : UInt8}
    (apart : ∀ p, .zeitzone p ∈ devices → p.config.gruppe ≠ group) :
    devices.findSome? (zoneOf group) = none := by
  refine List.findSome?_eq_none_iff.mpr fun device inside => ?_
  cases found : zoneOf group device with
  | none => rfl
  | some p =>
      obtain ⟨rfl, own⟩ := zoneOf_eq_some_iff.mp found
      exact absurd own (apart p inside)

theorem findSome_zoneOf_first {devices : List Device} {group : UInt8} {p : DeviceDataZeitzone}
    (first : IsFirstZone devices group p) : devices.findSome? (zoneOf group) = some p := by
  obtain ⟨own, front, back, rfl, apart⟩ := first
  rw [List.findSome?_append, findSome_zoneOf_none apart, Option.none_or,
    List.findSome?_cons_of_isSome (by rw [zoneOf_eq_some_iff.mpr ⟨rfl, own⟩]; rfl)]
  exact zoneOf_eq_some_iff.mpr ⟨rfl, own⟩

/-- The loop of `zeitzone_matches` ends at the zone that is found. -/
theorem zeitzoneMatches_eq (b : Board mcu) (group : UInt8) : zeitzoneMatches b group =
    match b.devices.findSome? (zoneOf group) with
    | some p => p.config.timeMatch b.clock
    | none => false := by
  unfold zeitzoneMatches
  dsimp only
  congr 1

/-- On every board with a valid time of day a zone matches exactly when it covers the time, and
the first zone with the group answers for it. -/
theorem zeitzone_matches_times {b : Board mcu} (hours : b.clock.hour < 24)
    (minutes : b.clock.minute < 60) (group : UInt8) : MatchesTimes b group := by
  refine ⟨fun zone valid => EdsZeitzoneBlock.timeMatch_iff valid hours minutes, ?_, ?_⟩
  · intro p first
    rw [zeitzoneMatches_eq, findSome_zoneOf_first first]
  · intro apart
    rw [zeitzoneMatches_eq, findSome_zoneOf_none apart]

/-- A night from 22:00 to 06:00, every day. -/
def nightZone : DeviceDataZeitzone := ⟨⟨3, 255, 22, 0, 6, 0⟩, 40⟩

/-- A board at five minutes past midnight. -/
def nightBoard : Board atmega32 where
  devices := [.other 1, .zeitzone nightZone]
  ramUsage := 90
  out := Outputs.reset 0 0 0 0
  tasterport _ := false
  eeprom := .powerUp fun _ => 255
  clock := ⟨1, 0, 5, 0, 1, 1, 8⟩
  sent := []

theorem zeitzone_matches_times_night :
    MatchesTimes nightBoard 3 ∧ zeitzoneMatches nightBoard 3 = true :=
  ⟨zeitzone_matches_times (by decide) (by decide) 3, by decide⟩

end Hcan.Hauselektrik
