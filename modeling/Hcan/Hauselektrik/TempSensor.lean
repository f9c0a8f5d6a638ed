import Hcan.Hauselektrik.Dispatch
import Hcan.Hauselektrik.SensorId
import Hcan.Library.Machine

/-!
# The temperature sensor

A measurement is started at 2 and read out at 0 of a counter that goes down by one in every call.
The counter reaches 2 again only from a period of at least 3, and the calls that reject the
identification return before they count and before they restore the pin.
-/

namespace Hcan.Hauselektrik

open Hcan.Canix Hcan.Library

/-- `ow_setpin`: what it stores in `ow_pin`. -/
def owSetpin (pin : UInt8) : UInt8 := 15 - pin

/-- `ow_getpin`. -/
def owGetpin (owPin : UInt8) : UInt8 := 15 - owPin

theorem owSetpin_owGetpin (owPin : UInt8) : owSetpin (owGetpin owPin) = owPin :=
  UInt8.sub_eq_iff_eq_add.mpr ((UInt8.add_comm _ _).trans (UInt8.sub_add_cancel 15 owPin)).symm

def convertT : UInt8 := 0x44
def readScratchpad : UInt8 := 0xBE

/-- A call of `ow_command` on a pin. -/
structure OwCommand where
  owPin : UInt8
  cmd : UInt8
  id : List UInt8
  deriving DecidableEq, Repr

/-- A call finds a pin selected, and the sensor answers with two bytes when it is read out. -/
structure SensorTick where
  owPin : UInt8
  low : UInt8
  high : UInt8

/-- What a call leaves behind. -/
structure SensorCall where
  p : DeviceDataTempsensor
  owPin : UInt8
  commands : List OwCommand
  sent : List CanixFrame

namespace DeviceDataTempsensor

/-- `tempsensor_str2id` of the configured text. -/
def str2id (p : DeviceDataTempsensor) : Option (List UInt8) :=
  tempsensorStr2id fun k => p.config.owId.toList.getD k 0

def message (self : UInt16) (p : DeviceDataTempsensor) : CanixFrame :=
  hesFrame self hcanMulticastInfo 5 hcanHes1wireTemperature p.config.gruppe
    (wordHi p.temperature) (wordLo p.temperature) 0 0 0

/-- The end of the handler. -/
def count (p : DeviceDataTempsensor) (old : UInt8) (commands : List OwCommand)
    (sent : List CanixFrame) : SensorCall where
  p := { p with timerCounter := p.timerCounter - 1 }
  owPin := owSetpin old
  commands := commands
  sent := sent

/-- The handler from its second condition on. -/
def readOut (self : UInt16) (tick : SensorTick) (p : DeviceDataTempsensor) (old : UInt8)
    (commands : List OwCommand) : SensorCall :=
  if p.timerCounter = 0 ∧ p.convertSent = true then
    match p.str2id with
    | none => ⟨{ p with convertSent := false }, owSetpin p.config.ioPin, commands, []⟩
    | some id =>
        let p := { p with
          convertSent := false
          temperature := tick.low.toUInt16 ||| (tick.high.toUInt16 <<< 8) }
        count { p with timerCounter := p.config.interval } old
          (commands ++ [⟨owSetpin p.config.ioPin, readScratchpad, id⟩]) [p.message self]
  else count p old commands []

/-- `tempsensor_timer_handler`. -/
def timerHandler (self : UInt16) (tick : SensorTick) (p : DeviceDataTempsensor) : SensorCall :=
  let old := owGetpin tick.owPin
  if p.timerCounter = 2 ∧ p.config.modus ≠ 0 then
    match p.str2id with
    | none => ⟨p, owSetpin p.config.ioPin, [], []⟩
    | some id =>
        readOut self tick { p with convertSent := true } old
          [⟨owSetpin p.config.ioPin, convertT, id⟩]
  else readOut self tick p old []

end DeviceDataTempsensor

/-- The sensor with the calls since the last frame. -/
structure SensorRun where
  p : DeviceDataTempsensor
  since : Option ℕ

namespace SensorRun

def init (config : EdsTempsensorBlock) : SensorRun := ⟨tempsensorInit config, none⟩

/-- A call sends a temperature. -/
def Measured (call : SensorCall) : Prop :=
  ∃ frame ∈ call.sent, frame.data[1] = hcanHes1wireTemperature

instance instDecidableMeasured (call : SensorCall) : Decidable (Measured call) :=
  inferInstanceAs (Decidable (∃ frame ∈ call.sent, frame.data[1] = hcanHes1wireTemperature))

def step (self : UInt16) (s : SensorRun) (tick : SensorTick) : SensorRun :=
  let call := s.p.timerHandler self tick
  ⟨call.p, if Measured call then some 0 else s.since.map (· + 1)⟩

/-- The sensor behind calls without a frame. -/
def waiting (s : SensorRun) (calls : ℕ) (counter : UInt8) (sent : Bool) : SensorRun :=
  ⟨{ s.p with timerCounter := counter, convertSent := sent }, s.since.map (· + calls)⟩

/-- A call restores the pin and counts, and behind the first frame an active sensor with an accepted
identification sends one in each period. -/
structure StepRight (src : UInt16) (s : SensorRun) (tick : SensorTick) : Prop where
  pin : (s.p.timerHandler src tick).owPin = tick.owPin
  counts : (s.p.timerHandler src tick).p.timerCounter =
    (if Measured (s.p.timerHandler src tick) then s.p.config.interval else s.p.timerCounter) - 1
  period : s.p.config.modus ≠ 0 → s.p.str2id.isSome → ∀ passed ∈ s.since,
    Measured (s.p.timerHandler src tick) ↔ passed + 1 = s.p.config.interval.toNat

/-! ## What a call does -/

section Steps

variable {self : UInt16} {s : SensorRun} {tick : SensorTick} {p : DeviceDataTempsensor}
  {old : UInt8} {commands : List OwCommand}

theorem not_measured_count : ¬ Measured (p.count old commands []) := by
  rintro ⟨frame, inside, -⟩
  cases inside

theorem measured_count :
    Measured (p.count old commands [p.message self]) := ⟨_, List.mem_singleton_self _, rfl⟩

/-- A call that neither starts nor reads a measurement. -/
theorem timerHandler_idle (starts : ¬ (p.timerCounter = 2 ∧ p.config.modus ≠ 0))
    (reads : ¬ (p.timerCounter = 0 ∧ p.convertSent = true)) :
    p.timerHandler self tick = p.count (owGetpin tick.owPin) [] [] := by
  unfold DeviceDataTempsensor.timerHandler DeviceDataTempsensor.readOut
  rw [if_neg starts, if_neg reads]

/-- A call that starts a measurement. -/
theorem timerHandler_start (two : p.timerCounter = 2) (active : p.config.modus ≠ 0)
    {id : List UInt8} (accepted : p.str2id = some id) :
    p.timerHandler self tick = ({ p with convertSent := true } : DeviceDataTempsensor).count
      (owGetpin tick.owPin) [⟨owSetpin p.config.ioPin, convertT, id⟩] [] := by
  have later : ¬ (p.timerCounter = 0 ∧ true = true) := by
    rw [two]
    decide
  unfold DeviceDataTempsensor.timerHandler DeviceDataTempsensor.readOut
  rw [if_pos ⟨two, active⟩, accepted]
  exact if_neg later

/-- A call that rejects the identification. -/
theorem timerHandler_reject (two : p.timerCounter = 2) (active : p.config.modus ≠ 0)
    (rejected : p.str2id = none) :
    p.timerHandler self tick = ⟨p, owSetpin p.config.ioPin, [], []⟩ := by
  unfold DeviceDataTempsensor.timerHandler
  rw [if_pos ⟨two, active⟩, rejected]

/-- The record with a temperature that is read. -/
def measure (tick : SensorTick) (p : DeviceDataTempsensor) : DeviceDataTempsensor :=
  { p with
    convertSent := false
    temperature := tick.low.toUInt16 ||| (tick.high.toUInt16 <<< 8)
    timerCounter := p.config.interval }

/-- A call that reads a measurement. -/
theorem timerHandler_read (zero : p.timerCounter = 0) (sent : p.convertSent = true)
    {id : List UInt8} (accepted : p.str2id = some id) :
    p.timerHandler self tick = (measure tick p).count (owGetpin tick.owPin)
      [⟨owSetpin p.config.ioPin, readScratchpad, id⟩] [(measure tick p).message self] := by
  have early : ¬ (p.timerCounter = 2 ∧ p.config.modus ≠ 0) := by
    rw [zero]
    exact fun both => absurd both.1 (by decide)
  unfold DeviceDataTempsensor.timerHandler DeviceDataTempsensor.readOut
  rw [if_neg early, if_pos ⟨zero, sent⟩, accepted]
  rfl

theorem waiting_waiting (calls more : ℕ) (counter last : UInt8) (sent done : Bool) :
    (s.waiting calls counter sent).waiting more last done = s.waiting (calls + more) last done := by
  unfold waiting
  rw [Option.map_map]
  refine congrArg (fun change => SensorRun.mk _ (s.since.map change)) (funext fun passed => ?_)
  exact Nat.add_assoc passed calls more

theorem step_idle (starts : ¬ (s.p.timerCounter = 2 ∧ s.p.config.modus ≠ 0))
    (reads : ¬ (s.p.timerCounter = 0 ∧ s.p.convertSent = true)) :
    s.step self tick = s.waiting 1 (s.p.timerCounter - 1) s.p.convertSent := by
  unfold step
  rw [timerHandler_idle starts reads]
  dsimp only
  rw [if_neg not_measured_count]
  rfl

theorem step_start (two : s.p.timerCounter = 2) (active : s.p.config.modus ≠ 0)
    (accepted : s.p.str2id.isSome) :
    s.step self tick = s.waiting 1 1 true := by
  obtain ⟨id, accepted⟩ := Option.isSome_iff_exists.mp accepted
  have one : (2 : UInt8) - 1 = 1 := rfl
  unfold step
  rw [timerHandler_start two active accepted]
  dsimp only
  rw [if_neg not_measured_count, DeviceDataTempsensor.count, waiting]
  dsimp only
  rw [two, one]

theorem step_read (zero : s.p.timerCounter = 0) (sent : s.p.convertSent = true)
    (accepted : s.p.str2id.isSome) :
    s.step self tick =
      ⟨{ measure tick s.p with timerCounter := s.p.config.interval - 1 }, some 0⟩ := by
  obtain ⟨id, accepted⟩ := Option.isSome_iff_exists.mp accepted
  unfold step
  rw [timerHandler_read zero sent accepted]
  dsimp only
  rw [if_pos measured_count]
  rfl

end Steps

/-- Between two frames the counter shows how much of the period is left, and a measurement is under
way in its last two seconds. -/
structure OnTime (config : EdsTempsensorBlock) (s : SensorRun) : Prop where
  record : s.p.config = config
  left : ∀ passed ∈ s.since, passed + s.p.timerCounter.toNat + 1 = config.interval.toNat
  under : ∀ passed ∈ s.since, s.p.timerCounter.toNat < 2 → s.p.convertSent = true

section Runs

variable {self : UInt16} {config : EdsTempsensorBlock} {s : SensorRun} {tick : SensorTick}

/-- A call that counts without a frame. -/
theorem stepRight_count {p : DeviceDataTempsensor} {commands : List OwCommand}
    (call : s.p.timerHandler self tick = p.count (owGetpin tick.owPin) commands [])
    (same : p.timerCounter = s.p.timerCounter)
    (early : s.p.config.modus ≠ 0 → ∀ passed ∈ s.since,
      passed + 1 ≠ s.p.config.interval.toNat) : StepRight self s tick := by
  have silent : ¬ Measured (s.p.timerHandler self tick) := by
    rw [call]
    exact not_measured_count
  refine ⟨?_, ?_, fun active _ passed inside => iff_of_false silent (early active passed inside)⟩
  · rw [call]
    exact owSetpin_owGetpin _
  · rw [if_neg silent, call, ← same]
    rfl

/-- A call that reads in time. -/
theorem stepRight_read (zero : s.p.timerCounter = 0) (sent : s.p.convertSent = true)
    (accepted : s.p.str2id.isSome)
    (due : ∀ passed ∈ s.since, passed + 1 = s.p.config.interval.toNat) :
    StepRight self s tick := by
  obtain ⟨id, parsed⟩ := Option.isSome_iff_exists.mp accepted
  have call : s.p.timerHandler self tick = _ := timerHandler_read zero sent parsed
  have speaks : Measured (s.p.timerHandler self tick) := by
    rw [call]
    exact measured_count
  refine ⟨?_, ?_, fun _ _ passed inside => iff_of_true speaks (due passed inside)⟩
  · rw [call]
    exact owSetpin_owGetpin _
  · rw [if_pos speaks, call]
    rfl

/-- A sensor that is switched off only counts. -/
theorem stepRight_off (off : s.p.config.modus = 0) (waits : s.p.convertSent = false) :
    StepRight self s tick ∧ (s.step self tick).p.config.modus = 0 ∧
      (s.step self tick).p.convertSent = false := by
  have starts : ¬ (s.p.timerCounter = 2 ∧ s.p.config.modus ≠ 0) := fun both => both.2 off
  have reads : ¬ (s.p.timerCounter = 0 ∧ s.p.convertSent = true) := fun both =>
    Bool.false_ne_true (waits.symm.trans both.2)
  refine ⟨stepRight_count (timerHandler_idle starts reads) rfl (absurd off), ?_⟩
  rw [step_idle starts reads]
  exact ⟨off, waits⟩

theorem toNat_pred {c : UInt8} (positive : c ≠ 0) : (c - 1).toNat + 1 = c.toNat := by
  have least : 1 ≤ c.toNat := Nat.pos_of_ne_zero fun zero => positive (UInt8.toNat_inj.mp zero)
  rw [uint8_toNat_pred positive]
  exact Nat.sub_add_cancel least

/-- A call that starts a measurement has two more seconds to the frame. -/
theorem onTime_start (onTime : OnTime config s) (two : s.p.timerCounter = 2)
    (active : s.p.config.modus ≠ 0) (accepted : s.p.str2id.isSome) :
    StepRight self s tick ∧ OnTime config (s.step self tick) := by
  have left {passed : ℕ} (inside : passed ∈ s.since) : passed + 3 = config.interval.toNat := by
    have here := onTime.left passed inside
    rw [two] at here
    exact here
  obtain ⟨id, parsed⟩ := Option.isSome_iff_exists.mp accepted
  constructor
  · refine stepRight_count (timerHandler_start two active parsed) rfl fun _ passed inside => ?_
    rw [onTime.record, ← left inside]
    omega
  · rw [step_start two active accepted]
    refine ⟨onTime.record, fun later inside => ?_, fun _ _ _ => rfl⟩
    obtain ⟨passed, before, rfl⟩ := Option.map_eq_some_iff.mp inside
    rw [← left before]
    rfl

/-- A call that reads a measurement is due, and loads the counter for a measurement to come. -/
theorem onTime_read (onTime : OnTime config s) (zero : s.p.timerCounter = 0)
    (sent : s.p.convertSent = true) (accepted : s.p.str2id.isSome)
    (long : 3 ≤ config.interval.toNat) :
    StepRight self s tick ∧ OnTime config (s.step self tick) := by
  constructor
  · refine stepRight_read zero sent accepted fun passed inside => ?_
    rw [onTime.record, ← onTime.left passed inside, zero]
    rfl
  · have positive : config.interval ≠ 0 := by
      intro none
      rw [none] at long
      exact absurd long (by decide)
    have pred := toNat_pred positive
    rw [step_read zero sent accepted, onTime.record]
    refine ⟨onTime.record, fun later inside => ?_, fun later inside few => ?_⟩
    · rw [← Option.some.inj inside, Nat.zero_add]
      exact pred
    · change (config.interval - 1).toNat < 2 at few
      omega

/-- A call that only counts is not due. -/
theorem onTime_idle (onTime : OnTime config s) (two : s.p.timerCounter ≠ 2)
    (reads : ¬ (s.p.timerCounter = 0 ∧ s.p.convertSent = true)) :
    StepRight self s tick ∧ OnTime config (s.step self tick) := by
  have starts : ¬ (s.p.timerCounter = 2 ∧ s.p.config.modus ≠ 0) := fun both => two both.1
  have pred {passed : ℕ} (inside : passed ∈ s.since) :
      (s.p.timerCounter - 1).toNat + 1 = s.p.timerCounter.toNat := by
    refine toNat_pred fun zero => reads ⟨zero, onTime.under passed inside ?_⟩
    rw [zero]
    decide
  constructor
  · refine stepRight_count (timerHandler_idle starts reads) rfl fun _ passed inside => ?_
    rw [onTime.record, ← onTime.left passed inside, ← pred inside]
    omega
  · rw [step_idle starts reads]
    refine ⟨onTime.record, fun later inside => ?_, fun later inside few => ?_⟩
    · obtain ⟨passed, before, rfl⟩ := Option.map_eq_some_iff.mp inside
      rw [← onTime.left passed before, ← pred before]
      change passed + 1 + (s.p.timerCounter - 1).toNat + 1 = _
      omega
    · obtain ⟨passed, before, -⟩ := Option.map_eq_some_iff.mp inside
      have lower := pred before
      refine onTime.under passed before ?_
      have other : s.p.timerCounter.toNat ≠ 2 := fun same => two (UInt8.toNat_inj.mp same)
      change (s.p.timerCounter - 1).toNat < 2 at few
      omega

/-- With a period of at least 3 a call is right, and the sensor stays on time. -/
theorem onTime_step (active : config.modus ≠ 0) (accepted : (tempsensorInit config).str2id.isSome)
    (long : 3 ≤ config.interval.toNat) (onTime : OnTime config s) :
    StepRight self s tick ∧ OnTime config (s.step self tick) := by
  have active : s.p.config.modus ≠ 0 := onTime.record ▸ active
  have accepted : s.p.str2id.isSome := by
    unfold DeviceDataTempsensor.str2id
    rw [onTime.record]
    exact accepted
  by_cases two : s.p.timerCounter = 2
  · exact onTime_start onTime two active accepted
  · by_cases reads : s.p.timerCounter = 0 ∧ s.p.convertSent = true
    · exact onTime_read onTime reads.1 reads.2 accepted long
    · exact onTime_idle onTime two reads

/-- Without a measurement under way the counter goes down to 2. -/
theorem run_idle (tick : SensorTick) {n : ℕ} (left : (s.p.timerCounter - 2).toNat = n)
    (waits : s.p.convertSent = false) :
    runAll (step self) s (List.replicate n tick) = s.waiting n 2 false := by
  induction n generalizing s with
  | zero =>
      have none : s.p.timerCounter - 2 = 0 := UInt8.toNat_inj.mp left
      have two : s.p.timerCounter = 2 := UInt8.sub_eq_iff_eq_add.mp none
      unfold waiting
      rw [← two, ← waits]
      exact congrArg (SensorRun.mk s.p) Option.map_id'.symm
  | succ n ih =>
      have starts : ¬ (s.p.timerCounter = 2 ∧ s.p.config.modus ≠ 0) := by
        rintro ⟨two, -⟩
        rw [two] at left
        cases left
      have reads : ¬ (s.p.timerCounter = 0 ∧ s.p.convertSent = true) := fun both =>
        Bool.false_ne_true (waits.symm.trans both.2)
      have next : (s.p.timerCounter - 1 - 2).toNat = n := by
        have positive : s.p.timerCounter - 2 ≠ 0 := by
          intro zero
          rw [zero] at left
          cases left
        have pred := toNat_pred positive
        have same : s.p.timerCounter - 1 - 2 = s.p.timerCounter - 2 - 1 := by grind
        rw [same]
        omega
      have later := ih (s := s.waiting 1 (s.p.timerCounter - 1) s.p.convertSent) next waits
      rw [List.replicate_succ, runAll_cons, step_idle starts reads, later, waiting_waiting,
        Nat.add_comm 1 n]

/-- Calls lead a sensor without a measurement to the next one that is read. -/
theorem exists_reads (tick : SensorTick) (active : s.p.config.modus ≠ 0)
    (accepted : s.p.str2id.isSome) (waits : s.p.convertSent = false) :
    ∃ front calls, runAll (step self) s front = s.waiting calls 0 true := by
  let n := (s.p.timerCounter - 2).toNat
  have start : (s.waiting n 2 false).step self tick = s.waiting (n + 1) 1 true :=
    (step_start (s := s.waiting n 2 false) rfl active accepted).trans (waiting_waiting ..)
  have down : (s.waiting (n + 1) 1 true).step self tick = s.waiting (n + 1 + 1) 0 true := by
    rw [step_idle (s := s.waiting (n + 1) 1 true)
      (fun both => absurd both.1 (by decide : (1 : UInt8) ≠ 2))
      fun both => absurd both.1 (by decide : (1 : UInt8) ≠ 0), waiting_waiting]
    exact congrArg (s.waiting (n + 1 + 1) · true) (show (1 : UInt8) - 1 = 0 from rfl)
  refine ⟨List.replicate n tick ++ [tick, tick], n + 1 + 1, ?_⟩
  rw [runAll_append, run_idle tick rfl waits]
  change ((s.waiting n 2 false).step self tick).step self tick = _
  rw [start, down]

/-- A call that is due and reads nothing. -/
theorem not_right_idle (active : s.p.config.modus ≠ 0) (accepted : s.p.str2id.isSome)
    (other : s.p.timerCounter ≠ 2) (waits : s.p.convertSent = false) {passed : ℕ}
    (since : s.since = some passed) (due : passed + 1 = s.p.config.interval.toNat) :
    ¬ StepRight self s tick := by
  intro right
  have speaks := (right.period active accepted passed since).mpr due
  rw [timerHandler_idle (fun both => other both.1) fun both =>
    Bool.false_ne_true (waits.symm.trans both.2)] at speaks
  exact not_measured_count speaks

/-- Without an accepted identification the counter stops at 2. -/
theorem accepted_of_right (tick : SensorTick) (active : config.modus ≠ 0)
    (right : ∀ front, StepRight self (runAll (step self) (init config) front) tick) :
    (tempsensorInit config).str2id.isSome := by
  obtain ⟨n, left⟩ : ∃ n, ((init config).p.timerCounter - 2).toNat = n := ⟨_, rfl⟩
  have here := right (List.replicate n tick)
  rw [run_idle tick left rfl] at here
  cases parsed : (tempsensorInit config).str2id with
  | some id => rfl
  | none =>
      have call : ((init config).waiting n 2 false).p.timerHandler self tick = _ :=
        timerHandler_reject (p := ((init config).waiting n 2 false).p) rfl active parsed
      have counts := here.counts
      rw [call, if_neg] at counts
      · exact absurd (show (2 : UInt8) = 2 - 1 from counts) (by decide)
      · rintro ⟨frame, inside, -⟩
        cases inside

/-- With a shorter period the counter has no 2 left, and goes round. -/
theorem long_of_right (tick : SensorTick) (active : config.modus ≠ 0)
    (accepted : (tempsensorInit config).str2id.isSome)
    (right : ∀ front, StepRight self (runAll (step self) (init config) front) tick) :
    3 ≤ config.interval.toNat := by
  obtain ⟨front, calls, ready⟩ :
      ∃ front calls, runAll (step self) (init config) front = (init config).waiting calls 0 true :=
    exists_reads tick active accepted rfl
  let next : SensorRun :=
    ⟨{ measure tick (tempsensorInit config) with timerCounter := config.interval - 1 }, some 0⟩
  have read : runAll (step self) (init config) (front ++ [tick]) = next := by
    rw [runAll_snoc, ready]
    exact step_read rfl rfl accepted
  by_contra short
  obtain zero | one | two : config.interval = 0 ∨ config.interval = 1 ∨ config.interval = 2 := by
    have few : config.interval.toNat = 0 ∨ config.interval.toNat = 1 ∨
      config.interval.toNat = 2 := by omega
    exact few.imp UInt8.toNat_inj.mp (.imp UInt8.toNat_inj.mp UInt8.toNat_inj.mp)
  · -- The next frame comes behind 256 calls.
    obtain ⟨later, passed, again⟩ : ∃ later passed, runAll (step self) next later =
        next.waiting passed 0 true := exists_reads tick active accepted rfl
    have here := right (front ++ [tick] ++ later)
    rw [runAll_append, read, again] at here
    obtain ⟨id, parsed⟩ := Option.isSome_iff_exists.mp accepted
    have call : (next.waiting passed 0 true).p.timerHandler self tick = _ :=
      timerHandler_read (p := (next.waiting passed 0 true).p) rfl rfl parsed
    have never := here.period active accepted (0 + passed) rfl
    rw [call] at never
    have same : 0 + passed + 1 = config.interval.toNat := never.mp measured_count
    rw [zero] at same
    cases same
  · have here := right (front ++ [tick])
    rw [read] at here
    refine not_right_idle active accepted ?_ rfl rfl ?_ here
    · change config.interval - 1 ≠ 2
      rw [one]
      decide
    · exact (congrArg UInt8.toNat one).symm
  · have here := right (front ++ [tick] ++ [tick])
    have idle : next.step self tick = next.waiting 1 (config.interval - 1 - 1) false := by
      refine step_idle (s := next) (fun both => ?_) fun both => Bool.false_ne_true both.2
      have same : config.interval - 1 = 2 := both.1
      rw [two] at same
      exact absurd same (by decide)
    rw [runAll_snoc, read, idle] at here
    refine not_right_idle active accepted ?_ rfl rfl ?_ here
    · change config.interval - 1 - 1 ≠ 2
      rw [two]
      decide
    · exact (congrArg UInt8.toNat two).symm

end Runs

end SensorRun

/-- In all runs every call is right exactly for a sensor that is switched off, and for one with an
accepted identification and a period of at least 3. -/
theorem tempsensor_right_iff (self : UInt16) (config : EdsTempsensorBlock) :
    (∀ ticks, AlwaysFits (SensorRun.step self) (SensorRun.StepRight self) (.init config) ticks) ↔
      config.modus = 0 ∨
        (tempsensorInit config).str2id.isSome ∧ 3 ≤ config.interval.toNat := by
  by_cases off : config.modus = 0
  · refine iff_of_true (fun ticks => ?_) (.inl off)
    exact alwaysFits_of_holds (fun s => s.p.config.modus = 0 ∧ s.p.convertSent = false)
      ⟨off, rfl⟩ (fun _ _ holds => (SensorRun.stepRight_off holds.1 holds.2).2)
      fun _ _ holds => (SensorRun.stepRight_off holds.1 holds.2).1
  · rw [or_iff_right off]
    constructor
    · intro always
      let tick : SensorTick := ⟨0, 0, 0⟩
      have right (front : List SensorTick) :
          SensorRun.StepRight self (runAll (SensorRun.step self) (.init config) front) tick :=
        always (front ++ [tick]) front tick (List.prefix_refl _)
      have accepted := SensorRun.accepted_of_right tick off right
      exact ⟨accepted, SensorRun.long_of_right tick off accepted right⟩
    · rintro ⟨accepted, long⟩ ticks
      exact alwaysFits_of_holds (SensorRun.OnTime config)
        ⟨rfl, fun _ inside => absurd inside (Option.not_mem_none _),
          fun _ inside => absurd inside (Option.not_mem_none _)⟩
        (fun _ _ onTime => (SensorRun.onTime_step off accepted long onTime).2)
        fun _ _ onTime => (SensorRun.onTime_step off accepted long onTime).1

/-- A sensor that is switched on without an identification. -/
def boilerSensor : EdsTempsensorBlock := ⟨8, 1, 1, 60, Vector.replicate 17 0⟩

/-- In the third second the counter stays at 2, and the pin is that of the sensor. -/
theorem boilerSensor_stops :
    ¬ AlwaysFits (SensorRun.step 5) (SensorRun.StepRight 5) (.init boilerSensor)
        (List.replicate 3 ⟨0, 0, 0⟩) ∧
      ((runAll (SensorRun.step 5) (.init boilerSensor)
        (List.replicate 2 ⟨0, 0, 0⟩)).p.timerHandler 5 ⟨0, 0, 0⟩).owPin = 7 := by
  refine ⟨fun always => ?_, by decide⟩
  have pin := (always (List.replicate 2 ⟨0, 0, 0⟩) ⟨0, 0, 0⟩ (List.prefix_refl _)).pin
  exact absurd pin (by decide)

end Hcan.Hauselektrik
