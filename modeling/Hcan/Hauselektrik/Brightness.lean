import Mathlib.Algebra.Order.BigOperators.Group.List
import Mathlib.Algebra.Order.Group.Nat
import Mathlib.Algebra.Ring.Nat
import Hcan.Hauselektrik.Devices
import Hcan.Library.Bits
import Hcan.Library.Machine
import Hcan.Library.RingBuffer

/-!
# The brightness sensor

The sensor measures in the last seconds of a cycle into a ring buffer and sends the average in the
second behind them.  A cycle of at least one minute replaces the whole buffer; with a cycle of 0 the
sensor sends the values of the initialisation in every second.
-/

namespace Hcan.Hauselektrik

open Hcan.Canix Hcan.Library

def sizeOfAvg : ℕ := 8

abbrev TFloatAvgFilter := RingBuffer UInt16 sizeOfAvg

def initFloatAvg (defaultValue : UInt16) : TFloatAvgFilter := .full defaultValue ⟨0, by decide⟩

def addToFloatAvg (filter : TFloatAvgFilter) (newValue : UInt16) : TFloatAvgFilter :=
  filter.add newValue

/-- The sum is one of 32 bits. -/
def getOutputValue (filter : TFloatAvgFilter) : UInt16 :=
  let tempSum := filter.data.toList.foldl (fun sum value => sum + value.toUInt32) (0 : UInt32)
  (tempSum / UInt32.ofNat sizeOfAvg).toUInt16

/-- The floor of the mean of some values. -/
def mean (values : List UInt16) : ℕ := (values.map UInt16.toNat).sum / values.length

structure EdsHelligkeitssensorBlock where
  port : UInt8
  gruppe : UInt8
  feature : UInt8
  sendCycleMins : UInt8
  deriving DecidableEq, Repr

structure DeviceDataHelligkeitssensor where
  config : EdsHelligkeitssensorBlock
  secsUntilNextSend : UInt16
  filterBrightness : TFloatAvgFilter
  deriving DecidableEq, Repr

/-- What a call leaves behind: the values that it measures, and what it sends. -/
structure BrightnessCall where
  p : DeviceDataHelligkeitssensor
  measured : List UInt16
  sent : List CanixFrame

/-- The seconds of a cycle. -/
def cycleSecs (config : EdsHelligkeitssensorBlock) : UInt16 := 60 * config.sendCycleMins.toUInt16

def helligkeitssensorInit (config : EdsHelligkeitssensorBlock) : DeviceDataHelligkeitssensor where
  config := config
  secsUntilNextSend := cycleSecs config
  filterBrightness := initFloatAvg 511

namespace DeviceDataHelligkeitssensor

def message (self : UInt16) (p : DeviceDataHelligkeitssensor) (currentADCaverage : UInt16) :
    CanixFrame :=
  hesFrame self hcanMulticastControl 5 hcanHesHelligkeitsInfo p.config.gruppe
    (wordHi (currentADCaverage &&& 0xFF00)) (wordLo currentADCaverage) 0 0 0

/-- `helligkeitssensor_timer_handler` with what `getADCvalue_inverted` would give. -/
def timerHandler (self value : UInt16) (p : DeviceDataHelligkeitssensor) : BrightnessCall :=
  if p.secsUntilNextSend ≠ 0 then
    let p := { p with secsUntilNextSend := p.secsUntilNextSend - 1 }
    if p.secsUntilNextSend ≤ UInt16.ofNat sizeOfAvg then
      ⟨{ p with filterBrightness := addToFloatAvg p.filterBrightness value }, [value], []⟩
    else ⟨p, [], []⟩
  else
    ⟨{ p with secsUntilNextSend := cycleSecs p.config }, [],
      [p.message self (getOutputValue p.filterBrightness)]⟩

end DeviceDataHelligkeitssensor

/-- The sensor with the values since the last frame. -/
structure BrightnessRun where
  p : DeviceDataHelligkeitssensor
  measured : List UInt16

namespace BrightnessRun

def init (config : EdsHelligkeitssensorBlock) : BrightnessRun := ⟨helligkeitssensorInit config, []⟩

def step (self : UInt16) (s : BrightnessRun) (value : UInt16) : BrightnessRun :=
  let call := s.p.timerHandler self value
  ⟨call.p, if call.sent = [] then s.measured ++ call.measured else []⟩

/-- The frames of a call carry the mean of the last values since the frame before. -/
def Current (src : UInt16) (s : BrightnessRun) (value : UInt16) : Prop :=
  ∀ frame ∈ (s.p.timerHandler src value).sent, frame.data[1] = hcanHesHelligkeitsInfo →
    sizeOfAvg ≤ s.measured.length ∧
      (frameWord frame.data[3] frame.data[4]).toNat =
        mean (s.measured.drop (s.measured.length - sizeOfAvg))

section Filter

theorem foldl_sum (values : List UInt16) (first : UInt32)
    (small : first.toNat + (values.map UInt16.toNat).sum < 2 ^ 32) :
    (values.foldl (fun sum value => sum + value.toUInt32) first).toNat =
      first.toNat + (values.map UInt16.toNat).sum := by
  induction values generalizing first with
  | nil => rfl
  | cons value values ih =>
      rw [List.map_cons, List.sum_cons, ← Nat.add_assoc] at small ⊢
      have here : (first + value.toUInt32).toNat = first.toNat + value.toNat := by
        rw [UInt32.toNat_add, UInt16.toNat_toUInt32]
        exact Nat.mod_eq_of_lt (Nat.lt_of_le_of_lt (Nat.le_add_right _ _) small)
      rw [List.foldl_cons, ih, here]
      rw [here]
      exact small

theorem sum_le (values : List UInt16) :
    (values.map UInt16.toNat).sum ≤ values.length * (2 ^ 16 - 1) := by
  have most := List.sum_le_card_nsmul (values.map UInt16.toNat) (2 ^ 16 - 1) ?_
  · rwa [List.length_map] at most
  · intro n inside
    obtain ⟨value, -, rfl⟩ := List.mem_map.mp inside
    exact Nat.le_pred_of_lt value.toNat_lt

/-- The output is the mean of the values of the buffer. -/
theorem toNat_getOutputValue (filter : TFloatAvgFilter) :
    (getOutputValue filter).toNat = mean filter.contents := by
  have length : filter.contents.length = sizeOfAvg := filter.length_contents
  have most : (filter.contents.map UInt16.toNat).sum ≤ sizeOfAvg * (2 ^ 16 - 1) :=
    (sum_le filter.contents).trans (Nat.le_of_eq (congrArg (· * (2 ^ 16 - 1)) length))
  have same : (filter.data.toList.map UInt16.toNat).sum =
      (filter.contents.map UInt16.toNat).sum := (filter.contents_perm.map _).sum_eq.symm
  have sum := foldl_sum filter.data.toList 0
  rw [same, show (0 : UInt32).toNat = 0 from rfl, Nat.zero_add] at sum
  unfold getOutputValue mean
  dsimp only
  have eight : (UInt32.ofNat sizeOfAvg).toNat = sizeOfAvg := rfl
  have small : sizeOfAvg * (2 ^ 16 - 1) < 2 ^ 32 := by decide
  rw [UInt32.toNat_toUInt16, UInt32.toNat_div, sum (Nat.lt_of_le_of_lt most small), length, eight]
  refine Nat.mod_eq_of_lt (Nat.lt_of_le_of_lt (Nat.div_le_div_right most) ?_)
  decide

theorem wordHi_masked (word : UInt16) : wordHi (word &&& 0xFF00) = wordHi word := by
  have bound := word.toNat_lt
  have mask : (0xFF00 : UInt16).toNat / 2 ^ 8 = 2 ^ 8 - 1 := rfl
  have same : (word &&& 0xFF00).toNat / 2 ^ 8 = word.toNat / 2 ^ 8 := by
    rw [UInt16.toNat_and, Nat.and_div_two_pow, mask, Nat.and_two_pow_sub_one_eq_mod]
    exact Nat.mod_eq_of_lt (by omega)
  exact congrArg UInt8.ofNat same

end Filter

/-! ## Cycles of at least a minute -/

/-- In a cycle the filter takes the values of the last nine seconds. -/
structure Cycle (config : EdsHelligkeitssensorBlock) (s : BrightnessRun) : Prop where
  record : s.p.config = config
  filled : ∃ before : TFloatAvgFilter,
    s.p.filterBrightness = s.measured.foldl RingBuffer.add before
  count : s.measured.length = sizeOfAvg + 1 - s.p.secsUntilNextSend.toNat

section Runs

variable {self value : UInt16} {config : EdsHelligkeitssensorBlock} {s : BrightnessRun}

theorem cycleSecs_long (cyclic : config.sendCycleMins ≠ 0) :
    sizeOfAvg + 1 ≤ (cycleSecs config).toNat := by
  have least : 1 ≤ config.sendCycleMins.toNat :=
    Nat.pos_of_ne_zero fun zero => cyclic (UInt8.toNat_inj.mp zero)
  have most := config.sendCycleMins.toNat_lt
  have sixty : (60 : UInt16).toNat = 60 := rfl
  unfold cycleSecs sizeOfAvg
  rw [UInt16.toNat_mul, UInt8.toNat_toUInt16, sixty, Nat.mod_eq_of_lt (by omega)]
  omega

theorem cycle_init (cyclic : config.sendCycleMins ≠ 0) : Cycle config (init config) :=
  ⟨rfl, ⟨_, rfl⟩, (Nat.sub_eq_zero_of_le (cycleSecs_long cyclic)).symm⟩

/-- The second of a frame. -/
theorem timerHandler_sends (p : DeviceDataHelligkeitssensor) (due : p.secsUntilNextSend = 0) :
    p.timerHandler self value = ⟨{ p with secsUntilNextSend := cycleSecs p.config }, [],
      [p.message self (getOutputValue p.filterBrightness)]⟩ :=
  if_neg (not_not.mpr due)

/-- The seconds without a frame. -/
theorem timerHandler_silent (p : DeviceDataHelligkeitssensor) (waits : p.secsUntilNextSend ≠ 0) :
    (p.timerHandler self value).sent = [] := by
  unfold DeviceDataHelligkeitssensor.timerHandler
  rw [if_pos waits]
  dsimp only
  split_ifs <;> rfl

theorem step_sends (due : s.p.secsUntilNextSend = 0) :
    s.step self value = ⟨{ s.p with secsUntilNextSend := cycleSecs s.p.config }, []⟩ := by
  unfold step
  rw [timerHandler_sends s.p due]
  rfl

theorem step_silent (waits : s.p.secsUntilNextSend ≠ 0) :
    s.step self value =
      if s.p.secsUntilNextSend - 1 ≤ UInt16.ofNat sizeOfAvg then
        ⟨{ s.p with
          secsUntilNextSend := s.p.secsUntilNextSend - 1
          filterBrightness := addToFloatAvg s.p.filterBrightness value }, s.measured ++ [value]⟩
      else ⟨{ s.p with secsUntilNextSend := s.p.secsUntilNextSend - 1 }, s.measured⟩ := by
  unfold step DeviceDataHelligkeitssensor.timerHandler
  rw [if_pos waits]
  dsimp only
  by_cases last : s.p.secsUntilNextSend - 1 ≤ UInt16.ofNat sizeOfAvg
  · rw [if_pos last, if_pos last]
    rfl
  · rw [if_neg last, if_neg last]
    exact congrArg (BrightnessRun.mk _) (List.append_nil _)

/-- A frame behind a cycle carries the mean of the last values. -/
theorem current_of_cycle (cycle : Cycle config s) : Current self s value := by
  by_cases due : s.p.secsUntilNextSend = 0
  · have count : s.measured.length = sizeOfAvg + 1 := by
      rw [cycle.count, due]
      rfl
    have enough : sizeOfAvg ≤ s.measured.length := count ▸ Nat.le_succ _
    obtain ⟨before, filled⟩ := cycle.filled
    intro frame sent _
    rw [timerHandler_sends s.p due] at sent
    obtain rfl := List.mem_singleton.mp sent
    refine ⟨enough, ?_⟩
    change (frameWord (wordHi (getOutputValue s.p.filterBrightness &&& 0xFF00))
      (wordLo (getOutputValue s.p.filterBrightness))).toNat = _
    rw [wordHi_masked, frameWord_bytes, toNat_getOutputValue, filled,
      RingBuffer.contents_addAll_of_le before enough]
  · intro frame sent
    rw [timerHandler_silent s.p due] at sent
    exact absurd sent List.not_mem_nil

theorem cycle_step (cyclic : config.sendCycleMins ≠ 0) (cycle : Cycle config s) :
    Cycle config (s.step self value) := by
  obtain ⟨record, ⟨before, filled⟩, count⟩ := cycle
  by_cases due : s.p.secsUntilNextSend = 0
  · rw [step_sends due]
    rw [← record] at cyclic
    exact ⟨record, ⟨_, rfl⟩, (Nat.sub_eq_zero_of_le (cycleSecs_long cyclic)).symm⟩
  · have least : 1 ≤ s.p.secsUntilNextSend.toNat :=
      Nat.pos_of_ne_zero fun zero => due (UInt16.toNat_inj.mp zero)
    have lower := uint16_toNat_pred due
    rw [step_silent due]
    by_cases last : s.p.secsUntilNextSend - 1 ≤ UInt16.ofNat sizeOfAvg
    · have few : s.p.secsUntilNextSend.toNat - 1 ≤ sizeOfAvg :=
        lower ▸ UInt16.le_iff_toNat_le.mp last
      rw [if_pos last]
      refine ⟨record, ⟨before, ?_⟩, ?_⟩
      · rw [List.foldl_append, ← filled]
        rfl
      · dsimp only
        rw [List.length_append, List.length_singleton, count, lower]
        omega
    · have many : ¬ s.p.secsUntilNextSend.toNat - 1 ≤ sizeOfAvg := fun few =>
        last (UInt16.le_iff_toNat_le.mpr (lower.trans_le few))
      rw [if_neg last]
      refine ⟨record, ⟨before, filled⟩, ?_⟩
      dsimp only
      rw [count, lower]
      omega

/-- A sensor without a cycle sends in the first second. -/
theorem not_current_of_zero (never : config.sendCycleMins = 0) :
    ¬ Current self (init config) value := by
  have due : (init config).p.secsUntilNextSend = 0 := by
    change 60 * config.sendCycleMins.toUInt16 = 0
    rw [never]
    rfl
  intro current
  rw [Current, timerHandler_sends _ due] at current
  have enough := (current _ (List.mem_singleton_self _) rfl).1
  exact absurd (show sizeOfAvg ≤ 0 from enough) (by decide)

end Runs

end BrightnessRun

/-- In a run every frame carries the mean of eight values since the frame before exactly if the
sensor has a cycle, or the run is empty. -/
theorem helligkeitssensor_current_iff (self : UInt16) (config : EdsHelligkeitssensorBlock)
    (values : List UInt16) :
    AlwaysFits (BrightnessRun.step self) (BrightnessRun.Current self) (.init config) values ↔
      config.sendCycleMins ≠ 0 ∨ values = [] := by
  by_cases never : config.sendCycleMins = 0
  · cases values with
    | nil => exact iff_of_true alwaysFits_nil (.inr rfl)
    | cons value values =>
        rw [alwaysFits_cons]
        refine iff_of_false (fun always => BrightnessRun.not_current_of_zero never always.1) ?_
        rintro (cyclic | none)
        · exact cyclic never
        · cases none
  · refine iff_of_true ?_ (.inl never)
    exact alwaysFits_of_holds (BrightnessRun.Cycle config) (BrightnessRun.cycle_init never)
      (fun _ _ cycle => BrightnessRun.cycle_step never cycle)
      fun _ _ cycle => BrightnessRun.current_of_cycle cycle

/-- A sensor without a cycle. -/
def windowSensor : EdsHelligkeitssensorBlock := ⟨15, 4, 0, 0⟩

/-- It sends 511 in every second, and measures nothing. -/
theorem windowSensor_constant :
    ¬ AlwaysFits (BrightnessRun.step 5) (BrightnessRun.Current 5) (.init windowSensor) [1000] ∧
      ((helligkeitssensorInit windowSensor).timerHandler 5 1000).sent =
        [hesFrame 5 hcanMulticastControl 5 hcanHesHelligkeitsInfo 4 1 255 0 0 0] := by
  refine ⟨fun always => ?_, by decide +kernel⟩
  have current := always [] 1000 (List.prefix_refl _)
  have enough := (current _ (List.mem_singleton_self _) rfl).1
  exact absurd enough (by decide)

end Hcan.Hauselektrik
