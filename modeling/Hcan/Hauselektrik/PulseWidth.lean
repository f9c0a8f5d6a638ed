import Hcan.Hauselektrik.HeatingStep
import Hcan.Library.Bits

/-!
# The registers of the pulse and the rate

Width and length of the pulse are zero until they are first set; from then on they stand for a
rate of the configured period.  The rate is computed back from them, which divides by zero
before they are set, and the temperature control takes every rate above zero for fully open.
-/

namespace Hcan.Hauselektrik

open Hcan.Canix Hcan.Eds Hcan.Controller Hcan.Library

variable {mcu : Mcu}

/-- The registers are unset or stand for a rate. -/
def PulseFormed (p : DeviceDataHeizung) : Prop :=
  (p.pwmEnd = 0 ∧ p.pwmWidth = 0) ∨
    (p.pwmEnd = p.config.pwmPeriode.toUInt16 ∧ ∃ rate : UInt8,
      p.pwmWidth = UInt16.ofNat (p.config.pwmPeriode.toNat * rate.toNat / 100))

/-- The rate of registers that are not set is what the division by zero gives; the division of
the controller gives 255. -/
def Undefined.unsetRate (undef : Undefined) : UInt8 := UInt8.ofInt (undef.byZero 0)

/-- The control takes the rate in the registers for zero. -/
def TakenForOff (undef : Undefined) (p : DeviceDataHeizung) : Prop :=
  if p.pwmEnd = 0 then undef.unsetRate = 0 else p.pwmWidth.toNat * 100 < p.pwmEnd.toNat

theorem periode_toNat (periode : UInt8) : periode.toUInt16.toNat = periode.toNat := rfl

theorem width_zero (periode : UInt8) :
    UInt16.ofNat (periode.toNat * (0 : UInt8).toNat / 100) = 0 := by
  rw [UInt8.toNat_zero, Nat.mul_zero]
  rfl

/-- The width as a number: the products fit into the register. -/
theorem width_toNat (periode rate : UInt8) :
    (UInt16.ofNat (periode.toNat * rate.toNat / 100)).toNat =
      periode.toNat * rate.toNat / 100 := by
  have product : periode.toNat * rate.toNat ≤ 255 * 255 :=
    Nat.mul_le_mul (Nat.le_of_lt_succ periode.toNat_lt) (Nat.le_of_lt_succ rate.toNat_lt)
  rw [UInt16.toNat_ofNat']
  omega

section Formed

variable {undef : Undefined} {env : Environment mcu} {i : Nat} {b next : Board mcu}
  {p q : DeviceDataHeizung}

theorem PulseFormed.regulated (formed : PulseFormed p) (regulated : Regulates p q) :
    PulseFormed q := by
  have config := congrArg DeviceDataHeizung.config regulated.kept
  dsimp only at config
  unfold PulseFormed
  rw [config]
  rcases regulated.pulse with ⟨sameEnd, sameWidth⟩ | ⟨rate, ends, width⟩
  · rw [sameEnd, sameWidth]
    exact formed
  · right
    refine ⟨ends, ?_⟩
    rw [width]
    by_cases window : p.reedHeizStopCounter ≠ 0
    · exact ⟨0, (if_pos window).trans (width_zero _).symm⟩
    · exact ⟨rate, if_neg window⟩

theorem PulseFormed.prepared (formed : PulseFormed p) (b : Board mcu) (n : UInt8) :
    PulseFormed { heizungPrepared b p with timerCounter := n } := by
  unfold PulseFormed
  rw [heizungPrepared_eq]
  dsimp only
  by_cases window : reedAfter p ≠ 0
  · rw [if_pos window, if_pos window]
    exact .inr ⟨rfl, 0, (width_zero _).symm⟩
  · rw [if_neg window, if_neg window]
    exact formed

theorem FrameChange.periode {self : UInt16} {f : CanixFrame} (change : FrameChange self f p q) :
    q.config.pwmPeriode = p.config.pwmPeriode := by
  cases change <;> rfl

/-- The step lemma. -/
theorem step_formed {event : HeizungEvent} (step : HeizungStep undef env i b event next)
    (now : AtSlot i PulseFormed b) : AtSlot i PulseFormed next := by
  obtain ⟨p, slot, formed⟩ := now
  cases event with
  | tick =>
      exact ⟨_, (heizungStep_tick slot step).1,
        (formed.prepared b _).regulated (heizungTimerHandler_regulates undef env.self b p)⟩
  | frame f =>
      obtain ⟨q, here, change, -⟩ := heizungStep_frame slot step
      obtain ⟨width, ends, -⟩ := change.pulse
      refine ⟨q, here, ?_⟩
      unfold PulseFormed
      rw [width, ends, change.periode]
      exact formed
  | elsewhere => exact ⟨p, (heizungStep_elsewhere step).trans slot, formed⟩

/-- The run lemma, from the start of the firmware on. -/
theorem run_formed {first : Board mcu} {events : List HeizungEvent} {config : EdsHeizungBlock}
    {it : Nat} (start : first.devices[i]? = some (.heizung (heizungInit config it)))
    (run : Run (HeizungStep undef env i) first events b)
    (slot : b.devices[i]? = some (.heizung p)) : PulseFormed p := by
  obtain ⟨q, here, formed⟩ := run.invariant (AtSlot i PulseFormed)
    (fun _ _ _ step => step_formed step) ⟨_, start, .inl ⟨rfl, rfl⟩⟩
  cases slot.symm.trans here
  exact formed

theorem PulseFormed.unset (formed : PulseFormed p) (zero : p.pwmEnd = 0) : p.pwmWidth = 0 := by
  rcases formed with ⟨-, width⟩ | ⟨ends, rate, width⟩
  · exact width
  · have none : p.config.pwmPeriode.toNat = 0 := by
      rw [← periode_toNat, ← ends, zero]
      rfl
    rw [width, none, Nat.zero_mul]
    rfl

/-- The rate of a set pulse is zero when the width is less than a percent of the length. -/
theorem heizungGetPwm_eq_zero_iff (undef : Undefined) (formed : PulseFormed p)
    (on : p.mode ≠ .off) : heizungGetPwm undef p = 0 ↔ TakenForOff undef p := by
  unfold TakenForOff
  by_cases unset : p.pwmEnd = 0
  · rw [if_pos unset, heizungGetPwm, if_pos on, unset, formed.unset unset]
    rfl
  rw [if_neg unset]
  obtain ⟨ends, rate, width⟩ := formed.resolve_left fun zero => unset zero.1
  have positive : 0 < p.pwmEnd.toNat :=
    Nat.pos_of_ne_zero fun zero => unset (UInt16.toNat_inj.mp zero)
  have small : p.pwmWidth.toNat * 100 / p.pwmEnd.toNat < 256 := by
    rw [Nat.div_lt_iff_lt_mul positive, width, width_toNat]
    rw [ends, periode_toNat] at positive ⊢
    calc
      p.config.pwmPeriode.toNat * rate.toNat / 100 * 100 ≤
          p.config.pwmPeriode.toNat * rate.toNat := Nat.div_mul_le_self ..
      _ < p.config.pwmPeriode.toNat * 256 := Nat.mul_lt_mul_of_pos_left rate.toNat_lt positive
      _ = 256 * p.config.pwmPeriode.toNat := Nat.mul_comm ..
  have divides : quotient undef.byZero (p.pwmWidth.toNat * 100) p.pwmEnd.toNat =
      (p.pwmWidth.toNat * 100 / p.pwmEnd.toNat : Nat) := by
    rw [quotient, if_neg (by omega)]
    rfl
  rw [heizungGetPwm, if_pos on, divides, ← UInt8.toNat_inj]
  change _ = 0 ↔ _
  rw [uint8_ofInt_natCast, Nat.mod_eq_of_lt small, Nat.div_eq_zero_iff]
  omega

end Formed

/-! ## Two-point control -/

/-- The temperature is so far below or above the set point that the control acts. -/
def TooCold (p : DeviceDataHeizung) (soll : UInt16) : Prop :=
  p.measureValue.toInt16.toInt < soll.toInt16.toInt - p.config.hysterese.toNat

def TooWarm (p : DeviceDataHeizung) (soll : UInt16) : Prop :=
  soll.toInt16.toInt + p.config.hysterese.toNat < p.measureValue.toInt16.toInt

instance tooColdDecidable (p : DeviceDataHeizung) (soll : UInt16) : Decidable (TooCold p soll) :=
  inferInstanceAs (Decidable (_ < _))

instance tooWarmDecidable (p : DeviceDataHeizung) (soll : UInt16) : Decidable (TooWarm p soll) :=
  inferInstanceAs (Decidable (_ < _))

/-- The sums with the hysteresis fit into an `int`. -/
def SollFits (p : DeviceDataHeizung) (soll : UInt16) : Prop :=
  -32768 ≤ soll.toInt16.toInt - p.config.hysterese.toNat ∧
    soll.toInt16.toInt + p.config.hysterese.toNat < 32768

/-- The valve is fully open. -/
def FullyOpen (p : DeviceDataHeizung) : Prop := p.pwmWidth = p.pwmEnd ∧ p.pwmEnd > 0

/-- The valve behind an evaluation, for the record before it. -/
structure TwoPoint (p : DeviceDataHeizung) (soll : UInt16) (q : DeviceDataHeizung) : Prop where
  opened : TooCold p soll → FullyOpen q
  closed : TooWarm p soll → q.pwmWidth = 0
  unchanged : ¬TooCold p soll → ¬TooWarm p soll → q.pwmWidth = p.pwmWidth ∧ q.pwmEnd = p.pwmEnd

/-- The pulse is not in the way of the control: a cold room has the valve fully open or a rate
that is taken for zero, a warm room has it closed or a rate that is not. -/
def Switchable (undef : Undefined) (p : DeviceDataHeizung) (soll : UInt16) : Prop :=
  (TooCold p soll → FullyOpen p ∨ TakenForOff undef p) ∧
    (TooWarm p soll → p.pwmWidth = 0 ∨ ¬TakenForOff undef p)

/-- The set point of an evaluation with a valid measurement. -/
def activeSoll (b : Board mcu) (p : DeviceDataHeizung) : Option UInt16 :=
  if p.receivedIntervalCounter < 255 then
    match p.mode with
    | .thermostat => some p.thermostatTemp
    | .automatik => (heizungMatchingLine b p).map SolltempLine.temp
    | .off => none
    | .manual => none
  else none

section TwoPoint

variable {undef : Undefined} {env : Environment mcu} {i : Nat} {b next : Board mcu}
  {p q : DeviceDataHeizung} {soll : UInt16}

theorem TooCold.not_warm (cold : TooCold p soll) : ¬TooWarm p soll := by
  unfold TooCold at cold
  unfold TooWarm
  omega

theorem full_width (periode : UInt8) :
    UInt16.ofNat (periode.toNat * (100 : UInt8).toNat / 100) = periode.toUInt16 := by
  apply UInt16.toNat_inj.mp
  rw [width_toNat, periode_toNat]
  exact Nat.mul_div_cancel _ (by decide)

/-- The control without the window stop and without an overflow. -/
theorem heizungSetPwmByTemp_eq (undef : Undefined) (fits : SollFits p soll)
    (window : p.reedHeizStopCounter = 0) :
    heizungSetPwmByTemp undef p soll p.measureValue =
      if heizungGetPwm undef p > 0 ∧ TooWarm p soll then
        { p with pwmEnd := p.config.pwmPeriode.toUInt16, pwmWidth := 0 }
      else if heizungGetPwm undef p = 0 ∧ TooCold p soll then
        { p with
          pwmEnd := p.config.pwmPeriode.toUInt16
          pwmWidth := p.config.pwmPeriode.toUInt16
          waermebedarfCounter := 210 }
      else p := by
  obtain ⟨low, high⟩ := fits
  have sum : undef.int (soll.toInt16.toInt + p.config.hysterese.toNat) =
      soll.toInt16.toInt + p.config.hysterese.toNat := if_pos ⟨by omega, high⟩
  have difference : undef.int (soll.toInt16.toInt - p.config.hysterese.toNat) =
      soll.toInt16.toInt - p.config.hysterese.toNat := if_pos ⟨low, by omega⟩
  unfold heizungSetPwmByTemp
  dsimp only
  rw [sum, difference, heizungSetPwm_eq, heizungSetPwm_eq, if_neg (not_not_intro window),
    if_neg (not_not_intro window), width_zero, full_width]
  rfl

theorem rate_pos_iff {rate : UInt8} : rate > 0 ↔ rate ≠ 0 := by
  constructor
  · rintro positive rfl
    exact absurd positive (by decide)
  · intro some
    exact UInt8.lt_iff_toNat_lt.mpr
      (Nat.pos_of_ne_zero fun zero => some (UInt8.toNat_inj.mp zero))

theorem periode_pos_iff {periode : UInt8} : periode.toUInt16 > 0 ↔ periode > 0 := by
  constructor
  · exact fun positive => UInt8.lt_iff_toNat_lt.mpr (UInt16.lt_iff_toNat_lt.mp positive)
  · exact fun positive => UInt16.lt_iff_toNat_lt.mpr (UInt8.lt_iff_toNat_lt.mp positive)

/-- The control on records. -/
theorem twoPoint_setPwm (undef : Undefined) (formed : PulseFormed p) (on : p.mode ≠ .off)
    (periode : p.config.pwmPeriode > 0) (fits : SollFits p soll)
    (window : p.reedHeizStopCounter = 0) :
    TwoPoint p soll (heizungSetPwmByTemp undef p soll p.measureValue) ↔
      Switchable undef p soll := by
  have idle := heizungGetPwm_eq_zero_iff undef formed on
  have runs : heizungGetPwm undef p > 0 ↔ ¬TakenForOff undef p :=
    rate_pos_iff.trans (not_congr idle)
  rw [heizungSetPwmByTemp_eq undef fits window]
  by_cases warm : TooWarm p soll
  · have notCold : ¬TooCold p soll := fun cold => cold.not_warm warm
    by_cases off : TakenForOff undef p
    · rw [if_neg fun both => runs.mp both.1 off, if_neg fun both => notCold both.2]
      constructor
      · exact fun holds => ⟨fun cold => absurd cold notCold, fun _ => .inl (holds.closed warm)⟩
      · exact fun switchable => ⟨fun cold => absurd cold notCold, fun _ =>
          (switchable.2 warm).resolve_right (not_not_intro off), fun _ cool => absurd warm cool⟩
    · rw [if_pos ⟨runs.mpr off, warm⟩]
      exact iff_of_true ⟨fun cold => absurd cold notCold, fun _ => rfl, fun _ cool =>
        absurd warm cool⟩ ⟨fun cold => absurd cold notCold, fun _ => .inr off⟩
  · rw [if_neg fun both => warm both.2]
    by_cases cold : TooCold p soll
    · by_cases off : TakenForOff undef p
      · rw [if_pos ⟨idle.mpr off, cold⟩]
        exact iff_of_true ⟨fun _ => ⟨rfl, periode_pos_iff.mpr periode⟩, fun hot =>
          absurd hot warm, fun notCold => absurd cold notCold⟩
          ⟨fun _ => .inr off, fun hot => absurd hot warm⟩
      · rw [if_neg fun both => off (idle.mp both.1)]
        constructor
        · exact fun holds => ⟨fun _ => .inl (holds.opened cold), fun hot => absurd hot warm⟩
        · exact fun switchable => ⟨fun _ => (switchable.1 cold).resolve_right off, fun hot =>
            absurd hot warm, fun notCold => absurd cold notCold⟩
    · rw [if_neg fun both => cold both.2]
      exact iff_of_true ⟨fun now => absurd now cold, fun now => absurd now warm,
        fun _ _ => ⟨rfl, rfl⟩⟩ ⟨fun now => absurd now cold, fun now => absurd now warm⟩

theorem heizungWaermebedarf_pulse (undef : Undefined) (self : UInt16) (p : DeviceDataHeizung) :
    (heizungWaermebedarf undef self p).1.pwmWidth = p.pwmWidth ∧
      (heizungWaermebedarf undef self p).1.pwmEnd = p.pwmEnd := by
  unfold heizungWaermebedarf
  split
  · exact ⟨rfl, rfl⟩
  · exact ⟨rfl, rfl⟩

/-- A tick without an evaluation and without an open window keeps the registers. -/
theorem heizungTimerHandler_between (undef : Undefined) (self : UInt16)
    (early : ¬p.timerCounter ≥ 5) (reed : reedAfter p = 0) :
    (heizungTimerHandler undef self b p).1.pwmEnd = p.pwmEnd ∧
      (heizungTimerHandler undef self b p).1.pwmWidth = p.pwmWidth := by
  have window : ¬reedAfter p ≠ 0 := not_not_intro reed
  have before := heizungPrepared_eq b p
  rw [if_neg window, if_neg window] at before
  have ends := congrArg DeviceDataHeizung.pwmEnd before
  have width := congrArg DeviceDataHeizung.pwmWidth before
  dsimp only at ends width
  rw [heizungTimerHandler_eq, heizungPrepared_timer, if_neg early]
  clear before
  generalize heizungPrepared b p = q at ends width ⊢
  dsimp only
  obtain ⟨sameWidth, sameEnd⟩ := heizungWaermebedarf_pulse undef self
    { q with timerCounter := p.timerCounter + 1 }
  exact ⟨sameEnd.trans ends, sameWidth.trans width⟩

theorem activeSoll_on (active : activeSoll b p = some soll) : p.mode ≠ .off := by
  intro off
  unfold activeSoll at active
  rw [off] at active
  split at active
  · cases active
  · cases active

theorem heizungRegulate_active (undef : Undefined) (out : Outputs)
    (active : activeSoll b p = some soll) :
    (heizungRegulate undef b p out).1 = heizungSetPwmByTemp undef p soll p.measureValue := by
  unfold activeSoll at active
  unfold heizungRegulate
  by_cases valid : p.receivedIntervalCounter < 255
  · rw [if_pos valid] at active
    cases mode : p.mode with
    | off =>
        rw [mode] at active
        cases active
    | manual =>
        rw [mode] at active
        cases active
    | automatik =>
        rw [mode] at active
        obtain ⟨line, found, rfl⟩ := Option.map_eq_some_iff.mp active
        dsimp only
        rw [if_pos valid, found]
    | thermostat =>
        rw [mode] at active
        cases active
        dsimp only
        rw [if_pos valid]
  · rw [if_neg valid] at active
    cases active

/-- The registers behind an evaluation by the temperature. -/
theorem heizungTimerHandler_active (undef : Undefined) (self : UInt16)
    (evaluated : p.timerCounter ≥ 5) (active : activeSoll b (heizungPrepared b p) = some soll) :
    let r := { heizungPrepared b p with timerCounter := 0 }
    (heizungTimerHandler undef self b p).1.pwmWidth =
        (heizungSetPwmByTemp undef r soll r.measureValue).pwmWidth ∧
      (heizungTimerHandler undef self b p).1.pwmEnd =
        (heizungSetPwmByTemp undef r soll r.measureValue).pwmEnd := by
  have on := activeSoll_on active
  rw [heizungTimerHandler_eq, heizungPrepared_timer, if_pos evaluated]
  generalize heizungPrepared b p = q at active on ⊢
  have regulated := heizungRegulate_active undef (heizungPulse b p)
    (show activeSoll b { q with timerCounter := 0 } = some soll from active)
  dsimp only
  rw [if_neg on, regulated]
  exact heizungWaermebedarf_pulse undef self _

end TwoPoint

/-- In every run from the start of the firmware on, an evaluation with an active set point
controls the valve exactly when the pulse before it is not in the way. -/
theorem two_point_iff {undef : Undefined} {env : Environment mcu} {i : Nat}
    {first b next : Board mcu} {events : List HeizungEvent} {config : EdsHeizungBlock} {it : Nat}
    {p : DeviceDataHeizung} {soll : UInt16}
    (start : first.devices[i]? = some (.heizung (heizungInit config it)))
    (run : Run (HeizungStep undef env i) first events b)
    (slot : b.devices[i]? = some (.heizung p)) (evaluated : p.timerCounter ≥ 5)
    (active : activeSoll b (heizungPrepared b p) = some soll)
    (periode : p.config.pwmPeriode > 0) (fits : SollFits p soll)
    (window : reedAfter p = 0) (step : HeizungStep undef env i b .tick next) :
    AtSlot i (TwoPoint p soll) next ↔ Switchable undef p soll := by
  have formed := (run_formed start run slot).prepared b 0
  have on := activeSoll_on active
  have registers := heizungTimerHandler_active undef env.self evaluated active
  dsimp only at registers
  have open_ : ¬reedAfter p ≠ 0 := not_not_intro window
  rw [heizungPrepared_eq] at formed on registers
  dsimp only at formed on registers
  rw [if_neg open_, if_neg open_] at formed registers
  have control := twoPoint_setPwm undef formed on periode fits window
  have here := (heizungStep_tick slot step).1
  generalize heizungTimerHandler undef env.self b p = handled at registers here
  obtain ⟨width, ends⟩ := registers
  refine Iff.trans ⟨?_, ?_⟩ control
  · rintro ⟨q, found, holds⟩
    obtain rfl := Device.heizung.inj (Option.some.inj (found.symm.trans here))
    exact ⟨fun cold => ⟨width.symm.trans ((holds.opened cold).1.trans ends),
        ends ▸ (holds.opened cold).2⟩,
      fun warm => width.symm.trans (holds.closed warm), fun mild cool =>
      ⟨width.symm.trans (holds.unchanged mild cool).1,
        ends.symm.trans (holds.unchanged mild cool).2⟩⟩
  · intro holds
    exact ⟨handled.1, here, fun cold => ⟨width.trans ((holds.opened cold).1.trans ends.symm),
        ends.symm ▸ (holds.opened cold).2⟩,
      fun warm => width.trans (holds.closed warm), fun mild cool =>
      ⟨width.trans (holds.unchanged mild cool).1, ends.trans (holds.unchanged mild cool).2⟩⟩

/-- Ten degrees are measured, and twenty are asked for. -/
def coldEvents : List HeizungEvent :=
  [.frame (kitchenFrame hcanHes1wireTemperature 1 0 160 0 0),
    .frame (kitchenFrame hcanHesHeizungSetModeThermostatDetails 7 1 64 0 0)]

/-- The kitchen five ticks later, when the mode OFF has set the registers before. -/
def coldHeizung : DeviceDataHeizung :=
  { kitchenHeizung 7 60 with
    mode := .thermostat
    thermostatTemp := 320
    measureValue := 160
    receivedIntervalCounter := 5
    timerCounter := 5
    pwmEnd := 60
    pwmCounter := 5
    waermebedarfCounter := 58 }

theorem coldHeizung_reached :
    ∃ b, Run (HeizungStep zeroUndefined quietEnvironment 0) (kitchenBoard (kitchenHeizung 7 60))
        (List.replicate 6 .tick ++ coldEvents ++ List.replicate 5 .tick) b ∧
      b.devices[0]? = some (.heizung coldHeizung) := by
  have record : (kitchenBehind (kitchenBoard (kitchenHeizung 7 60))
      (List.replicate 6 .tick ++ coldEvents ++ List.replicate 5 .tick)).map Prod.fst =
        some coldHeizung := by
    decide +kernel
  obtain ⟨⟨_, out⟩, behind, rfl⟩ := Option.map_eq_some_iff.mp record
  obtain ⟨b, run, slot, -⟩ := kitchenBehind_run behind
  exact ⟨b, run, slot⟩

/-- Behind six ticks in the mode OFF the cold kitchen is heated. -/
theorem coldHeizung_controlled :
    ∃ b next, HeizungStep zeroUndefined quietEnvironment 0 b .tick next ∧
      AtSlot 0 (TwoPoint coldHeizung 320) next := by
  obtain ⟨b, run, slot⟩ := coldHeizung_reached
  have step : HeizungStep zeroUndefined quietEnvironment 0 b .tick _ := heizungStep_ticked slot
  have active : activeSoll b (heizungPrepared b coldHeizung) = some 320 := by
    rw [heizungPrepared_eq]
    rfl
  have switchable : Switchable zeroUndefined coldHeizung 320 :=
    ⟨fun _ => .inr (by decide +kernel : (0 : Nat) < 60), fun warm => absurd warm (by decide)⟩
  exact ⟨b, _, step, (two_point_iff rfl run slot (by decide) active (by decide)
    ⟨by decide, by decide⟩ (by decide) step).mpr switchable⟩

/-- A rate of fifty percent stays when the thermostat finds the same cold. -/
theorem halfRate_stays :
    (kitchenBehind (kitchenBoard (kitchenHeizung 7 60))
        (.frame (kitchenFrame hcanHesHeizungSetModeManual 7 50 0 0 0) ::
          List.replicate 6 .tick ++ coldEvents ++ List.replicate 6 .tick)).map
        (fun s => (s.1.mode, s.1.thermostatTemp, s.1.measureValue, s.1.pwmWidth, s.1.pwmEnd)) =
      some (.thermostat, 320, 160, 30, 60) := by
  decide +kernel

/-! ## The calls of `heizung_get_pwm` -/

section Calls

/-- The records at the calls of the temperature control; the second condition is read when the
first one does not hold. -/
def setPwmByTempCalls (undef : Undefined) (p : DeviceDataHeizung) (soll ist : UInt16) :
    List DeviceDataHeizung :=
  if heizungGetPwm undef p > 0 ∧
      ist.toInt16.toInt > undef.int (soll.toInt16.toInt + p.config.hysterese.toNat) then [p]
  else [p, p]

def regulateCalls (undef : Undefined) (b : Board mcu) (p : DeviceDataHeizung) :
    List DeviceDataHeizung :=
  match activeSoll b p with
  | some soll => setPwmByTempCalls undef p soll p.measureValue
  | none => []

def waermebedarfCalls (p : DeviceDataHeizung) : List DeviceDataHeizung :=
  if p.waermebedarfCounter = 0 then [p] else []

/-- The records at the calls in one tick. -/
def heizungGetPwmCalls (undef : Undefined) (b : Board mcu) (p : DeviceDataHeizung) :
    List DeviceDataHeizung :=
  let q := heizungPrepared b p
  if q.timerCounter ≥ 5 then
    let r := { q with timerCounter := 0 }
    regulateCalls undef b r ++
      if q.mode = .off then []
      else waermebedarfCalls (heizungRegulate undef b r (heizungPulse b p)).1
  else waermebedarfCalls { q with timerCounter := q.timerCounter + 1 }

/-- The call does not divide by zero. -/
def DividesSafely (p : DeviceDataHeizung) : Prop := p.mode ≠ .off → p.pwmEnd > 0

/-- The evaluation controls the valve by the temperature, or sets a fixed rate. -/
def Controls (b : Board mcu) (p : DeviceDataHeizung) : Prop :=
  p.receivedIntervalCounter < 255 ∧
    (p.mode = .thermostat ∨ p.mode = .automatik ∧ (heizungMatchingLine b p).isSome)

def SetsRate (b : Board mcu) (p : DeviceDataHeizung) : Prop :=
  p.mode = .manual ∨
    p.mode = .automatik ∧ p.receivedIntervalCounter < 255 ∧ heizungMatchingLine b p = none

/-- The record with the counters of the tick. -/
def counted (p : DeviceDataHeizung) : DeviceDataHeizung :=
  { p with mode := modeAfter p, receivedIntervalCounter := receivedAfter p }

/-- The length of the pulse behind the window stop of the tick. -/
def endAtCall (p : DeviceDataHeizung) : UInt16 :=
  if reedAfter p ≠ 0 then p.config.pwmPeriode.toUInt16 else p.pwmEnd

/-- The tick of a heating that is not off finds a length above zero wherever it computes the
rate: in the temperature control, and when the message about the demand is due. -/
structure PwmDefined (b : Board mcu) (p : DeviceDataHeizung) : Prop where
  controls : p.timerCounter ≥ 5 → Controls b (counted p) → endAtCall p > 0
  sets : p.timerCounter ≥ 5 → SetsRate b (counted p) → p.waermebedarfCounter = 0 →
    p.config.pwmPeriode > 0
  idle : ¬(p.timerCounter ≥ 5 ∧ (Controls b (counted p) ∨ SetsRate b (counted p))) →
    p.waermebedarfCounter = 0 → endAtCall p > 0

variable {undef : Undefined} {env : Environment mcu} {i : Nat} {b next : Board mcu}
  {p q : DeviceDataHeizung}

theorem controls_iff : Controls b p ↔ ∃ soll, activeSoll b p = some soll := by
  unfold Controls activeSoll
  by_cases valid : p.receivedIntervalCounter < 255
  · rw [if_pos valid, and_iff_right valid]
    cases mode : p.mode with
    | off => simp
    | manual => simp
    | automatik =>
        cases heizungMatchingLine b p with
        | none => simp
        | some line => simp
    | thermostat => simp
  · rw [if_neg valid]
    exact iff_of_false (fun both => valid both.1) (fun some => nomatch some.choose_spec)

theorem Controls.not_sets (controls : Controls b p) : ¬SetsRate b p := by
  rintro (manual | ⟨automatik, -, none⟩)
  · rcases controls.2 with thermostat | ⟨automatik, -⟩
    · exact absurd (manual.symm.trans thermostat) (by decide)
    · exact absurd (manual.symm.trans automatik) (by decide)
  · rcases controls.2 with thermostat | ⟨-, found⟩
    · exact absurd (automatik.symm.trans thermostat) (by decide)
    · rw [none] at found
      cases found

/-- What the evaluation of a heating that is not off makes of the record. -/
theorem heizungRegulate_cases (undef : Undefined) (out : Outputs) (on : p.mode ≠ .off) :
    (∃ soll, activeSoll b p = some soll) ∨
      (activeSoll b p = none ∧ SetsRate b p ∧
        ∃ rate, (heizungRegulate undef b p out).1 = heizungSetPwm p rate) ∨
      (activeSoll b p = none ∧ ¬SetsRate b p ∧ (heizungRegulate undef b p out).1 = p) := by
  unfold activeSoll SetsRate heizungRegulate
  by_cases valid : p.receivedIntervalCounter < 255
  · cases mode : p.mode with
    | off => exact absurd mode on
    | manual => exact .inr (.inl ⟨by rw [if_pos valid], .inl rfl, p.manualRate, rfl⟩)
    | automatik =>
        cases found : heizungMatchingLine b p with
        | none =>
            refine .inr (.inl ⟨by rw [if_pos valid]; rfl, .inr ⟨rfl, valid, rfl⟩, 0, ?_⟩)
            dsimp only
            rw [if_pos valid]
        | some line => exact .inl ⟨line.temp, by rw [if_pos valid]; rfl⟩
    | thermostat => exact .inl ⟨p.thermostatTemp, by rw [if_pos valid]⟩
  · cases mode : p.mode with
    | off => exact absurd mode on
    | manual => exact .inr (.inl ⟨if_neg valid, .inl rfl, p.manualRate, rfl⟩)
    | automatik =>
        refine .inr (.inr ⟨if_neg valid, ?_, ?_⟩)
        · rintro (manual | ⟨-, fresh, -⟩)
          · cases manual
          · exact valid fresh
        · dsimp only
          rw [if_neg valid]
    | thermostat =>
        refine .inr (.inr ⟨if_neg valid, ?_, ?_⟩)
        · rintro (manual | ⟨automatik, -⟩)
          · cases manual
          · cases automatik
        · dsimp only
          rw [if_neg valid]

theorem PulseFormed.periode_pos (formed : PulseFormed p) (set_ : p.pwmEnd > 0) :
    p.config.pwmPeriode.toUInt16 > 0 := by
  rcases formed with ⟨zero, -⟩ | ⟨ends, -⟩
  · rw [zero] at set_
    exact absurd set_ (by decide)
  · rwa [ends] at set_

theorem waermebedarfCalls_safe (on : p.mode ≠ .off) :
    (∀ r ∈ waermebedarfCalls p, DividesSafely r) ↔ (p.waermebedarfCounter = 0 → p.pwmEnd > 0) := by
  unfold waermebedarfCalls
  by_cases due : p.waermebedarfCounter = 0
  · rw [if_pos due]
    exact ⟨fun safe _ => safe p List.mem_cons_self on, fun set_ r member =>
      List.mem_singleton.mp member ▸ fun _ => set_ due⟩
  · rw [if_neg due]
    exact iff_of_true (fun r member => absurd member List.not_mem_nil) fun now => absurd now due

theorem waermebedarfCalls_off (off : p.mode = .off) :
    ∀ r ∈ waermebedarfCalls p, DividesSafely r := by
  unfold waermebedarfCalls
  split
  · exact fun r member on => absurd (List.mem_singleton.mp member ▸ off) on
  · exact fun r member => absurd member List.not_mem_nil

/-- Without an active temperature there is no division. -/
theorem regulateCalls_idle (idle : activeSoll b p = none) : regulateCalls undef b p = [] := by
  rw [regulateCalls, idle]

theorem not_controls_of_idle (idle : activeSoll b p = none) : ¬Controls b p := by
  intro control
  obtain ⟨soll, active⟩ := controls_iff.mp control
  rw [active] at idle
  cases idle

theorem regulateCalls_off (off : p.mode = .off) : regulateCalls undef b p = [] := by
  refine regulateCalls_idle ?_
  unfold activeSoll
  rw [off]
  exact ite_self _

/-- The first call is for the record itself. -/
theorem mem_setPwmByTempCalls (undef : Undefined) (soll ist : UInt16) :
    p ∈ setPwmByTempCalls undef p soll ist := by
  unfold setPwmByTempCalls
  split
  · exact List.mem_cons_self
  · exact List.mem_cons_self

theorem setPwmByTempCalls_safe (undef : Undefined) (on : p.mode ≠ .off) (soll ist : UInt16) :
    (∀ r ∈ setPwmByTempCalls undef p soll ist, DividesSafely r) ↔ p.pwmEnd > 0 := by
  have same : ∀ r ∈ setPwmByTempCalls undef p soll ist, r = p := by
    unfold setPwmByTempCalls
    split
    · exact fun r member => List.mem_singleton.mp member
    · intro r member
      rcases List.mem_cons.mp member with here | later
      · exact here
      · exact List.mem_singleton.mp later
  have called : p ∈ setPwmByTempCalls undef p soll ist := mem_setPwmByTempCalls undef soll ist
  exact ⟨fun safe => safe p called on, fun set_ r member => same r member ▸ fun _ => set_⟩

/-- The calls of an evaluation, for the record before it. -/
theorem evaluationCalls_safe (undef : Undefined) (formed : PulseFormed p) (on : p.mode ≠ .off)
    (out : Outputs) :
    (∀ r ∈ regulateCalls undef b p ++ waermebedarfCalls (heizungRegulate undef b p out).1,
        DividesSafely r) ↔
      (Controls b p → p.pwmEnd > 0) ∧
        (SetsRate b p → p.waermebedarfCounter = 0 → p.config.pwmPeriode > 0) ∧
        (¬(Controls b p ∨ SetsRate b p) → p.waermebedarfCounter = 0 → p.pwmEnd > 0) := by
  have regulated := regulates_regulate undef b p out
  rcases heizungRegulate_cases (b := b) undef out on with
    ⟨soll, active⟩ | ⟨idle, sets, rate, result⟩ | ⟨idle, notSets, result⟩
  · have control : Controls b p := controls_iff.mpr ⟨soll, active⟩
    have notSets := control.not_sets
    have stillOn : (heizungRegulate undef b p out).1.mode ≠ .off := by
      rw [regulated.kept]
      exact on
    have calls : regulateCalls undef b p = setPwmByTempCalls undef p soll p.measureValue := by
      rw [regulateCalls, active]
    rw [calls, List.forall_mem_append, setPwmByTempCalls_safe undef on,
      waermebedarfCalls_safe stillOn]
    constructor
    · exact fun safe => ⟨fun _ => safe.1, fun sets => absurd sets notSets,
        fun neither => absurd (.inl control) neither⟩
    · intro safe
      have set_ := safe.1 control
      refine ⟨set_, fun _ => ?_⟩
      rcases regulated.pulse with ⟨same, -⟩ | ⟨rate, ends, -⟩
      · rwa [same]
      · rw [ends]
        exact formed.periode_pos set_
  · have notControl := not_controls_of_idle idle
    have calls : regulateCalls undef b p = [] := regulateCalls_idle idle
    have stillOn : (heizungSetPwm p rate).mode ≠ .off := by
      rw [heizungSetPwm_eq]
      exact on
    rw [calls, List.nil_append, result, waermebedarfCalls_safe stillOn, heizungSetPwm_eq]
    dsimp only
    rw [periode_pos_iff]
    exact ⟨fun safe => ⟨fun control => absurd control notControl, fun _ => safe,
      fun neither => absurd (.inr sets) neither⟩, fun safe => safe.2.1 sets⟩
  · have notControl := not_controls_of_idle idle
    have calls : regulateCalls undef b p = [] := regulateCalls_idle idle
    rw [calls, List.nil_append, result, waermebedarfCalls_safe on]
    exact ⟨fun safe => ⟨fun control => absurd control notControl, fun sets => absurd sets notSets,
      fun _ => safe⟩, fun safe => safe.2.2 (not_or.mpr ⟨notControl, notSets⟩)⟩

/-! The list of calls is complete: when they are safe, no other choice for a division by zero
changes what the handler does. -/

theorem heizungGetPwm_defined (undef : Undefined) (other : Int → Int) (safe : DividesSafely p) :
    heizungGetPwm { undef with byZero := other } p = heizungGetPwm undef p := by
  unfold heizungGetPwm quotient
  by_cases on : p.mode ≠ .off
  · have some : ¬(p.pwmEnd.toNat : Int) = 0 := by
      have positive : 0 < p.pwmEnd.toNat := UInt16.lt_iff_toNat_lt.mp (safe on)
      omega
    rw [if_pos on, if_pos on, if_neg some, if_neg some]
  · rw [if_neg on, if_neg on]

theorem heizungSetPwmByTemp_defined (undef : Undefined) (other : Int → Int) (soll ist : UInt16)
    (safe : ∀ r ∈ setPwmByTempCalls undef p soll ist, DividesSafely r) :
    heizungSetPwmByTemp { undef with byZero := other } p soll ist =
      heizungSetPwmByTemp undef p soll ist := by
  have called : p ∈ setPwmByTempCalls undef p soll ist := mem_setPwmByTempCalls undef soll ist
  unfold heizungSetPwmByTemp
  rw [heizungGetPwm_defined undef other (safe p called)]
  rfl

theorem heizungRegulate_defined (undef : Undefined) (other : Int → Int) (out : Outputs)
    (safe : ∀ r ∈ regulateCalls undef b p, DividesSafely r) :
    heizungRegulate { undef with byZero := other } b p out = heizungRegulate undef b p out := by
  have same : ∀ soll, activeSoll b p = some soll →
      heizungSetPwmByTemp { undef with byZero := other } p soll p.measureValue =
        heizungSetPwmByTemp undef p soll p.measureValue := by
    intro soll active
    rw [regulateCalls, active] at safe
    exact heizungSetPwmByTemp_defined undef other soll p.measureValue safe
  unfold activeSoll at same
  unfold heizungRegulate
  by_cases valid : p.receivedIntervalCounter < 255
  · rw [if_pos valid] at same
    cases mode : p.mode with
    | off => rfl
    | manual => rfl
    | automatik =>
        rw [mode] at same
        dsimp only at same ⊢
        rw [if_pos valid, if_pos valid]
        cases found : heizungMatchingLine b p with
        | none => rfl
        | some line =>
            rw [found] at same
            exact congrArg (·, out) (same line.temp rfl)
    | thermostat =>
        rw [mode] at same
        dsimp only at same ⊢
        rw [if_pos valid, if_pos valid]
        exact congrArg (·, out) (same p.thermostatTemp rfl)
  · cases mode : p.mode with
    | off => rfl
    | manual => rfl
    | automatik => dsimp only; rw [if_neg valid, if_neg valid]
    | thermostat => dsimp only; rw [if_neg valid, if_neg valid]

theorem heizungWaermebedarf_defined (undef : Undefined) (other : Int → Int) (self : UInt16)
    (safe : ∀ r ∈ waermebedarfCalls p, DividesSafely r) :
    heizungWaermebedarf { undef with byZero := other } self p =
      heizungWaermebedarf undef self p := by
  unfold heizungWaermebedarf
  by_cases due : p.waermebedarfCounter = 0
  · rw [waermebedarfCalls, if_pos due] at safe
    rw [if_pos due, if_pos due, heizungGetPwm_defined undef other (safe p List.mem_cons_self)]
  · rw [if_neg due, if_neg due]

theorem heizungTimerHandler_defined (undef : Undefined) (other : Int → Int) (self : UInt16)
    (safe : ∀ r ∈ heizungGetPwmCalls undef b p, DividesSafely r) :
    heizungTimerHandler { undef with byZero := other } self b p =
      heizungTimerHandler undef self b p := by
  rw [heizungTimerHandler_eq, heizungTimerHandler_eq]
  unfold heizungGetPwmCalls at safe
  dsimp only at safe ⊢
  generalize heizungPrepared b p = q at safe ⊢
  by_cases evaluated : q.timerCounter ≥ 5
  · rw [if_pos evaluated, List.forall_mem_append] at safe
    rw [if_pos evaluated, if_pos evaluated, heizungRegulate_defined undef other _ safe.1]
    by_cases off : q.mode = .off
    · rw [if_pos off, if_pos off]
    · rw [if_neg off] at safe
      rw [if_neg off, if_neg off, heizungWaermebedarf_defined undef other self safe.2]
  · rw [if_neg evaluated] at safe
    rw [if_neg evaluated, if_neg evaluated, heizungWaermebedarf_defined undef other self safe]

end Calls

/-- In every run from the start of the firmware on, a tick divides by zero nowhere exactly when
the heating is off or the length of the pulse is set where the rate is computed. -/
theorem pwm_defined_iff {undef : Undefined} {env : Environment mcu} {i : Nat}
    {first b : Board mcu} {events : List HeizungEvent} {config : EdsHeizungBlock} {it : Nat}
    {p : DeviceDataHeizung}
    (start : first.devices[i]? = some (.heizung (heizungInit config it)))
    (run : Run (HeizungStep undef env i) first events b)
    (slot : b.devices[i]? = some (.heizung p)) :
    (∀ r ∈ heizungGetPwmCalls undef b p, DividesSafely r) ↔
      modeAfter p = .off ∨ PwmDefined b p := by
  have formed := (run_formed start run slot).prepared b
  unfold heizungGetPwmCalls
  dsimp only
  rw [heizungPrepared_timer, heizungPrepared_mode]
  rw [heizungPrepared_eq] at formed ⊢
  dsimp only at formed ⊢
  by_cases off : modeAfter p = .off
  · refine iff_of_true ?_ (.inl off)
    by_cases evaluated : p.timerCounter ≥ 5
    · rw [if_pos evaluated, if_pos off, regulateCalls_off off]
      exact fun r member => absurd member List.not_mem_nil
    · rw [if_neg evaluated]
      exact waermebedarfCalls_off off
  rw [or_iff_right off]
  by_cases evaluated : p.timerCounter ≥ 5
  · rw [if_pos evaluated, if_neg off, evaluationCalls_safe undef (formed 0) off]
    constructor
    · rintro ⟨controls, sets, idle⟩
      exact ⟨fun _ => controls, fun _ => sets, fun neither => idle fun some =>
        neither ⟨evaluated, some⟩⟩
    · intro safe
      exact ⟨safe.controls evaluated, safe.sets evaluated, fun neither => safe.idle fun both =>
        neither both.2⟩
  · rw [if_neg evaluated, waermebedarfCalls_safe off]
    exact ⟨fun set_ => ⟨fun now => absurd now evaluated, fun now => absurd now evaluated,
      fun _ => set_⟩, fun safe => safe.idle fun both => evaluated both.1⟩

/-- When the mode OFF has set the registers, the evaluation of the thermostat is safe. -/
theorem coldHeizung_safe :
    ∃ b : Board atmega32, b.devices[0]? = some (.heizung coldHeizung) ∧
      Controls b (counted coldHeizung) ∧
      ∀ r ∈ heizungGetPwmCalls zeroUndefined b coldHeizung, DividesSafely r := by
  obtain ⟨b, run, slot⟩ := coldHeizung_reached
  have defined : PwmDefined b coldHeizung :=
    ⟨fun _ _ => by decide, fun _ _ due => absurd due (by decide), fun _ due =>
      absurd due (by decide)⟩
  exact ⟨b, slot, ⟨by decide, .inl rfl⟩, (pwm_defined_iff rfl run slot).mpr (.inr defined)⟩

/-- Behind SET_MODE_AUTOMATIK it divides by zero for the message about the demand. -/
theorem firstTick_automatik_unsafe :
    HeizungStep zeroUndefined quietEnvironment 0 (kitchenBoard (kitchenHeizung 0 60))
        (.frame (kitchenFrame hcanHesHeizungSetModeAutomatik 0 0 0 0 0))
        (kitchenBoard { kitchenHeizung 0 60 with mode := .automatik }) ∧
      ∃ r ∈ heizungGetPwmCalls zeroUndefined
        (kitchenBoard { kitchenHeizung 0 60 with mode := .automatik })
        { kitchenHeizung 0 60 with mode := .automatik }, r.mode = .automatik ∧ r.pwmEnd = 0 := by
  refine ⟨heizungExecute_step rfl, ?_⟩
  decide +kernel

end Hcan.Hauselektrik
