import Hcan.Hauselektrik.TimedMode

/-!
# The steps of a heating

What a frame and a tick make of the record of a heating and of the pins, as one case for each
kind of frame and one equation for the tick.  The events that a board can carry out are also a
function, with which a run can be evaluated.
-/

namespace Hcan.Hauselektrik

open Hcan.Canix Hcan.Eds Hcan.Controller Hcan.Library Hcan.Library.Nested

variable {mcu : Mcu}

/-- A command for the heatings with an id. -/
structure IsFor (selfaddr : UInt16) (id command : UInt8) (f : CanixFrame) : Prop where
  accepted : hauselektrikAccepts selfaddr f = true
  named : f.data[1] = command
  addressed : f.data[2] = id

/-- What a frame makes of the record of a heating. -/
inductive FrameChange (self : UInt16) (f : CanixFrame) (p : DeviceDataHeizung) :
    DeviceDataHeizung → Prop where
  | kept (other : ¬SetsMode self p.config.id f) : FrameChange self f p p
  | measured (other : ¬SetsMode self p.config.id f) : FrameChange self f p
      { p with measureValue := frameWord f.data[3] f.data[4], receivedIntervalCounter := 0 }
  | opened (other : ¬SetsMode self p.config.id f) :
      FrameChange self f p { p with reedHeizStopCounter := 60 }
  | off (own : IsFor self p.config.id hcanHesHeizungSetModeOff f) :
      FrameChange self f p { p with mode := .off }
  | manual (own : IsFor self p.config.id hcanHesHeizungSetModeManual f) :
      FrameChange self f p
        { p with
          mode := .manual
          manualRate := f.data[3]
          durationCounter := frameWord f.data[4] f.data[5] }
  | thermostat (own : IsFor self p.config.id hcanHesHeizungSetModeThermostatDetails f) :
      FrameChange self f p
        { p with
          mode := .thermostat
          thermostatTemp := frameWord f.data[3] f.data[4]
          durationCounter := frameWord f.data[5] f.data[6] }
  | automatik (own : IsFor self p.config.id hcanHesHeizungSetModeAutomatik f) :
      FrameChange self f p { p with mode := .automatik }
  | written (idx : Fin 8) (temp : UInt16) (other : ¬SetsMode self p.config.id f) :
      FrameChange self f p { p with config := p.config.setTemp idx temp }

/-- No frame changes the registers of the pulse. -/
theorem FrameChange.pulse {self : UInt16} {f : CanixFrame} {p q : DeviceDataHeizung}
    (change : FrameChange self f p q) :
    q.pwmWidth = p.pwmWidth ∧ q.pwmEnd = p.pwmEnd ∧ q.pwmCounter = p.pwmCounter := by
  cases change <;> exact ⟨rfl, rfl, rfl⟩

/-- No frame changes the counters that only the ticks count. -/
theorem FrameChange.counters {self : UInt16} {f : CanixFrame} {p q : DeviceDataHeizung}
    (change : FrameChange self f p q) :
    q.timerCounter = p.timerCounter ∧ q.waermebedarfCounter = p.waermebedarfCounter ∧
      q.ventilpflegeCounter = p.ventilpflegeCounter := by
  cases change <;> exact ⟨rfl, rfl, rfl⟩

section Frame

variable {env : Environment mcu} {i : Nat} {b next : Board mcu} {p : DeviceDataHeizung}
  {f : CanixFrame}

/-- The record that a change leaves, on a board with the same pins. -/
theorem poke_ran {g : DeviceDataHeizung → DeviceDataHeizung}
    (slot : b.devices[i]? = some (.heizung p))
    (ran : (poke i g : OnBoard mcu Unit) b = some ((), next)) :
    next.devices[i]? = some (.heizung (g p)) ∧ next.out = b.out := by
  cases ran
  refine ⟨?_, rfl⟩
  change (b.devices.modify i (onRecord g))[i]? = _
  rw [List.getElem?_modify_eq, slot]
  rfl

/-- The frame leaves the heating one of its changes, and the pins as they are. -/
def Changes (self : UInt16) (f : CanixFrame) (i : Nat) (p : DeviceDataHeizung)
    (b next : Board mcu) : Prop :=
  ∃ q, next.devices[i]? = some (.heizung q) ∧ FrameChange self f p q ∧ next.out = b.out

theorem Changes.of_poke {self : UInt16} {g : DeviceDataHeizung → DeviceDataHeizung}
    (slot : b.devices[i]? = some (.heizung p)) (change : FrameChange self f p (g p))
    (ran : (poke i g : OnBoard mcu Unit) b = some ((), next)) : Changes self f i p b next := by
  obtain ⟨here, same⟩ := poke_ran slot ran
  exact ⟨g p, here, change, same⟩

theorem Changes.of_same {self : UInt16} (slot : b.devices[i]? = some (.heizung p))
    (other : ¬SetsMode self p.config.id f) (ran : some ((), b) = some ((), next)) :
    Changes self f i p b next := by
  cases ran
  exact ⟨p, slot, .kept other, rfl⟩

theorem heizungWriteLine_changes {self : UInt16} {idx : Fin 8}
    (slot : b.devices[i]? = some (.heizung p)) (other : ¬SetsMode self p.config.id f)
    (ran : heizungWriteLine self (fun _ => pure ()) i p f idx b = some ((), next)) :
    Changes self f i p b next := by
  unfold heizungWriteLine at ran
  rw [bind_apply] at ran
  dsimp only [Nested.read, Option.bind_some] at ran
  split at ran
  · cases ran
    refine ⟨_, ?_, .written idx (frameWord f.data[4] f.data[5]) other, rfl⟩
    change (b.devices.modify i (onRecord _))[i]? = _
    rw [List.getElem?_modify_eq, slot]
    rfl
  · exact .of_same slot other ran

theorem heizungCanCallback_changes {self : UInt16} (slot : b.devices[i]? = some (.heizung p))
    (accepted : hauselektrikAccepts self f = true)
    (ran : heizungCanCallback self (fun _ => pure ()) i p f b = some ((), next)) :
    Changes self f i p b next := by
  unfold heizungCanCallback at ran
  dsimp only at ran
  by_cases measure : f.data[1] = hcanHes1wireTemperature
  · have other : ¬SetsMode self p.config.id f := by
      rintro ⟨-, -, sets⟩
      rw [measure] at sets
      exact absurd sets (by decide)
    rw [if_pos measure] at ran
    by_cases sensor : f.data[2] = p.config.sensorId
    · rw [if_pos sensor] at ran
      exact .of_poke slot (.measured other) ran
    · rw [if_neg sensor] at ran
      exact .of_same slot other ran
  rw [if_neg measure] at ran
  by_cases window : f.data[1] = hcanHesReedkontaktOffen
  · have other : ¬SetsMode self p.config.id f := by
      rintro ⟨-, -, sets⟩
      rw [window] at sets
      exact absurd sets (by decide)
    rw [if_pos window] at ran
    by_cases mine : f.data[2] ∈ p.config.reed.toList
    · rw [if_pos mine] at ran
      exact .of_poke slot (.opened other) ran
    · rw [if_neg mine] at ran
      exact .of_same slot other ran
  rw [if_neg window] at ran
  by_cases own : p.config.id = f.data[2]
  · rw [if_pos own] at ran
    by_cases off : f.data[1] = hcanHesHeizungSetModeOff
    · rw [if_pos off] at ran
      exact .of_poke slot (.off ⟨accepted, off, own.symm⟩) ran
    rw [if_neg off] at ran
    by_cases manual : f.data[1] = hcanHesHeizungSetModeManual
    · rw [if_pos manual] at ran
      exact .of_poke slot (.manual ⟨accepted, manual, own.symm⟩) ran
    rw [if_neg manual] at ran
    by_cases thermostat : f.data[1] = hcanHesHeizungSetModeThermostatDetails
    · rw [if_pos thermostat] at ran
      exact .of_poke slot (.thermostat ⟨accepted, thermostat, own.symm⟩) ran
    rw [if_neg thermostat] at ran
    by_cases automatik : f.data[1] = hcanHesHeizungSetModeAutomatik
    · rw [if_pos automatik] at ran
      exact .of_poke slot (.automatik ⟨accepted, automatik, own.symm⟩) ran
    rw [if_neg automatik] at ran
    have other : ¬SetsMode self p.config.id f := by
      rintro ⟨-, -, sets⟩
      rcases sets with sets | sets | sets | sets
      · exact off sets
      · exact manual sets
      · exact thermostat sets
      · exact automatik sets
    by_cases details : f.data[1] = hcanHesHeizungDetailsRequest
    · rw [if_pos details] at ran
      exact .of_same slot other ran
    rw [if_neg details] at ran
    by_cases tist : f.data[1] = hcanHesHeizungTistRequest
    · rw [if_pos tist] at ran
      exact .of_same slot other ran
    rw [if_neg tist] at ran
    by_cases line : f.data[1] = hcanHesHeizungSolltempLineRequest
    · rw [if_pos line] at ran
      by_cases index : f.data[3].toNat < 8
      · rw [dif_pos index] at ran
        exact .of_same slot other ran
      · rw [dif_neg index] at ran
        exact .of_same slot other ran
    rw [if_neg line] at ran
    by_cases write : f.data[1] = hcanHesHeizungSolltempWriteLine
    · rw [if_pos write] at ran
      by_cases index : f.data[3].toNat < 8
      · rw [dif_pos index] at ran
        exact heizungWriteLine_changes slot other ran
      · rw [dif_neg index] at ran
        exact .of_same slot other ran
    · rw [if_neg write] at ran
      exact .of_same slot other ran
  · rw [if_neg own] at ran
    exact .of_same slot (fun sets => own sets.2.1.symm) ran

end Frame

/-! ## The tick -/

section Tick

variable (undef : Undefined) {env : Environment mcu} {i : Nat} {b next : Board mcu}
  {p : DeviceDataHeizung}

/-- The record before the evaluation of every sixth tick. -/
def heizungPrepared (b : Board mcu) (p : DeviceDataHeizung) : DeviceDataHeizung :=
  heizungCountHeizstop (heizungCountDuration (heizungHandlePwm (heizungBegin b.clock p) b.out).1)

/-- The pins before the evaluation. -/
def heizungPulse (b : Board mcu) (p : DeviceDataHeizung) : Outputs :=
  (heizungHandlePwm (heizungBegin b.clock p) b.out).2

theorem heizungTimerHandler_eq (self : UInt16) (b : Board mcu) (p : DeviceDataHeizung) :
    heizungTimerHandler undef self b p =
      if (heizungPrepared b p).timerCounter ≥ 5 then
        let regulated := heizungRegulate undef b { heizungPrepared b p with timerCounter := 0 }
          (heizungPulse b p)
        if (heizungPrepared b p).mode = .off then (regulated.1, regulated.2, [])
        else
          let reported := heizungWaermebedarf undef self regulated.1
          (reported.1, regulated.2, reported.2)
      else
        let reported := heizungWaermebedarf undef self
          { heizungPrepared b p with timerCounter := (heizungPrepared b p).timerCounter + 1 }
        (reported.1, heizungPulse b p, reported.2) := by
  unfold heizungTimerHandler heizungPrepared heizungPulse
  dsimp only

/-- A loop that sends to nobody. -/
theorem silent (frames : List CanixFrame) (b : Board mcu) :
    frames.forM (fun _ => (pure PUnit.unit : OnBoard mcu PUnit)) b = some (PUnit.unit, b) := by
  induction frames with
  | nil => rfl
  | cons frame frames ih => exact ih

/-- The board behind a tick. -/
def heizungTicked (self : UInt16) (i : Nat) (p : DeviceDataHeizung) (b : Board mcu) : Board mcu :=
  { b with
    devices := b.devices.modify i
      (onRecord fun _ : DeviceDataHeizung => (heizungTimerHandler undef self b p).1)
    out := (heizungTimerHandler undef self b p).2.1 }

theorem heizungTick_apply (self : UInt16) (i : Nat) (p : DeviceDataHeizung) (b : Board mcu) :
    heizungTick undef self (fun _ => pure ()) i p b =
      some ((), heizungTicked undef self i p b) := by
  unfold heizungTick heizungTicked
  rw [bind_apply]
  dsimp only [Nested.read, Option.bind_some]
  generalize heizungTimerHandler undef self b p = handled
  rw [bind_apply]
  change handled.2.2.forM (fun _ => (pure PUnit.unit : OnBoard mcu PUnit)) _ = _
  rw [silent]

theorem heizungTick_ran (slot : b.devices[i]? = some (.heizung p))
    (ran : heizungTick undef env.self (fun _ => pure ()) i p b = some ((), next)) :
    next.devices[i]? = some (.heizung (heizungTimerHandler undef env.self b p).1) ∧
      next.out = (heizungTimerHandler undef env.self b p).2.1 := by
  rw [heizungTick_apply] at ran
  have same := (Prod.mk.inj (Option.some.inj ran)).2
  subst same
  unfold heizungTicked
  generalize heizungTimerHandler undef env.self b p = handled
  refine ⟨?_, rfl⟩
  change (b.devices.modify i (onRecord _))[i]? = _
  rw [List.getElem?_modify_eq, slot]
  rfl

/-- The minute in which valve care begins. -/
def CareTime (clock : RtcClock) (id : UInt8) : Prop :=
  clock.dayOfWeek = 7 ∧ clock.hour.toNat * 60 + clock.minute.toNat = id.toNat * 3 + (12 * 60 + 0)

instance careTimeDecidable (clock : RtcClock) (id : UInt8) : Decidable (CareTime clock id) :=
  inferInstanceAs (Decidable (_ ∧ _))

def careAfter (clock : RtcClock) (p : DeviceDataHeizung) : UInt16 :=
  if 1 < p.ventilpflegeCounter then p.ventilpflegeCounter - 1
  else if p.mode = .off ∧ CareTime clock p.config.id then 600
  else 0

def receivedAfter (p : DeviceDataHeizung) : UInt8 :=
  if p.receivedIntervalCounter ≠ 0xff then p.receivedIntervalCounter + 1
  else p.receivedIntervalCounter

def pulseAfter (p : DeviceDataHeizung) : UInt16 :=
  if p.pwmCounter + 1 ≥ p.pwmEnd then 0 else p.pwmCounter + 1

def durationAfter (p : DeviceDataHeizung) : UInt16 :=
  if p.durationCounter > 0 then p.durationCounter - 1 else p.durationCounter

def modeAfter (p : DeviceDataHeizung) : HeizungMode :=
  if p.durationCounter = 1 then .automatik else p.mode

def reedAfter (p : DeviceDataHeizung) : UInt8 :=
  if p.reedHeizStopCounter > 0 then p.reedHeizStopCounter - 1 else p.reedHeizStopCounter

theorem pred_eq_zero {n : UInt16} : n - 1 = 0 ↔ n = 1 := by
  constructor
  · intro zero
    rw [← UInt16.sub_add_cancel n 1, zero]
    rfl
  · rintro rfl
    rfl

theorem heizungBegin_eq (clock : RtcClock) (p : DeviceDataHeizung) :
    heizungBegin clock p =
      { p with
        ventilpflegeCounter := careAfter clock p
        receivedIntervalCounter := receivedAfter p } := by
  have cared : heizungCheckVentilpflege clock
      (if p.ventilpflegeCounter > 0 then
        { p with ventilpflegeCounter := p.ventilpflegeCounter - 1 } else p) =
      { p with ventilpflegeCounter := careAfter clock p } := by
    by_cases running : 1 < p.ventilpflegeCounter
    · have positive : p.ventilpflegeCounter > 0 :=
        UInt16.lt_trans (by decide : (0 : UInt16) < 1) running
      have left : p.ventilpflegeCounter - 1 ≠ 0 := by
        intro zero
        rw [pred_eq_zero.mp zero] at running
        exact absurd running (by decide)
      rw [if_pos positive, heizungCheckVentilpflege, if_neg (fun idle => left idle.2), careAfter,
        if_pos running]
    · have ended : (if p.ventilpflegeCounter > 0 then
          { p with ventilpflegeCounter := p.ventilpflegeCounter - 1 } else p) =
          { p with ventilpflegeCounter := 0 } := by
        have small : p.ventilpflegeCounter.toNat ≤ 1 :=
          Nat.le_of_not_lt fun more => running (UInt16.lt_iff_toNat_lt.mpr more)
        rcases Nat.le_one_iff_eq_zero_or_eq_one.mp small with zero | one
        · have none : p.ventilpflegeCounter = 0 := UInt16.toNat_inj.mp zero
          rw [none, if_neg (by decide), ← none]
        · have last : p.ventilpflegeCounter = 1 := UInt16.toNat_inj.mp one
          rw [last, if_pos (by decide)]
          rfl
      rw [ended, careAfter, if_neg running, heizungCheckVentilpflege]
      dsimp only
      by_cases off : p.mode = .off
      · rw [if_pos ⟨off, rfl⟩]
        by_cases time : CareTime clock p.config.id
        · rw [if_pos (show _ ∧ _ from time), if_pos ⟨off, time⟩]
        · rw [if_neg (show ¬(_ ∧ _) from time), if_neg fun both => time both.2]
      · rw [if_neg fun both => off both.1, if_neg fun both => off both.1]
  unfold heizungBegin receivedAfter
  dsimp only
  rw [cared]
  split
  · rfl
  · rfl

theorem heizungCountDuration_eq (p : DeviceDataHeizung) :
    heizungCountDuration p =
      { p with durationCounter := durationAfter p, mode := modeAfter p } := by
  unfold heizungCountDuration durationAfter modeAfter
  by_cases running : p.durationCounter > 0
  · have last : p.durationCounter - 1 = 0 ↔ p.durationCounter = 1 := pred_eq_zero
    rw [if_pos running, if_pos running]
    dsimp only
    rw [if_congr last rfl rfl]
  · have zero : p.durationCounter ≠ 1 := by
      intro one
      rw [one] at running
      exact running (by decide)
    rw [if_neg running, if_neg running, if_neg zero]

/-- Every field of the record before the evaluation. -/
theorem heizungPrepared_eq (b : Board mcu) (p : DeviceDataHeizung) :
    heizungPrepared b p =
      { p with
        ventilpflegeCounter := careAfter b.clock p
        receivedIntervalCounter := receivedAfter p
        pwmCounter := pulseAfter p
        durationCounter := durationAfter p
        mode := modeAfter p
        reedHeizStopCounter := reedAfter p
        pwmEnd := if reedAfter p ≠ 0 then p.config.pwmPeriode.toUInt16 else p.pwmEnd
        pwmWidth := if reedAfter p ≠ 0 then 0 else p.pwmWidth } := by
  have stopped (p : DeviceDataHeizung) : heizungCountHeizstop p =
      { p with
        reedHeizStopCounter := reedAfter p
        pwmEnd := if reedAfter p ≠ 0 then p.config.pwmPeriode.toUInt16 else p.pwmEnd
        pwmWidth := if reedAfter p ≠ 0 then 0 else p.pwmWidth } := by
    have one : (if p.reedHeizStopCounter > 0 then
        { p with reedHeizStopCounter := p.reedHeizStopCounter - 1 } else p) =
        { p with reedHeizStopCounter := reedAfter p } := by
      unfold reedAfter
      split
      · rfl
      · rfl
    rw [heizungCountHeizstop, one, heizungUpdateHeizstop]
    dsimp only
    by_cases open_ : reedAfter p ≠ 0
    · rw [if_pos open_, if_pos open_, if_pos open_]
    · rw [if_neg open_, if_neg open_, if_neg open_]
  rw [heizungPrepared, heizungBegin_eq, heizungHandlePwm, heizungCountDuration_eq, stopped]
  rfl

theorem heizungPrepared_config (b : Board mcu) (p : DeviceDataHeizung) :
    (heizungPrepared b p).config = p.config := by rw [heizungPrepared_eq]

theorem heizungPrepared_timer (b : Board mcu) (p : DeviceDataHeizung) :
    (heizungPrepared b p).timerCounter = p.timerCounter := by rw [heizungPrepared_eq]

theorem heizungPrepared_mode (b : Board mcu) (p : DeviceDataHeizung) :
    (heizungPrepared b p).mode = modeAfter p := by rw [heizungPrepared_eq]

theorem heizungPrepared_care (b : Board mcu) (p : DeviceDataHeizung) :
    (heizungPrepared b p).ventilpflegeCounter = careAfter b.clock p := by rw [heizungPrepared_eq]

theorem heizungPrepared_reed (b : Board mcu) (p : DeviceDataHeizung) :
    (heizungPrepared b p).reedHeizStopCounter = reedAfter p := by rw [heizungPrepared_eq]

/-- Both registers of the pulse are set together, or neither is; what the evaluation and the
message about the demand change besides is the rate and the counter of this message. -/
structure Regulates (q r : DeviceDataHeizung) : Prop where
  kept : r = { q with
    manualRate := r.manualRate
    pwmEnd := r.pwmEnd
    pwmWidth := r.pwmWidth
    waermebedarfCounter := r.waermebedarfCounter }
  pulse : (r.pwmEnd = q.pwmEnd ∧ r.pwmWidth = q.pwmWidth) ∨ ∃ rate : UInt8,
    r.pwmEnd = q.config.pwmPeriode.toUInt16 ∧
      r.pwmWidth = if q.reedHeizStopCounter ≠ 0 then 0
        else UInt16.ofNat (q.config.pwmPeriode.toNat * rate.toNat / 100)

theorem heizungSetPwm_eq (p : DeviceDataHeizung) (rate : UInt8) :
    heizungSetPwm p rate =
      { p with
        pwmEnd := p.config.pwmPeriode.toUInt16
        pwmWidth := if p.reedHeizStopCounter ≠ 0 then 0
          else UInt16.ofNat (p.config.pwmPeriode.toNat * rate.toNat / 100) } := by
  unfold heizungSetPwm heizungUpdateHeizstop
  by_cases window : p.reedHeizStopCounter ≠ 0
  · rw [if_pos window, if_pos window, if_pos window]
  · rw [if_neg window, if_neg window]

theorem Regulates.refl (p : DeviceDataHeizung) : Regulates p p := ⟨rfl, .inl ⟨rfl, rfl⟩⟩

theorem regulates_setPwm (p : DeviceDataHeizung) (rate : UInt8) :
    Regulates p (heizungSetPwm p rate) := by
  rw [heizungSetPwm_eq]
  exact ⟨rfl, .inr ⟨rate, rfl, rfl⟩⟩

theorem regulates_setPwmByTemp (p : DeviceDataHeizung) (soll ist : UInt16) :
    Regulates p (heizungSetPwmByTemp undef p soll ist) := by
  unfold heizungSetPwmByTemp
  dsimp only
  split
  · exact regulates_setPwm p 0
  · split
    · rw [heizungSetPwm_eq]
      exact ⟨rfl, .inr ⟨100, rfl, rfl⟩⟩
    · exact .refl p

theorem regulates_regulate (b : Board mcu) (p : DeviceDataHeizung) (out : Outputs) :
    Regulates p (heizungRegulate undef b p out).1 := by
  have off (rate : UInt8) : Regulates p (heizungSetPwm { p with manualRate := 0 } rate) := by
    rw [heizungSetPwm_eq]
    exact ⟨rfl, .inr ⟨rate, rfl, rfl⟩⟩
  unfold heizungRegulate
  split
  · dsimp only
    split
    · exact off 100
    · exact off 0
  · exact regulates_setPwm ..
  · split
    · split
      · exact regulates_setPwmByTemp undef ..
      · exact regulates_setPwm ..
    · exact .refl p
  · split
    · exact regulates_setPwmByTemp undef ..
    · exact .refl p

theorem Regulates.reported {q r : DeviceDataHeizung} (regulated : Regulates q r) (self : UInt16) :
    Regulates q (heizungWaermebedarf undef self r).1 := by
  obtain ⟨kept, pulse⟩ := regulated
  unfold heizungWaermebedarf
  split
  · exact ⟨by rw [kept], pulse⟩
  · exact ⟨by rw [kept], pulse⟩

/-- Every tick but the sixth leaves the registers as the window stop has left them. -/
theorem heizungTimerHandler_regulates (self : UInt16) (b : Board mcu) (p : DeviceDataHeizung) :
    Regulates
      { heizungPrepared b p with
        timerCounter := if p.timerCounter ≥ 5 then 0 else p.timerCounter + 1 }
      (heizungTimerHandler undef self b p).1 := by
  rw [heizungTimerHandler_eq, heizungPrepared_timer]
  generalize heizungPrepared b p = q
  generalize heizungPulse b p = out
  by_cases evaluated : p.timerCounter ≥ 5
  · rw [if_pos evaluated, if_pos evaluated]
    have regulated := regulates_regulate undef b { q with timerCounter := 0 } out
    dsimp only
    split
    · exact regulated
    · exact regulated.reported undef self
  · rw [if_neg evaluated, if_neg evaluated]
    exact (Regulates.refl _).reported undef self

/-- What the handler makes of mode, duration and configuration. -/
theorem heizungTimerHandler_timed (self : UInt16) (b : Board mcu) (p : DeviceDataHeizung) :
    (heizungTimerHandler undef self b p).1.config = p.config ∧
      (heizungTimerHandler undef self b p).1.mode = modeAfter p ∧
      (heizungTimerHandler undef self b p).1.durationCounter = durationAfter p := by
  have kept := heizungTimerHandler_keeps undef self b p
  rw [heizungCountDuration_eq] at kept
  exact ⟨kept.config, kept.mode, kept.duration⟩

/-- What the handler makes of the counters but the one of the message. -/
theorem heizungTimerHandler_counters (self : UInt16) (b : Board mcu) (p : DeviceDataHeizung) :
    (heizungTimerHandler undef self b p).1.timerCounter =
        (if p.timerCounter ≥ 5 then 0 else p.timerCounter + 1) ∧
      (heizungTimerHandler undef self b p).1.pwmCounter = pulseAfter p ∧
      (heizungTimerHandler undef self b p).1.ventilpflegeCounter = careAfter b.clock p ∧
      (heizungTimerHandler undef self b p).1.reedHeizStopCounter = reedAfter p := by
  have kept := (heizungTimerHandler_regulates undef self b p).kept
  have timer := congrArg DeviceDataHeizung.timerCounter kept
  have counter := congrArg DeviceDataHeizung.pwmCounter kept
  have care := congrArg DeviceDataHeizung.ventilpflegeCounter kept
  have reed := congrArg DeviceDataHeizung.reedHeizStopCounter kept
  dsimp only at timer counter care reed
  rw [heizungPrepared_eq] at counter care reed
  exact ⟨timer, counter, care, reed⟩

/-- The timer as a number. -/
theorem timer_toNat (self : UInt16) (b : Board mcu) (p : DeviceDataHeizung) :
    (5 ≤ p.timerCounter.toNat ∧ (heizungTimerHandler undef self b p).1.timerCounter.toNat = 0) ∨
      (p.timerCounter.toNat < 5 ∧ (heizungTimerHandler undef self b p).1.timerCounter.toNat =
        p.timerCounter.toNat + 1) := by
  rw [(heizungTimerHandler_counters undef self b p).1]
  by_cases evaluated : p.timerCounter ≥ 5
  · rw [if_pos evaluated]
    exact .inl ⟨UInt8.le_iff_toNat_le.mp evaluated, rfl⟩
  · have early : p.timerCounter.toNat < 5 := Nat.lt_of_not_le fun late =>
      evaluated (UInt8.le_iff_toNat_le.mpr late)
    rw [if_neg evaluated]
    refine .inr ⟨early, ?_⟩
    rw [UInt8.toNat_add, UInt8.toNat_one]
    omega

/-- The pin behind the pulse width modulation. -/
theorem heizungPulse_isOn (b : Board mcu) (p : DeviceDataHeizung) :
    (heizungPulse b p).isOn p.config.port =
      if pulseAfter p ≥ p.pwmWidth then false
      else if p.pwmCounter + 1 ≥ p.pwmEnd then b.out.hasPin p.config.port
      else b.out.isOn p.config.port := by
  rw [heizungPulse, heizungBegin_eq, heizungHandlePwm]
  dsimp only
  change (if pulseAfter p ≥ p.pwmWidth then _ else _ : Outputs).isOn p.config.port = _
  by_cases ends : pulseAfter p ≥ p.pwmWidth
  · rw [if_pos ends, if_pos ends, isOn_setpin_off]
  · rw [if_neg ends, if_neg ends]
    by_cases begins : p.pwmCounter + 1 ≥ p.pwmEnd
    · rw [if_pos begins, if_pos begins, isOn_setpin, isOn_or_hasPin, Bool.true_and]
    · rw [if_neg begins, if_neg begins]

theorem heizungPulse_hasPin (b : Board mcu) (p : DeviceDataHeizung) (port : UInt8) :
    (heizungPulse b p).hasPin port = b.out.hasPin port := by
  rw [heizungPulse, heizungHandlePwm]
  dsimp only
  repeat' split
  all_goals simp only [hasPin_setpin]

/-- The evaluation sets the pin in the mode OFF only. -/
theorem heizungRegulate_isOn (b : Board mcu) (p : DeviceDataHeizung) (out : Outputs) :
    (heizungRegulate undef b p out).2.isOn p.config.port =
      if p.mode = .off then
        decide (p.ventilpflegeCounter ≠ 0) && out.hasPin p.config.port
      else out.isOn p.config.port := by
  unfold heizungRegulate
  cases mode : p.mode with
  | off =>
      dsimp only
      rw [if_pos rfl]
      by_cases care : p.ventilpflegeCounter ≠ 0
      · rw [if_pos care, decide_eq_true care, isOn_setpin, isOn_or_hasPin]
      · rw [if_neg care, decide_eq_false care, Bool.false_and]
        by_cases on : darlingtonoutputGetpin out p.config.port ≠ 0
        · rw [if_pos on, isOn_setpin_off]
        · rw [if_neg on]
          exact Bool.eq_false_iff.mpr fun isOn => on (bne_iff_ne.mp isOn)
  | manual => rfl
  | automatik =>
      dsimp only
      rw [if_neg (show ¬HeizungMode.automatik = .off by decide)]
      split
      · split
        · rfl
        · rfl
      · rfl
  | thermostat =>
      dsimp only
      rw [if_neg (show ¬HeizungMode.thermostat = .off by decide)]
      split
      · rfl
      · rfl

/-- The pin behind a tick. -/
theorem heizungTimerHandler_isOn (self : UInt16) (b : Board mcu) (p : DeviceDataHeizung) :
    (heizungTimerHandler undef self b p).2.1.isOn p.config.port =
      if p.timerCounter ≥ 5 ∧ modeAfter p = .off then
        decide (careAfter b.clock p ≠ 0) && b.out.hasPin p.config.port
      else (heizungPulse b p).isOn p.config.port := by
  have pins := heizungPulse_hasPin b p p.config.port
  rw [heizungTimerHandler_eq, ← heizungPrepared_config b p, ← heizungPrepared_timer b p,
    ← heizungPrepared_mode b p, ← heizungPrepared_care b p, heizungPrepared_config, ← pins,
    ← heizungPrepared_config b p]
  generalize heizungPrepared b p = q
  generalize heizungPulse b p = out
  have regulated := heizungRegulate_isOn undef b { q with timerCounter := 0 } out
  dsimp only at regulated ⊢
  by_cases evaluated : q.timerCounter ≥ 5
  · rw [if_pos evaluated]
    by_cases off : q.mode = .off
    · rw [if_pos off] at regulated
      rw [if_pos off, if_pos ⟨evaluated, off⟩]
      exact regulated
    · rw [if_neg off] at regulated
      rw [if_neg off, if_neg fun both => off both.2]
      exact regulated
  · rw [if_neg evaluated, if_neg fun both => evaluated both.1]

theorem heizungRegulate_hasPin (b : Board mcu) (p : DeviceDataHeizung) (out : Outputs)
    (port : UInt8) : (heizungRegulate undef b p out).2.hasPin port = out.hasPin port := by
  unfold heizungRegulate
  cases p.mode with
  | off =>
      dsimp only
      split
      · exact hasPin_setpin ..
      · split
        · exact hasPin_setpin ..
        · rfl
  | manual => rfl
  | automatik =>
      dsimp only
      split
      · split
        · rfl
        · rfl
      · rfl
  | thermostat =>
      dsimp only
      split
      · rfl
      · rfl

/-- A tick takes no pin away. -/
theorem heizungTimerHandler_hasPin (self : UInt16) (b : Board mcu) (p : DeviceDataHeizung)
    (port : UInt8) : (heizungTimerHandler undef self b p).2.1.hasPin port = b.out.hasPin port := by
  rw [← heizungPulse_hasPin b p port, heizungTimerHandler_eq]
  generalize heizungPrepared b p = q
  generalize heizungPulse b p = out
  have regulated := heizungRegulate_hasPin undef b { q with timerCounter := 0 } out port
  by_cases evaluated : q.timerCounter ≥ 5
  · rw [if_pos evaluated]
    dsimp only
    split
    · exact regulated
    · exact regulated
  · rw [if_neg evaluated]

end Tick

/-! ## Steps -/

section Step

variable {undef : Undefined} {env : Environment mcu} {i : Nat} {b next : Board mcu}
  {p : DeviceDataHeizung}

theorem heizungStep_tick (slot : b.devices[i]? = some (.heizung p))
    (step : HeizungStep undef env i b .tick next) :
    next.devices[i]? = some (.heizung (heizungTimerHandler undef env.self b p).1) ∧
      next.out = (heizungTimerHandler undef env.self b p).2.1 := by
  cases step with
  | tick here ran =>
      cases Device.heizung.inj (Option.some.inj (slot.symm.trans here))
      exact heizungTick_ran undef slot ran

theorem heizungStep_ticked (slot : b.devices[i]? = some (.heizung p)) :
    HeizungStep undef env i b .tick (heizungTicked undef env.self i p b) :=
  .tick slot (heizungTick_apply ..)

theorem heizungStep_frame {f : CanixFrame} (slot : b.devices[i]? = some (.heizung p))
    (step : HeizungStep undef env i b (.frame f) next) : Changes env.self f i p b next := by
  cases step with
  | frame f ran =>
      by_cases accepted : hauselektrikAccepts env.self f = true
      · rw [if_pos accepted, deviceCanCallback, bind_apply] at ran
        dsimp only [Nested.read, Option.bind_some] at ran
        rw [slot] at ran
        exact heizungCanCallback_changes slot accepted ran
      · rw [if_neg accepted] at ran
        exact .of_same slot (fun sets => accepted sets.1) ran

theorem heizungStep_elsewhere (step : HeizungStep undef env i b .elsewhere next) :
    next.devices[i]? = b.devices[i]? := by
  cases step with
  | elsewhere same => exact same

end Step

/-- The heating at an index of the table. -/
def heizungAt (i : Nat) (b : Board mcu) : Option DeviceDataHeizung :=
  match b.devices[i]? with
  | some (.heizung p) => some p
  | _ => none

theorem heizungAt_eq_some {i : Nat} {b : Board mcu} {p : DeviceDataHeizung} :
    heizungAt i b = some p ↔ b.devices[i]? = some (.heizung p) := by
  unfold heizungAt
  split
  · next q slot =>
      rw [slot, Option.some.injEq, Option.some.injEq, Device.heizung.injEq]
  · next other => exact iff_of_false (Option.some_ne_none p).symm (other p)

instance atSlotDecidable (i : Nat) (holds : DeviceDataHeizung → Prop) [DecidablePred holds]
    (b : Board mcu) : Decidable (AtSlot i holds b) :=
  decidable_of_iff ((heizungAt i b).any fun p => decide (holds p)) <| by
    simp only [Option.any_eq_true, decide_eq_true_eq, AtSlot, heizungAt_eq_some]

/-- The board behind an event that is none of the rest of the board. -/
def heizungExecute (undef : Undefined) (env : Environment mcu) (i : Nat) (b : Board mcu) :
    HeizungEvent → Option (Board mcu)
  | .tick =>
      match b.devices[i]? with
      | some (.heizung p) => (heizungTick undef env.self (fun _ => pure ()) i p b).map Prod.snd
      | _ => none
  | .frame f =>
      ((if hauselektrikAccepts env.self f then
        deviceCanCallback env (fun _ => pure ()) f i else pure ()) b).map Prod.snd
  | .elsewhere => none

theorem heizungExecute_step {undef : Undefined} {env : Environment mcu} {i : Nat}
    {b next : Board mcu} {event : HeizungEvent}
    (executed : heizungExecute undef env i b event = some next) :
    HeizungStep undef env i b event next := by
  cases event with
  | tick =>
      rw [heizungExecute] at executed
      split at executed
      · next p slot =>
          obtain ⟨⟨_, last⟩, ran, rfl⟩ := Option.map_eq_some_iff.mp executed
          exact .tick slot ran
      · cases executed
  | frame f =>
      obtain ⟨⟨_, last⟩, ran, rfl⟩ := Option.map_eq_some_iff.mp executed
      exact .frame f ran
  | elsewhere => cases executed

/-- The heating of a kitchen before it is initialised. -/
def kitchenHeizung (id pwmPeriode : UInt8) : DeviceDataHeizung :=
  heizungInit ⟨id, 3, pwmPeriode, 1, Vector.replicate 8 ⟨255, 0⟩, 0, 8, Vector.replicate 8 9⟩ 34

/-- A board with one heating and no zone. -/
def kitchenBoard (p : DeviceDataHeizung) : Board atmega32 where
  devices := [.heizung p]
  ramUsage := 90
  out := Controller.Outputs.reset 0 0 0 0
  tasterport _ := false
  eeprom := .powerUp fun _ => 255
  clock := ⟨1, 12, 0, 0, 1, 1, 8⟩
  sent := []

/-- A command to the heatings. -/
def kitchenFrame (command d2 d3 d4 d5 d6 : UInt8) : CanixFrame :=
  hesFrame 1000 hcanMulticastControl 7 command d2 d3 d4 d5 d6 0

def zeroUndefined : Undefined := ⟨fun _ => 0, fun _ => 0⟩

/-- The record and the pins of the kitchen behind some events. -/
def kitchenBehind (b : Board atmega32) (events : List HeizungEvent) :
    Option (DeviceDataHeizung × Outputs) :=
  (events.foldlM (heizungExecute zeroUndefined quietEnvironment 0) b).bind fun b =>
    match b.devices[0]? with
    | some (Device.heizung p) => some (p, b.out)
    | _ => none

theorem kitchenBehind_run {b : Board atmega32} {events : List HeizungEvent}
    {p : DeviceDataHeizung} {out : Outputs} (behind : kitchenBehind b events = some (p, out)) :
    ∃ last, Run (HeizungStep zeroUndefined quietEnvironment 0) b events last ∧
      last.devices[0]? = some (.heizung p) ∧ last.out = out := by
  obtain ⟨last, executed, here⟩ := Option.bind_eq_some_iff.mp behind
  refine ⟨last, (Run.of_execute executed).mono fun _ _ _ => heizungExecute_step, ?_⟩
  split at here
  · next q slot =>
      cases here
      exact ⟨slot, rfl⟩
  · cases here

end Hcan.Hauselektrik
