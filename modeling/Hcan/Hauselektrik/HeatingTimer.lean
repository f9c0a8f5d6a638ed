import Hcan.Hauselektrik.Dispatch
import Hcan.Library.Run

/-!
# The timer of the heating

`heizung_timer_handler`, called once a second for every heating of a board: valve care,
pulse width modulation, the countdown of a timed mode, the window stop, the controller
and the message about the demand for heat.  The handler of a frame and the ticks of one
heating make up the runs of its record.
-/

namespace Hcan.Hauselektrik

open Hcan.Canix Hcan.Eds Hcan.Controller Hcan.Library

variable {mcu : Mcu}

/-- What C leaves open: a division by zero and a sum that does not fit into an `int`. -/
structure Undefined where
  byZero : Int → Int
  overflow : Int → Int

/-- An `int` of the controller has 16 bits. -/
def Undefined.int (undef : Undefined) (value : Int) : Int :=
  if -32768 ≤ value ∧ value < 32768 then value else undef.overflow value

section Handler

variable (undef : Undefined) (self : UInt16)

def heizungUpdateHeizstop (p : DeviceDataHeizung) : DeviceDataHeizung :=
  if p.reedHeizStopCounter ≠ 0 then
    { p with pwmEnd := p.config.pwmPeriode.toUInt16, pwmWidth := 0 }
  else p

def heizungSetPwm (p : DeviceDataHeizung) (rate : UInt8) : DeviceDataHeizung :=
  if p.reedHeizStopCounter ≠ 0 then heizungUpdateHeizstop p
  else
    { p with
      pwmEnd := p.config.pwmPeriode.toUInt16
      pwmWidth := UInt16.ofNat (p.config.pwmPeriode.toNat * rate.toNat / 100) }

/-- The rate that the pulse width stands for. -/
def heizungGetPwm (p : DeviceDataHeizung) : UInt8 :=
  if p.mode ≠ .off then
    UInt8.ofInt (quotient undef.byZero (p.pwmWidth.toNat * 100) p.pwmEnd.toNat)
  else 0

def heizungHandlePwm (p : DeviceDataHeizung) (out : Outputs) : DeviceDataHeizung × Outputs :=
  let counter := p.pwmCounter + 1
  let begins := counter ≥ p.pwmEnd
  let counter := if begins then 0 else counter
  let out := if begins then darlingtonoutputSetpin out p.config.port true else out
  let out := if counter ≥ p.pwmWidth then darlingtonoutputSetpin out p.config.port false else out
  ({ p with pwmCounter := counter }, out)

/-- Two-point control with a hysteresis. -/
def heizungSetPwmByTemp (p : DeviceDataHeizung) (soll ist : UInt16) : DeviceDataHeizung :=
  let hysterese : Int := p.config.hysterese.toNat
  if heizungGetPwm undef p > 0 ∧ ist.toInt16.toInt > undef.int (soll.toInt16.toInt + hysterese) then
    heizungSetPwm p 0
  else if heizungGetPwm undef p = 0 ∧
      ist.toInt16.toInt < undef.int (soll.toInt16.toInt - hysterese) then
    { heizungSetPwm p 100 with waermebedarfCounter := 210 }
  else p

def heizungCheckVentilpflege (clock : RtcClock) (p : DeviceDataHeizung) : DeviceDataHeizung :=
  if p.mode = .off ∧ p.ventilpflegeCounter = 0 then
    if clock.dayOfWeek = 7 ∧
        clock.hour.toNat * 60 + clock.minute.toNat = p.config.id.toNat * 3 + (12 * 60 + 0) then
      { p with ventilpflegeCounter := 600 }
    else p
  else p

/-- The switch over the mode. -/
def heizungRegulate (b : Board mcu) (p : DeviceDataHeizung) (out : Outputs) :
    DeviceDataHeizung × Outputs :=
  match p.mode with
  | .off =>
      let p := { p with manualRate := 0 }
      if p.ventilpflegeCounter ≠ 0 then
        (heizungSetPwm p 100, darlingtonoutputSetpin out p.config.port true)
      else
        (heizungSetPwm p 0,
          if darlingtonoutputGetpin out p.config.port ≠ 0 then
            darlingtonoutputSetpin out p.config.port false
          else out)
  | .manual => (heizungSetPwm p p.manualRate, out)
  | .automatik =>
      if p.receivedIntervalCounter < 255 then
        match heizungMatchingLine b p with
        | some line => (heizungSetPwmByTemp undef p line.temp p.measureValue, out)
        | none => (heizungSetPwm p 0, out)
      else (p, out)
  | .thermostat =>
      if p.receivedIntervalCounter < 255 then
        (heizungSetPwmByTemp undef p p.thermostatTemp p.measureValue, out)
      else (p, out)

def heizungFeatureDoppelWaermebedarf : UInt8 := 0

/-- The message about the demand for heat, once a minute. -/
def heizungWaermebedarf (p : DeviceDataHeizung) : DeviceDataHeizung × List CanixFrame :=
  if p.waermebedarfCounter = 0 then
    let rate := heizungGetPwm undef p
    let rate := if p.config.feature &&& (1 <<< heizungFeatureDoppelWaermebedarf) ≠ 0 then
      rate <<< 1 else rate
    ({ p with waermebedarfCounter := 60 },
      [hesFrame self hcanMulticastInfo 4 hcanHesHeizungWaermebedarfInfo p.config.id rate 0 0 0 0])
  else ({ p with waermebedarfCounter := p.waermebedarfCounter - 1 }, [])

/-- The countdown of a timed mode. -/
def heizungCountDuration (p : DeviceDataHeizung) : DeviceDataHeizung :=
  if p.durationCounter > 0 then
    let left := p.durationCounter - 1
    { p with durationCounter := left, mode := if left = 0 then .automatik else p.mode }
  else p

/-- The counters at the beginning of the handler. -/
def heizungBegin (clock : RtcClock) (p : DeviceDataHeizung) : DeviceDataHeizung :=
  let p := if p.ventilpflegeCounter > 0 then
    { p with ventilpflegeCounter := p.ventilpflegeCounter - 1 } else p
  let p := heizungCheckVentilpflege clock p
  if p.receivedIntervalCounter ≠ 0xff then
    { p with receivedIntervalCounter := p.receivedIntervalCounter + 1 } else p

/-- The window stop behind the countdown. -/
def heizungCountHeizstop (p : DeviceDataHeizung) : DeviceDataHeizung :=
  heizungUpdateHeizstop <| if p.reedHeizStopCounter > 0 then
    { p with reedHeizStopCounter := p.reedHeizStopCounter - 1 } else p

/-- The record and the pins behind the handler and the message that it sends at its end.  In
the mode OFF it returns from the switch, before the message. -/
def heizungTimerHandler (b : Board mcu) (p : DeviceDataHeizung) :
    DeviceDataHeizung × Outputs × List CanixFrame :=
  let (p, out) := heizungHandlePwm (heizungBegin b.clock p) b.out
  let p := heizungCountHeizstop (heizungCountDuration p)
  if p.timerCounter ≥ 5 then
    let (q, out) := heizungRegulate undef b { p with timerCounter := 0 } out
    if p.mode = .off then (q, out, [])
    else
      let (q, frames) := heizungWaermebedarf undef self q
      (q, out, frames)
  else
    let (q, frames) := heizungWaermebedarf undef self { p with timerCounter := p.timerCounter + 1 }
    (q, out, frames)

/-- The tick of the heating at index `i`. -/
def heizungTick (send : CanixFrame → OnBoard mcu Unit) (i : Nat) (p : DeviceDataHeizung) :
    OnBoard mcu Unit := do
  let handled ← Nested.read fun b => heizungTimerHandler undef self b p
  poke i fun _ : DeviceDataHeizung => handled.1
  modify fun b => { b with out := handled.2.1 }
  handled.2.2.forM send

end Handler

inductive HeizungEvent where
  | tick
  | frame (f : CanixFrame)
  | elsewhere

/-- One step of a board as the heating at index `i` sees it.  What the heating sends it sends
last, so that the local delivery of the message is an event of its own.  The rest of the board
leaves the record alone. -/
inductive HeizungStep (undef : Undefined) (env : Environment mcu) (i : Nat) :
    Board mcu → HeizungEvent → Board mcu → Prop where
  | tick {b next : Board mcu} {p : DeviceDataHeizung} (slot : b.devices[i]? = some (.heizung p))
      (ran : heizungTick undef env.self (fun _ => pure ()) i p b = some ((), next)) :
      HeizungStep undef env i b .tick next
  | frame {b next : Board mcu} (f : CanixFrame)
      (ran : (if hauselektrikAccepts env.self f then
        deviceCanCallback env (fun _ => pure ()) f i else pure ()) b = some ((), next)) :
      HeizungStep undef env i b (.frame f) next
  | elsewhere {b next : Board mcu} (same : next.devices[i]? = b.devices[i]?) :
      HeizungStep undef env i b .elsewhere next

end Hcan.Hauselektrik
