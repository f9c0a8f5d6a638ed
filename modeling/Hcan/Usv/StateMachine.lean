import Hcan.Canix.Frame
import Hcan.Controller.Darlington
import Hcan.Library.Bits
import Hcan.Library.Machine
import Hcan.Library.Prescaled

/-!
# The power supply unit

The relay of the unit changes between mains and battery.  Two counters hold it: `usv_timer` counts
the calls of the timer handler, `switch_back_counter` counts its seconds.  The divider of the
seconds runs on its own, so the first second behind a switch is a part of one.
-/

namespace Hcan.Usv

open Hcan.Canix Hcan.Controller Hcan.Library

structure Leds where
  ledState : Vector UInt8 8
  ledTimerCounter : UInt8
  portC : UInt8
  deriving DecidableEq, Repr

namespace Leds

def init : Leds := ⟨Vector.replicate 8 0, 0, 255⟩

def set (leds : Leds) (n state : UInt8) : Leds :=
  { leds with ledState := leds.ledState.setIfInBounds (if n > 7 then 0 else n).toNat state }

/-- The pins of the LEDs 0 to 6 are 7 to 1; the LEDs are on at a low pin. -/
def enable (portC n : UInt8) (enabled : Bool) : UInt8 :=
  if n > 6 then portC
  else if enabled then portC &&& ~~~(1 <<< (7 - n))
  else portC ||| 1 <<< (7 - n)

def timerHandler (leds : Leds) : Leds :=
  let counter := if leds.ledTimerCounter + 1 ≥ 10 then 0 else leds.ledTimerCounter + 1
  { leds with
    ledTimerCounter := counter
    portC := (List.range 7).foldl
      (fun portC i => enable portC (UInt8.ofNat i) (counter < leds.ledState.toList.getD i 0))
      leds.portC }

end Leds

/-- The globals of the unit with its output pins. -/
structure UsvModul where
  onBattery : Bool
  usvTimer : UInt16
  switchBackCounter : UInt16
  ledTimer : UInt8
  timerCounter : UInt8
  uMin : Vector UInt16 5
  uMax : Vector UInt16 5
  leds : Leds
  out : Outputs

/-- The values of the converter in one call of `usv_state_handler`, in the order of its reads: the
five channels, the reads of the decision, and the reads for the LEDs. -/
structure Measured where
  stats : Vector UInt16 5
  uPuffer : UInt16
  uBat : UInt16
  uNT : UInt16
  ledPuffer : UInt16
  ledNT : UInt16
  ledWarning : UInt16
  ledCritical : UInt16
  deriving DecidableEq, Repr

def u23V : UInt16 := 784
def u24V : UInt16 := 819
def uBatWarning : UInt16 := 836
def uBatCritical : UInt16 := 829

/-- The output pin of the relay. -/
def relayPin : UInt8 := 7

def hcanSrvUsvs : UInt8 := 8
def hcanUsvsStateRequest : UInt8 := 1
def hcanUsvsStateInfo : UInt8 := 2
def hcanUsvsVoltageRequest : UInt8 := 3
def hcanUsvsVoltageReplay : UInt8 := 4
def hcanUsvsVoltageStatsRequest : UInt8 := 5
def hcanUsvsVoltageStatsReplay : UInt8 := 6
def hcanUsvsVoltageStatsReset : UInt8 := 7

/-- The bytes are written at the front of the data. -/
def usvsFrame (selfaddr dst : UInt16) (command : UInt8) (bytes : List UInt8) : CanixFrame where
  src := selfaddr
  dst := dst
  proto := hcanProtoSfp
  size := UInt8.ofNat (bytes.length + 2)
  data := Vector.ofFn fun i => (hcanSrvUsvs :: command :: bytes).getD i.val 0

namespace UsvModul

/-- The relay stands at the battery. -/
def relay (usv : UsvModul) : Bool := usv.out.isOn relayPin

def resetUStats (usv : UsvModul) : UsvModul :=
  { usv with uMin := Vector.replicate 5 1023, uMax := Vector.replicate 5 0 }

/-- The unit behind `main`. -/
def init : UsvModul :=
  resetUStats
    { onBattery := false
      usvTimer := 0
      switchBackCounter := 0
      ledTimer := 5
      timerCounter := 0
      uMin := Vector.replicate 5 0
      uMax := Vector.replicate 5 0
      leds := ((Leds.init.set 3 10).set 6 0).set 1 1
      out := darlingtonoutputInit ⟨0, 0, 0, 0, []⟩ }

def stateInfo (selfaddr dst : UInt16) (usv : UsvModul) : CanixFrame :=
  usvsFrame selfaddr dst hcanUsvsStateInfo [usv.onBattery.toUInt8]

def switchToBattery (usv : UsvModul) : UsvModul :=
  { usv with
    onBattery := true
    out := darlingtonoutputSetpin usv.out relayPin true
    usvTimer := 200
    leds := (usv.leds.set 3 0).set 6 10 }

def switchToNetzbetrieb (usv : UsvModul) : UsvModul :=
  { usv with
    onBattery := false
    out := darlingtonoutputSetpin usv.out relayPin false
    usvTimer := 10
    leds := (usv.leds.set 3 10).set 6 0 }

def countUsvTimer (usv : UsvModul) : UsvModul :=
  { usv with usvTimer := if usv.usvTimer > 0 then usv.usvTimer - 1 else usv.usvTimer }

def countLeds (usv : UsvModul) : UsvModul :=
  if usv.ledTimer = 0 then { usv with ledTimer := 9, leds := usv.leds.timerHandler }
  else { usv with ledTimer := usv.ledTimer - 1 }

def countSeconds (usv : UsvModul) : UsvModul :=
  if usv.timerCounter = 0 then
    { usv with
      timerCounter := 100
      switchBackCounter :=
        if usv.switchBackCounter > 0 then usv.switchBackCounter - 1 else usv.switchBackCounter }
  else { usv with timerCounter := usv.timerCounter - 1 }

/-- Called 100 times a second. -/
def timerHandler (usv : UsvModul) : UsvModul := usv.countUsvTimer.countLeds.countSeconds

def updateStats (usv : UsvModul) (stats : Vector UInt16 5) : UsvModul :=
  { usv with
    uMax := Vector.zipWith (fun u top => if u > top then u else top) stats usv.uMax
    uMin := Vector.zipWith (fun u low => if u < low then u else low) stats usv.uMin }

/-- The decision about the relay: the unit and whether it sends its state. -/
def decision (usv : UsvModul) (measured : Measured) : UsvModul × Bool :=
  if measured.uPuffer ≤ u23V then
    if measured.uBat > u24V then
      if usv.onBattery = false then
        ({ usv.switchToBattery with switchBackCounter := 30 }, true)
      else (usv, false)
    else if usv.onBattery then (usv.switchToNetzbetrieb, true)
    else (usv, false)
  else if measured.uNT > u24V ∧ usv.switchBackCounter = 0 then
    if usv.onBattery then (usv.switchToNetzbetrieb, true) else (usv, false)
  else (usv, false)

def updateLeds (usv : UsvModul) (measured : Measured) : UsvModul :=
  { usv with
    leds := (((usv.leds.set 0 (if measured.ledPuffer ≥ u23V then 10 else 0)).set 2
      (if measured.ledNT < u23V then 10 else 0)).set 4
      (if measured.ledWarning < uBatWarning then 3 else 0)).set 5
      (if measured.ledCritical < uBatCritical then 5 else 0) }

/-- The handler with the frames that it sends. -/
def stateHandler (selfaddr : UInt16) (usv : UsvModul) (measured : Measured) :
    UsvModul × List CanixFrame :=
  let usv := usv.updateStats measured.stats
  if usv.usvTimer ≠ 0 then (usv, [])
  else
    let switched := usv.decision measured
    (switched.1.updateLeds measured,
      if switched.2 then [stateInfo selfaddr hcanMulticastInfo switched.1] else [])

/-- The callback with its answer; `u` is the value of the converter. -/
def canCallback (selfaddr : UInt16) (usv : UsvModul) (u : UInt16) (frame : CanixFrame) :
    UsvModul × Option CanixFrame :=
  let n := frame.data[2] - 1
  if frame.data[1] = hcanUsvsStateRequest then (usv, stateInfo selfaddr frame.src usv)
  else if frame.data[1] = hcanUsvsVoltageRequest then
    (usv, if n < 5 then
      some (usvsFrame selfaddr frame.src hcanUsvsVoltageReplay [(u >>> 8).toUInt8, u.toUInt8])
    else none)
  else if frame.data[1] = hcanUsvsVoltageStatsRequest then
    (usv, if n < 5 then
      let low := usv.uMin.toList.getD n.toNat 0
      let top := usv.uMax.toList.getD n.toNat 0
      some (usvsFrame selfaddr frame.src hcanUsvsVoltageStatsReplay
        [frame.data[2], (low >>> 8).toUInt8, low.toUInt8, (top >>> 8).toUInt8, top.toUInt8])
    else none)
  else if frame.data[1] = hcanUsvsVoltageStatsReset then (usv.resetUStats, none)
  else (usv, none)

end UsvModul

/-! ## Runs -/

inductive UsvEvent where
  | timer
  | state (measured : Measured)
  | frame (u : UInt16) (frame : CanixFrame)
  deriving DecidableEq, Repr

/-- The buffer breaks down while the battery is charged. -/
def fails (measured : Measured) : Prop := measured.uPuffer ≤ u23V ∧ measured.uBat > u24V

/-- The buffer is up and the mains voltage is there. -/
def returned (measured : Measured) : Prop := measured.uPuffer > u23V ∧ measured.uNT > u24V

/-- The calls of the timer handler. -/
def timerCalls (events : List UsvEvent) : ℕ := events.count .timer

namespace UsvModul

def step (selfaddr : UInt16) (usv : UsvModul) : UsvEvent → UsvModul
  | .timer => usv.timerHandler
  | .state measured => (usv.stateHandler selfaddr measured).1
  | .frame u frame => (usv.canCallback selfaddr u frame).1

/-- The unit behind the events. -/
abbrev after (selfaddr : UInt16) (events : List UsvEvent) : UsvModul :=
  runAll (step selfaddr) init events

/-- The counter of the seconds behind its divider. -/
def seconds (usv : UsvModul) : Prescaled :=
  ⟨usv.timerCounter.toNat, usv.switchBackCounter.toNat⟩

/-- What the switching of the relay reads and writes. -/
structure Switching where
  out : Outputs
  onBattery : Bool
  usvTimer : UInt16
  seconds : Prescaled

def switching (usv : UsvModul) : Switching :=
  ⟨usv.out, usv.onBattery, usv.usvTimer, usv.seconds⟩

theorem toNat_countdown (word : UInt16) :
    (if word > 0 then word - 1 else word).toNat = word.toNat - 1 := by
  by_cases zero : word = 0
  · rw [zero]
    rfl
  · rw [if_pos (UInt16.pos_iff_ne_zero.mpr zero), uint16_toNat_pred zero]

theorem switching_countLeds (usv : UsvModul) : usv.countLeds.switching = usv.switching := by
  unfold countLeds
  split <;> rfl

theorem seconds_countSeconds (usv : UsvModul) :
    usv.countSeconds.seconds = usv.seconds.tick 100 := by
  unfold countSeconds
  by_cases zero : usv.timerCounter = 0
  · rw [if_pos zero]
    unfold seconds Prescaled.tick
    rw [zero]
    exact congrArg (Prescaled.mk 100) (toNat_countdown usv.switchBackCounter)
  · have least : usv.timerCounter.toNat ≠ 0 := fun none => zero (UInt8.toNat_inj.mp none)
    obtain ⟨less, counted⟩ := Nat.exists_eq_succ_of_ne_zero least
    rw [if_neg zero]
    unfold seconds Prescaled.tick
    rw [counted]
    dsimp only
    rw [uint8_toNat_pred zero, counted]
    rfl

/-- A call of the timer handler counts and switches nothing. -/
theorem switching_timerHandler (usv : UsvModul) :
    usv.timerHandler.switching =
      ⟨usv.out, usv.onBattery, if usv.usvTimer > 0 then usv.usvTimer - 1 else usv.usvTimer,
        usv.seconds.tick 100⟩ := by
  have counted : usv.countUsvTimer.countLeds.switching = usv.countUsvTimer.switching :=
    switching_countLeds usv.countUsvTimer
  have kept : usv.timerHandler.switching =
      { usv.countUsvTimer.countLeds.switching with
        seconds := usv.countUsvTimer.countLeds.seconds.tick 100 } := by
    rw [← seconds_countSeconds]
    unfold timerHandler switching countSeconds
    split <;> rfl
  have seconds : usv.countUsvTimer.countLeds.seconds = usv.seconds :=
    congrArg Switching.seconds counted
  rw [kept, counted, seconds]
  rfl

/-- What a switch to the battery leaves behind. -/
def atBattery (usv : UsvModul) : Switching :=
  ⟨darlingtonoutputSetpin usv.out relayPin true, true, 200, ⟨usv.timerCounter.toNat, 30⟩⟩

/-- What a switch to the mains leaves behind. -/
def atMains (usv : UsvModul) : Switching :=
  ⟨darlingtonoutputSetpin usv.out relayPin false, false, 10, usv.seconds⟩

theorem switching_decision (usv : UsvModul) (measured : Measured) :
    (usv.decision measured).1.switching = usv.switching ∨
      (usv.onBattery = false ∧ fails measured ∧
        (usv.decision measured).1.switching = usv.atBattery) ∨
      (usv.onBattery = true ∧ (returned measured → usv.switchBackCounter = 0) ∧
        (usv.decision measured).1.switching = usv.atMains) := by
  unfold decision
  by_cases low : measured.uPuffer ≤ u23V
  · have noReturn : ¬ returned measured := fun back => UInt16.not_lt.mpr low back.1
    rw [if_pos low]
    by_cases charged : measured.uBat > u24V
    · rw [if_pos charged]
      cases battery : usv.onBattery with
      | false => exact .inr (.inl ⟨rfl, ⟨low, charged⟩, rfl⟩)
      | true => exact .inl rfl
    · rw [if_neg charged]
      cases battery : usv.onBattery with
      | false => exact .inl rfl
      | true => exact .inr (.inr ⟨rfl, fun back => absurd back noReturn, rfl⟩)
  · rw [if_neg low]
    by_cases back : measured.uNT > u24V ∧ usv.switchBackCounter = 0
    · rw [if_pos back]
      cases battery : usv.onBattery with
      | false => exact .inl rfl
      | true => exact .inr (.inr ⟨rfl, fun _ => back.2, rfl⟩)
    · rw [if_neg back]
      exact .inl rfl

theorem switching_updateStats (usv : UsvModul) (stats : Vector UInt16 5) :
    (usv.updateStats stats).switching = usv.switching := rfl

theorem switching_updateLeds (usv : UsvModul) (measured : Measured) :
    (usv.updateLeds measured).switching = usv.switching := rfl

theorem stateHandler_waiting (selfaddr : UInt16) {usv : UsvModul} (measured : Measured)
    (waiting : usv.usvTimer ≠ 0) :
    (usv.stateHandler selfaddr measured).1 = usv.updateStats measured.stats := by
  have held : (usv.updateStats measured.stats).usvTimer ≠ 0 := waiting
  unfold stateHandler
  dsimp only
  rw [if_pos held]

theorem stateHandler_deciding (selfaddr : UInt16) {usv : UsvModul} (measured : Measured)
    (free : usv.usvTimer = 0) :
    (usv.stateHandler selfaddr measured).1 =
      ((usv.updateStats measured.stats).decision measured).1.updateLeds measured := by
  have open_ : ¬ (usv.updateStats measured.stats).usvTimer ≠ 0 := not_not.mpr free
  unfold stateHandler
  dsimp only
  rw [if_neg open_]

/-- What a call of the state handler does to the relay. -/
theorem switching_stateHandler (selfaddr : UInt16) (usv : UsvModul) (measured : Measured) :
    (usv.stateHandler selfaddr measured).1.switching = usv.switching ∨
      (usv.usvTimer = 0 ∧ usv.onBattery = false ∧ fails measured ∧
        (usv.stateHandler selfaddr measured).1.switching = usv.atBattery) ∨
      (usv.usvTimer = 0 ∧ usv.onBattery = true ∧
        (returned measured → usv.switchBackCounter = 0) ∧
        (usv.stateHandler selfaddr measured).1.switching = usv.atMains) := by
  by_cases free : usv.usvTimer = 0
  · rw [stateHandler_deciding selfaddr measured free, switching_updateLeds]
    rcases switching_decision (usv.updateStats measured.stats) measured with
      kept | ⟨mains, failing, switched⟩ | ⟨battery, counted, switched⟩
    · exact .inl kept
    · exact .inr (.inl ⟨free, mains, failing, switched⟩)
    · exact .inr (.inr ⟨free, battery, counted, switched⟩)
  · rw [stateHandler_waiting selfaddr measured free]
    exact .inl (switching_updateStats usv measured.stats)

/-- The unit leaves the mains when the buffer breaks down. -/
theorem switching_fails (selfaddr : UInt16) {usv : UsvModul} {measured : Measured}
    (free : usv.usvTimer = 0) (mains : usv.onBattery = false) (failing : fails measured) :
    (usv.stateHandler selfaddr measured).1.switching = usv.atBattery := by
  have standing : (usv.updateStats measured.stats).onBattery = false := mains
  rw [stateHandler_deciding selfaddr measured free, switching_updateLeds]
  unfold decision
  rw [if_pos failing.1, if_pos failing.2, if_pos standing]
  rfl

/-- The unit leaves the battery when the mains voltage is back and the seconds are over. -/
theorem switching_returned (selfaddr : UInt16) {usv : UsvModul} {measured : Measured}
    (free : usv.usvTimer = 0) (battery : usv.onBattery = true) (back : returned measured)
    (counted : usv.switchBackCounter = 0) :
    (usv.stateHandler selfaddr measured).1.switching = usv.atMains := by
  have standing : (usv.updateStats measured.stats).onBattery = true := battery
  have through : measured.uNT > u24V ∧ (usv.updateStats measured.stats).switchBackCounter = 0 :=
    ⟨back.2, counted⟩
  rw [stateHandler_deciding selfaddr measured free, switching_updateLeds]
  unfold decision
  rw [if_neg (UInt16.not_le.mpr back.1), if_pos through, if_pos standing]
  rfl

theorem switching_canCallback (selfaddr : UInt16) (usv : UsvModul) (u : UInt16)
    (frame : CanixFrame) : (usv.canCallback selfaddr u frame).1.switching = usv.switching := by
  unfold canCallback
  split
  · rfl
  · split
    · rfl
    · split
      · rfl
      · split <;> rfl

theorem hasPin_relay (out : Outputs) : out.hasPin relayPin = true :=
  decide_eq_true (show 7 < 12 + 8 * out.shiftOut.length by omega)

theorem isOn_relay (out : Outputs) (state : Bool) :
    (darlingtonoutputSetpin out relayPin state).isOn relayPin = state := by
  rw [isOn_setpin, isOn_or_hasPin, hasPin_relay, Bool.and_true]

theorem relay_eq_isOn (usv : UsvModul) : usv.relay = usv.switching.out.isOn relayPin := rfl

theorem onBattery_eq (usv : UsvModul) : usv.onBattery = usv.switching.onBattery := rfl

theorem relay_eq_of_switching {usv other : UsvModul} (same : usv.switching = other.switching) :
    usv.relay = other.relay := by
  rw [relay_eq_isOn, relay_eq_isOn, same]

/-- The relay stands where the unit takes it to be. -/
theorem relay_step (selfaddr : UInt16) {usv : UsvModul} (known : usv.relay = usv.onBattery)
    (event : UsvEvent) :
    (step selfaddr usv event).relay = (step selfaddr usv event).onBattery := by
  have kept {later : UsvModul} (same : later.switching = usv.switching) :
      later.relay = later.onBattery := by
    rw [relay_eq_of_switching same, known, onBattery_eq, onBattery_eq, same]
  cases event with
  | timer =>
      change usv.timerHandler.relay = usv.timerHandler.onBattery
      rw [relay_eq_isOn, onBattery_eq, switching_timerHandler]
      exact known
  | state measured =>
      change (usv.stateHandler selfaddr measured).1.relay =
        (usv.stateHandler selfaddr measured).1.onBattery
      rcases switching_stateHandler selfaddr usv measured with
        same | ⟨-, -, -, switched⟩ | ⟨-, -, -, switched⟩
      · exact kept same
      · rw [relay_eq_isOn, onBattery_eq, switched]
        exact isOn_relay usv.out true
      · rw [relay_eq_isOn, onBattery_eq, switched]
        exact isOn_relay usv.out false
  | frame u frame => exact kept (switching_canCallback selfaddr usv u frame)

theorem relay_after (selfaddr : UInt16) (events : List UsvEvent) :
    (after selfaddr events).relay = (after selfaddr events).onBattery :=
  runAll_invariant (fun usv : UsvModul => usv.relay = usv.onBattery) (by decide)
    fun _ event known => relay_step selfaddr known event

end UsvModul
end Hcan.Usv
