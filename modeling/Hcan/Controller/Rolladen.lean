import Hcan.Canix.Frame
import Hcan.Controller.Darlington

/-!
# The shutter device

The record of a shutter, its initialisation, its frame handler and its 100 ms
timer handler.  Run times are in tenths of a second, measured from the bottom.

`byZero` is the quotient of a division by zero, which C leaves undefined; it
occurs for a configured run time of 0 only.  The 32-bit counters of the run time
are integers: they stay near the configured 16-bit run time.
-/

namespace Hcan.Controller

open Hcan.Canix

inductive RolladenState where
  | stop | aufWait | auf | stopWait1 | abWait1 | abWait2 | ab | stopWait2 | stopWait3
  | dirChangeWait1 | dirChangeWait2 | dirChangeWait3
  deriving DecidableEq, Repr

inductive RolladenCommand where
  | ready | stop | auf | ab | dirChange
  deriving DecidableEq, Repr

inductive RolladenDir where
  | auf | ab
  deriving DecidableEq, Repr

/-- The configuration of a shutter in the EDS. -/
structure EdsRolladenBlock where
  portPower : UInt8
  portDir : UInt8
  taster : UInt8
  laufzeit : UInt16
  maxRekalib : UInt16
  gruppe0 : UInt8
  gruppe1 : UInt8
  gruppe2 : UInt8
  gruppe3 : UInt8
  deriving DecidableEq, Repr

structure DeviceDataRolladen where
  config : EdsRolladenBlock
  summeLaufzeit : UInt32
  laufzeit : Int
  /-- The run time to reach, -1 for none. -/
  sollLaufzeit : Int
  cmdsrc : UInt16
  lowlevelLastDir : RolladenDir
  lowlevelState : RolladenState
  lowlevelCommand : RolladenCommand
  lowlevelWaitCounter : Nat
  hilevelUpEventCounter : Int
  deriving DecidableEq, Repr

/-- `laufzeit` of the configuration as the arithmetic of the handlers sees it. -/
def EdsRolladenBlock.strecke (config : EdsRolladenBlock) : Nat := config.laufzeit.toNat

def rolladenInit (config : EdsRolladenBlock) : DeviceDataRolladen where
  config := config
  summeLaufzeit := 0
  laufzeit := config.strecke
  sollLaufzeit := -1
  cmdsrc := 0
  lowlevelCommand := .ready
  lowlevelState := .stop
  lowlevelWaitCounter := 6
  lowlevelLastDir := .ab
  hilevelUpEventCounter := -1

def rolladenLaufzeitAlign (p : DeviceDataRolladen) : DeviceDataRolladen :=
  let low := if p.laufzeit < 0 then 0 else p.laufzeit
  { p with laufzeit := if low > p.config.strecke then p.config.strecke else low }

def rolladenIsInGroup (p : DeviceDataRolladen) (group : UInt8) : Bool :=
  p.config.taster == group ||
    [p.config.gruppe0, p.config.gruppe1, p.config.gruppe2, p.config.gruppe3].any (· == group)

def rolladenMinLaufzeit (p : DeviceDataRolladen) : Int := -((p.config.strecke * 5 / 10 : Nat) : Int)

def rolladenMaxLaufzeit (p : DeviceDataRolladen) : Int := (p.config.strecke * 15 / 10 : Nat)

def rolladenSetSollLaufzeit (p : DeviceDataRolladen) (percent : Nat) : DeviceDataRolladen :=
  if percent = 0 then { p with sollLaufzeit := rolladenMinLaufzeit p }
  else if percent = 100 then { p with sollLaufzeit := rolladenMaxLaufzeit p }
  else { p with sollLaufzeit := (p.config.strecke * percent / 100 : Nat) }

/-- The integer division of C. -/
def quotient (byZero : Int → Int) (a b : Int) : Int := if b = 0 then byZero a else a.tdiv b

variable (byZero : Int → Int) (self : UInt16)

/-- The position in percent, from 0 at the bottom to 100 at the top. -/
def rolladenLowlevelGetPosition (p : DeviceDataRolladen) : Nat :=
  let pos := quotient byZero (100 * p.laufzeit) p.config.strecke + 1
  if pos < 0 then 0 else if pos > 100 then 100 else pos.toNat

def rolladenLowlevelDefinePosition (p : DeviceDataRolladen) (pos : UInt8) : DeviceDataRolladen :=
  let laufzeit := (pos.toNat + 1) * p.config.strecke / 100
  { p with laufzeit := if laufzeit > p.config.strecke then p.config.strecke else laufzeit }

def rolladenSendChangedInfo (p : DeviceDataRolladen) : CanixFrame where
  src := self
  dst := hcanMulticastInfo
  proto := hcanProtoSfp
  size := 6
  data := #v[hcanSrvHes, hcanHesRolladenPositionChangedInfo, p.config.gruppe0,
    UInt8.ofNat (rolladenLowlevelGetPosition byZero p), (p.cmdsrc >>> 8).toUInt8,
    p.cmdsrc.toUInt8, 0, 0]

/-- `HCAN_HES_TASTER_DOWN` for the own push-button. -/
def rolladenTasterDown (p : DeviceDataRolladen) : DeviceDataRolladen :=
  let commanded := match p.lowlevelState with
    | .stop => match p.lowlevelLastDir with
      | .auf => { p with lowlevelCommand := .ab, sollLaufzeit := -1, cmdsrc := 0 }
      | .ab => { p with lowlevelCommand := .auf, sollLaufzeit := -1, cmdsrc := 0 }
    | .auf | .ab => { p with lowlevelCommand := .stop, sollLaufzeit := -1, cmdsrc := 0 }
    | _ => p
  { commanded with hilevelUpEventCounter := 7 }

/-- The target in percent: 200 and 201 are the down and up messages of a
two-button operation. -/
def rolladenSollPos (pos : UInt8) : Nat :=
  if pos = 200 then 0 else if pos = 201 then 100 else pos.toNat

/-- `HCAN_HES_ROLLADEN_POSITION_SET` for an own group. -/
def rolladenPositionSet (p : DeviceDataRolladen) (pos : UInt8) : DeviceDataRolladen :=
  match p.lowlevelState with
  | .stop =>
      if rolladenLowlevelGetPosition byZero p < rolladenSollPos pos then
        { rolladenSetSollLaufzeit p (rolladenSollPos pos) with lowlevelCommand := .auf }
      else if rolladenLowlevelGetPosition byZero p > rolladenSollPos pos + 1 then
        { rolladenSetSollLaufzeit p (rolladenSollPos pos) with lowlevelCommand := .ab }
      else { p with sollLaufzeit := -1 }
  | .auf | .ab =>
      if pos < 200 then p else { p with lowlevelCommand := .stop, sollLaufzeit := -1 }
  | _ => p

/-- The record behind the frame and the frame sent in answer. -/
def rolladenCanCallback (p : DeviceDataRolladen) (frame : CanixFrame) :
    DeviceDataRolladen × Option CanixFrame :=
  let group := frame.data[2]
  if frame.data[1] = hcanHesTasterDown then
    (if p.config.taster = group then rolladenTasterDown p else p, none)
  else if frame.data[1] = hcanHesTasterUp then
    (if p.config.taster = group then { p with hilevelUpEventCounter := -1 } else p, none)
  else if frame.data[1] = hcanHesRolladenPositionSet then
    (if rolladenIsInGroup p group ∨ (p.config.taster = group ∧ frame.data[3] ≥ 200) then
      rolladenPositionSet byZero p frame.data[3] else p, none)
  else if frame.data[1] = hcanHesRolladenDefinePosition then
    (if rolladenIsInGroup p group then rolladenLowlevelDefinePosition p frame.data[3] else p, none)
  else if frame.data[1] = hcanHesRolladenPositionRequest then
    (p, if rolladenIsInGroup p group then
      some {
        src := self
        dst := frame.src
        proto := hcanProtoSfp
        size := 4
        data := #v[hcanSrvHes, hcanHesRolladenPositionReplay, group,
          UInt8.ofNat (rolladenLowlevelGetPosition byZero p), 0, 0, 0, 0] }
      else none)
  else (p, none)

/-! ## The timer handler -/

/-- The wait counter runs down. -/
def rolladenCountDown (p : DeviceDataRolladen) : DeviceDataRolladen :=
  { p with lowlevelWaitCounter := p.lowlevelWaitCounter - 1 }

/-- The switch over `lowlevel_state`: the record, the pins and the frame sent.
The `if`s of one state exclude each other, since the first one that holds
resets the command. -/
def rolladenLowlevelSwitch (p : DeviceDataRolladen) (out : Outputs) :
    DeviceDataRolladen × Outputs × Option CanixFrame :=
  let power (state : Bool) := darlingtonoutputSetpin out p.config.portPower state
  let dir (state : Bool) := darlingtonoutputSetpin out p.config.portDir state
  match p.lowlevelState with
  | .stop => match p.lowlevelCommand with
    | .auf =>
        ({ p with lowlevelCommand := .ready, lowlevelWaitCounter := 3, lowlevelState := .aufWait },
          power true, none)
    | .ab =>
        ({ p with lowlevelCommand := .ready, lowlevelWaitCounter := 2, lowlevelState := .abWait1 },
          dir true, none)
    | .dirChange => match p.lowlevelLastDir with
      | .ab => ({ p with lowlevelCommand := .auf }, out, none)
      | .auf => ({ p with lowlevelCommand := .ab }, out, none)
    | _ => (p, out, none)
  | .aufWait =>
      if p.lowlevelWaitCounter = 0 then
        ({ p with lowlevelState := .auf, lowlevelLastDir := .auf }, out, none)
      else (p, out, none)
  | .auf => match p.lowlevelCommand with
    | .stop =>
        ({ p with lowlevelCommand := .ready, lowlevelWaitCounter := 3, lowlevelState := .stopWait1 },
          power false, none)
    | .dirChange =>
        ({ p with
            lowlevelCommand := .ready
            lowlevelWaitCounter := 6
            lowlevelState := .dirChangeWait1 }, power false, none)
    | _ => (p, out, none)
  | .stopWait1 =>
      if p.lowlevelWaitCounter = 0 then
        let stopped := { p with lowlevelState := .stop }
        (rolladenLaufzeitAlign stopped, out, some (rolladenSendChangedInfo byZero self stopped))
      else (p, out, none)
  | .abWait1 =>
      if p.lowlevelWaitCounter = 0 then
        ({ p with lowlevelWaitCounter := 3, lowlevelState := .abWait2 }, power true, none)
      else (p, out, none)
  | .abWait2 =>
      if p.lowlevelWaitCounter = 0 then
        ({ p with lowlevelState := .ab, lowlevelLastDir := .ab }, out, none)
      else (p, out, none)
  | .ab => match p.lowlevelCommand with
    | .stop =>
        ({ p with lowlevelCommand := .ready, lowlevelWaitCounter := 6, lowlevelState := .stopWait2 },
          power false, none)
    | .dirChange =>
        ({ p with
            lowlevelCommand := .ready
            lowlevelWaitCounter := 6
            lowlevelState := .dirChangeWait2 }, power false, none)
    | _ => (p, out, none)
  | .stopWait2 =>
      if p.lowlevelWaitCounter = 0 then
        ({ p with lowlevelWaitCounter := 3, lowlevelState := .stopWait3 }, dir false, none)
      else (p, out, none)
  | .stopWait3 =>
      if p.lowlevelWaitCounter = 0 then
        let stopped := { p with lowlevelState := .stop }
        (rolladenLaufzeitAlign stopped, out, some (rolladenSendChangedInfo byZero self stopped))
      else (p, out, none)
  | .dirChangeWait1 =>
      if p.lowlevelWaitCounter = 0 then
        ({ p with lowlevelWaitCounter := 3, lowlevelState := .abWait1 }, dir true, none)
      else (p, out, none)
  | .dirChangeWait2 =>
      if p.lowlevelWaitCounter = 0 then
        ({ p with lowlevelWaitCounter := 3, lowlevelState := .dirChangeWait3 }, dir false, none)
      else (p, out, none)
  | .dirChangeWait3 =>
      if p.lowlevelWaitCounter = 0 then
        ({ p with lowlevelWaitCounter := 3, lowlevelState := .aufWait }, power true, none)
      else (p, out, none)

/-- A target position is reached: it is cleared and the shutter is to stop. -/
def rolladenSollErreicht (p : DeviceDataRolladen) (reached : Prop) [Decidable reached] :
    DeviceDataRolladen :=
  if p.sollLaufzeit ≠ -1 ∧ reached then { p with sollLaufzeit := -1, lowlevelCommand := .stop }
  else p

/-- The upper limit: the configured run time or, for a recalibration, 150 % of
it.  The flag says that the source returns from the handler here. -/
def rolladenObereEndposition (p : DeviceDataRolladen) : DeviceDataRolladen × Bool :=
  if p.summeLaufzeit < p.config.maxRekalib.toUInt32 then
    if p.laufzeit ≥ p.config.strecke then ({ p with lowlevelCommand := .stop }, true)
    else (p, false)
  else if p.laufzeit > rolladenMaxLaufzeit p then
    ({ p with laufzeit := p.config.strecke, summeLaufzeit := 0, lowlevelCommand := .stop }, true)
  else (p, false)

/-- The lower limit. -/
def rolladenUntereEndposition (p : DeviceDataRolladen) : DeviceDataRolladen × Bool :=
  if p.summeLaufzeit < p.config.maxRekalib.toUInt32 then
    if p.laufzeit ≤ 0 then ({ p with lowlevelCommand := .stop }, true)
    else (p, false)
  else if p.laufzeit < rolladenMinLaufzeit p then
    ({ p with laufzeit := 0, summeLaufzeit := 0, lowlevelCommand := .stop }, true)
  else (p, false)

/-- A tick upwards: the distance, the target and the upper limit. -/
def rolladenZaehleAuf (p : DeviceDataRolladen) : DeviceDataRolladen × Bool :=
  let moved := { p with summeLaufzeit := p.summeLaufzeit + 1, laufzeit := p.laufzeit + 1 }
  rolladenObereEndposition (rolladenSollErreicht moved (moved.laufzeit ≥ moved.sollLaufzeit))

/-- A tick downwards. -/
def rolladenZaehleAb (p : DeviceDataRolladen) : DeviceDataRolladen × Bool :=
  let moved := { p with summeLaufzeit := p.summeLaufzeit + 1, laufzeit := p.laufzeit - 1 }
  rolladenUntereEndposition (rolladenSollErreicht moved (moved.laufzeit ≤ moved.sollLaufzeit))

def RolladenState.drivesUp : RolladenState → Bool
  | .aufWait | .auf => true
  | _ => false

def RolladenState.drivesDown : RolladenState → Bool
  | .abWait1 | .abWait2 | .ab => true
  | _ => false

def rolladenStreckeZaehlen (p : DeviceDataRolladen) : DeviceDataRolladen × Bool :=
  if p.lowlevelState.drivesUp then rolladenZaehleAuf p
  else if p.lowlevelState.drivesDown then rolladenZaehleAb p
  else (p, false)

/-- Seven ticks behind a push-button event without release the direction changes. -/
def rolladenHilevelCount (p : DeviceDataRolladen) : DeviceDataRolladen :=
  if p.hilevelUpEventCounter > 0 then
    let counter := p.hilevelUpEventCounter - 1
    if counter = 0 then
      { p with hilevelUpEventCounter := counter, lowlevelCommand := .dirChange }
    else { p with hilevelUpEventCounter := counter }
  else p

def rolladenLowlevelTimerHandler (p : DeviceDataRolladen) (out : Outputs) :
    DeviceDataRolladen × Outputs × Option CanixFrame :=
  let switched := rolladenLowlevelSwitch byZero self (rolladenCountDown p) out
  let counted := rolladenStreckeZaehlen switched.1
  (if counted.2 then counted.1 else rolladenHilevelCount counted.1, switched.2)

end Hcan.Controller
