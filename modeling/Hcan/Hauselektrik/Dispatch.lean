import Hcan.Controller.Board
import Hcan.Hauselektrik.Contacts
import Hcan.Hauselektrik.Heating

/-!
# Loading and local delivery

`devices_load_config` with the `_init` functions of the devices, `hauselektrik_callback`
over the whole table, and the delivery of a frame to the callbacks that `canix_init` and
`main` register.  A sent frame is delivered locally before `canix_frame_send` returns.
`deliver` nests these calls to a depth and answers `none` when a call is nested deeper.
-/

namespace Hcan.Hauselektrik

open Hcan.Canix Hcan.Eds Hcan.Controller Hcan.Library

variable {mcu : Mcu}

/-- The callbacks of `canix_init` and `main`. -/
inductive FrameCallback where
  | hms
  | rts
  | eds
  | hauselektrik
  | timeservice
  deriving DecidableEq, Repr

/-- What lies outside the house electrics: the address, a division by zero, what happens in
`canix_sleep_100th`, the 1-wire search and the callbacks of the other services. -/
structure Environment (mcu : Mcu) where
  self : UInt16
  byZero : Int → Int
  sleep : OnBoard mcu Unit
  owDiscover : CanixFrame → OnBoard mcu Unit
  service : FrameCallback → CanixFrame → OnBoard mcu Unit

/-- The other services do nothing. -/
def quietEnvironment : Environment atmega32 where
  self := 5
  byZero _ := 0
  sleep := pure ()
  owDiscover _ := pure ()
  service _ _ := pure ()

section Load

/-- Consecutive bytes of the payload. -/
def configBytes (ee : Eeprom mcu) (it first count : Nat) : Vector UInt8 count :=
  Vector.ofFn fun k => configByte ee it (first + k)

def edsHeizungBlock (ee : Eeprom mcu) (it : Nat) : EdsHeizungBlock where
  id := configByte ee it 0
  port := configByte ee it 1
  pwmPeriode := configByte ee it 2
  sensorId := configByte ee it 3
  solltempLine := Vector.ofFn fun k =>
    ⟨configByte ee it (4 + k * 3), configWord ee it (4 + k * 3 + 1)⟩
  feature := configByte ee it 28
  hysterese := configByte ee it 29
  reed := configBytes ee it 30 8

def heizungInit (config : EdsHeizungBlock) (it : Nat) : DeviceDataHeizung where
  config := config
  it := it
  mode := .off
  manualRate := 0
  timerCounter := 0
  pwmCounter := 0
  pwmWidth := 0
  pwmEnd := 0
  waermebedarfCounter := config.id &&& 0x3f
  receivedIntervalCounter := 255
  measureValue := 0
  durationCounter := 0
  thermostatTemp := 0
  reedHeizStopCounter := 0
  ventilpflegeCounter := 0

def edsZeitzoneBlock (ee : Eeprom mcu) (it : Nat) : EdsZeitzoneBlock where
  gruppe := configByte ee it 0
  dayPattern := configByte ee it 1
  fromHour := configByte ee it 2
  fromMinute := configByte ee it 3
  toHour := configByte ee it 4
  toMinute := configByte ee it 5

def zeitzoneInit (config : EdsZeitzoneBlock) (it : Nat) : DeviceDataZeitzone := ⟨config, it⟩

def powerportAutomatInit (config : EdsPowerportAutomatBlock) : DeviceDataPowerportAutomat where
  config := config
  brightness := 65535
  msgIstVersendet := false
  automatikEin := config.automatikEinSchalterGruppe == 255

def rolladenAutomatInit (config : EdsRolladenAutomatBlock) : DeviceDataRolladenAutomat where
  config := config
  brightness := 65535
  msgIstVersendet := false
  automatikEin := true

def dunstabzugportInit (config : EdsDunstabzugportBlock) : DeviceDataDunstabzugport where
  config := config
  counter := 0
  stateReed0 := false
  stateReed1 := false
  stateDunst := false

/-- `detectAndSetOneScale` counts the groups before the first 255. -/
def multitasterInit (byZero : Int → Int) (config : EdsMultitasterBlock) :
    DeviceDataMultitaster where
  config := config
  pressed := 0
  lastPotiPos := 0
  oneScale := UInt16.ofInt <| quotient byZero 1023
    (config.gruppe.toList.takeWhile fun gruppe => gruppe != 255).length

def reedkontaktInit (tasterport : UInt8 → Bool) (config : EdsReedkontaktBlock) :
    DeviceDataReedkontakt where
  config := config
  timerCounter := config.gruppe &&& 0x07
  lastState := tasterport config.port

def rolladenSchlitzposInit (config : EdsRolladenSchlitzposBlock) :
    DeviceDataRolladenSchlitzpos where
  config := config
  rolladenSchlitzJob := 255
  rolladenIstposition := 0
  state1stReedkontakt := 255

def zentralheizungspumpeInit (config : EdsZentralheizungspumpeBlock) :
    DeviceDataZentralheizungspumpe where
  config := config
  heizung := List.replicate maxAnzHeizungen ⟨255, 0⟩

def tempsensorInit (config : EdsTempsensorBlock) : DeviceDataTempsensor where
  config := config
  timerCounter := (config.gruppe <<< 2) &&& 0x3f
  convertSent := false
  temperature := 0

def zeitschaltuhrInit (config : EdsZeitschaltuhrBlock) : DeviceDataZeitschaltuhr where
  config := config
  state := false
  updateCounter := 1 + (config.powerGruppe &&& 0x0f).toUInt16
  automatikEin := true

variable (env : Environment mcu)

/-- The records of the other types that have a callback, in the order of their type numbers. -/
def deviceInitOther (b : Board mcu) (it : Nat) : Device :=
  let ee := b.eeprom
  let type := edsBlockType ee it
  let byte := configByte ee it
  if type = 11 then .powerport ⟨⟨byte 0, byte 1, configBytes ee it 2 4⟩, 0, 0⟩
  else if type = 12 then .rolladen (rolladenInit (edsRolladenBlock ee it))
  else if type = 14 then
    .tempsensor (tempsensorInit ⟨byte 0, byte 1, byte 2, byte 3, configBytes ee it 4 17⟩)
  else if type = 15 then
    .reedkontakt (reedkontaktInit b.tasterport ⟨byte 0, byte 1, byte 2, byte 3⟩)
  else if type = 17 then
    .lichtzone ⟨⟨configBytes ee it 0 4, configBytes ee it 4 2, configBytes ee it 6 2, byte 8,
      configBytes ee it 9 2⟩, .off, 0, 0, 0⟩
  else if type = 19 then
    .dunstabzugport (dunstabzugportInit ⟨byte 0, byte 1, byte 2, byte 3, byte 4⟩)
  else if type = 20 then
    .zeitschaltuhr (zeitschaltuhrInit ⟨byte 0, byte 1, configBytes ee it 2 8⟩)
  else if type = 22 then .tastdimmer ⟨⟨byte 0, byte 1, byte 2, configBytes ee it 3 8⟩⟩
  else if type = 23 then
    .multitaster (multitasterInit env.byZero ⟨byte 0, byte 1, byte 2, configBytes ee it 3 10⟩)
  else if type = 24 then
    .rolladenSchlitzpos (rolladenSchlitzposInit ⟨byte 0, byte 1, byte 2⟩)
  else if type = 27 then
    .rolladenAutomat (rolladenAutomatInit ⟨byte 0, byte 1, byte 2, byte 3, configBytes ee it 4 2,
      byte 6, configWord ee it 7, byte 9⟩)
  else if type = 28 then
    .zentralheizungspumpe (zentralheizungspumpeInit ⟨byte 0, byte 1, byte 2⟩)
  else if type = 29 then
    .powerportAutomat (powerportAutomatInit ⟨byte 0, byte 1, byte 2, byte 3, byte 4,
      configWord ee it 5, byte 7⟩)
  else .other type

/-- The record of a block after its `_init` function. -/
def deviceInit (b : Board mcu) (it : Nat) : Device :=
  if edsBlockType b.eeprom it = edsHeizungBlockId then
    .heizung (heizungInit (edsHeizungBlock b.eeprom it) it)
  else if edsBlockType b.eeprom it = edsZeitzoneBlockId then
    .zeitzone (zeitzoneInit (edsZeitzoneBlock b.eeprom it) it)
  else deviceInitOther env b it

/-- The pins behind the `_init` function: only the extractor hood sets its own. -/
def outputsInit (out : Outputs) : Device → Outputs
  | .dunstabzugport p => darlingtonoutputSetpin out p.config.port false
  | _ => out

/-- The loop body of `devices_load_config`; `none` stands for a write behind the arrays. -/
def devicesLoadLoop : List Nat → Nat → Board mcu → Option (Board mcu)
  | [], allocated, b => some { b with ramUsage := allocated }
  | it :: its, allocated, b =>
      match deviceSizes (edsBlockType b.eeprom it) with
      | none => devicesLoadLoop its allocated b
      | some (configSize, dataSize) =>
          if configSize ≠ edsBlockSize b.eeprom it then some { b with devices := [], ramUsage := 0 }
          else if maxPdeviceData mcu ≤ b.devices.length then none
          else if maxDeviceData mcu < b.devices.length + 1 then
            some { b with devices := b.devices ++ [.other 0] }
          else if maxDeviceData mcu < allocated + dataSize.toNat then none
          else
            let device := deviceInit env b it
            devicesLoadLoop its (allocated + dataSize.toNat)
              { b with devices := b.devices ++ [device], out := outputsInit b.out device }

/-- The report that `schalter_init` sends about its switch during the load is not delivered to the
devices. -/
def devicesLoadConfig (b : Board mcu) : Option (Board mcu) := do
  let found ← edsForeachBlockBetween b.eeprom 1 255
  devicesLoadLoop env found.1 0 { b with devices := [] }

end Load

/-! ## The callback of the house electrics -/

section Deliver

variable (env : Environment mcu) (send : CanixFrame → OnBoard mcu Unit)

/-- The body of the loop over `pdevice_data`. -/
def deviceCanCallback (frame : CanixFrame) (i : Nat) : OnBoard mcu Unit := do
  let slot ← Nested.read fun b => b.devices[i]?
  match slot with
  | some (.powerportAutomat p) => powerportAutomatCanCallback env.self send i p frame
  | some (.rolladenAutomat p) => rolladenAutomatCanCallback i p frame
  | some (.dunstabzugport p) => dunstabzugportCanCallback i p frame
  | some (.heizung p) => heizungCanCallback env.self send i p frame
  | some (.lichtzone p) => lichtzoneCanCallback env.self send i p frame
  | some (.multitaster p) => multitasterCanCallback i p frame
  | some (.powerport p) => powerportCanCallback env.self send env.sleep i p frame
  | some (.reedkontakt p) => reedkontaktCanCallback env.self send p frame
  | some (.rolladen p) => rolladenCallback env.self send env.byZero i p frame
  | some (.rolladenSchlitzpos p) => rolladenSchlitzposCanCallback env.self send i p frame
  | some (.zentralheizungspumpe p) => zentralheizungspumpeCanCallback env.self send i p frame
  | some (.tastdimmer p) => tastdimmerCanCallback p frame
  | some (.tempsensor p) => tempsensorCanCallback env.self send p frame
  | some (.zeitschaltuhr p) => zeitschaltuhrCanCallback i p frame
  | some (.zeitzone p) => zeitzoneCanCallback env.self send i p frame
  | some (.other _) => pure ()
  | none => pure ()

/-- The switch behind the loop. -/
def hauselektrikSwitch (frame : CanixFrame) : OnBoard mcu Unit :=
  if frame.data[1] = hcanHesConfigReload then
    fun b => (devicesLoadConfig env b).map fun loaded => ((), loaded)
  else if frame.data[1] = hcanHesConfigRamUsageRequest then do
    let ramUsage ← Nested.read fun b => b.ramUsage
    send (configRamUsageReplay env.self ramUsage frame)
  else if frame.data[1] = hcanHes1wireDiscover then env.owDiscover frame
  else pure ()

def hauselektrikCallback (frame : CanixFrame) : OnBoard mcu Unit :=
  if hauselektrikAccepts env.self frame then do
    (List.range (maxPdeviceData mcu)).forM (deviceCanCallback env send frame)
    hauselektrikSwitch env send frame
  else pure ()

def hcanSrvHms : UInt8 := 1

/-- An entry of `frame_callback_entry`; no `dst` stands for -1. -/
structure FrameCallbackEntry where
  dst : Option UInt16
  proto : UInt8
  srv : UInt8
  callback : FrameCallback

/-- The entries in the order of their registration. -/
def frameCallbackEntries (self : UInt16) : List FrameCallbackEntry :=
  [⟨some self, hcanProtoSfp, hcanSrvHms, .hms⟩,
    ⟨some hcanMulticastInfo, hcanProtoSfp, hcanSrvHms, .hms⟩,
    ⟨some hcanMulticastInfo, hcanProtoSfp, hcanSrvRts, .rts⟩,
    ⟨some self, hcanProtoSfp, hcanSrvRts, .rts⟩,
    ⟨some self, hcanProtoSfp, hcanSrvEds, .eds⟩,
    ⟨none, hcanProtoSfp, hcanSrvHes, .hauselektrik⟩,
    ⟨some hcanMulticastInfo, hcanProtoSfp, hcanSrvRts, .timeservice⟩]

def FrameCallbackEntry.accepts (entry : FrameCallbackEntry) (frame : CanixFrame) : Bool :=
  (entry.dst == none || entry.dst == some frame.dst) &&
    (entry.proto == 0 || entry.proto == frame.proto) &&
    (entry.srv == 0 || entry.srv == frame.data[0])

def canixDeliverFrame (frame : CanixFrame) : OnBoard mcu Unit :=
  (frameCallbackEntries env.self).forM fun entry =>
    if entry.accepts frame then
      match entry.callback with
      | .hauselektrik => hauselektrikCallback env send frame
      | other => env.service other frame
    else pure ()

/-- `canix_frame_send_with_prio`: the frame goes to the bus and is delivered locally. -/
def canixFrameSend (deliver : CanixFrame → OnBoard mcu Unit) (frame : CanixFrame) :
    OnBoard mcu Unit := do
  modify fun b => { b with sent := b.sent ++ [frame] }
  deliver frame

/-- Local delivery with the calls nested to a depth. -/
def deliver : Nat → CanixFrame → OnBoard mcu Unit :=
  Nested.nest fun deliver frame => canixDeliverFrame env (canixFrameSend deliver) frame

end Deliver

end Hcan.Hauselektrik
