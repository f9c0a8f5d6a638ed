import Hcan.Controller.Devices
import Hcan.Controller.Timeservice
import Hcan.Library.Keyed
import Hcan.Library.Nested

/-!
# The device records

The records of all device types that take part in the house electrics service, and the
board they live on.  Consecutive configuration fields that the source reads as an array
are a vector here.  A callback gets the index of its record in `pdevice_data`.
-/

namespace Hcan.Hauselektrik

open Hcan.Canix Hcan.Eds Hcan.Controller Hcan.Library

variable {mcu : Mcu}

def hcanHesPowerGroupOn : UInt8 := 10
def hcanHesPowerGroupOff : UInt8 := 11
def hcanHesPowerGroupStateQuery : UInt8 := 12
def hcanHesPowerGroupStateReplay : UInt8 := 13
def hcanHesPowerGroupTimerQuery : UInt8 := 14
def hcanHesPowerGroupTimerReplay : UInt8 := 15
def hcanHesPowerGroupSetTimer : UInt8 := 16
def hcanHesPowerGroupStateInfo : UInt8 := 17
def hcanHes1wireDiscover : UInt8 := 30
def hcanHes1wireTemperature : UInt8 := 34
def hcanHes1wireTemperatureQuery : UInt8 := 35
def hcanHes1wireTemperatureReplay : UInt8 := 36
def hcanHesReedkontaktOffen : UInt8 := 40
def hcanHesReedkontaktStateQuery : UInt8 := 41
def hcanHesReedkontaktStateReplay : UInt8 := 42
def hcanHesReedkontaktStateChange : UInt8 := 43
def hcanHesHeizungDetailsRequest : UInt8 := 50
def hcanHesHeizungModeOffDetails : UInt8 := 51
def hcanHesHeizungSetModeOff : UInt8 := 52
def hcanHesHeizungModeManualDetails : UInt8 := 53
def hcanHesHeizungSetModeManual : UInt8 := 54
def hcanHesHeizungModeThermostatDetails : UInt8 := 55
def hcanHesHeizungSetModeThermostatDetails : UInt8 := 56
def hcanHesHeizungModeAutomatikDetails : UInt8 := 57
def hcanHesHeizungSetModeAutomatik : UInt8 := 58
def hcanHesHeizungTistRequest : UInt8 := 59
def hcanHesHeizungTistReplay : UInt8 := 60
def hcanHesHeizungWaermebedarfInfo : UInt8 := 61
def hcanHesHeizungSolltempLineRequest : UInt8 := 66
def hcanHesHeizungSolltempLineReplay : UInt8 := 67
def hcanHesHeizungSolltempWriteLine : UInt8 := 68
def hcanHesHeizungSolltempWriteLineAck : UInt8 := 69
def hcanHesPotiPosChanged : UInt8 := 70
def hcanHesHelligkeitsInfo : UInt8 := 71
def hcanHesWeckerSet : UInt8 := 72
def hcanHesWeckerDetailsRequest : UInt8 := 73
def hcanHesWeckerDetails : UInt8 := 74
def hcanHesZeitzoneDetailsRequest : UInt8 := 110
def hcanHesZeitzoneDetailsReplay : UInt8 := 111
def hcanHesZeitzoneWriteDetails : UInt8 := 112
def hcanHesZeitzoneWriteDetailsAck : UInt8 := 113
def hcanHesZeitzoneTestMatchRequest : UInt8 := 114
def hcanHesZeitzoneTestMatchReplay : UInt8 := 115

structure EdsPowerportBlock where
  port : UInt8
  feature : UInt8
  gruppe : Vector UInt8 4
  deriving DecidableEq, Repr

structure DeviceDataPowerport where
  config : EdsPowerportBlock
  countDownTimer : UInt16
  bistableRelaisState : UInt8
  deriving DecidableEq, Repr

structure EdsPowerportAutomatBlock where
  powerportGruppe : UInt8
  stellerGruppe : UInt8
  automatikEinSchalterGruppe : UInt8
  feature : UInt8
  helligkeitsGruppe : UInt8
  helligkeitsschwelle : UInt16
  helligkeitswertueberschreitung : UInt8
  deriving DecidableEq, Repr

structure DeviceDataPowerportAutomat where
  config : EdsPowerportAutomatBlock
  brightness : UInt16
  msgIstVersendet : Bool
  automatikEin : Bool
  deriving DecidableEq, Repr

structure EdsRolladenAutomatBlock where
  rolladenGruppe : UInt8
  rolladenSollPosition : UInt8
  automatikEinSchalterGruppe : UInt8
  feature : UInt8
  zeitzoneId : Vector UInt8 2
  helligkeitsGruppe : UInt8
  helligkeitsschwelle : UInt16
  helligkeitswertueberschreitung : UInt8
  deriving DecidableEq, Repr

structure DeviceDataRolladenAutomat where
  config : EdsRolladenAutomatBlock
  brightness : UInt16
  msgIstVersendet : Bool
  automatikEin : Bool
  deriving DecidableEq, Repr

structure EdsLichtzoneBlock where
  toggleGruppe : Vector UInt8 4
  offGruppe : Vector UInt8 2
  onGruppe : Vector UInt8 2
  timerDelay : UInt8
  actionGruppe : Vector UInt8 2
  deriving DecidableEq, Repr

inductive LichtzoneState where
  | off
  | on
  | onExt
  deriving DecidableEq, Repr

structure DeviceDataLichtzone where
  config : EdsLichtzoneBlock
  state : LichtzoneState
  timerCounter : UInt16
  extonTasterDownCounter : UInt8
  extonSecCounter : UInt8
  deriving DecidableEq, Repr

structure EdsDunstabzugportBlock where
  port : UInt8
  reedGruppe0 : UInt8
  freischaltTaster : UInt8
  freischaltZeit : UInt8
  reedGruppe1 : UInt8
  deriving DecidableEq, Repr

structure DeviceDataDunstabzugport where
  config : EdsDunstabzugportBlock
  counter : UInt16
  stateReed0 : Bool
  stateReed1 : Bool
  stateDunst : Bool
  deriving DecidableEq, Repr

structure EdsReedkontaktBlock where
  port : UInt8
  gruppe : UInt8
  modus : UInt8
  feature : UInt8
  deriving DecidableEq, Repr

structure DeviceDataReedkontakt where
  config : EdsReedkontaktBlock
  timerCounter : UInt8
  lastState : Bool
  deriving DecidableEq, Repr

structure EdsZentralheizungspumpeBlock where
  port : UInt8
  feature : UInt8
  gruppe : UInt8
  deriving DecidableEq, Repr

/-- An entry of the table of heat demands. -/
structure Waermebedarf where
  id : UInt8
  waermebedarf : UInt8
  deriving DecidableEq, Repr

def maxAnzHeizungen : Nat := 15

structure DeviceDataZentralheizungspumpe where
  config : EdsZentralheizungspumpeBlock
  heizung : List Waermebedarf
  deriving DecidableEq, Repr

structure EdsTastdimmerBlock where
  port : UInt8
  feedbackGuppe : UInt8
  feature : UInt8
  gruppe : Vector UInt8 8
  deriving DecidableEq, Repr

structure DeviceDataTastdimmer where
  config : EdsTastdimmerBlock
  deriving DecidableEq, Repr

structure EdsMultitasterBlock where
  potiGruppe : UInt8
  tasterPort : UInt8
  feature : UInt8
  gruppe : Vector UInt8 10
  deriving DecidableEq, Repr

structure DeviceDataMultitaster where
  config : EdsMultitasterBlock
  pressed : UInt8
  lastPotiPos : UInt8
  oneScale : UInt16
  deriving DecidableEq, Repr

structure EdsTempsensorBlock where
  ioPin : UInt8
  gruppe : UInt8
  modus : UInt8
  interval : UInt8
  owId : Vector UInt8 17
  deriving DecidableEq, Repr

structure DeviceDataTempsensor where
  config : EdsTempsensorBlock
  timerCounter : UInt8
  convertSent : Bool
  temperature : UInt16
  deriving DecidableEq, Repr

structure EdsRolladenSchlitzposBlock where
  reed0 : UInt8
  reed1 : UInt8
  rolladen : UInt8
  deriving DecidableEq, Repr

structure DeviceDataRolladenSchlitzpos where
  config : EdsRolladenSchlitzposBlock
  rolladenSchlitzJob : UInt8
  rolladenIstposition : UInt8
  state1stReedkontakt : UInt8
  deriving DecidableEq, Repr

structure EdsZeitschaltuhrBlock where
  powerGruppe : UInt8
  automatikEinSchalterGruppe : UInt8
  zeitzoneId : Vector UInt8 8
  deriving DecidableEq, Repr

structure DeviceDataZeitschaltuhr where
  config : EdsZeitschaltuhrBlock
  state : Bool
  updateCounter : UInt16
  automatikEin : Bool
  deriving DecidableEq, Repr

structure EdsZeitzoneBlock where
  gruppe : UInt8
  dayPattern : UInt8
  fromHour : UInt8
  fromMinute : UInt8
  toHour : UInt8
  toMinute : UInt8
  deriving DecidableEq, Repr

/-- `it` is the EDS block of the record. -/
structure DeviceDataZeitzone where
  config : EdsZeitzoneBlock
  it : Nat
  deriving DecidableEq, Repr

/-- The 16-bit temperature is signed; it is kept as it is stored. -/
structure SolltempLine where
  id : UInt8
  temp : UInt16
  deriving DecidableEq, Repr

structure EdsHeizungBlock where
  id : UInt8
  port : UInt8
  pwmPeriode : UInt8
  sensorId : UInt8
  solltempLine : Vector SolltempLine 8
  feature : UInt8
  hysterese : UInt8
  reed : Vector UInt8 8
  deriving DecidableEq, Repr

inductive HeizungMode where
  | off
  | manual
  | thermostat
  | automatik
  deriving DecidableEq, Repr

structure DeviceDataHeizung where
  config : EdsHeizungBlock
  it : Nat
  mode : HeizungMode
  manualRate : UInt8
  timerCounter : UInt8
  pwmCounter : UInt16
  pwmWidth : UInt16
  pwmEnd : UInt16
  waermebedarfCounter : UInt8
  receivedIntervalCounter : UInt8
  measureValue : UInt16
  durationCounter : UInt16
  thermostatTemp : UInt16
  reedHeizStopCounter : UInt8
  ventilpflegeCounter : UInt16
  deriving DecidableEq, Repr

/-- A record of `device_data`; the other types have no frame callback. -/
inductive Device where
  | powerportAutomat (p : DeviceDataPowerportAutomat)
  | rolladenAutomat (p : DeviceDataRolladenAutomat)
  | dunstabzugport (p : DeviceDataDunstabzugport)
  | heizung (p : DeviceDataHeizung)
  | lichtzone (p : DeviceDataLichtzone)
  | multitaster (p : DeviceDataMultitaster)
  | powerport (p : DeviceDataPowerport)
  | reedkontakt (p : DeviceDataReedkontakt)
  | rolladen (p : DeviceDataRolladen)
  | rolladenSchlitzpos (p : DeviceDataRolladenSchlitzpos)
  | zentralheizungspumpe (p : DeviceDataZentralheizungspumpe)
  | tastdimmer (p : DeviceDataTastdimmer)
  | tempsensor (p : DeviceDataTempsensor)
  | zeitschaltuhr (p : DeviceDataZeitschaltuhr)
  | zeitzone (p : DeviceDataZeitzone)
  | other (type : UInt8)
  deriving DecidableEq, Repr

/-! ## The board -/

/-- The device table, the pins, the EEPROM, the clock and the frames handed to
`canix_frame_send` so far. -/
structure Board (mcu : Mcu) where
  devices : List Device
  ramUsage : Nat
  out : Outputs
  tasterport : UInt8 → Bool
  eeprom : Eeprom mcu
  clock : RtcClock
  sent : List CanixFrame

/-- A program on the board. -/
abbrev OnBoard (mcu : Mcu) (α : Type) := Nested (Board mcu) α

/-- A record type of the table. -/
class DeviceRecord (ρ : Type) where
  select : Device → Option ρ
  wrap : ρ → Device
  wrap_of_select : ∀ device p, select device = some p → wrap p = device

instance : DeviceRecord DeviceDataPowerportAutomat where
  select | .powerportAutomat p => some p | _ => none
  wrap := .powerportAutomat
  wrap_of_select device p found := by cases device <;> cases found; rfl

instance : DeviceRecord DeviceDataRolladenAutomat where
  select | .rolladenAutomat p => some p | _ => none
  wrap := .rolladenAutomat
  wrap_of_select device p found := by cases device <;> cases found; rfl

instance : DeviceRecord DeviceDataDunstabzugport where
  select | .dunstabzugport p => some p | _ => none
  wrap := .dunstabzugport
  wrap_of_select device p found := by cases device <;> cases found; rfl

instance : DeviceRecord DeviceDataHeizung where
  select | .heizung p => some p | _ => none
  wrap := .heizung
  wrap_of_select device p found := by cases device <;> cases found; rfl

instance : DeviceRecord DeviceDataLichtzone where
  select | .lichtzone p => some p | _ => none
  wrap := .lichtzone
  wrap_of_select device p found := by cases device <;> cases found; rfl

instance : DeviceRecord DeviceDataMultitaster where
  select | .multitaster p => some p | _ => none
  wrap := .multitaster
  wrap_of_select device p found := by cases device <;> cases found; rfl

instance : DeviceRecord DeviceDataPowerport where
  select | .powerport p => some p | _ => none
  wrap := .powerport
  wrap_of_select device p found := by cases device <;> cases found; rfl

instance : DeviceRecord DeviceDataRolladen where
  select | .rolladen p => some p | _ => none
  wrap := .rolladen
  wrap_of_select device p found := by cases device <;> cases found; rfl

instance : DeviceRecord DeviceDataRolladenSchlitzpos where
  select | .rolladenSchlitzpos p => some p | _ => none
  wrap := .rolladenSchlitzpos
  wrap_of_select device p found := by cases device <;> cases found; rfl

instance : DeviceRecord DeviceDataZentralheizungspumpe where
  select | .zentralheizungspumpe p => some p | _ => none
  wrap := .zentralheizungspumpe
  wrap_of_select device p found := by cases device <;> cases found; rfl

instance : DeviceRecord DeviceDataZeitschaltuhr where
  select | .zeitschaltuhr p => some p | _ => none
  wrap := .zeitschaltuhr
  wrap_of_select device p found := by cases device <;> cases found; rfl

instance : DeviceRecord DeviceDataZeitzone where
  select | .zeitzone p => some p | _ => none
  wrap := .zeitzone
  wrap_of_select device p found := by cases device <;> cases found; rfl

/-- A change of the record that `p` points to. -/
def onRecord {ρ : Type} [DeviceRecord ρ] (f : ρ → ρ) (device : Device) : Device :=
  match DeviceRecord.select device with
  | some p => DeviceRecord.wrap (f p)
  | none => device

/-- `p->…` at index `i`, read again behind a call that may have changed it. -/
def deref {ρ : Type} [DeviceRecord ρ] (i : Nat) (p : ρ) : OnBoard mcu ρ :=
  Nested.read fun b => (b.devices[i]?.bind DeviceRecord.select).getD p

/-- Assignments to `p->…` at index `i`. -/
def poke {ρ : Type} [DeviceRecord ρ] (i : Nat) (f : ρ → ρ) : OnBoard mcu Unit :=
  modify fun b => { b with devices := b.devices.modify i (onRecord f) }

def setpin (port : UInt8) (state : Bool) : OnBoard mcu Unit :=
  modify fun b => { b with out := darlingtonoutputSetpin b.out port state }

def eepromWrite (address : Nat) (value : UInt8) : OnBoard mcu Unit :=
  modify fun b => { b with eeprom := eepromWriteByte b.eeprom address value }

/-- A 16-bit value from two bytes of a frame. -/
def frameWord (hi lo : UInt8) : UInt16 := UInt16.ofNat (hi.toNat * 256 + lo.toNat)

def wordHi (word : UInt16) : UInt8 := UInt8.ofNat (word.toNat / 256)
def wordLo (word : UInt16) : UInt8 := UInt8.ofNat word.toNat

/-- A word is read from its bytes. -/
theorem frameWord_bytes (word : UInt16) : frameWord (wordHi word) (wordLo word) = word := by
  have bound := word.toNat_lt
  apply UInt16.toNat_inj.mp
  simp only [frameWord, wordHi, wordLo, UInt8.toNat_ofNat', UInt16.toNat_ofNat', Nat.reducePow]
  omega

/-- A frame of the house electrics service; the bytes behind `size` are not set in the
source. -/
def hesFrame (self dst : UInt16) (size command d2 d3 d4 d5 d6 d7 : UInt8) : CanixFrame where
  src := self
  dst := dst
  proto := hcanProtoSfp
  size := size
  data := #v[hcanSrvHes, command, d2, d3, d4, d5, d6, d7]

end Hcan.Hauselektrik
