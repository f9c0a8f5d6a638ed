import Hcan.Canix.Eeprom
import Hcan.Canix.Frame

/-!
# The management service of a board

The handler of the HCAN management service: state and type of the board, byte access to its
EEPROM, the syslog level, the build number and the statistics of the CAN driver.  Cells of the
EEPROM are written only where the value changes.
-/

namespace Hcan.Canix

open Hcan.Library

def hcanSrvHms : UInt8 := 1

def hcanHmsDevStateApplication : UInt8 := 2

def hcanHmsPingRequest : UInt8 := 1
def hcanHmsPingReplay : UInt8 := 2
def hcanHmsDeviceStateRequest : UInt8 := 3
def hcanHmsDeviceStateReplay : UInt8 := 4
def hcanHmsDeviceReset : UInt8 := 5
def hcanHmsDeviceTypeRequest : UInt8 := 9
def hcanHmsDeviceTypeReplay : UInt8 := 10
def hcanHmsInternalEepromWrite : UInt8 := 20
def hcanHmsInternalEepromWriteAck : UInt8 := 21
def hcanHmsInternalEepromReadRequest : UInt8 := 22
def hcanHmsInternalEepromReadReplay : UInt8 := 23
def hcanHmsInternalEepromReadBulkRequest : UInt8 := 24
def hcanHmsInternalEepromReadBulkReplay : UInt8 := 25
def hcanHmsUptimeQuery : UInt8 := 30
def hcanHmsUptimeReplay : UInt8 := 31
def hcanHmsSyslogLevelSet : UInt8 := 32
def hcanHmsBuildVersionQuery : UInt8 := 33
def hcanHmsBuildVersionReplay : UInt8 := 34
def hcanHmsCanEcQuery : UInt8 := 35
def hcanHmsCanEcReplay : UInt8 := 36
def hcanHmsRxReceivedQuery : UInt8 := 41
def hcanHmsRxReceivedReplay : UInt8 := 42
def hcanHmsRxLostQuery : UInt8 := 43
def hcanHmsRxLostReplay : UInt8 := 44
def hcanHmsTxSentQuery : UInt8 := 45
def hcanHmsTxSentReplay : UInt8 := 46
def hcanHmsTxDroppedQuery : UInt8 := 47
def hcanHmsTxDroppedReplay : UInt8 := 48
def hcanHmsRxTxStatsReset : UInt8 := 49

def eeprSelfAddr : UInt16 := 2
def eeprBoardType : Nat := 4
def eeprDebugLevel : Nat := 5

/-- What the compiler puts into the firmware: the number of the controller and `buildver`. -/
structure Firmware where
  mcuType : UInt8
  buildver : UInt16

/-- The counters that the handler reports. -/
structure HmsCounters where
  uptimeSec : UInt32
  canErrorCounters : UInt16
  rxReceived : UInt32
  rxLost : UInt32
  txSent : UInt32
  txDropped : UInt32
  deriving DecidableEq, Repr

/-- The state of a board that the handler reads and changes. -/
structure HmsBoard (mcu : Mcu) where
  ee : Eeprom mcu
  debugLevel : UInt8
  counters : HmsCounters

variable {mcu : Mcu}

def hmsBytes (d1 d2 d3 d4 d5 d6 d7 : UInt8) : Vector UInt8 8 :=
  #v[hcanSrvHms, d1, d2, d3, d4, d5, d6, d7]

def hmsAnswer (self : UInt16) (frame : CanixFrame) (size : UInt8) (data : Vector UInt8 8) :
    CanixFrame where
  src := self
  dst := frame.src
  proto := hcanProtoSfp
  size := size
  data := data

/-- An answer with a 32-bit number, high byte first. -/
def hmsAnswer32 (self : UInt16) (frame : CanixFrame) (command : UInt8) (n : UInt32) : CanixFrame :=
  hmsAnswer self frame 6
    (hmsBytes command (n >>> 24).toUInt8 (n >>> 16).toUInt8 (n >>> 8).toUInt8 n.toUInt8 0 0)

/-- An answer with a 16-bit number, high byte first. -/
def hmsAnswer16 (self : UInt16) (frame : CanixFrame) (command : UInt8) (n : UInt16) : CanixFrame :=
  hmsAnswer self frame 4 (hmsBytes command (n >>> 8).toUInt8 n.toUInt8 0 0 0 0)

/-- The write of the handler: only a value that differs is written. -/
def eepromChangeByte (ee : Eeprom mcu) (p : Nat) (v : UInt8) : Eeprom mcu :=
  if eepromReadByte ee p ≠ v then eepromWriteByte ee p v else ee

/-- `canix_SFP_HMS_handler`: the board behind the request and the answer frame.  `none` means
that the board starts anew. -/
def canixSfpHmsHandler (firmware : Firmware) (self : UInt16) (b : HmsBoard mcu)
    (frame : CanixFrame) : Option (HmsBoard mcu × Option CanixFrame) :=
  let address := framePointer frame.data[3] frame.data[2]
  let answer := hmsAnswer self frame
  if frame.data[1] = hcanHmsPingRequest then
    some (b, some (answer 2 (hmsBytes hcanHmsPingReplay 0 0 0 0 0 0)))
  else if frame.data[1] = hcanHmsDeviceStateRequest then
    some (b, some (answer 3
      (hmsBytes hcanHmsDeviceStateReplay hcanHmsDevStateApplication 0 0 0 0 0)))
  else if frame.data[1] = hcanHmsDeviceReset then none
  else if frame.data[1] = hcanHmsDeviceTypeRequest then
    some (b, some (answer 4 (hmsBytes hcanHmsDeviceTypeReplay firmware.mcuType
      (eepromReadByte b.ee eeprBoardType) 0 0 0 0)))
  else if frame.data[1] = hcanHmsInternalEepromWrite then
    some ({ b with ee := eepromChangeByte b.ee address frame.data[4] },
      some (answer 2 (hmsBytes hcanHmsInternalEepromWriteAck 0 0 0 0 0 0)))
  else if frame.data[1] = hcanHmsInternalEepromReadRequest then
    some (b, some (answer 3
      (hmsBytes hcanHmsInternalEepromReadReplay (eepromReadByte b.ee address) 0 0 0 0 0)))
  else if frame.data[1] = hcanHmsInternalEepromReadBulkRequest then
    let byte := fun i => eepromReadByte b.ee (ptrAdd address i)
    some (b, some (answer 8 (hmsBytes hcanHmsInternalEepromReadBulkReplay
      (byte 0) (byte 1) (byte 2) (byte 3) (byte 4) (byte 5))))
  else if frame.data[1] = hcanHmsUptimeQuery then
    some (b, some (hmsAnswer32 self frame hcanHmsUptimeReplay b.counters.uptimeSec))
  else if frame.data[1] = hcanHmsSyslogLevelSet then
    some ({ b with debugLevel := frame.data[2],
                   ee := eepromWriteByte b.ee eeprDebugLevel frame.data[2] }, none)
  else if frame.data[1] = hcanHmsBuildVersionQuery then
    some (b, some (hmsAnswer16 self frame hcanHmsBuildVersionReplay firmware.buildver))
  else if frame.data[1] = hcanHmsCanEcQuery then
    some (b, some (hmsAnswer16 self frame hcanHmsCanEcReplay b.counters.canErrorCounters))
  else if frame.data[1] = hcanHmsRxReceivedQuery then
    some (b, some (hmsAnswer32 self frame hcanHmsRxReceivedReplay b.counters.rxReceived))
  else if frame.data[1] = hcanHmsRxLostQuery then
    some (b, some (hmsAnswer32 self frame hcanHmsRxLostReplay b.counters.rxLost))
  else if frame.data[1] = hcanHmsTxSentQuery then
    some (b, some (hmsAnswer32 self frame hcanHmsTxSentReplay b.counters.txSent))
  else if frame.data[1] = hcanHmsTxDroppedQuery then
    some (b, some (hmsAnswer32 self frame hcanHmsTxDroppedReplay b.counters.txDropped))
  else if frame.data[1] = hcanHmsRxTxStatsReset then
    some ({ b with counters :=
      { b.counters with rxReceived := 0, rxLost := 0, txSent := 0, txDropped := 0 } }, none)
  else some (b, none)

/-- Whether it is written or not, the cell then holds the value. -/
theorem eepromChangeByte_cell (ee : Eeprom mcu) (p : Nat) (v : UInt8) :
    (eepromChangeByte ee p v).cell = Function.update ee.cell (mcu.cellOf p) v := by
  rw [eepromChangeByte]
  split
  · rfl
  · rename_i same
    rw [not_not, eepromReadByte] at same
    rw [← same, Function.update_eq_self]

end Hcan.Canix
