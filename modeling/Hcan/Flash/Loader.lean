import Hcan.Canix.Frame
import Hcan.Flash.Memory
import Hcan.Library.Copy

/-!
# The boot loader

The main loop of the boot loader as a function from a frame to the next state and an
answer, and the count-down that ends in the test of the firmware.  `hcanbl8` has
neither the test nor the query of the checksum, and listens to its own address only.
The EEPROM is a function of the address; an address has sixteen bits.  The messages of
the boot loader to the syslog address are left out.
-/

namespace Hcan.Flash

open Hcan.Canix Hcan.Library

def hcanSrvHms : UInt8 := 1
def hcanMulticastPing : UInt16 := 31

def hcanHmsPingRequest : UInt8 := 1
def hcanHmsPingReplay : UInt8 := 2
def hcanHmsDeviceStateRequest : UInt8 := 3
def hcanHmsDeviceStateReplay : UInt8 := 4
def hcanHmsDeviceReset : UInt8 := 5
def hcanHmsDeviceBootStop : UInt8 := 6
def hcanHmsDeviceBootStopAck : UInt8 := 7
def hcanHmsDeviceLoadApp : UInt8 := 8
def hcanHmsDeviceTypeRequest : UInt8 := 9
def hcanHmsDeviceTypeReplay : UInt8 := 10
def hcanHmsFlashBufferFill : UInt8 := 16
def hcanHmsFlashBufferFillAck : UInt8 := 17
def hcanHmsFlashBufferWrite : UInt8 := 18
def hcanHmsFlashBufferWriteAck : UInt8 := 19
def hcanHmsInternalEepromWrite : UInt8 := 20
def hcanHmsInternalEepromWriteAck : UInt8 := 21
def hcanHmsInternalEepromReadRequest : UInt8 := 22
def hcanHmsInternalEepromReadReplay : UInt8 := 23
def hcanHmsFlashCrc16Query : UInt8 := 37
def hcanHmsFlashCrc16Replay : UInt8 := 38

def eeprSelfAddr : Nat := 2
def eeprBoardType : Nat := 4
def eeprFirmwareCrc16 : Nat := 16
def eeprFirmwareSize : Nat := 18

/-- The variables of `main` and the memories of the board. -/
structure BootLoader (c : Controller) where
  flash : Memory c
  eeprom : Nat → UInt8
  selfAddr : UInt16
  flashBuffer : Vector UInt8 c.pageSize
  lineCounter : UInt16
  bootCounter : UInt8
  /-- The array that frames are read into and sent from. -/
  data : Vector UInt8 8
  /-- `jump_to_app` has been called. -/
  inApp : Bool

namespace BootLoader

variable {c : Controller}

/-- `eeprom_read_word`. -/
def eepromReadWord (b : BootLoader c) (address : Nat) : UInt16 :=
  (b.eeprom address).toUInt16 ||| ((b.eeprom (address + 1)).toUInt16 <<< 8)

def checkFirmware (b : BootLoader c) : Bool :=
  calculateCrc16OverFlash b.flash (b.eepromReadWord eeprFirmwareSize) =
    b.eepromReadWord eeprFirmwareCrc16

/-- The beginning of `main` behind a reset; what the reset leaves in the RAM stays there. -/
def restart (b : BootLoader c) : BootLoader c :=
  { b with
    selfAddr := b.eepromReadWord eeprSelfAddr &&& 0x3ff
    lineCounter := 0
    bootCounter := 1
    inApp := false }

/-- The end of a pass of the main loop: the count-down, and the boot decision behind it.  A
firmware that fails the test is reported and the board resets; `hcanbl8` starts any firmware. -/
def countDown (b : BootLoader c) : BootLoader c :=
  if 0 < b.bootCounter then
    let counted := { b with bootCounter := b.bootCounter + 1 }
    if 50 < counted.bootCounter then
      if c.hcanbl32 ∧ ¬ counted.checkFirmware then counted.restart
      else { counted with inApp := true }
    else counted
  else b

/-- `*buf++ + (*buf++ << 8)` in the round for the byte `i`. -/
def bufferWord (flashBuffer : Vector UInt8 c.pageSize) (i : Nat) : UInt16 :=
  (flashBuffer.toList.getD i 0).toUInt16 + ((flashBuffer.toList.getD (i + 1) 0).toUInt16 <<< 8)

/-- The loop that fills the temporary buffer, which is erased before. -/
def fillPage (flashBuffer : Vector UInt8 c.pageSize) (address : Nat) : Nat → Nat → UInt8
  | 0 => fun _ => 0xff
  | words + 1 =>
      bootPageFill c (fillPage flashBuffer address words) (address + 2 * words)
        (bufferWord flashBuffer (2 * words))

/-- The flash behind `HCAN_HMS_FLASH_BUFFER_WRITE`. -/
def writePage (flash : Memory c) (flashBuffer : Vector UInt8 c.pageSize) (address : Nat) :
    Memory c :=
  bootPageWrite (bootPageErase flash address) (fillPage flashBuffer address (c.pageSize / 2))
    address

/-- The loop of `HCAN_HMS_FLASH_BUFFER_FILL`; no result when a write leaves the buffer. -/
def fillBuffer (flashBuffer : Vector UInt8 c.pageSize) (data : Vector UInt8 8) :
    Option (Vector UInt8 c.pageSize) :=
  let index := data[2].toNat
  if bound : index + 3 < c.pageSize then
    some ((((flashBuffer.set index data[3]).set (index + 1) data[4]).set (index + 2) data[5]).set
      (index + 3) data[6])
  else none

/-! ## Frames -/

/-- The label `_send`: `size` bytes of `data` go back to the sender. -/
def reply (b : BootLoader c) (request : CanixFrame) (size : UInt8) (data : Vector UInt8 8) :
    BootLoader c × Option CanixFrame :=
  ({ b with data := data }, some ⟨b.selfAddr, request.src, hcanProtoSfp, size, data⟩)

/-- The `switch` over the commands of the HMS service.  No result when a write leaves the buffer,
or when it erases a page of the boot section, where the running boot loader stands. -/
def handleHms (b : BootLoader c) (request : CanixFrame) :
    Option (BootLoader c × Option CanixFrame) :=
  let data := b.data
  let command := data[1]
  if command = hcanHmsPingRequest then
    some (b.reply request 2 (data.setIfInBounds 1 hcanHmsPingReplay))
  else if command = hcanHmsDeviceStateRequest then
    some (b.reply request 3 ((data.setIfInBounds 1 hcanHmsDeviceStateReplay).setIfInBounds 2
      (if b.bootCounter = 0 then 1 else 0)))
  else if command = hcanHmsDeviceReset then some (b.restart, none)
  else if command = hcanHmsDeviceBootStop then
    some (({ b with bootCounter := 0 } : BootLoader c).reply request 2
      (data.setIfInBounds 1 hcanHmsDeviceBootStopAck))
  else if command = hcanHmsDeviceLoadApp then some ({ b with inApp := true }, none)
  else if command = hcanHmsDeviceTypeRequest then
    some (b.reply request 4 (((data.setIfInBounds 1 hcanHmsDeviceTypeReplay).setIfInBounds 2
      c.typeId).setIfInBounds 3 (b.eeprom eeprBoardType)))
  else if command = hcanHmsFlashBufferFill then do
    let lineCounter := if data[2] &&& 0x0f = 0 then 0 else b.lineCounter
    let flashBuffer ← fillBuffer b.flashBuffer data
    let filled := { b with flashBuffer := flashBuffer, lineCounter := lineCounter + 4 }
    if 16 ≤ filled.lineCounter then
      some (filled.reply request 2 (data.setIfInBounds 1 hcanHmsFlashBufferFillAck))
    else some (filled, none)
  else if command = hcanHmsFlashBufferWrite then
    let address := framePointer data[3] data[2]
    if c.bootloaderAddress ≤ address % c.flashSize then none
    else some (({ b with flash := writePage b.flash b.flashBuffer address } : BootLoader c).reply
      request 2 (data.setIfInBounds 1 hcanHmsFlashBufferWriteAck))
  else if command = hcanHmsInternalEepromWrite then
    let address := framePointer data[3] data[2]
    some (({ b with eeprom := Function.update b.eeprom address data[4] } : BootLoader c).reply
      request 2 (data.setIfInBounds 1 hcanHmsInternalEepromWriteAck))
  else if command = hcanHmsInternalEepromReadRequest then
    let address := framePointer data[3] data[2]
    some (b.reply request 3 ((data.setIfInBounds 1 hcanHmsInternalEepromReadReplay).setIfInBounds 2
      (b.eeprom address)))
  else if command = hcanHmsFlashCrc16Query ∧ c.hcanbl32 then
    let sum := calculateCrc16OverFlash b.flash ((data[2].toUInt16 <<< 8) ||| data[3].toUInt16)
    some (b.reply request 4 (((data.setIfInBounds 1 hcanHmsFlashCrc16Replay).setIfInBounds 2
      (sum >>> 8).toUInt8).setIfInBounds 3 (sum &&& 0xff).toUInt8))
  else some (b, none)

/-- The addresses that the boot loader listens to. -/
def Accepts (b : BootLoader c) (dst : UInt16) : Prop :=
  dst = b.selfAddr ∨ c.hcanbl32 ∧ dst = hcanMulticastPing

instance (b : BootLoader c) (dst : UInt16) : Decidable (b.Accepts dst) :=
  inferInstanceAs (Decidable (_ ∨ _))

/-- A frame from the bus: its data bytes are read into the array, and a frame of the HMS service
to an address of the boot loader is handled. -/
def handle (b : BootLoader c) (frame : CanixFrame) :
    Option (BootLoader c × Option CanixFrame) :=
  if b.inApp then some (b, none)
  else do
    let data ← copyInto (fun i => frame.data.toList.getD i 0) frame.size.toNat b.data
    let read := { b with data := data }
    if b.Accepts frame.dst ∧ 2 ≤ frame.size ∧ data[0] = hcanSrvHms then read.handleHms frame
    else some (read, none)

end BootLoader

end Hcan.Flash
