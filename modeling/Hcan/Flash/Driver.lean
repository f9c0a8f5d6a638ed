import Hcan.Flash.Loader
import Hcan.Host.Connection
import Hcan.Library.Partial

/-!
# The flash command of the host

`board_driver::cmd_flash` with the frames it exchanges with the boot loader.  A frame
of the host may be lost, the answer to it may be lost, and a page write may leave
something else in the flash; what goes wrong with the n-th frame is the n-th fault.
Frames of other participants that come between are addressed to others.  The channel
also notes which lines have been acknowledged.
-/

namespace Hcan.Flash

open Hcan.Canix Hcan.Host Hcan.Library

structure Fault where
  requestLost : Bool
  replyLost : Bool
  /-- The content of the flash behind a page write that has gone wrong. -/
  spoilt : Option (Nat → UInt8)

/-- What happens to the frames of the host, by their number. -/
abbrev Faults := Nat → Fault

def Fault.absent : Fault := ⟨false, false, none⟩

/-- A line whose acknowledgement the host has received: the bytes that it has sent and what the
buffer of the boot loader holds in their place at that time. -/
structure AckedLine where
  sent : List UInt8
  held : List UInt8

/-- The board and what is under way to the host. -/
structure Net (c : Controller) where
  board : BootLoader c
  inbox : List CanixFrame
  /-- The number of frames that the host has sent. -/
  sent : Nat
  /-- The last frame that begins a line has arrived. -/
  begun : Bool
  /-- An acknowledgement has fallen due in a line whose first frame was lost. -/
  premature : Bool
  acked : List AckedLine

inductive FlashError where
  | transport (message : Text)
  | traceable (message : Text)
  | assertion
  deriving DecidableEq

abbrev Flasher (c : Controller) (α : Type) := Program (Net c) FlashError α

variable {c : Controller}

/-- What the channel notes of a frame of the host. -/
def Net.note (n : Net c) (frame : CanixFrame) (lost : Bool) : Net c :=
  if frame.data[1] = hcanHmsFlashBufferFill then
    if frame.data[2] &&& 0x0f = 0 then { n with sent := n.sent + 1, begun := !lost }
    else if lost = false ∧ 16 ≤ n.board.lineCounter + 4 ∧ n.begun = false then
      { n with sent := n.sent + 1, premature := true }
    else { n with sent := n.sent + 1 }
  else { n with sent := n.sent + 1 }

/-- A page write that goes wrong. -/
def Fault.spoil (fault : Fault) (frame : CanixFrame) (b : BootLoader c) : BootLoader c :=
  match fault.spoilt with
  | some content =>
      if frame.data[1] = hcanHmsFlashBufferWrite then { b with flash := memoryOf content } else b
  | none => b

def Net.afterSend (faults : Faults) (n : Net c) (frame : CanixFrame) : Option (Net c) :=
  let fault := faults n.sent
  let noted := n.note frame fault.requestLost
  if fault.requestLost then some noted
  else (n.board.handle frame).map fun handled =>
    { noted with
      board := fault.spoil frame handled.1
      inbox := n.inbox ++ if fault.replyLost then [] else handled.2.toList }

def send (faults : Faults) (frame : CanixFrame) : Flasher c PUnit :=
  Program.step fun n => (n.afterSend faults frame).map fun next => (⟨⟩, next)

def safetyCounter : Nat := 100000

/-- The next frame to a receiver, and the frames behind it. -/
def nextFor (dst : UInt16) : Nat → List CanixFrame → Option CanixFrame × List CanixFrame
  | 0, inbox => (none, inbox)
  | _ + 1, [] => (none, [])
  | counter + 1, frame :: inbox =>
      if frame.dst = dst then (some frame, inbox) else nextFor dst counter inbox

/-- The channel behind looking for the next frame to a receiver. -/
def Net.takeFor (n : Net c) (dst : UInt16) : Option CanixFrame × Net c :=
  ((nextFor dst safetyCounter n.inbox).1,
    { n with inbox := (nextFor dst safetyCounter n.inbox).2 })

/-- `recv_frame`. -/
def recvFrame (dst : UInt16) : Flasher c CanixFrame := do
  match ← Program.step fun n => some (n.takeFor dst) with
  | some frame => pure frame
  | none => throw (.transport (text "timeout while waiting for packet"))

/-- The tests that the `recv_…` functions share. -/
def recv (bcon : BoardConnection) (size command : UInt8) : Flasher c CanixFrame := do
  let frame ← recvFrame bcon.src
  if bcon.dst ≠ 0 ∧ frame.src ≠ bcon.dst then
    throw (.transport (text "unexpected packet received: src is wrong"))
  else if frame.size ≠ size then
    throw (.transport (text "unexpected size in packet received"))
  else if frame.data[0] ≠ hcanSrvHms then
    throw (.transport (text "unexpected packet received: service id is wrong"))
  else if frame.data[1] ≠ command then
    throw (.transport (text "unexpected packet received: commmand id is wrong"))
  else pure frame

def hmsFrame (bcon : BoardConnection) (size command d2 d3 d4 d5 d6 : UInt8) : CanixFrame where
  src := bcon.src
  dst := bcon.dst
  proto := hcanProtoSfp
  size := size
  data := #v[hcanSrvHms, command, d2, d3, d4, d5, d6, 0]

def fillFrame (bcon : BoardConnection) (index d0 d1 d2 d3 : UInt8) : CanixFrame :=
  hmsFrame bcon 7 hcanHmsFlashBufferFill index d0 d1 d2 d3

def writeFrame (bcon : BoardConnection) (lsb msb : UInt8) : CanixFrame :=
  hmsFrame bcon 4 hcanHmsFlashBufferWrite lsb msb 0 0 0

def queryFrame (bcon : BoardConnection) (hi lo : UInt8) : CanixFrame :=
  hmsFrame bcon 4 hcanHmsFlashCrc16Query hi lo 0 0 0

def eepromFrame (bcon : BoardConnection) (lsb msb value : UInt8) : CanixFrame :=
  hmsFrame bcon 5 hcanHmsInternalEepromWrite lsb msb value 0 0

/-- The commands without parameters. -/
def commandFrame (bcon : BoardConnection) (command : UInt8) : CanixFrame :=
  hmsFrame bcon 2 command 0 0 0 0 0

section Driver

variable (faults : Faults) (bcon : BoardConnection)

def sendFlashBufferFill (index d0 d1 d2 d3 : UInt8) : Flasher c PUnit :=
  send faults (fillFrame bcon index d0 d1 d2 d3)

def sendFlashBufferWrite (lsb msb : UInt8) : Flasher c PUnit :=
  send faults (writeFrame bcon lsb msb)

def sendFlashCrc16Query (hi lo : UInt8) : Flasher c PUnit := send faults (queryFrame bcon hi lo)

def sendInternalEepromWrite (lsb msb value : UInt8) : Flasher c PUnit :=
  send faults (eepromFrame bcon lsb msb value)

def sendCommand (command : UInt8) : Flasher c PUnit := send faults (commandFrame bcon command)

/-! ## Lines and blocks -/

/-- `data[i]`; reading behind the end has no result. -/
def byteOf (image : List UInt8) (i : Nat) : Flasher c UInt8 :=
  Program.step fun n => (image[i]?).map fun byte => (byte, n)

/-- The frames of a line; the index is a `uint8_t` and wraps. -/
def fillFrames (image : List UInt8) (offset : Nat) : Nat → UInt8 → Flasher c UInt8
  | 0, index => pure index
  | frames + 1, index => do
      let d0 ← byteOf image (offset + index.toNat)
      let d1 ← byteOf image (offset + index.toNat + 1)
      let d2 ← byteOf image (offset + index.toNat + 2)
      let d3 ← byteOf image (offset + index.toNat + 3)
      sendFlashBufferFill faults bcon index d0 d1 d2 d3
      fillFrames image offset frames (index + 4)

/-- What is noted of an acknowledged line; the source has no such step. -/
def Net.acknowledge (n : Net c) (image : List UInt8) (offset : Nat) (index : UInt8) : Net c :=
  { n with acked := n.acked ++ [{
      sent := (image.drop (offset + index.toNat)).take 16
      held := (n.board.flashBuffer.toList.drop index.toNat).take 16 }] }

def flashLines (image : List UInt8) (offset : Nat) : Nat → UInt8 → Flasher c PUnit
  | 0, _ => pure ⟨⟩
  | lines + 1, index => do
      let next ← fillFrames faults bcon image offset 4 index
      let _ ← recv bcon 2 hcanHmsFlashBufferFillAck
      modify fun n => n.acknowledge image offset index
      flashLines image offset lines next

/-- The comparison of a block with the cached image, from a byte on. -/
def blocksEqual (image cached : List UInt8) (offset : Nat) : Nat → Nat → Flasher c Bool
  | 0, _ => pure true
  | bytes + 1, i => do
      let fresh ← byteOf image (offset + i)
      let old ← byteOf cached (offset + i)
      if fresh ≠ old then pure false else blocksEqual image cached offset bytes (i + 1)

/-- A block is left out in the incremental mode when it is the cached one. -/
def leaveOut (image : List UInt8) (offset : Nat) : Option (List UInt8) → Flasher c Bool
  | some cached => blocksEqual image cached offset c.pageSize 0
  | none => pure false

def flashBlock (image : List UInt8) (cached : Option (List UInt8)) (block : Nat) :
    Flasher c PUnit := do
  let offset := block * c.pageSize
  if ← leaveOut image offset cached then pure ⟨⟩
  else do
    flashLines faults bcon image offset (c.pageSize / 16) 0
    sendFlashBufferWrite faults bcon (UInt8.ofNat offset) (UInt8.ofNat (offset / 256))
    let _ ← recv bcon 2 hcanHmsFlashBufferWriteAck

def flashBlocks (image : List UInt8) (cached : Option (List UInt8)) : Nat → Nat → Flasher c PUnit
  | 0, _ => pure ⟨⟩
  | blocks + 1, block => do
      flashBlock faults bcon image cached block
      flashBlocks image cached blocks (block + 1)

def loadCrc16FromBoard (size : UInt16) : Flasher c UInt16 := do
  sendFlashCrc16Query faults bcon (size >>> 8).toUInt8 (size &&& 0xff).toUInt8
  let frame ← recv bcon 4 hcanHmsFlashCrc16Replay
  pure ((frame.data[2].toUInt16 <<< 8) ||| frame.data[3].toUInt16)

def writeEepromByte (address : Nat) (data : UInt8) : Flasher c PUnit := do
  sendInternalEepromWrite faults bcon (UInt8.ofNat address) (UInt8.ofNat (address / 256)) data
  let _ ← recv bcon 2 hcanHmsInternalEepromWriteAck

def writeEepromWordLe (address : Nat) (data : UInt16) : Flasher c PUnit := do
  writeEepromByte faults bcon address data.toUInt8
  writeEepromByte faults bcon (address + 1) (data >>> 8).toUInt8

def saveCrc16ToBoard (crc size : UInt16) : Flasher c PUnit := do
  writeEepromWordLe faults bcon eeprFirmwareCrc16 crc
  writeEepromWordLe faults bcon eeprFirmwareSize size

/-- `hexfile.size()`, a `uint16_t`. -/
def sizeOf16 (image : List UInt8) : UInt16 := UInt16.ofNat image.length

def crcError : FlashError :=
  .traceable (text
    "Critical error: crc16 NOT identical: update bootloader or maybe flash error?")

def verify (image : List UInt8) : Flasher c PUnit := do
  let boardCrc ← loadCrc16FromBoard faults bcon (sizeOf16 image)
  saveCrc16ToBoard faults bcon boardCrc (sizeOf16 image)
  if boardCrc ≠ crc16 image then throw crcError

/-- A boot loader that does not know the checksum only gives a warning. -/
def ignoreTransport : FlashError → Flasher c PUnit
  | .transport _ => pure ⟨⟩
  | error => throw error

/-- One attempt; the copy into the cache at its end is left out. -/
def attempt (image : List UInt8) (cached : Option (List UInt8)) : Flasher c PUnit := do
  flashBlocks faults bcon image cached ((sizeOf16 image).toNat / c.pageSize) 0
  tryCatch (verify faults bcon image) ignoreTransport
  sendCommand faults bcon hcanHmsDeviceLoadApp

def cmdGetstate : Flasher c UInt8 := do
  sendCommand faults bcon hcanHmsDeviceStateRequest
  let frame ← recv bcon 3 hcanHmsDeviceStateReplay
  pure frame.data[2]

/-- Resets the board and stops the boot loader; the second that the host waits is shorter than
the count-down. -/
def enterBootLoader : Flasher c PUnit := do
  sendCommand faults bcon hcanHmsDeviceReset
  sendCommand faults bcon hcanHmsDeviceBootStop
  let _ ← recv bcon 2 hcanHmsDeviceBootStopAck
  let state ← cmdGetstate faults bcon
  if state ≠ 1 then throw .assertion

/-- `while (n_trys--)`; the answer is whether an attempt was successful. -/
def tries (image : List UInt8) (cached : Option (List UInt8)) : Nat → Flasher c Bool
  | 0 => pure false
  | left + 1 =>
      tryCatch (do
        attempt faults bcon image cached
        pure true) fun
      | .transport _ => do
          enterBootLoader faults bcon
          tries image cached left
      | error => throw error

/-- The check that enables the incremental mode; the answer is the image to compare with. -/
def checkCache (image : List UInt8) (cacheFile : Option (List UInt8)) :
    Flasher c (Option (List UInt8)) := do
  enterBootLoader faults bcon
  match cacheFile with
  | none => pure none
  | some cached => do
      let boardCrc ← loadCrc16FromBoard faults bcon (sizeOf16 image)
      if boardCrc = crc16 cached then pure (some cached) else pure none

def cmdFlash (incremental : Bool) (image : List UInt8) (cacheFile : Option (List UInt8)) :
    Flasher c Bool := do
  let cached ← if incremental then checkCache faults bcon image cacheFile else pure none
  tries faults bcon image cached 3

end Driver

end Hcan.Flash
