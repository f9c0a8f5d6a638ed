import Hcan.Canix.Eeprom
import Hcan.Canix.Frame

/-!
# The EDS service of the firmware

Block management in the EEPROM: formatting, allocation, release,
defragmentation, iteration and the frame handler.  A block is a type byte, a
size byte and the payload; type 0 marks a free block.

Every loop of the source is a recursion over a fuel argument and answers `none`
when the fuel runs out before the loop ends.  Fuel `edsEnd` is enough for a
pointer that grows by at least two in each round.
-/

namespace Hcan.Eds

open Hcan.Canix

def edsMagic1 : UInt8 := 0xe4
def edsMagic2 : UInt8 := 0x7d

def edsStart : Nat := 32
def edsDataStart : Nat := edsStart + 2
def edsEnd (mcu : Mcu) : Nat := mcu.edsDataEnd

def edsOk : UInt8 := 0
def edsNotFormated : UInt8 := 1
def edsInvalidPointer : UInt8 := 2

variable {mcu : Mcu}

def edsBlockType (ee : Eeprom mcu) (p : Nat) : UInt8 := eepromReadByte ee p

def edsBlockSize (ee : Eeprom mcu) (p : Nat) : UInt8 := eepromReadByte ee (ptrAdd p 1)

def edsSetBlockType (ee : Eeprom mcu) (p : Nat) (t : UInt8) : Eeprom mcu :=
  eepromWriteByte ee p t

def edsSetBlockSize (ee : Eeprom mcu) (p : Nat) (t : UInt8) : Eeprom mcu :=
  eepromWriteByte ee (ptrAdd p 1) t

def edsNextBlock (ee : Eeprom mcu) (p : Nat) : Nat :=
  ptrAdd p (2 + (edsBlockSize ee p).toNat)

/-- The loop of `eds_format`: empty blocks of at most 128 bytes. -/
def edsFormatLoop : Nat → Nat → Eeprom mcu → Option (Eeprom mcu)
  | 0, _, _ => none
  | fuel + 1, p, ee =>
      if p < edsEnd mcu - 2 then
        let typed := eepromWriteByte ee p 0
        let sizeAt := ptrAdd p 1
        let size : UInt8 :=
          UInt8.ofNat (if edsEnd mcu - sizeAt > 128 then 128 else edsEnd mcu - sizeAt)
        let sized := eepromWriteByte typed sizeAt size
        edsFormatLoop fuel (ptrAdd (ptrAdd sizeAt 1) size.toNat) sized
      else some ee

def edsFormat (ee : Eeprom mcu) : Option (Eeprom mcu) :=
  let first := eepromWriteByte ee edsStart edsMagic1
  let second := eepromWriteByte first (ptrAdd edsStart 1) edsMagic2
  edsFormatLoop (edsEnd mcu) (ptrAdd (ptrAdd edsStart 1) 1) second

/-- The test of `eds_init`: both magic bytes are in place. -/
def edsFormated (ee : Eeprom mcu) : Bool :=
  eepromReadByte ee edsStart == edsMagic1 && eepromReadByte ee (ptrAdd edsStart 1) == edsMagic2

def edsInit (ee : Eeprom mcu) : Option (Eeprom mcu × UInt8) :=
  if edsFormated ee then some (ee, edsOk)
  else (edsFormat ee).map fun formated => (formated, edsNotFormated)

/-- `eds_alloc` cuts a free block: header of the rest first, own size last. -/
def edsSplit (ee : Eeprom mcu) (p : Nat) (size : UInt8) : Eeprom mcu :=
  let typed := eepromWriteByte ee (ptrAdd p (2 + size.toNat)) 0
  let sized := eepromWriteByte typed (ptrAdd p (2 + size.toNat + 1))
    (UInt8.ofNat ((edsBlockSize typed p).toNat - size.toNat - 2))
  eepromWriteByte sized (ptrAdd p 1) size

def edsAllocLoop (ee : Eeprom mcu) (size : UInt8) : Nat → Nat → Option (Eeprom mcu × Nat)
  | 0, _ => none
  | fuel + 1, p =>
      if p < edsEnd mcu then
        if edsBlockType ee p = 0 ∧ edsBlockSize ee p ≥ size then
          if edsBlockSize ee p = size then some (ee, p)
          else if (edsBlockSize ee p).toNat ≥ size.toNat + 2 then some (edsSplit ee p size, p)
          else edsAllocLoop ee size fuel (edsNextBlock ee p)
        else edsAllocLoop ee size fuel (edsNextBlock ee p)
      else some (ee, 0)

/-- The pointer is 0 when no block was found. -/
def edsAlloc (ee : Eeprom mcu) (size : UInt8) : Option (Eeprom mcu × Nat) :=
  edsAllocLoop ee size (edsEnd mcu) edsDataStart

def edsFreeLoop (ee : Eeprom mcu) (block : Nat) : Nat → Nat → Option (Eeprom mcu × UInt8)
  | 0, _ => none
  | fuel + 1, p =>
      if p < edsEnd mcu then
        if p = block then some (edsSetBlockType ee p 0, edsOk)
        else edsFreeLoop ee block fuel (edsNextBlock ee p)
      else some (ee, edsInvalidPointer)

def edsFree (ee : Eeprom mcu) (block : Nat) : Option (Eeprom mcu × UInt8) :=
  edsFreeLoop ee block (edsEnd mcu) edsDataStart

/-- The first half of the loop body: two neighbouring free blocks become one
when their common size fits a byte; the loop then stands on the merged block. -/
def edsMerge (ee : Eeprom mcu) (lastFree p : Nat) : Eeprom mcu × Nat :=
  if lastFree ≠ 0 ∧ edsBlockType ee p = 0 then
    let lastSize := (edsBlockSize ee lastFree).toNat
    let size := (edsBlockSize ee p).toNat
    if lastSize + 2 + size ≤ 255 then
      (edsSetBlockSize ee lastFree (UInt8.ofNat (lastSize + 2 + size)), lastFree)
    else (ee, p)
  else (ee, p)

def edsDefragmentLoop : Nat → Nat → Nat → Eeprom mcu → Option (Eeprom mcu)
  | 0, _, _, _ => none
  | fuel + 1, lastFree, p, ee =>
      if p < edsEnd mcu then
        let merged := edsMerge ee lastFree p
        let lastFree := if edsBlockType merged.1 merged.2 = 0 then merged.2 else 0
        edsDefragmentLoop fuel lastFree (edsNextBlock merged.1 merged.2) merged.1
      else some ee

def edsDefragment (ee : Eeprom mcu) : Option (Eeprom mcu) :=
  edsDefragmentLoop (edsEnd mcu) 0 edsDataStart ee

/-- The search loop of both `eds_find_next_block` functions.  The end test
stands before the step, as in the source.  The second component lists the
blocks whose header the loop reads. -/
def edsFindLoop (wanted : UInt8 → Bool) (ee : Eeprom mcu) : Nat → Nat → Option (Nat × List Nat)
  | 0, _ => none
  | fuel + 1, p =>
      if p < edsEnd mcu then
        let next := edsNextBlock ee p
        if wanted (edsBlockType ee next) then some (next, [p, next])
        else (edsFindLoop wanted ee fuel next).map fun found => (found.1, p :: next :: found.2)
      else some (0, [])

/-- The common body: from 0 the first block is tried before the loop. -/
def edsFind (wanted : UInt8 → Bool) (ee : Eeprom mcu) (p : Nat) : Option (Nat × List Nat) :=
  if p = 0 then
    if wanted (edsBlockType ee edsDataStart) then some (edsDataStart, [edsDataStart])
    else (edsFindLoop wanted ee (edsEnd mcu) edsDataStart).map fun found =>
      (found.1, edsDataStart :: found.2)
  else edsFindLoop wanted ee (edsEnd mcu) p

def edsFindNextBlock (ee : Eeprom mcu) (p : Nat) (type : UInt8) : Option (Nat × List Nat) :=
  edsFind (fun t => t == type) ee p

def edsFindNextBlockBetween (ee : Eeprom mcu) (p : Nat) (type1 type2 : UInt8) :
    Option (Nat × List Nat) :=
  edsFind (fun t => decide (t ≥ type1) && decide (t ≤ type2)) ee p

/-- Calling a search until it answers 0, as `EDS_foreach_block_between` does:
the pointers handed to the body and the headers read. -/
def edsIterateLoop (find : Nat → Option (Nat × List Nat)) :
    Nat → Nat → Option (List Nat × List Nat)
  | 0, _ => none
  | fuel + 1, it =>
      if it = 0 then some ([], [])
      else do
        let found ← find it
        let later ← edsIterateLoop find fuel found.1
        some (it :: later.1, found.2 ++ later.2)

def edsIterate (mcu : Mcu) (find : Nat → Option (Nat × List Nat)) :
    Option (List Nat × List Nat) := do
  let found ← find 0
  let later ← edsIterateLoop find (edsEnd mcu) found.1
  some (later.1, found.2 ++ later.2)

def edsForeachBlockBetween (ee : Eeprom mcu) (a b : UInt8) : Option (List Nat × List Nat) :=
  edsIterate mcu fun it => edsFindNextBlockBetween ee it a b

/-- The same loop around `eds_find_next_block` with one type. -/
def edsForeachBlock (ee : Eeprom mcu) (type : UInt8) : Option (List Nat × List Nat) :=
  edsIterate mcu fun it => edsFindNextBlock ee it type

/-! ## The frame handler -/

/-- The bytes of an EDS frame: the service, the command and four more. -/
abbrev edsBytes (d1 d2 d3 d4 d5 : UInt8) : Vector UInt8 8 :=
  #v[hcanSrvEds, d1, d2, d3, d4, d5, 0, 0]

/-- The header fields of every answer and the service number in byte 0. -/
def edsAnswer (self : UInt16) (frame : CanixFrame) (size : UInt8)
    (d1 d2 d3 d4 d5 : UInt8) : CanixFrame where
  src := self
  dst := frame.src
  proto := hcanProtoSfp
  size := size
  data := edsBytes d1 d2 d3 d4 d5

/-- `eds_can_callback`: the EEPROM behind the request and the answer frame.
`none` means that a loop of the source did not end within its fuel. -/
def edsCanCallback (self : UInt16) (ee : Eeprom mcu) (frame : CanixFrame) :
    Option (Eeprom mcu × Option CanixFrame) :=
  let h1 := framePointer frame.data[2] frame.data[3]
  let index := frame.data[4].toNat
  if frame.data[1] = hcanEdsGetNextBlock then
    let next := if h1 = 0 then edsDataStart else edsNextBlock ee h1
    -- the end test of this handler stands behind the step
    let h2 := if next ≥ edsEnd mcu then 0 else next
    some (ee, some (edsAnswer self frame 6 hcanEdsGetNextBlockReplay (pointerHi h2) (pointerLo h2)
      (edsBlockType ee h2) (edsBlockSize ee h2)))
  else if frame.data[1] = hcanEdsAllocateBlock then do
    let allocated ← edsAlloc ee frame.data[3]
    -- the type byte is written without a test of the pointer
    some (edsSetBlockType allocated.1 allocated.2 frame.data[2],
      some (edsAnswer self frame 4 hcanEdsAllocateBlockReplay
        (pointerHi allocated.2) (pointerLo allocated.2) 0 0))
  else if frame.data[1] = hcanEdsFreeBlock then do
    let freed ← edsFree ee h1
    some (freed.1, some (edsAnswer self frame 3 hcanEdsFreeBlockReplay freed.2 0 0 0))
  else if frame.data[1] = hcanEdsDefragment then do
    let merged ← edsDefragment ee
    some (merged, none)
  else if frame.data[1] = hcanEdsReadFromBlock then
    some (ee, some (edsAnswer self frame 6 hcanEdsReadFromBlockReplay
      (eepromReadByte ee (ptrAdd h1 index)) (eepromReadByte ee (ptrAdd h1 (index + 1)))
      (eepromReadByte ee (ptrAdd h1 (index + 2))) (eepromReadByte ee (ptrAdd h1 (index + 3)))))
  else if frame.data[1] = hcanEdsWriteToBlock then
    some (eepromWriteByte ee (ptrAdd h1 index) frame.data[5],
      some (edsAnswer self frame 2 hcanEdsWriteToBlockReplay 0 0 0 0))
  else if frame.data[1] = hcanEdsFormat then do
    let formated ← edsFormat ee
    some (formated, none)
  else some (ee, none)

end Hcan.Eds
