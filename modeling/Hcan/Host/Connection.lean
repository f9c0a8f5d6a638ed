import Hcan.Eds.Code
import Hcan.Host.Descriptions
import Hcan.Library.Program

/-!
# The EDS connection of the host

The blocks that the host shell knows of a board and its requests to the board.
The channel loses nothing: every frame of the host reaches the EDS handler of
the board, and the answer comes back before the host gives up waiting.  The
session also keeps the frames sent and the text printed.
-/

namespace Hcan.Host

open Hcan.Canix Hcan.Eds Hcan.Library

inductive HostError where
  | eds (message : Text)
  | transport (message : Text)
  deriving DecidableEq, Repr

structure BoardConnection where
  src : UInt16
  dst : UInt16

inductive Mode where
  | normal
  | edit
  | oap
  deriving DecidableEq, Repr

structure Context where
  prompt : Text
  stdPrompt : Text
  mode : Mode
  edsBlockAddress : UInt16
  deriving DecidableEq, Repr

def Context.reset (c : Context) : Context := { c with prompt := c.stdPrompt, mode := .normal }

structure EdsBlock where
  address : UInt16
  type : UInt8
  size : UInt8
  desc : EdsBlockDesc
  deriving DecidableEq, Repr

/-- A frame of the host with the EEPROM and the context it was sent in. -/
structure SentFrame (mcu : Mcu) where
  board : Eeprom mcu
  context : Context
  frame : CanixFrame

structure Session (mcu : Mcu) where
  board : Eeprom mcu
  context : Context
  blocks : List EdsBlock
  sent : List (SentFrame mcu)
  out : Text

/-- The functions of the host: they change the session, and some throw. -/
abbrev Shell (mcu : Mcu) (α : Type) := Program (Session mcu) HostError α

variable {mcu : Mcu}

def decimal (n : Nat) : Text := text n.repr

def print (message : Text) : Shell mcu PUnit :=
  modify fun s => { s with out := s.out ++ message }

def setBlocks (blocks : List EdsBlock) : Shell mcu PUnit :=
  modify fun s => { s with blocks := blocks }

def setContext (context : Context) : Shell mcu PUnit :=
  modify fun s => { s with context := context }

/-- The session behind a frame that leads the board to `last`. -/
def Session.sending (s : Session mcu) (frame : CanixFrame) (last : Eeprom mcu) : Session mcu :=
  { s with board := last, sent := s.sent ++ [⟨s.board, s.context, frame⟩] }

/-- Hands a frame to the board; the answer of the board, if there is one. -/
def send (frame : CanixFrame) : Shell mcu (Option CanixFrame) :=
  Program.step fun s => (edsCanCallback frame.dst s.board frame).map fun result =>
    (result.2, s.sending frame result.1)

/-- The tests that the `recv_…_REPLAY` functions share. -/
def recv (bcon : BoardConnection) (size command : UInt8) :
    Option CanixFrame → Shell mcu CanixFrame
  | none => throw (.transport (text "timeout while waiting for packet"))
  | some frame =>
      -- frames to other receivers are skipped until the time is over
      if frame.dst ≠ bcon.src then
        throw (.transport (text "timeout while waiting for packet"))
      else if bcon.dst ≠ 0 ∧ frame.src ≠ bcon.dst then
        throw (.transport (text "unexpected packet received: src is wrong"))
      else if frame.size ≠ size then
        throw (.transport (text "unexpected size in packet received"))
      else if frame.data[0] ≠ hcanSrvEds then
        throw (.transport (text "unexpected packet received: service id is wrong"))
      else if frame.data[1] ≠ command then
        throw (.transport (text "unexpected packet received: commmand id is wrong"))
      else pure frame

def hostFrame (bcon : BoardConnection) (size d1 d2 d3 d4 d5 : UInt8) : CanixFrame where
  src := bcon.src
  dst := bcon.dst
  proto := hcanProtoSfp
  size := size
  data := edsBytes d1 d2 d3 d4 d5

/-- A request to a block: the handle stands behind the command. -/
def handleFrame (bcon : BoardConnection) (size command : UInt8) (handle : UInt16)
    (d4 d5 : UInt8) : CanixFrame :=
  hostFrame bcon size command (pointerHi handle.toNat) (pointerLo handle.toNat) d4 d5

def getNextBlock (bcon : BoardConnection) (handle : UInt16) : Shell mcu CanixFrame := do
  recv bcon 6 hcanEdsGetNextBlockReplay
    (← send (handleFrame bcon 4 hcanEdsGetNextBlock handle 0 0))

def allocateBlock (bcon : BoardConnection) (type size : UInt8) : Shell mcu CanixFrame := do
  recv bcon 4 hcanEdsAllocateBlockReplay
    (← send (hostFrame bcon 4 hcanEdsAllocateBlock type size 0 0))

def freeBlock (bcon : BoardConnection) (handle : UInt16) : Shell mcu CanixFrame := do
  recv bcon 3 hcanEdsFreeBlockReplay (← send (handleFrame bcon 4 hcanEdsFreeBlock handle 0 0))

def readFromBlock (bcon : BoardConnection) (handle : UInt16) (index : UInt8) :
    Shell mcu CanixFrame := do
  recv bcon 6 hcanEdsReadFromBlockReplay
    (← send (handleFrame bcon 5 hcanEdsReadFromBlock handle index 0))

def writeToBlock (bcon : BoardConnection) (handle : UInt16) (index d0 : UInt8) :
    Shell mcu CanixFrame := do
  recv bcon 2 hcanEdsWriteToBlockReplay
    (← send (handleFrame bcon 6 hcanEdsWriteToBlock handle index d0))

/-- No answer belongs to DEFRAGMENT and FORMAT. -/
def sendDefragment (bcon : BoardConnection) : Shell mcu PUnit := do
  let _ ← send (hostFrame bcon 2 hcanEdsDefragment 0 0 0 0)

def sendFormat (bcon : BoardConnection) : Shell mcu PUnit := do
  let _ ← send (hostFrame bcon 2 hcanEdsFormat 0 0 0 0)

/-- The block pointer in an answer. -/
def answerHandle (frame : CanixFrame) : UInt16 :=
  UInt16.ofNat (framePointer frame.data[2] frame.data[3])

def getBlockDescByType (type : UInt8) : Shell mcu EdsBlockDesc :=
  match descByType type with
  | some desc => pure desc
  | none => throw (.eds (text "eds block desc of type id " ++ decimal type.toNat ++
      text " not found"))

def getBlockFieldDescByKey (desc : EdsBlockDesc) (key : Text) : Shell mcu EdsBlockFieldDesc :=
  match desc.fieldByKey key with
  | some field => pure field
  | none => throw (.eds (text "eds block field desc of '" ++ key ++ text "' not found"))

/-- The constructor of a block with `eds_block::init`. -/
def edsBlock (bcon : BoardConnection) (address : UInt16) : Shell mcu EdsBlock := do
  let header ← readFromBlock bcon address 0
  let desc ← getBlockDescByType header.data[2]
  pure ⟨address, header.data[2], header.data[3], desc⟩

def wrongDatatype (function key expected : Text) : HostError :=
  .eds (text "eds_block::" ++ function ++ text ": eds block field '" ++ key ++ text "' is " ++
    expected)

/-- The test with which the functions on number fields begin. -/
def requireNumber (function key : Text) (field : EdsBlockFieldDesc) : Shell mcu PUnit :=
  if field.datatype = .char then
    throw (wrongDatatype function key (text "type char[], not uint8_t"))
  else pure ⟨⟩

/-- The test with which the functions on string fields begin. -/
def requireChar (function key : Text) (field : EdsBlockFieldDesc) : Shell mcu PUnit :=
  if field.datatype ≠ .char then
    throw (wrongDatatype function key (text "not type char[]"))
  else pure ⟨⟩

def EdsBlock.field (bcon : BoardConnection) (block : EdsBlock) (key : Text) :
    Shell mcu UInt8 := do
  let field ← getBlockFieldDescByKey block.desc key
  requireNumber (text "field") key field
  let answer ← readFromBlock bcon block.address (UInt8.ofNat (field.pos + 2))
  pure answer.data[2]

def EdsBlock.uint16Field (bcon : BoardConnection) (block : EdsBlock) (key : Text) :
    Shell mcu UInt16 := do
  let field ← getBlockFieldDescByKey block.desc key
  requireNumber (text "field") key field
  let answer ← readFromBlock bcon block.address (UInt8.ofNat (field.pos + 2))
  pure (UInt16.ofNat (framePointer answer.data[3] answer.data[2]))

/-- Four characters a round; the first zero byte ends the string. -/
def strfieldLoop (bcon : BoardConnection) (address : UInt16) : Nat → Nat → Shell mcu Text
  | 0, _ => pure []
  | rounds + 1, p => do
      let answer ← readFromBlock bcon address (UInt8.ofNat p)
      let chars := [answer.data[2], answer.data[3], answer.data[4], answer.data[5]]
      if 0 ∈ chars then pure (chars.takeWhile (· ≠ 0))
      else do
        let rest ← strfieldLoop bcon address rounds (p + 4)
        pure (chars ++ rest)

def EdsBlock.strfield (bcon : BoardConnection) (block : EdsBlock) (key : Text) :
    Shell mcu Text := do
  let field ← getBlockFieldDescByKey block.desc key
  requireChar (text "strfield") key field
  strfieldLoop bcon block.address ((field.size + 3) / 4) (field.pos + 2)

/-- One WRITE request a byte, from an index on. -/
def writeBytes (bcon : BoardConnection) (address : UInt16) : Nat → List UInt8 → Shell mcu PUnit
  | _, [] => pure ⟨⟩
  | index, byte :: bytes => do
      let _ ← writeToBlock bcon address (UInt8.ofNat index) byte
      writeBytes bcon address (index + 1) bytes

def EdsBlock.setFieldUint8 (bcon : BoardConnection) (block : EdsBlock) (key : Text)
    (v : UInt8) : Shell mcu PUnit := do
  let field ← getBlockFieldDescByKey block.desc key
  requireNumber (text "set_field") key field
  writeBytes bcon block.address (field.pos + 2) [v]

def EdsBlock.setFieldUint16 (bcon : BoardConnection) (block : EdsBlock) (key : Text)
    (v : UInt16) : Shell mcu PUnit := do
  let field ← getBlockFieldDescByKey block.desc key
  requireNumber (text "set_field") key field
  writeBytes bcon block.address (field.pos + 2) [pointerLo v.toNat, pointerHi v.toNat]

/-- The characters of a string field, cut to its size, with the closing zero byte. -/
def strBytes (field : EdsBlockFieldDesc) (v : Text) : List UInt8 :=
  (if v.length + 1 > field.size then v.take (field.size - 1) else v) ++ [0]

def EdsBlock.setFieldStr (bcon : BoardConnection) (block : EdsBlock) (key v : Text) :
    Shell mcu PUnit := do
  let field ← getBlockFieldDescByKey block.desc key
  requireChar (text "set_field") key field
  writeBytes bcon block.address (field.pos + 2) (strBytes field v)

/-! ## `eds_connection` -/

/-- `m_blocks.push_back(eds_block(*this, address))`. -/
def pushBlock (bcon : BoardConnection) (address : UInt16) : Shell mcu PUnit := do
  let block ← edsBlock bcon address
  modify fun s => { s with blocks := s.blocks ++ [block] }

def updateLoop (bcon : BoardConnection) : Nat → UInt16 → Shell mcu PUnit
  | 0, _ => Program.step fun _ => none
  | fuel + 1, it => do
      let answer ← getNextBlock bcon it
      let it := answerHandle answer
      if it ≠ 0 ∧ answer.data[4] ≠ 0 then pushBlock bcon it
      if it ≠ 0 then updateLoop bcon fuel it

def update (bcon : BoardConnection) : Shell mcu PUnit := do
  setBlocks []
  updateLoop bcon (edsEnd mcu) 0

def noBlock (address : UInt16) : HostError :=
  .eds (text "no eds block with address = " ++ decimal address.toNat ++ text " found")

def blockByAddress (address : UInt16) : Shell mcu EdsBlock := do
  let s ← get
  match s.blocks.find? fun block => block.address == address with
  | some block => pure block
  | none => throw (noBlock address)

def createBlock (bcon : BoardConnection) (typeName : Text) : Shell mcu EdsBlock :=
  match descByName typeName with
  | some desc => do
      let answer ← allocateBlock bcon desc.type (UInt8.ofNat desc.size)
      -- the handle is taken as it is, also the 0 of a failure
      let address := answerHandle answer
      pushBlock bcon address
      blockByAddress address
  | none => throw (.eds (text "no eds block type with name '" ++ typeName ++ text "' found"))

/-- The end of `vector::erase`: every later block is assigned to its predecessor,
and the assignment reads the header again. -/
def eraseLoop (bcon : BoardConnection) (front : List EdsBlock) : List EdsBlock → Shell mcu PUnit
  | [] => setBlocks front
  | [_] => setBlocks front
  | block :: next :: rest => do
      setBlocks (front ++ { block with address := next.address } :: next :: rest)
      let header ← readFromBlock bcon next.address 0
      let moved : EdsBlock := ⟨next.address, header.data[2], header.data[3], block.desc⟩
      setBlocks (front ++ moved :: next :: rest)
      let desc ← getBlockDescByType header.data[2]
      setBlocks (front ++ { moved with desc := desc } :: next :: rest)
      eraseLoop bcon (front ++ [{ moved with desc := desc }]) (next :: rest)

def deleteBlock (bcon : BoardConnection) (address : UInt16) : Shell mcu PUnit := do
  let s ← get
  match s.blocks.findIdx? fun block => block.address == address with
  | some i => do
      let answer ← freeBlock bcon address
      if answer.data[2] = 0 then eraseLoop bcon (s.blocks.take i) (s.blocks.drop i)
      else throw (.eds (text "error while deleting eds block at address " ++
        decimal address.toNat))
  | none => throw (noBlock address)

def defragment (bcon : BoardConnection) : Shell mcu PUnit := do
  sendDefragment bcon
  update bcon

end Hcan.Host
