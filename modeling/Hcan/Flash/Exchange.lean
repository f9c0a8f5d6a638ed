import Hcan.Flash.Driver

/-!
# Frames between the host and the boot loader

What the boot loader does with each frame of the host, and what the host receives
from a channel.
-/

namespace Hcan.Flash

open Hcan.Canix Hcan.Host Hcan.Library Hcan.Library.Program

variable {c : Controller} {bcon : BoardConnection}

/-- The boot loader runs and has the address that the host talks to, behind a reset too. -/
structure Listening (bcon : BoardConnection) (b : BootLoader c) : Prop where
  inApp : b.inApp = false
  selfAddr : b.selfAddr = bcon.dst
  home : b.eepromReadWord eeprSelfAddr &&& 0x3ff = bcon.dst

/-- An answer as the host wants it. -/
structure IsReply (bcon : BoardConnection) (size command : UInt8) (frame : CanixFrame) :
    Prop where
  dst : frame.dst = bcon.src
  src : frame.src = bcon.dst
  size : frame.size = size
  service : frame.data[0] = hcanSrvHms
  command : frame.data[1] = command

/-- The state behind reading a frame into the array. -/
def BootLoader.read (b : BootLoader c) (frame : CanixFrame) : BootLoader c :=
  { b with data := overlay (fun i => frame.data.toList.getD i 0) frame.size.toNat b.data }

theorem read_data (b : BootLoader c) (frame : CanixFrame) {k : Nat} (inside : k < 8)
    (copied : k < frame.size.toNat) : (b.read frame).data[k] = frame.data[k] := by
  have byte : (b.read frame).data.get ⟨k, inside⟩ = frame.data.toList.getD k 0 :=
    overlay_getElem_of_lt (fun i => frame.data.toList.getD i 0) b.data inside copied
  rw [byte_eq inside, byte]
  rfl

theorem handle_inApp {b : BootLoader c} (inApp : b.inApp = true) (frame : CanixFrame) :
    b.handle frame = some (b, none) := by
  rw [BootLoader.handle, if_pos inApp]

theorem handle_eq {b : BootLoader c} (inApp : b.inApp = false) {frame : CanixFrame}
    (fits : frame.size.toNat ≤ 8) :
    b.handle frame =
      if b.Accepts frame.dst ∧ 2 ≤ frame.size ∧ (b.read frame).data[0] = hcanSrvHms then
        (b.read frame).handleHms frame
      else some (b.read frame, none) := by
  rw [BootLoader.handle, if_neg (by rw [inApp]; exact Bool.false_ne_true),
    copyInto_of_le _ b.data fits, Option.bind_eq_bind, Option.bind_some]
  rfl

/-- A boot loader that listens handles every frame of the host. -/
theorem handle_listening {b : BootLoader c} (listening : Listening bcon b) {frame : CanixFrame}
    (dst : frame.dst = bcon.dst) (service : frame.data[0] = hcanSrvHms) (least : 2 ≤ frame.size)
    (most : frame.size ≤ 8) : b.handle frame = (b.read frame).handleHms frame := by
  have two : 2 ≤ frame.size.toNat := least
  rw [handle_eq listening.inApp most, if_pos]
  refine ⟨.inl (dst.trans listening.selfAddr.symm), least, ?_⟩
  rw [read_data b frame (by decide) (Nat.lt_of_lt_of_le (by decide) two), service]

/-- A frame of the host is handled, or it changes nothing but the array. -/
theorem handle_cases (b : BootLoader c) {frame : CanixFrame} (fits : frame.size.toNat ≤ 8) :
    (∃ data, b.handle frame = some ({ b with data := data }, none)) ∨
      b.handle frame = (b.read frame).handleHms frame := by
  by_cases inApp : b.inApp = true
  · exact .inl ⟨b.data, handle_inApp inApp frame⟩
  · rw [handle_eq (by simpa using inApp) fits]
    split
    · exact .inr rfl
    · exact .inl ⟨_, rfl⟩

section Commands

variable {b : BootLoader c} (request : CanixFrame)

theorem handleHms_deviceState (command : b.data[1] = hcanHmsDeviceStateRequest) :
    b.handleHms request = some (b.reply request 3
      ((b.data.setIfInBounds 1 hcanHmsDeviceStateReplay).setIfInBounds 2
        (if b.bootCounter = 0 then 1 else 0))) := by
  rw [BootLoader.handleHms, command, if_neg (by decide), if_pos rfl]

theorem handleHms_reset (command : b.data[1] = hcanHmsDeviceReset) :
    b.handleHms request = some (b.restart, none) := by
  rw [BootLoader.handleHms, command, if_neg (by decide), if_neg (by decide), if_pos rfl]

theorem handleHms_bootStop (command : b.data[1] = hcanHmsDeviceBootStop) :
    b.handleHms request = some (({ b with bootCounter := 0 } : BootLoader c).reply request 2
      (b.data.setIfInBounds 1 hcanHmsDeviceBootStopAck)) := by
  rw [BootLoader.handleHms, command, if_neg (by decide), if_neg (by decide), if_neg (by decide),
    if_pos rfl]

theorem handleHms_loadApp (command : b.data[1] = hcanHmsDeviceLoadApp) :
    b.handleHms request = some ({ b with inApp := true }, none) := by
  rw [BootLoader.handleHms, command, if_neg (by decide), if_neg (by decide), if_neg (by decide),
    if_neg (by decide), if_pos rfl]

/-- The counter behind a FILL frame. -/
def counted (b : BootLoader c) (index : UInt8) : UInt16 :=
  (if index &&& 0x0f = 0 then 0 else b.lineCounter) + 4

theorem handleHms_fill (command : b.data[1] = hcanHmsFlashBufferFill) {index : UInt8}
    (place : b.data[2] = index) {buffer : Vector UInt8 c.pageSize}
    (stored : BootLoader.fillBuffer b.flashBuffer b.data = some buffer) :
    b.handleHms request =
      if 16 ≤ counted b index then
        some (({ b with flashBuffer := buffer, lineCounter := counted b index } :
          BootLoader c).reply request 2 (b.data.setIfInBounds 1 hcanHmsFlashBufferFillAck))
      else some ({ b with flashBuffer := buffer, lineCounter := counted b index }, none) := by
  rw [BootLoader.handleHms, command, if_neg (by decide), if_neg (by decide), if_neg (by decide),
    if_neg (by decide), if_neg (by decide), if_neg (by decide), if_pos rfl, stored, place]
  rfl

theorem handleHms_write (command : b.data[1] = hcanHmsFlashBufferWrite) {lsb msb : UInt8}
    (low : b.data[2] = lsb) (high : b.data[3] = msb) :
    b.handleHms request =
      if c.bootloaderAddress ≤ framePointer msb lsb % c.flashSize then none
      else some (({ b with
        flash := BootLoader.writePage b.flash b.flashBuffer (framePointer msb lsb) } :
          BootLoader c).reply request 2 (b.data.setIfInBounds 1 hcanHmsFlashBufferWriteAck)) := by
  rw [BootLoader.handleHms, command, if_neg (by decide), if_neg (by decide), if_neg (by decide),
    if_neg (by decide), if_neg (by decide), if_neg (by decide), if_neg (by decide), if_pos rfl, low,
    high]

theorem handleHms_eepromWrite (command : b.data[1] = hcanHmsInternalEepromWrite)
    {lsb msb value : UInt8} (low : b.data[2] = lsb) (high : b.data[3] = msb)
    (byte : b.data[4] = value) :
    b.handleHms request = some (({ b with
      eeprom := Function.update b.eeprom (framePointer msb lsb) value } : BootLoader c).reply
        request 2 (b.data.setIfInBounds 1 hcanHmsInternalEepromWriteAck)) := by
  rw [BootLoader.handleHms, command, if_neg (by decide), if_neg (by decide), if_neg (by decide),
    if_neg (by decide), if_neg (by decide), if_neg (by decide), if_neg (by decide),
    if_neg (by decide), if_pos rfl, low, high, byte]

theorem handleHms_crc16Query (built : c.hcanbl32) (command : b.data[1] = hcanHmsFlashCrc16Query)
    {hi lo : UInt8}
    (high : b.data[2] = hi) (low : b.data[3] = lo) {sum : UInt16}
    (total : calculateCrc16OverFlash b.flash ((hi.toUInt16 <<< 8) ||| lo.toUInt16) = sum) :
    b.handleHms request = some (b.reply request 4
      (((b.data.setIfInBounds 1 hcanHmsFlashCrc16Replay).setIfInBounds 2
        (sum >>> 8).toUInt8).setIfInBounds 3 (sum &&& 0xff).toUInt8)) := by
  subst total
  rw [BootLoader.handleHms, command, if_neg (by decide), if_neg (by decide), if_neg (by decide),
    if_neg (by decide), if_neg (by decide), if_neg (by decide), if_neg (by decide),
    if_neg (by decide), if_neg (by decide), if_neg (by decide), if_pos ⟨rfl, built⟩, low, high]

/-- The boot loader of `hcanbl8` does not know the query. -/
theorem handleHms_unknownQuery (built : ¬ c.hcanbl32)
    (command : b.data[1] = hcanHmsFlashCrc16Query) : b.handleHms request = some (b, none) := by
  rw [BootLoader.handleHms, command, if_neg (by decide), if_neg (by decide), if_neg (by decide),
    if_neg (by decide), if_neg (by decide), if_neg (by decide), if_neg (by decide),
    if_neg (by decide), if_neg (by decide), if_neg (by decide), if_neg fun known => built known.2]

end Commands

theorem reply_data {b next : BootLoader c} {request answer : CanixFrame} {size : UInt8}
    {data : Vector UInt8 8} (sent : some (b.reply request size data) = some (next, some answer)) :
    answer.data = data := by
  cases sent
  rfl

/-- Every answer carries the command of its request plus one. -/
theorem handleHms_reply {b next : BootLoader c} {request answer : CanixFrame}
    (handled : b.handleHms request = some (next, some answer)) :
    answer.data[1] = b.data[1] + 1 := by
  have whole := handled
  rw [BootLoader.handleHms] at handled
  by_cases ping : b.data[1] = hcanHmsPingRequest
  · rw [if_pos ping] at handled
    rw [reply_data handled, byte_set_self (by decide), ping]
    rfl
  rw [if_neg ping] at handled
  by_cases state : b.data[1] = hcanHmsDeviceStateRequest
  · rw [if_pos state] at handled
    rw [reply_data handled, byte_set_ne (by decide) (by decide),
      byte_set_self (by decide), state]
    rfl
  rw [if_neg state] at handled
  by_cases reset : b.data[1] = hcanHmsDeviceReset
  · rw [if_pos reset] at handled
    cases handled
  rw [if_neg reset] at handled
  by_cases stop : b.data[1] = hcanHmsDeviceBootStop
  · rw [if_pos stop] at handled
    rw [reply_data handled, byte_set_self (by decide), stop]
    rfl
  rw [if_neg stop] at handled
  by_cases load : b.data[1] = hcanHmsDeviceLoadApp
  · rw [if_pos load] at handled
    cases handled
  rw [if_neg load] at handled
  by_cases type : b.data[1] = hcanHmsDeviceTypeRequest
  · rw [if_pos type] at handled
    rw [reply_data handled, byte_set_ne (by decide) (by decide),
      byte_set_ne (by decide) (by decide), byte_set_self (by decide), type]
    rfl
  rw [if_neg type] at handled
  by_cases fill : b.data[1] = hcanHmsFlashBufferFill
  · rw [if_pos fill] at handled
    cases stored : BootLoader.fillBuffer b.flashBuffer b.data with
    | none =>
        rw [stored] at handled
        cases handled
    | some buffer =>
        rw [handleHms_fill request fill rfl stored] at whole
        split at whole
        · rw [reply_data whole, byte_set_self (by decide), fill]
          rfl
        · cases whole
  rw [if_neg fill] at handled
  by_cases write : b.data[1] = hcanHmsFlashBufferWrite
  · rw [handleHms_write request write rfl rfl] at whole
    split at whole
    · cases whole
    · rw [reply_data whole, byte_set_self (by decide), write]
      rfl
  rw [if_neg write] at handled
  by_cases eepromWrite : b.data[1] = hcanHmsInternalEepromWrite
  · rw [if_pos eepromWrite] at handled
    rw [reply_data handled, byte_set_self (by decide), eepromWrite]
    rfl
  rw [if_neg eepromWrite] at handled
  by_cases eepromRead : b.data[1] = hcanHmsInternalEepromReadRequest
  · rw [if_pos eepromRead] at handled
    rw [reply_data handled, byte_set_ne (by decide) (by decide),
      byte_set_self (by decide),
      eepromRead]
    rfl
  rw [if_neg eepromRead] at handled
  by_cases query : b.data[1] = hcanHmsFlashCrc16Query ∧ c.hcanbl32
  · rw [if_pos query] at handled
    rw [reply_data handled, byte_set_ne (by decide) (by decide),
      byte_set_ne (by decide) (by decide), byte_set_self (by decide), query.1]
    rfl
  rw [if_neg query] at handled
  cases handled

/-- A frame with an answer is a command. -/
theorem handle_command {b next : BootLoader c} {frame answer : CanixFrame}
    (most : frame.size.toNat ≤ 8) (handled : b.handle frame = some (next, some answer)) :
    b.handle frame = (b.read frame).handleHms frame := by
  rcases handle_cases b most with ⟨data, silent⟩ | command
  · rw [silent, Option.some.injEq, Prod.mk.injEq] at handled
    cases handled.2
  · exact command

/-- So does every answer to a frame. -/
theorem handle_reply {b next : BootLoader c} {frame answer : CanixFrame}
    (least : 2 ≤ frame.size.toNat) (most : frame.size.toNat ≤ 8)
    (handled : b.handle frame = some (next, some answer)) :
    answer.data[1] = frame.data[1] + 1 := by
  rw [handle_command most handled] at handled
  rw [handleHms_reply handled, read_data b frame (by decide) least]

/-! ## Answers -/

section Answers

variable {b : BootLoader c} {lsb msb value command : UInt8}

theorem answer_write (handled : b.handle (writeFrame bcon lsb msb) =
      (b.read (writeFrame bcon lsb msb)).handleHms (writeFrame bcon lsb msb)) :
    ∃ data : Vector UInt8 8, b.handle (writeFrame bcon lsb msb) =
        (if c.bootloaderAddress ≤ framePointer msb lsb % c.flashSize then none
        else some ({ b with
          flash := BootLoader.writePage b.flash b.flashBuffer (framePointer msb lsb)
          data := data }, some ⟨b.selfAddr, bcon.src, hcanProtoSfp, 2, data⟩)) ∧
      data[0] = hcanSrvHms ∧ data[1] = hcanHmsFlashBufferWriteAck := by
  have bytes (k : Nat) (inside : k < 8) (copied : k < 4) :=
    read_data b (writeFrame bcon lsb msb) inside copied
  have service : _ = hcanSrvHms := bytes 0 (by decide) (by decide)
  have isWrite : _ = hcanHmsFlashBufferWrite := bytes 1 (by decide) (by decide)
  have low : _ = lsb := bytes 2 (by decide) (by decide)
  have high : _ = msb := bytes 3 (by decide) (by decide)
  rw [handled, handleHms_write _ isWrite low high]
  refine ⟨_, rfl, ?_, byte_set_self (by decide)⟩
  rw [byte_set_ne (by decide) (by decide), service]

theorem answer_eeprom (handled : b.handle (eepromFrame bcon lsb msb value) =
      (b.read (eepromFrame bcon lsb msb value)).handleHms (eepromFrame bcon lsb msb value)) :
    ∃ data : Vector UInt8 8, b.handle (eepromFrame bcon lsb msb value) =
        some ({ b with
          eeprom := Function.update b.eeprom (framePointer msb lsb) value
          data := data }, some ⟨b.selfAddr, bcon.src, hcanProtoSfp, 2, data⟩) ∧
      data[0] = hcanSrvHms ∧ data[1] = hcanHmsInternalEepromWriteAck := by
  have bytes (k : Nat) (inside : k < 8) (copied : k < 5) :=
    read_data b (eepromFrame bcon lsb msb value) inside copied
  have service : _ = hcanSrvHms := bytes 0 (by decide) (by decide)
  have isWrite : _ = hcanHmsInternalEepromWrite := bytes 1 (by decide) (by decide)
  have low : _ = lsb := bytes 2 (by decide) (by decide)
  have high : _ = msb := bytes 3 (by decide) (by decide)
  have byte : _ = value := bytes 4 (by decide) (by decide)
  rw [handled, handleHms_eepromWrite _ isWrite low high byte]
  refine ⟨_, rfl, ?_, byte_set_self (by decide)⟩
  rw [byte_set_ne (by decide) (by decide), service]

theorem answer_query (built : c.hcanbl32) {hi lo : UInt8}
    (handled : b.handle (queryFrame bcon hi lo) =
      (b.read (queryFrame bcon hi lo)).handleHms (queryFrame bcon hi lo)) {sum : UInt16}
    (total : calculateCrc16OverFlash b.flash ((hi.toUInt16 <<< 8) ||| lo.toUInt16) = sum) :
    ∃ data : Vector UInt8 8, b.handle (queryFrame bcon hi lo) =
        some ({ b with data := data }, some ⟨b.selfAddr, bcon.src, hcanProtoSfp, 4, data⟩) ∧
      data[0] = hcanSrvHms ∧ data[1] = hcanHmsFlashCrc16Replay ∧
      data[2] = (sum >>> 8).toUInt8 ∧ data[3] = (sum &&& 0xff).toUInt8 := by
  have bytes (k : Nat) (inside : k < 8) (copied : k < 4) :=
    read_data b (queryFrame bcon hi lo) inside copied
  have service : _ = hcanSrvHms := bytes 0 (by decide) (by decide)
  have isQuery : _ = hcanHmsFlashCrc16Query := bytes 1 (by decide) (by decide)
  have high : _ = hi := bytes 2 (by decide) (by decide)
  have low : _ = lo := bytes 3 (by decide) (by decide)
  rw [handled, handleHms_crc16Query _ built isQuery high low total]
  refine ⟨_, rfl, ?_, ?_, ?_, byte_set_self (by decide)⟩
  · rw [byte_set_ne (by decide) (by decide), byte_set_ne (by decide) (by decide),
      byte_set_ne (by decide) (by decide), service]
  · rw [byte_set_ne (by decide) (by decide), byte_set_ne (by decide) (by decide)]
    exact byte_set_self (by decide)
  · rw [byte_set_ne (by decide) (by decide)]
    exact byte_set_self (by decide)

/-- The query of the checksum stays without an answer. -/
theorem unanswered_query (built : ¬ c.hcanbl32) {hi lo : UInt8}
    (handled : b.handle (queryFrame bcon hi lo) =
      (b.read (queryFrame bcon hi lo)).handleHms (queryFrame bcon hi lo)) :
    b.handle (queryFrame bcon hi lo) = some (b.read (queryFrame bcon hi lo), none) := by
  have isQuery : (b.read (queryFrame bcon hi lo)).data[1] = hcanHmsFlashCrc16Query :=
    read_data b (queryFrame bcon hi lo) (by decide) (by decide : 1 < 4)
  rw [handled, handleHms_unknownQuery _ built isQuery]

theorem answer_bootStop (handled : b.handle (commandFrame bcon hcanHmsDeviceBootStop) =
      (b.read (commandFrame bcon hcanHmsDeviceBootStop)).handleHms
        (commandFrame bcon hcanHmsDeviceBootStop)) :
    ∃ data : Vector UInt8 8, b.handle (commandFrame bcon hcanHmsDeviceBootStop) =
        some ({ b with
          bootCounter := 0
          data := data }, some ⟨b.selfAddr, bcon.src, hcanProtoSfp, 2, data⟩) ∧
      data[0] = hcanSrvHms ∧ data[1] = hcanHmsDeviceBootStopAck := by
  have bytes (k : Nat) (inside : k < 8) (copied : k < 2) :=
    read_data b (commandFrame bcon hcanHmsDeviceBootStop) inside copied
  have service : _ = hcanSrvHms := bytes 0 (by decide) (by decide)
  have isStop : _ = hcanHmsDeviceBootStop := bytes 1 (by decide) (by decide)
  rw [handled, handleHms_bootStop _ isStop]
  refine ⟨_, rfl, ?_, byte_set_self (by decide)⟩
  rw [byte_set_ne (by decide) (by decide), service]

theorem answer_deviceState (handled : b.handle (commandFrame bcon hcanHmsDeviceStateRequest) =
      (b.read (commandFrame bcon hcanHmsDeviceStateRequest)).handleHms
        (commandFrame bcon hcanHmsDeviceStateRequest)) :
    ∃ data : Vector UInt8 8, b.handle (commandFrame bcon hcanHmsDeviceStateRequest) =
        some ({ b with data := data }, some ⟨b.selfAddr, bcon.src, hcanProtoSfp, 3, data⟩) ∧
      data[0] = hcanSrvHms ∧ data[1] = hcanHmsDeviceStateReplay ∧
      data[2] = if b.bootCounter = 0 then 1 else 0 := by
  have bytes (k : Nat) (inside : k < 8) (copied : k < 2) :=
    read_data b (commandFrame bcon hcanHmsDeviceStateRequest) inside copied
  have service : _ = hcanSrvHms := bytes 0 (by decide) (by decide)
  have isState : _ = hcanHmsDeviceStateRequest := bytes 1 (by decide) (by decide)
  rw [handled, handleHms_deviceState _ isState]
  refine ⟨_, rfl, ?_, ?_, byte_set_self (by decide)⟩
  · rw [byte_set_ne (by decide) (by decide),
      byte_set_ne (by decide) (by decide), service]
  · rw [byte_set_ne (by decide) (by decide)]
    exact byte_set_self (by decide)

/-- The buffer behind four bytes at an index. -/
def placed (buffer : Vector UInt8 c.pageSize) {index : Nat} (room : index + 3 < c.pageSize)
    (d0 d1 d2 d3 : UInt8) : Vector UInt8 c.pageSize :=
  (((buffer.set index d0).set (index + 1) d1).set (index + 2) d2).set (index + 3) d3

/-- The boot loader behind a FILL frame. -/
def BootLoader.filled (b : BootLoader c) (index : UInt8) (room : index.toNat + 3 < c.pageSize)
    (d0 d1 d2 d3 : UInt8) (data : Vector UInt8 8) : BootLoader c :=
  { b with
    flashBuffer := placed b.flashBuffer room d0 d1 d2 d3
    lineCounter := counted b index
    data := data }

theorem answer_fill {index : UInt8} (room : index.toNat + 3 < c.pageSize) (d0 d1 d2 d3 : UInt8)
    (handled : b.handle (fillFrame bcon index d0 d1 d2 d3) =
      (b.read (fillFrame bcon index d0 d1 d2 d3)).handleHms (fillFrame bcon index d0 d1 d2 d3)) :
    ∃ data : Vector UInt8 8, b.handle (fillFrame bcon index d0 d1 d2 d3) =
        some (b.filled index room d0 d1 d2 d3 data,
          if 16 ≤ counted b index then some ⟨b.selfAddr, bcon.src, hcanProtoSfp, 2, data⟩
          else none) ∧
      (16 ≤ counted b index → data[0] = hcanSrvHms ∧ data[1] = hcanHmsFlashBufferFillAck) := by
  have src : (fillFrame bcon index d0 d1 d2 d3).src = bcon.src := rfl
  have bytes (k : Nat) (inside : k < 8) (copied : k < 7) :=
    read_data b (fillFrame bcon index d0 d1 d2 d3) inside copied
  have service : _ = hcanSrvHms := bytes 0 (by decide) (by decide)
  have command : _ = hcanHmsFlashBufferFill := bytes 1 (by decide) (by decide)
  have place : _ = index := bytes 2 (by decide) (by decide)
  have third : _ = d0 := bytes 3 (by decide) (by decide)
  have fourth : _ = d1 := bytes 4 (by decide) (by decide)
  have fifth : _ = d2 := bytes 5 (by decide) (by decide)
  have sixth : _ = d3 := bytes 6 (by decide) (by decide)
  clear bytes
  generalize fillFrame bcon index d0 d1 d2 d3 = frame at *
  have buffer : BootLoader.fillBuffer (b.read frame).flashBuffer (b.read frame).data =
      some (placed b.flashBuffer room d0 d1 d2 d3) := by
    unfold BootLoader.fillBuffer
    simp only [place, third, fourth, fifth, sixth]
    rw [dif_pos room]
    rfl
  have counter : counted (b.read frame) index = counted b index := rfl
  rw [handled, handleHms_fill frame command place buffer, counter]
  by_cases due : 16 ≤ counted b index
  · refine ⟨(b.read frame).data.setIfInBounds 1 hcanHmsFlashBufferFillAck, ?_,
      fun _ => ⟨?_, byte_set_self (by decide)⟩⟩
    · rw [if_pos due, if_pos due, ← src]
      rfl
    · rw [byte_set_ne (by decide) (by decide), service]
  · refine ⟨(b.read frame).data, ?_, fun isDue => absurd isDue due⟩
    rw [if_neg due, if_neg due]
    rfl

end Answers

/-! ## The channel -/

section Note

variable (n : Net c) (frame : CanixFrame) (lost : Bool)

@[simp] theorem note_board : (n.note frame lost).board = n.board := by
  unfold Net.note
  repeat' split
  all_goals rfl

@[simp] theorem note_inbox : (n.note frame lost).inbox = n.inbox := by
  unfold Net.note
  repeat' split
  all_goals rfl

@[simp] theorem note_acked : (n.note frame lost).acked = n.acked := by
  unfold Net.note
  repeat' split
  all_goals rfl

@[simp] theorem note_sent : (n.note frame lost).sent = n.sent + 1 := by
  unfold Net.note
  repeat' split
  all_goals rfl

variable {frame}

theorem note_other (other : frame.data[1] ≠ hcanHmsFlashBufferFill) :
    n.note frame lost = { n with sent := n.sent + 1 } := if_neg other

theorem note_start (fill : frame.data[1] = hcanHmsFlashBufferFill)
    (start : frame.data[2] &&& 0x0f = 0) :
    n.note frame lost = { n with sent := n.sent + 1, begun := !lost } := by
  rw [Net.note, if_pos fill, if_pos start]

theorem note_inner (fill : frame.data[1] = hcanHmsFlashBufferFill)
    (inner : ¬ frame.data[2] &&& 0x0f = 0) :
    n.note frame lost =
      if lost = false ∧ 16 ≤ n.board.lineCounter + 4 ∧ n.begun = false then
        { n with sent := n.sent + 1, premature := true }
      else { n with sent := n.sent + 1 } := by
  rw [Net.note, if_pos fill, if_neg inner]

end Note

section Channel

variable {faults : Faults} {n : Net c} {frame : CanixFrame}

theorem afterSend_lost (lost : (faults n.sent).requestLost = true) :
    n.afterSend faults frame = some (n.note frame true) := by
  simp only [Net.afterSend, lost, if_true]

/-- A frame that arrives. -/
theorem afterSend_arrived (arrives : (faults n.sent).requestLost = false)
    {next : BootLoader c} {reply : Option CanixFrame}
    (handled : n.board.handle frame = some (next, reply)) :
    n.afterSend faults frame = some { n.note frame false with
      board := (faults n.sent).spoil frame next
      inbox := n.inbox ++ if (faults n.sent).replyLost then [] else reply.toList } := by
  simp only [Net.afterSend, arrives, Bool.false_eq_true, if_false, handled, Option.map_some]

/-- A frame is lost, or the board handles it. -/
theorem afterSend_cases {next : Net c} (result : n.afterSend faults frame = some next) :
    ((faults n.sent).requestLost = true ∧ next = n.note frame true) ∨
      ∃ board reply, n.board.handle frame = some (board, reply) ∧
        next = { n.note frame false with
          board := (faults n.sent).spoil frame board
          inbox := n.inbox ++ if (faults n.sent).replyLost then [] else reply.toList } := by
  cases lost : (faults n.sent).requestLost with
  | true =>
      rw [afterSend_lost lost, Option.some.injEq] at result
      exact .inl ⟨rfl, result.symm⟩
  | false =>
      cases handled : n.board.handle frame with
      | none =>
          simp only [Net.afterSend, lost, handled, Bool.false_eq_true, if_false,
            Option.map_none] at result
          cases result
      | some pair =>
          obtain ⟨board, reply⟩ := pair
          rw [afterSend_arrived lost handled, Option.some.injEq] at result
          exact .inr ⟨board, reply, rfl, result.symm⟩

theorem meets_send {after : PUnit → Net c → Prop} {failed : FlashError → Net c → Prop}
    (holds : ∀ next, n.afterSend faults frame = some next → after ⟨⟩ next) :
    Meets (send faults frame) n after failed := by
  refine meets_step fun _ next result => ?_
  obtain ⟨last, sent, same⟩ := Option.map_eq_some_iff.mp result
  cases same
  exact holds _ sent

theorem send_run {next : Net c} (sent : n.afterSend faults frame = some next) :
    send faults frame n = some (.ok ⟨⟩, next) := by
  have run : send faults frame n = ((n.afterSend faults frame).map fun next =>
      ((⟨⟩ : PUnit), next)).map fun result => (.ok result.1, result.2) := rfl
  rw [run, sent]
  rfl

/-- A frame, the answer to it and what follows. -/
theorem exchange_bind {α : Type} {size command : UInt8} {rest : CanixFrame → Flasher c α}
    {received : CanixFrame → Net c → Prop} {after : α → Net c → Prop}
    {failed : FlashError → Net c → Prop}
    (exchange : Meets (send faults frame) n
      (fun _ middle => Meets (recv bcon size command) middle received failed) failed)
    (continues : ∀ answer last, received answer last → Meets (rest answer) last after failed) :
    Meets (send faults frame >>= fun _ => recv bcon size command >>= rest) n after failed :=
  exchange.bind fun _ _ behind => behind.bind continues

theorem nextFor_some {dst : UInt16} {counter : Nat} {inbox rest : List CanixFrame}
    (found : nextFor dst counter inbox = (some frame, rest)) :
    ∃ front, inbox = front ++ frame :: rest := by
  induction counter generalizing inbox with
  | zero => cases found
  | succ counter ih =>
      cases inbox with
      | nil => cases found
      | cons head inbox =>
          rw [nextFor] at found
          split at found
          · cases found
            exact ⟨[], rfl⟩
          · obtain ⟨front, same⟩ := ih found
            exact ⟨head :: front, by rw [same, List.cons_append]⟩

theorem nextFor_rest (dst : UInt16) (counter : Nat) (inbox : List CanixFrame) :
    ∀ later ∈ (nextFor dst counter inbox).2, later ∈ inbox := by
  induction counter generalizing inbox with
  | zero => exact fun _ member => member
  | succ counter ih =>
      cases inbox with
      | nil => exact fun _ member => member
      | cons head inbox =>
          rw [nextFor]
          split
          · exact fun _ member => List.mem_cons_of_mem _ member
          · exact fun later member => List.mem_cons_of_mem _ (ih inbox later member)

theorem step_run {α : Type} (next : Net c → Option (α × Net c)) {value : α} {last : Net c}
    (result : next n = some (value, last)) :
    (Program.step next : Flasher c α) n = some (.ok value, last) := by
  have run : (Program.step next : Flasher c α) n =
      (next n).map fun result => (.ok result.1, result.2) := rfl
  rw [run, result]
  rfl

theorem recvFrame_some {dst : UInt16} {rest : List CanixFrame}
    (found : nextFor dst safetyCounter n.inbox = (some frame, rest)) :
    recvFrame dst n = some (.ok frame, { n with inbox := rest }) := by
  have taken : n.takeFor dst = (some frame, { n with inbox := rest }) := by
    rw [Net.takeFor, found]
  exact bind_ok (step_run (fun n => some (n.takeFor dst)) (congrArg some taken))

theorem recvFrame_none {dst : UInt16} {rest : List CanixFrame}
    (absent : nextFor dst safetyCounter n.inbox = (none, rest)) :
    recvFrame dst n = some (.error (.transport (text "timeout while waiting for packet")),
      { n with inbox := rest }) := by
  have taken : n.takeFor dst = (none, { n with inbox := rest }) := by
    rw [Net.takeFor, absent]
  exact bind_ok (step_run (fun n => some (n.takeFor dst)) (congrArg some taken))

/-- What waiting for an answer leaves behind: frames of the inbox up to the answer are gone. -/
theorem recv_ends (size command : UInt8) (n : Net c) :
    Ends (recv bcon size command) n
      (fun frame last => frame.data[1] = command ∧ ∃ front rest,
        n.inbox = front ++ frame :: rest ∧ last = { n with inbox := rest })
      (fun error last => (∃ message, error = .transport message) ∧
        ∃ rest, (∀ later ∈ rest, later ∈ n.inbox) ∧ last = { n with inbox := rest }) := by
  have remaining := nextFor_rest bcon.src safetyCounter n.inbox
  have taken : Ends (recvFrame bcon.src) n
      (fun frame last => ∃ front rest, n.inbox = front ++ frame :: rest ∧
        last = { n with inbox := rest })
      (fun error last => (∃ message, error = FlashError.transport message) ∧
        ∃ rest, (∀ later ∈ rest, later ∈ n.inbox) ∧ last = { n with inbox := rest }) := by
    unfold Ends
    rcases found : nextFor bcon.src safetyCounter n.inbox with ⟨frame, rest⟩
    rw [found] at remaining
    cases frame with
    | some frame =>
        rw [recvFrame_some found]
        obtain ⟨front, same⟩ := nextFor_some found
        exact ⟨front, rest, same, rfl⟩
    | none =>
        rw [recvFrame_none found]
        exact ⟨⟨_, rfl⟩, rest, remaining, rfl⟩
  unfold recv
  refine taken.bind ?_
  rintro frame last ⟨front, rest, same, rfl⟩
  have later : ∀ other ∈ rest, other ∈ n.inbox := by
    rw [same]
    exact fun other member => List.mem_append_right _ (List.mem_cons_of_mem _ member)
  refine ends_ite (fun _ => ends_throw ⟨⟨_, rfl⟩, rest, later, rfl⟩) fun _ => ?_
  refine ends_ite (fun _ => ends_throw ⟨⟨_, rfl⟩, rest, later, rfl⟩) fun _ => ?_
  refine ends_ite (fun _ => ends_throw ⟨⟨_, rfl⟩, rest, later, rfl⟩) fun _ => ?_
  refine ends_ite (fun _ => ends_throw ⟨⟨_, rfl⟩, rest, later, rfl⟩) fun right => ?_
  exact ends_pure ⟨by simpa using right, front, rest, same, rfl⟩

/-- The answer that waits is received. -/
theorem recv_answer {size command : UInt8} {rest : List CanixFrame}
    (waits : n.inbox = frame :: rest) (answer : IsReply bcon size command frame) :
    recv bcon size command n = some (.ok frame, { n with inbox := rest }) := by
  have found : nextFor bcon.src safetyCounter n.inbox = (some frame, rest) := by
    rw [waits]
    exact if_pos answer.dst
  unfold recv
  rw [bind_ok (recvFrame_some found), if_neg fun wrong => wrong.2 answer.src,
    if_neg fun wrong => wrong answer.size, if_neg fun wrong => wrong answer.service,
    if_neg fun wrong => wrong answer.command]
  rfl

/-- Without a frame the host gives up. -/
theorem recv_timeout (size command : UInt8) (empty : n.inbox = []) :
    recv bcon size command n =
      some (.error (.transport (text "timeout while waiting for packet")), n) := by
  have absent : nextFor bcon.src safetyCounter n.inbox = (none, []) := by
    rw [empty]
    rfl
  unfold recv
  rw [bind_error (recvFrame_none absent), ← empty]

end Channel

end Hcan.Flash
