import Hcan.Transport.HostInterface
import Hcan.Transport.Resync

/-!
# Frames between the host and the bus

A frame of the library on its way to a board and back: the record on the socket, the
text on the serial line, the registers of two CAN controllers and the frame that a
handler sees.  Every layer packs the fields by its own code.
-/

namespace Hcan.Transport

open Hcan.Library Hcan.Canix

/-- `hcan::frame`. -/
structure Frame where
  src : UInt16
  dst : UInt16
  proto : UInt8
  prio : UInt8
  data : Vector UInt8 8
  size : UInt32
  deriving DecidableEq, Repr

namespace Frame

def payload (f : Frame) : List UInt8 := f.data.toList.take f.size.toNat

def prioLo : UInt8 := 3

/-- The constructor of received frames: the size is cut to eight. -/
def ofData (src dst : UInt16) (proto : UInt8) (data : Vector UInt8 8) (size : UInt32) : Frame where
  src := src
  dst := dst
  proto := proto
  prio := prioLo
  data := overlay (byteAt data) (if 8 < size then 8 else size : UInt32).toNat (.replicate 8 0)
  size := if 8 < size then 8 else size

def extid (f : Frame) : UInt32 := packId f.src f.dst f.proto f.prio

/-- The record that `write_to` sends; `stack` is what the local record holds before. -/
def writeTo (f : Frame) (stack : Vector UInt8 8) : Option CANFrame := do
  let data ← copyInto (byteAt f.data) f.size.toNat stack
  some ⟨f.extid, f.size, data⟩

def readFrom (cf : CANFrame) : Frame :=
  ofData (cf.id &&& 0x3ff).toUInt16 ((cf.id >>> 10) &&& 0x3ff).toUInt16
    ((cf.id >>> 20) &&& 0x7).toUInt8 cf.data cf.size

/-- What the callers keep: ten bits for an address, three for the protocol. -/
structure Valid (f : Frame) : Prop where
  src : f.src < 1024
  dst : f.dst < 1024
  proto : f.proto < 8
  prio : f.prio < 4
  size : f.size ≤ 8

end Frame

/-- The frame that a handler on a board sees has the fields of this one. -/
structure Frame.Agrees (f : Frame) (frame : CanixFrame) : Prop where
  src : frame.src = f.src
  dst : frame.dst = f.dst
  proto : frame.proto = f.proto
  size : frame.size.toNat = f.size.toNat
  payload : frame.payload = f.payload

/-- Two frames of the library with the same fields. -/
structure Frame.Same (f g : Frame) : Prop where
  src : g.src = f.src
  dst : g.dst = f.dst
  proto : g.proto = f.proto
  size : g.size = f.size
  payload : g.payload = f.payload

/-- `send_frame_to_HI` of `hcanhid`; no result when the assertion fails. -/
def sendFrameToHI (frame : CANFrame) : Option (List UInt8) :=
  if frame.size ≤ 8 then
    some (['C'.toUInt8] ++ (idBytes frame.id).flatMap hexPair ++ hexPair frame.size.toUInt8 ++
      frame.payload.flatMap hexPair ++ ['F'.toUInt8])
  else none

/-- The pieces of a frame text as the senders write them. -/
theorem frameText_eq (id : UInt32) (payload : List UInt8) :
    ['C'.toUInt8] ++ (idBytes id).flatMap hexPair ++ hexPair (UInt8.ofNat payload.length) ++
      payload.flatMap hexPair ++ ['F'.toUInt8] = frameText id payload := by
  rw [frameText, frameBytes, List.flatMap_append, List.flatMap_cons]
  simp only [List.cons_append, List.nil_append, List.append_assoc]

section Down

variable {f : Frame}

theorem payload_length (small : f.size ≤ 8) : f.payload.length = f.size.toNat := by
  have fits : f.size.toNat ≤ 8 := small
  rw [Frame.payload, List.length_take, Vector.length_toList, Nat.min_eq_left fits]

/-- The record on the socket holds the identifier and the data bytes. -/
theorem writeTo_eq (small : f.size ≤ 8) (stack : Vector UInt8 8) :
    ∃ cf, f.writeTo stack = some cf ∧ cf.id = f.extid ∧ cf.size = f.size ∧
      cf.payload = f.payload := by
  have fits : f.size.toNat ≤ 8 := small
  rw [Frame.writeTo, copyInto_of_le _ stack fits, Option.bind_eq_bind, Option.bind_some]
  exact ⟨_, rfl, rfl, rfl, overlay_bytes f.data stack fits⟩

theorem size_byte (f : Frame) : f.size.toUInt8 = UInt8.ofNat f.size.toNat := by
  refine UInt8.toNat_inj.mp ?_
  rw [UInt32.toNat_toUInt8, UInt8.toNat_ofNat']

/-- The text on the serial line. -/
theorem sendFrameToHI_eq {cf : CANFrame} (small : f.size ≤ 8) (id : cf.id = f.extid)
    (size : cf.size = f.size) (payload : cf.payload = f.payload) :
    sendFrameToHI cf = some (frameText f.extid f.payload) := by
  rw [sendFrameToHI, size, if_pos small, id, payload, size_byte f, ← payload_length small,
    frameText_eq]

theorem freeTxBuffer_of_sendable {chip : Mcp2515} (free : canAnySendable chip = true) :
    ∃ index, freeTxBuffer chip = some index := by
  simp only [canAnySendable, Bool.or_eq_true] at free
  unfold freeTxBuffer
  by_cases zeroth : canSendable chip 0 = true
  · exact ⟨0, if_pos zeroth⟩
  · by_cases first : canSendable chip 1 = true
    · exact ⟨1, by rw [if_neg zeroth, if_pos first]⟩
    · have second : canSendable chip 2 = true := by
        rcases free with (free | free) | free
        · exact absurd free zeroth
        · exact absurd free first
        · exact free
      exact ⟨2, by rw [if_neg zeroth, if_neg first, if_pos second]⟩

/-- A message that carries the identifier and the data bytes is decoded to the fields. -/
theorem message_agrees (valid : f.Valid) {message : Message}
    (frame : message.frame = ⟨f.extid, f.payload⟩) (size : message.size.toNat = f.size.toNat) :
    f.Agrees (frameOfMessage message) := by
  have extended : message.extended = f.extid := congrArg RxFrame.extended frame
  have payload : message.payload = f.payload := congrArg RxFrame.payload frame
  refine ⟨?_, ?_, ?_, size, payload⟩
  · rw [frameOfMessage, extended]
    exact packId_src f.prio valid.src
  · rw [frameOfMessage, extended]
    exact packId_dst f.prio valid.dst
  · rw [frameOfMessage, extended]
    exact packId_proto f.prio valid.proto

/-- What a controller receives after another one has loaded the frame. -/
theorem received_of_carries (valid : f.Valid) {tx rx : Mcp2515} {index : UInt8}
    (free : freeTxBuffer tx = some index)
    (carried : Carries (loadTxBuffer tx index f.extid f.payload (UInt8.ofNat f.payload.length))
      index rx) :
    receivedFrame rx = ⟨f.extid, f.payload⟩ ∧ (receivedSize rx).toNat = f.size.toNat := by
  have length := payload_length valid.size
  have fits : f.size.toNat ≤ 8 := valid.size
  have size : (UInt8.ofNat f.payload.length).toNat = f.payload.length := by
    rw [UInt8.toNat_ofNat']
    exact Nat.mod_eq_of_lt (by omega)
  obtain ⟨id, sizes, data⟩ := carries_loaded tx f.extid (UInt8.ofNat f.payload.length)
    (freeTxBuffer_cases free) (packId_lt valid.prio) size.symm (by omega) carried
  refine ⟨?_, ?_⟩
  · rw [receivedFrame, id, data]
  · rw [sizes, size, length]

end Down

/-- `write_to`, `hcanhid`, the host interface and the bus hand the frame to every board, whose
driver and whose queue read the fields again. -/
def ReachesBoard (f : Frame) : Prop :=
  ∀ (stack : Vector UInt8 8) (hi : HostInterface), canAnySendable hi.canix.chip = true →
    ∃ cf text sent index, f.writeTo stack = some cf ∧ sendFrameToHI cf = some text ∧
      hi.inputs text = some sent ∧ freeTxBuffer hi.canix.chip = some index ∧
      ∀ board : CanixState, Carries sent.canix.chip index board.chip →
        (∀ data, ∃ message chip, mcp2515ReadMessage board.chip data = some (message, chip) ∧
          f.Agrees (frameOfMessage message)) ∧
        (canixRxqSize board.queue = 0 → ∀ scratch extended data, ∃ received message next,
          timer0Ovf board scratch = some received ∧
          canReadMessage received extended data = some (message, next) ∧
          f.Agrees (frameOfMessage message))

theorem reaches_board {f : Frame} (valid : f.Valid) : ReachesBoard f := by
  intro stack hi sendable
  have length := payload_length valid.size
  have fits : f.size.toNat ≤ 8 := valid.size
  obtain ⟨cf, written, id, size, payload⟩ := writeTo_eq valid.size stack
  obtain ⟨index, free⟩ := freeTxBuffer_of_sendable sendable
  have payloadFits : f.payload.length ≤ 8 := by omega
  obtain ⟨sent, parsed, loaded, _⟩ := hi.inputs_frameText f.extid payloadFits
  refine ⟨cf, _, sent, index, written, sendFrameToHI_eq valid.size id size payload, parsed, free,
    ?_⟩
  intro board carried
  have chip : sent.canix.chip =
      loadTxBuffer hi.canix.chip index f.extid f.payload (UInt8.ofNat f.payload.length) := by
    rw [loaded, canSendMessage, free]
  rw [chip] at carried
  obtain ⟨frame, sizes⟩ := received_of_carries valid free carried
  have short : (receivedSize board.chip).toNat ≤ 8 := by omega
  constructor
  · intro data
    refine ⟨_, _, mcp2515ReadMessage_eq board.chip data short, message_agrees valid ?_ sizes⟩
    rw [← frame, Message.frame, Message.payload, overlay_take _ _ short]
    rfl
  · intro empty scratch extended data
    obtain ⟨received, message, next, stored, read, same, sameSize⟩ :=
      receive_one empty carried.available short scratch extended data
    exact ⟨received, message, next, stored, read,
      message_agrees valid (same.trans frame) (sameSize.trans sizes)⟩

/-! ## Towards the host -/

theorem canReadMessage_size {c next : CanixState} {extended : UInt32} {data : Vector UInt8 8}
    {message : Message} (read : canReadMessage c extended data = some (message, next)) :
    message.size.toNat ≤ 8 := by
  by_cases used : 0 < canixRxqSize c.queue
  · rw [canReadMessage, if_pos used] at read
    obtain ⟨copied, inside, result⟩ := Option.bind_eq_some_iff.mp read
    cases result
    exact (copyInto_eq_some_iff.mp inside).1
  · rw [canReadMessage_empty used] at read
    cases read
    exact Nat.zero_le 8

/-- The text for a message from the queue. -/
theorem handleFrameInput_eq {hi : HostInterface} {next : CanixState} {extended : UInt32}
    {data : Vector UInt8 8} {message : Message}
    (read : canReadMessage hi.canix extended data = some (message, next)) :
    hi.handleFrameInput extended data = some { hi with
      canix := next
      usb := hi.usb ++ frameText message.extended message.payload } := by
  have fits := canReadMessage_size read
  have size : message.size = UInt8.ofNat message.payload.length := by
    rw [Canix.payload_length fits, UInt8.ofNat_toNat]
  rw [← frameText_eq, ← size, HostInterface.handleFrameInput, read]
  rfl

/-- From a state without a half byte and with a free slot a frame text is delivered. -/
theorem delivers_aligned {s : Hid} (aligned : s.firstBitsChar = none)
    (slot : s.frameToHcand = none) {id : UInt32} {payload : List UInt8}
    (fits : payload.length ≤ 8) {front : List Pass} {writable : Bool} {stack : Vector UInt8 8}
    (text : inputOf (front ++ [⟨writable, some 'F'.toUInt8, stack⟩]) = frameText id payload) :
    ∃ last cf, s.run (front ++ [⟨writable, some 'F'.toUInt8, stack⟩]) = some (last, [cf]) ∧
      cf.id = id ∧ cf.size.toNat = payload.length ∧ cf.payload = payload := by
  obtain ⟨b0, b1, b2, b3, size, rest, parsed, _⟩ := parsedBytes_cases s id payload
  obtain ⟨agrees, ids, bytes⟩ := (parsed_right_iff fits parsed).mpr (.inl aligned)
  obtain ⟨cf, built, cfId, cfSize, cfPayload⟩ := beforeEnd_frame s id fits stack parsed agrees
  have matched := beforeEnd_sizeMatches s id fits parsed
  have free : slotAfter front s.frameToHcand = none := by
    rw [slot, slotAfter, ite_self]
  obtain ⟨last, delivered⟩ := run_end_match
    (s := (beforeEnd s id payload).withSlot (slotAfter front s.frameToHcand)) rfl writable stack
    (matched.trans (decide_eq_true agrees)) built
  refine ⟨last, cf, ?_, cfId.trans ids, ?_, cfPayload.trans bytes⟩
  · rw [run_frame s fits text, delivered]
    exact congrArg (fun frames => some (last, frames)) (if_pos (.inr free))
  · rw [cfSize, UInt8.toNat_toUInt32, agrees]

/-- The library decodes a record to the fields that were packed into it. -/
theorem readFrom_same {f : Frame} (valid : f.Valid) {cf : CANFrame} (id : cf.id = f.extid)
    (size : cf.size.toNat = f.size.toNat) (payload : cf.payload = f.payload) :
    f.Same (Frame.readFrom cf) := by
  have sizes : cf.size = f.size := UInt32.toNat_inj.mp size
  have short : f.size.toNat ≤ 8 := valid.size
  have kept : (if 8 < cf.size then 8 else cf.size) = f.size := by
    rw [sizes, if_neg (UInt32.not_lt.mpr valid.size)]
  refine ⟨?_, ?_, ?_, kept, ?_⟩
  · rw [Frame.readFrom, Frame.ofData, id]
    exact packId_src f.prio valid.src
  · rw [Frame.readFrom, Frame.ofData, id]
    exact packId_dst f.prio valid.dst
  · rw [Frame.readFrom, Frame.ofData, id]
    exact packId_proto f.prio valid.proto
  · rw [← payload, Frame.payload, CANFrame.payload, Frame.readFrom, Frame.ofData, sizes,
      if_neg (UInt32.not_lt.mpr valid.size)]
    exact overlay_bytes cf.data _ short

/-- The same frame in the firmware of a board. -/
def Frame.onBoard (f : Frame) : CanixFrame := ⟨f.src, f.dst, f.proto, f.size.toUInt8, f.data⟩

/-- A board sends the frame, and the host interface fetches it from its queue. -/
def ReachesInterface (f : Frame) : Prop :=
  ∀ board hi : CanixState, canAnySendable board.chip = true →
    ∃ sent index, canixFrameSendWithPrio board f.onBoard f.prio = some sent ∧
      freeTxBuffer board.chip = some index ∧
      (Carries sent.chip index hi.chip → canixRxqSize hi.queue = 0 → ∀ scratch extended data,
        ∃ received message next, timer0Ovf hi scratch = some received ∧
          canReadMessage received extended data = some (message, next) ∧
          message.frame = ⟨f.extid, f.payload⟩)

/-- The host interface emits a received frame as text, which `hcanhid` parses from its reset
state and `read_from` decodes. -/
def ReachesHost (f : Frame) : Prop :=
  ∀ (hi : HostInterface) extended data message canix,
    canReadMessage hi.canix extended data = some (message, canix) →
    message.frame = ⟨f.extid, f.payload⟩ →
    ∃ text, hi.handleFrameInput extended data =
        some { hi with canix := canix, usb := hi.usb ++ text } ∧
      ∀ front writable stack,
        inputOf (front ++ [⟨writable, some 'F'.toUInt8, stack⟩]) = text →
        ∃ last cf, Hid.reset.run (front ++ [⟨writable, some 'F'.toUInt8, stack⟩]) =
          some (last, [cf]) ∧ f.Same (Frame.readFrom cf)

theorem reaches_interface {f : Frame} (valid : f.Valid) : ReachesInterface f := by
  intro board hi sendable
  have fits : f.size.toNat ≤ 8 := valid.size
  have bytes := payload_length valid.size
  have size : f.onBoard.size = UInt8.ofNat f.payload.length := by
    rw [bytes]
    exact size_byte f
  have small : f.onBoard.size.toNat = f.size.toNat := by
    rw [size, UInt8.toNat_ofNat', bytes]
    exact Nat.mod_eq_of_lt (by omega)
  have payload : f.onBoard.payload = f.payload := by
    rw [CanixFrame.payload, small]
    rfl
  obtain ⟨index, free⟩ := freeTxBuffer_of_sendable sendable
  refine ⟨canSendMessage board f.extid f.payload (UInt8.ofNat f.payload.length), index, ?_, free,
    ?_⟩
  · rw [canixFrameSendWithPrio, if_pos sendable, if_pos (by omega), payload, size]
    rfl
  · intro carried empty scratch extended data
    rw [canSendMessage, free] at carried
    obtain ⟨frame, sizes⟩ := received_of_carries valid free carried
    obtain ⟨received, message, next, stored, read, same, _⟩ :=
      receive_one empty carried.available (by omega) scratch extended data
    exact ⟨received, message, next, stored, read, same.trans frame⟩

theorem reaches_host {f : Frame} (valid : f.Valid) : ReachesHost f := by
  intro hi extended data message canix read frame
  have bytes := payload_length valid.size
  have fits : f.size.toNat ≤ 8 := valid.size
  have id : message.extended = f.extid := congrArg RxFrame.extended frame
  have payload : message.payload = f.payload := congrArg RxFrame.payload frame
  refine ⟨frameText f.extid f.payload, ?_, ?_⟩
  · rw [handleFrameInput_eq read, id, payload]
  · intro front writable stack text
    obtain ⟨last, cf, ran, ids, sizes, data⟩ :=
      delivers_aligned (s := Hid.reset) rfl rfl (by omega) text
    exact ⟨last, cf, ran, readFrom_same valid ids (by rw [sizes, bytes]) data⟩

/-- A frame keeps its fields over all layers, in both directions. -/
theorem frame_round_trip {f : Frame} (valid : f.Valid) :
    ReachesBoard f ∧ ReachesInterface f ∧ ReachesHost f :=
  ⟨reaches_board valid, reaches_interface valid, reaches_host valid⟩

/-- A frame of three bytes, and a controller behind its reset. -/
def sampleFrame : Frame := ⟨17, 801, 1, 3, #v[5, 10, 200, 0, 0, 0, 0, 0], 3⟩

def resetCanix : CanixState where
  chip := ⟨fun _ => 0⟩
  queue := .replicate canixQueueSize ⟨false, 0, 0, .replicate 8 0⟩
  rxReceived := 0
  rxLost := 0
  txSent := 0
  txDropped := 0

theorem frame_round_trip_sample :
    ∃ text sent index message chip, (HostInterface.reset resetCanix).inputs text = some sent ∧
      mcp2515ReadMessage (transfer sent.canix.chip index resetCanix.chip) (.replicate 8 0) =
        some (message, chip) ∧
      sampleFrame.Agrees (frameOfMessage message) ∧ ReachesInterface sampleFrame ∧
      ReachesHost sampleFrame := by
  obtain ⟨down, up⟩ := frame_round_trip (f := sampleFrame)
    ⟨by decide, by decide, by decide, by decide, by decide⟩
  obtain ⟨cf, text, sent, index, _, _, parsed, _, boards⟩ :=
    down (.replicate 8 0) (HostInterface.reset resetCanix) (by decide)
  obtain ⟨direct, _⟩ := boards
    { resetCanix with chip := transfer sent.canix.chip index resetCanix.chip }
    (transfer_carries _ _ _)
  obtain ⟨message, chip, read, agrees⟩ := direct (.replicate 8 0)
  exact ⟨text, sent, index, message, chip, parsed, read, agrees, up⟩

end Hcan.Transport
