import Hcan.Canix.Reception

/-!
# Identifiers, and a frame on its way over the bus

The 29-bit identifier holds source, destination, protocol and priority of a frame.
A frame that one controller sends goes through the interrupt and the queue of
another one and is read there as it was sent.
-/

namespace Hcan.Canix

open Hcan.Library

/-- Source in bits 0 to 9, destination in 10 to 19, protocol in 20 to 22, priority from 24 on. -/
def packId (src dst : UInt16) (proto prio : UInt8) : UInt32 :=
  (src.toUInt32 &&& addrMask) ||| ((dst.toUInt32 &&& addrMask) <<< 10) |||
    ((proto.toUInt32 &&& protoMask) <<< 20) ||| (prio.toUInt32 <<< 24)

/-- `can_send_message`; `data` are the `length` bytes behind the data pointer. -/
def canSendMessage (c : CanixState) (id : UInt32) (data : List UInt8) (length : UInt8) :
    CanixState :=
  match freeTxBuffer c.chip with
  | some index =>
      { c with chip := loadTxBuffer c.chip index id data length, txSent := c.txSent + 1 }
  | none => { c with txDropped := c.txDropped + 1 }

def CanixFrame.payload (frame : CanixFrame) : List UInt8 :=
  frame.data.toList.take frame.size.toNat

/-- What `canix_frame_send_with_prio` does before the local delivery; no result when the
length reaches behind the array of the frame. -/
def canixFrameSendWithPrio (c : CanixState) (frame : CanixFrame) (prio : UInt8) :
    Option CanixState :=
  if canAnySendable c.chip then
    if frame.size.toNat ≤ 8 then
      some (canSendMessage c (packId frame.src frame.dst frame.proto prio) frame.payload frame.size)
    else none
  else some c

/-- A field of a few bits, shifted to its place. -/
theorem shiftLeft_lt {word : UInt32} {width place : Nat} (amount : UInt32)
    (small : word.toNat < 2 ^ width) (shift : amount.toNat % 32 = place) :
    (word <<< amount).toNat < 2 ^ (width + place) := by
  rw [UInt32.toNat_shiftLeft, shift, Nat.shiftLeft_eq]
  refine lt_of_le_of_lt (Nat.mod_le _ _) ?_
  rw [Nat.pow_add]
  exact Nat.mul_lt_mul_of_pos_right small (Nat.two_pow_pos place)

theorem packId_lt {src dst : UInt16} {proto prio : UInt8} (two : prio < 4) :
    packId src dst proto prio < 0x20000000 := by
  have addr (word : UInt32) : (word &&& addrMask).toNat < 2 ^ 10 := by
    rw [UInt32.toNat_and]
    exact lt_of_le_of_lt Nat.and_le_right (by decide)
  have protocol (word : UInt32) : (word &&& protoMask).toNat < 2 ^ 3 := by
    rw [UInt32.toNat_and]
    exact lt_of_le_of_lt Nat.and_le_right (by decide)
  have priority : prio.toUInt32.toNat < 2 ^ 2 := by
    rw [UInt8.toNat_toUInt32]
    exact two
  have low := lt_trans (addr src.toUInt32) (by decide : 2 ^ 10 < 2 ^ 29)
  have second := lt_trans (shiftLeft_lt 10 (addr dst.toUInt32) rfl)
    (by decide : 2 ^ (10 + 10) < 2 ^ 29)
  have third := lt_trans (shiftLeft_lt 20 (protocol proto.toUInt32) rfl)
    (by decide : 2 ^ (3 + 20) < 2 ^ 29)
  have fourth := lt_trans (shiftLeft_lt 24 priority rfl)
    (by decide : 2 ^ (2 + 24) < 2 ^ 29)
  rw [UInt32.lt_iff_toNat_lt, packId, UInt32.toNat_or, UInt32.toNat_or, UInt32.toNat_or]
  exact Nat.or_lt_two_pow (Nat.or_lt_two_pow (Nat.or_lt_two_pow low second) third) fourth

section Fields

variable {src dst : UInt16} {proto : UInt8} (prio : UInt8)

theorem packId_src (small : src < 1024) :
    (packId src dst proto prio &&& addrMask).toUInt16 = src := by
  have bits : src.toBitVec.toNat < 2 ^ 10 := small
  refine uint16_ext fun i inside => ?_
  have clear := bit_of_lt (i := i) bits
  simp only [packId, addrMask, protoMask, UInt32.toBitVec_or, UInt32.toBitVec_and,
    UInt16.toBitVec_toUInt32, UInt8.toBitVec_toUInt32, UInt32.toBitVec_toUInt16,
    UInt32.toBitVec_shiftLeft, BitVec.getLsbD_or, BitVec.getLsbD_and, BitVec.getLsbD_setWidth]
  interval_cases i
  all_goals simp at clear
  all_goals simp [clear]

theorem packId_dst (small : dst < 1024) :
    ((packId src dst proto prio >>> 10) &&& addrMask).toUInt16 = dst := by
  have bits : dst.toBitVec.toNat < 2 ^ 10 := small
  refine uint16_ext fun i inside => ?_
  have clear := bit_of_lt (i := i) bits
  simp only [packId, addrMask, protoMask, UInt32.toBitVec_or, UInt32.toBitVec_and,
    UInt16.toBitVec_toUInt32, UInt8.toBitVec_toUInt32, UInt32.toBitVec_toUInt16,
    UInt32.toBitVec_shiftLeft, UInt32.toBitVec_shiftRight, BitVec.getLsbD_and,
    BitVec.getLsbD_setWidth]
  interval_cases i
  all_goals simp at clear
  all_goals simp [clear]

theorem packId_proto (small : proto < 8) :
    ((packId src dst proto prio >>> 20) &&& protoMask).toUInt8 = proto := by
  have bits : proto.toBitVec.toNat < 2 ^ 3 := small
  refine uint8_ext fun i inside => ?_
  have clear := bit_of_lt (i := i) bits
  simp only [packId, addrMask, protoMask, UInt32.toBitVec_or, UInt32.toBitVec_and,
    UInt16.toBitVec_toUInt32, UInt8.toBitVec_toUInt32, UInt32.toBitVec_toUInt8,
    UInt32.toBitVec_shiftLeft, UInt32.toBitVec_shiftRight, BitVec.getLsbD_and,
    BitVec.getLsbD_setWidth]
  interval_cases i
  all_goals simp at clear
  all_goals simp [clear]

end Fields

/-! ## From one controller to another -/

/-- The receive buffer behind a frame from a transmit buffer. -/
def transfer (tx : Mcp2515) (index : UInt8) (rx : Mcp2515) : Mcp2515 where
  reg address :=
    if address = canintf then rx.reg canintf ||| rx0if
    else if rxb0sidh ≤ address ∧ address < rxb0d0 + 8 then
      tx.reg (address - (0x30 : UInt8) + (index <<< 4))
    else rx.reg address

theorem transfer_buffer (tx : Mcp2515) (index : UInt8) (rx : Mcp2515) {k : Nat} (inside : k < 13) :
    (transfer tx index rx).reg (rxb0sidh + UInt8.ofNat k) =
      tx.reg (ofBuffer txb0sidh index + UInt8.ofNat k) := by
  have place : (rxb0sidh + UInt8.ofNat k).toNat = 0x61 + k := by
    rw [UInt8.toNat_add, UInt8.toNat_ofNat']
    exact (by omega : (0x61 + k % 256) % 256 = 0x61 + k)
  have apart : rxb0sidh + UInt8.ofNat k ≠ canintf := by
    refine ne_of_toNat ?_
    rw [place]
    exact (by omega : 0x61 + k ≠ 0x2C)
  have within : rxb0sidh ≤ rxb0sidh + UInt8.ofNat k ∧
      rxb0sidh + UInt8.ofNat k < rxb0d0 + 8 := by
    rw [UInt8.le_iff_toNat_le, UInt8.lt_iff_toNat_lt, place]
    exact (by omega : 0x61 ≤ 0x61 + k ∧ 0x61 + k < 0x6E)
  have moved : rxb0sidh + UInt8.ofNat k - (0x30 : UInt8) + (index <<< 4) =
      ofBuffer txb0sidh index + UInt8.ofNat k := by
    have base : rxb0sidh - (0x30 : UInt8) = txb0sidh := rfl
    rw [ofBuffer, ← base]
    generalize UInt8.ofNat k = offset
    generalize index <<< 4 = high
    grind
  unfold transfer
  simp only
  rw [if_neg apart, if_pos within, moved]

/-- The offset of a register inside its buffer does not depend on the buffer. -/
theorem ofBuffer_offset (index : UInt8) {register other : UInt8} {k : Nat}
    (offset : register + UInt8.ofNat k = other) :
    ofBuffer register index + UInt8.ofNat k = ofBuffer other index := by
  subst offset
  simp only [ofBuffer]
  generalize UInt8.ofNat k = offset
  generalize index <<< 4 = high
  grind

theorem rx0if_set (rest : UInt8) : (rest ||| rx0if) &&& rx0if ≠ 0 := by
  intro clear
  have bit := congrArg (fun byte : UInt8 => byte.toBitVec.getLsbD 0) clear
  simp [rx0if] at bit

/-- The bus carries this transfer. -/
theorem transfer_carries (tx : Mcp2515) (index : UInt8) (rx : Mcp2515) :
    Carries tx index (transfer tx index rx) := by
  have moved (k : Nat) (inside : k < 13) := transfer_buffer tx index rx inside
  have sidh := moved 0 (by decide)
  rw [ofBuffer_offset index (rfl : txb0sidh + UInt8.ofNat 0 = txb0sidh)] at sidh
  have sidl : (transfer tx index rx).reg (rxb0sidh + 1) = tx.reg (ofBuffer txb0sidh index + 1) :=
    moved 1 (by decide)
  have dlc := moved 4 (by decide)
  rw [ofBuffer_offset index (rfl : txb0sidh + UInt8.ofNat 4 = txb0dlc)] at dlc
  refine ⟨?_, sidh, ?_, ?_, ?_, ?_⟩
  · exact decide_eq_true (rx0if_set (rx.reg canintf))
  · rw [sidl]
  · exact fun _ => ⟨by rw [sidl], moved 2 (by decide), moved 3 (by decide)⟩
  · exact congrArg (· &&& 0x0F) dlc
  · intro i _ inside
    have here := moved (5 + i) (by omega)
    rw [UInt8.ofNat_add, ← UInt8.add_assoc, ← UInt8.add_assoc,
      ofBuffer_offset index (rfl : txb0sidh + UInt8.ofNat 5 = txb0d0)] at here
    exact here

theorem slots_empty {queue : RxQueue} (empty : canixRxqSize queue = 0) :
    (slots queue).reduceOption = [] := by
  have unused : ∀ entry ∈ queue.toList, ¬ entry.used = true := List.countP_eq_zero.mp empty
  refine (List.reduceOption_eq_nil_iff _).mpr ⟨(slots queue).length, ?_⟩
  refine List.eq_replicate_of_mem fun slot member => ?_
  obtain ⟨entry, inside, rfl⟩ := List.mem_map.mp member
  rw [RxQueueEntry.frame, if_neg (unused entry inside)]

theorem payload_length {message : Message} (fits : message.size.toNat ≤ 8) :
    message.payload.length = message.size.toNat := by
  rw [Message.payload, List.length_take, Vector.length_toList, Nat.min_eq_left fits]

theorem receivedPayload_length (chip : Mcp2515) :
    (receivedPayload chip).length = (receivedSize chip).toNat := by
  rw [receivedPayload, List.length_map, List.length_range]

/-- The interrupt puts a frame into an idle queue and the main loop fetches it from there. -/
theorem receive_one {c : CanixState} (empty : canixRxqSize c.queue = 0)
    (available : mcp2515MessageAvailable c.chip = true) (fits : (receivedSize c.chip).toNat ≤ 8)
    (stack : Vector UInt8 8) (extended : UInt32) (data : Vector UInt8 8) :
    ∃ received message next, timer0Ovf c stack = some received ∧
      canReadMessage received extended data = some (message, next) ∧
      message.frame = receivedFrame c.chip ∧ message.size.toNat = (receivedSize c.chip).toNat := by
  have unused : ∀ entry ∈ c.queue.toList, ¬ entry.used = true := List.countP_eq_zero.mp empty
  have fit : SizesFit c.queue := fun entry member used => absurd used (unused entry member)
  have room : canixRxqSize c.queue < canixQueueSize := by
    rw [empty]
    decide
  have place : lowestFree (slots c.queue) < (slots c.queue).length := by
    rw [slots_length]
    exact (putOne_eq room).2
  obtain ⟨received, stored, queue, _, _, kept⟩ := timer0Ovf_store stack available fits room
  have order : (slots received.queue).reduceOption = [receivedFrame c.chip] := by
    rw [queue, reduceOption_put (packed_of_empty (slots_empty empty)) place, slots_empty empty]
    rfl
  have used : 0 < canixRxqSize received.queue := by
    refine Nat.pos_of_ne_zero fun zero => ?_
    rw [slots_empty zero] at order
    cases order
  have inside : lowestUsed (slots received.queue) < (slots received.queue).length := by
    rw [slots_length]
    exact (fetchOne_eq used).2
  obtain ⟨message, next, read, here, _, _, _, size, _⟩ :=
    canReadMessage_fetch (kept fit) used extended data
  obtain ⟨value, there, taken⟩ := reduceOption_take (slots received.queue) inside
  obtain rfl : receivedFrame c.chip = value := (List.cons.inj (order.symm.trans taken)).1
  have frame : message.frame = receivedFrame c.chip :=
    Option.some.inj (Option.some.inj (here.symm.trans there))
  refine ⟨received, message, next, stored, read, frame, ?_⟩
  have payload : message.payload = receivedPayload c.chip := congrArg RxFrame.payload frame
  rw [← payload_length size, payload, receivedPayload_length]

end Hcan.Canix
