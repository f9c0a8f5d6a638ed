import Hcan.Canix.Frame
import Hcan.Canix.Mcp2515
import Hcan.Library.Run
import Hcan.Library.Slots

/-!
# The receive queue

The timer interrupt polls the CAN controller and stores a received frame in one of
twelve entries; the main loop fetches the frames from there.  A frame is stored in
the lowest free entry and fetched from the lowest used one.  The queue is watched
over the interleavings of the interrupt, the fetches and the reset of the counters.
-/

namespace Hcan.Canix

open Hcan.Library

structure RxQueueEntry where
  used : Bool
  extended : UInt32
  size : UInt8
  data : Vector UInt8 8
  deriving DecidableEq, Repr

def canixQueueSize : Nat := 12

abbrev RxQueue := Vector RxQueueEntry canixQueueSize

/-- The globals of the CANIX layer that reception and sending use. -/
structure CanixState where
  chip : Mcp2515
  queue : RxQueue
  rxReceived : UInt32
  rxLost : UInt32
  txSent : UInt32
  txDropped : UInt32

def canixRxqSize (queue : RxQueue) : Nat := queue.toList.countP (·.used)

/-- The first index that passes a test; the first entry when there is none. -/
def firstIndex (test : RxQueueEntry → Bool) (queue : RxQueue) : Nat :=
  if queue.toList.findIdx test < canixQueueSize then queue.toList.findIdx test else 0

def canixRxqFetchOne (queue : RxQueue) : Nat := firstIndex (·.used) queue
def canixRxqPutOne (queue : RxQueue) : Nat := firstIndex (fun entry => !entry.used) queue

theorem firstIndex_lt (test : RxQueueEntry → Bool) (queue : RxQueue) :
    firstIndex test queue < canixQueueSize := by
  unfold firstIndex
  split
  · assumption
  · decide

theorem fetchOne_lt (queue : RxQueue) : canixRxqFetchOne queue < canixQueueSize :=
  firstIndex_lt _ queue

theorem putOne_lt (queue : RxQueue) : canixRxqPutOne queue < canixQueueSize :=
  firstIndex_lt _ queue

/-- The part of the timer interrupt that polls the controller; `stack` is what the
local array holds when the interrupt begins. -/
def timer0Ovf (c : CanixState) (stack : Vector UInt8 8) : Option CanixState :=
  if mcp2515MessageAvailable c.chip then do
    let (message, chip) ← mcp2515ReadMessage c.chip stack
    if canixRxqSize c.queue < canixQueueSize then
      let idx := canixRxqPutOne c.queue
      have bound : idx < canixQueueSize := putOne_lt c.queue
      let data ← copyInto (byteAt message.data) message.size.toNat c.queue[idx].data
      some { c with
        chip := chip
        queue := c.queue.set idx ⟨true, message.extended, message.size, data⟩
        rxReceived := c.rxReceived + 1 }
    else some { c with chip := chip, rxLost := c.rxLost + 1 }
  else some c

def canMessageAvailable (c : CanixState) : Bool := 0 < canixRxqSize c.queue

/-- `can_read_message`; without a frame the caller's variables stay as they are. -/
def canReadMessage (c : CanixState) (extended : UInt32) (data : Vector UInt8 8) :
    Option (Message × CanixState) :=
  if 0 < canixRxqSize c.queue then do
    let idx := canixRxqFetchOne c.queue
    have bound : idx < canixQueueSize := fetchOne_lt c.queue
    let entry := c.queue[idx]
    let data ← copyInto (byteAt entry.data) entry.size.toNat data
    some (⟨entry.extended, entry.size, data⟩,
      { c with queue := c.queue.set idx { entry with used := false } })
  else some (⟨extended, 0, data⟩, c)

def addrMask : UInt32 := 0x000003ff
def protoMask : UInt32 := 0x00000007

/-- The frame that `canix_process_messages` delivers for a message. -/
def frameOfMessage (message : Message) : CanixFrame where
  src := (message.extended &&& addrMask).toUInt16
  dst := ((message.extended >>> 10) &&& addrMask).toUInt16
  proto := ((message.extended >>> 20) &&& protoMask).toUInt8
  size := message.size
  data := message.data

/-- A frame on the way through the queue: its identifier and its data bytes. -/
structure RxFrame where
  extended : UInt32
  payload : List UInt8
  deriving DecidableEq, Repr

def RxQueueEntry.frame (entry : RxQueueEntry) : Option RxFrame :=
  if entry.used then some ⟨entry.extended, entry.data.toList.take entry.size.toNat⟩ else none

def slots (queue : RxQueue) : List (Option RxFrame) := queue.toList.map RxQueueEntry.frame

def Message.frame (message : Message) : RxFrame := ⟨message.extended, message.payload⟩

def receivedFrame (chip : Mcp2515) : RxFrame := ⟨receivedId chip, receivedPayload chip⟩

theorem frame_isSome : (fun entry : RxQueueEntry => entry.frame.isSome) = (·.used) := by
  funext entry
  unfold RxQueueEntry.frame
  cases entry.used <;> rfl

theorem frame_isNone :
    (fun entry : RxQueueEntry => entry.frame.isNone) = fun entry => !entry.used := by
  funext entry
  unfold RxQueueEntry.frame
  cases entry.used <;> rfl

@[simp] theorem slots_length (queue : RxQueue) : (slots queue).length = canixQueueSize := by
  rw [slots, List.length_map, Vector.length_toList]

theorem lowestUsed_slots (queue : RxQueue) :
    lowestUsed (slots queue) = queue.toList.findIdx (·.used) := by
  rw [lowestUsed, slots, List.findIdx_map]
  exact congrArg (fun test => queue.toList.findIdx test) frame_isSome

theorem lowestFree_slots (queue : RxQueue) :
    lowestFree (slots queue) = queue.toList.findIdx fun entry => !entry.used := by
  rw [lowestFree, slots, List.findIdx_map]
  exact congrArg (fun test => queue.toList.findIdx test) frame_isNone

/-- With a frame in the queue the fetch finds the lowest used entry. -/
theorem fetchOne_eq {queue : RxQueue} (used : 0 < canixRxqSize queue) :
    canixRxqFetchOne queue = lowestUsed (slots queue) ∧
      lowestUsed (slots queue) < canixQueueSize := by
  have found : queue.toList.findIdx (·.used) < canixQueueSize := by
    obtain ⟨entry, member, isUsed⟩ := List.countP_pos_iff.mp used
    have inside := List.findIdx_lt_length_of_exists ⟨entry, member, isUsed⟩
    rwa [Vector.length_toList] at inside
  rw [lowestUsed_slots]
  exact ⟨if_pos found, found⟩

/-- With room in the queue the frame goes into the lowest free entry. -/
theorem putOne_eq {queue : RxQueue} (room : canixRxqSize queue < canixQueueSize) :
    canixRxqPutOne queue = lowestFree (slots queue) ∧
      lowestFree (slots queue) < canixQueueSize := by
  have found : queue.toList.findIdx (fun entry => !entry.used) < canixQueueSize := by
    have unused : ∃ entry ∈ queue.toList, (!entry.used) = true := by
      by_contra absent
      have all : ∀ entry ∈ queue.toList, entry.used = true := by
        intro entry member
        by_contra free
        exact absent ⟨entry, member, by simpa using free⟩
      have full : canixRxqSize queue = canixQueueSize := by
        rw [canixRxqSize, List.countP_eq_length.mpr all, Vector.length_toList]
      omega
    have inside := List.findIdx_lt_length_of_exists unused
    rwa [Vector.length_toList] at inside
  rw [lowestFree_slots]
  exact ⟨if_pos found, found⟩

/-! ## What the interrupt and the fetch do to the slots -/

/-- Every stored frame fits into a data array. -/
def SizesFit (queue : RxQueue) : Prop :=
  ∀ entry ∈ queue.toList, entry.used = true → entry.size.toNat ≤ 8

theorem overlay_bytes (data target : Vector UInt8 8) {count : Nat} (fits : count ≤ 8) :
    (overlay (byteAt data) count target).toList.take count = data.toList.take count := by
  rw [overlay_take _ _ fits]
  refine List.ext_getElem ?_ ?_
  · rw [List.length_map, List.length_range, List.length_take, Vector.length_toList,
      Nat.min_eq_left fits]
  · intro i inRange inTake
    have inside : i < 8 := by
      have bound : i < count := by simpa using inRange
      omega
    rw [List.getElem_map, List.getElem_range, List.getElem_take, toList_byte, byteAt,
      dif_pos inside]

theorem slots_set (queue : RxQueue) {idx : Nat} (bound : idx < canixQueueSize)
    (entry : RxQueueEntry) :
    slots (queue.set idx entry) = (slots queue).set idx entry.frame := by
  rw [slots, Vector.toList_set, List.map_set, slots]

theorem sizesFit_set {queue : RxQueue} (fit : SizesFit queue) {idx : Nat}
    (bound : idx < canixQueueSize) {entry : RxQueueEntry}
    (here : entry.used = true → entry.size.toNat ≤ 8) : SizesFit (queue.set idx entry) := by
  intro other member used
  rw [Vector.toList_set] at member
  rcases List.mem_or_eq_of_mem_set member with old | rfl
  · exact fit other old used
  · exact here used

section Effects

variable {c : CanixState} (stack : Vector UInt8 8)

theorem timer0Ovf_idle (idle : mcp2515MessageAvailable c.chip = false) :
    timer0Ovf c stack = some c := by
  rw [timer0Ovf, if_neg (by rw [idle]; exact Bool.false_ne_true)]

/-- A frame that is too long runs over the array of the interrupt. -/
theorem timer0Ovf_long (available : mcp2515MessageAvailable c.chip = true)
    (long : 8 < (receivedSize c.chip).toNat) : timer0Ovf c stack = none := by
  rw [timer0Ovf, if_pos available, mcp2515ReadMessage_eq_none c.chip stack long]
  rfl

theorem timer0Ovf_store (available : mcp2515MessageAvailable c.chip = true)
    (fits : (receivedSize c.chip).toNat ≤ 8)
    (room : canixRxqSize c.queue < canixQueueSize) :
    ∃ next, timer0Ovf c stack = some next ∧
      slots next.queue =
        (slots c.queue).set (lowestFree (slots c.queue)) (some (receivedFrame c.chip)) ∧
      next.rxReceived = c.rxReceived + 1 ∧ next.rxLost = c.rxLost ∧
      (SizesFit c.queue → SizesFit next.queue) := by
  obtain ⟨place, _⟩ := putOne_eq room
  rw [timer0Ovf, if_pos available, mcp2515ReadMessage_eq c.chip stack fits, Option.bind_eq_bind,
    Option.bind_some]
  simp only
  rw [if_pos room, copyInto_of_le _ _ fits, Option.bind_eq_bind, Option.bind_some]
  refine ⟨_, rfl, ?_, rfl, rfl, ?_⟩
  · rw [slots_set _ (putOne_lt c.queue), RxQueueEntry.frame, if_pos rfl,
      overlay_bytes _ _ fits, overlay_take _ _ fits, ← place]
    rfl
  · intro fit
    exact sizesFit_set fit (putOne_lt c.queue) fun _ => fits

theorem timer0Ovf_full (available : mcp2515MessageAvailable c.chip = true)
    (fits : (receivedSize c.chip).toNat ≤ 8)
    (full : ¬ canixRxqSize c.queue < canixQueueSize) :
    ∃ next, timer0Ovf c stack = some next ∧ next.queue = c.queue ∧
      next.rxReceived = c.rxReceived ∧ next.rxLost = c.rxLost + 1 := by
  rw [timer0Ovf, if_pos available, mcp2515ReadMessage_eq c.chip stack fits, Option.bind_eq_bind,
    Option.bind_some]
  simp only
  rw [if_neg full]
  exact ⟨_, rfl, rfl, rfl, rfl⟩

theorem canReadMessage_empty (empty : ¬ 0 < canixRxqSize c.queue) (extended : UInt32)
    (data : Vector UInt8 8) : canReadMessage c extended data = some (⟨extended, 0, data⟩, c) := by
  rw [canReadMessage, if_neg empty]

theorem canReadMessage_fetch (fit : SizesFit c.queue) (used : 0 < canixRxqSize c.queue)
    (extended : UInt32) (data : Vector UInt8 8) :
    ∃ message next, canReadMessage c extended data = some (message, next) ∧
      (slots c.queue)[lowestUsed (slots c.queue)]? = some (some message.frame) ∧
      slots next.queue = (slots c.queue).set (lowestUsed (slots c.queue)) none ∧
      next.rxReceived = c.rxReceived ∧ next.rxLost = c.rxLost ∧ message.size.toNat ≤ 8 ∧
      SizesFit next.queue := by
  obtain ⟨place, found⟩ := fetchOne_eq used
  have bound := fetchOne_lt c.queue
  have isUsed : c.queue[canixRxqFetchOne c.queue].used = true := by
    have inside : c.queue.toList.findIdx (·.used) < c.queue.toList.length := by
      rw [← lowestUsed_slots, Vector.length_toList]
      exact found
    have here := List.findIdx_getElem (w := inside)
    simp only [← lowestUsed_slots, ← place, Vector.getElem_toList] at here
    exact here
  have member : c.queue[canixRxqFetchOne c.queue] ∈ c.queue.toList := by
    rw [Vector.mem_toList_iff]
    exact Vector.getElem_mem bound
  have fits : c.queue[canixRxqFetchOne c.queue].size.toNat ≤ 8 := fit _ member isUsed
  rw [canReadMessage, if_pos used]
  simp only
  rw [copyInto_of_le _ _ fits, Option.bind_eq_bind, Option.bind_some]
  refine ⟨_, _, rfl, ?_, ?_, rfl, rfl, fits, ?_⟩
  · have here : (slots c.queue)[canixRxqFetchOne c.queue]? =
        some c.queue[canixRxqFetchOne c.queue].frame := by
      rw [slots, List.getElem?_map, List.getElem?_eq_getElem (by rwa [Vector.length_toList]),
        Vector.getElem_toList]
      rfl
    rw [← place, here, RxQueueEntry.frame, if_pos isUsed, Message.frame, Message.payload,
      overlay_bytes _ _ fits]
  · rw [slots_set _ bound, ← place]
    rfl
  · exact sizesFit_set fit bound fun used => absurd used Bool.false_ne_true

end Effects

end Hcan.Canix
