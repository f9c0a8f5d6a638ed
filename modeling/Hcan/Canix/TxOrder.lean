import Hcan.Canix.TxAccounting
import Hcan.Library.Served

/-!
# The order of the frames on the bus

`can_send_message` takes the free buffer with the lowest number, and of the pending buffers the
controller sends the one with the highest number.  The messages are numbered by their calls, and
the numbers on the bus are compared with the order of the calls.
-/

namespace Hcan.Canix

open Hcan.Library

/-- What a call of `can_send_message` gets. -/
structure TxMessage where
  id : UInt32
  data : List UInt8
  fits : data.length ≤ 8

/-- The driver, the accepted messages in the order of the calls, the number of the message in each
buffer, and the numbers that have been on the bus. -/
structure TxBus where
  c : CanixState
  accepted : List TxMessage
  number : Fin 3 → ℕ
  bus : List ℕ

/-- The buffers 2, 1 and 0, as the controller prefers them. -/
def txOrder : List (Fin 3) := (List.finRange 3).reverse

namespace TxBus

/-- The number of the message that waits in a buffer. -/
def slot (s : TxBus) (buffer : Fin 3) : Option ℕ :=
  if canSendable s.c.chip (txIndex buffer) then none else some (s.number buffer)

/-- A transmission ends: it was the one of the pending buffer with the highest number. -/
def transmits (s : TxBus) : TxBus :=
  match served txOrder s.slot with
  | some buffer => { s with c := s.c.ended buffer, bus := s.bus ++ [s.number buffer] }
  | none => s

/-- The transmissions that end before the register access `place` of a call. -/
def rounds (during : List ℕ) (place : ℕ) (s : TxBus) : TxBus :=
  transmits^[during.getD place 0] s

/-- The message goes into a buffer. -/
def load (s : TxBus) (buffer : Fin 3) (message : TxMessage) : TxBus where
  c := s.c.loaded buffer message.id message.data (UInt8.ofNat message.data.length)
  accepted := s.accepted ++ [message]
  number := Function.update s.number buffer s.accepted.length
  bus := s.bus

def chip (s : TxBus) : Mcp2515 := s.c.chip

/-- The buffer that a call finds, and the state in which it loads it. -/
def found (s : TxBus) (during : List ℕ) : Option (Fin 3) × TxBus :=
  match freeBuffer chip (rounds during) s with
  | (some buffer, s) => (some buffer, rounds during 3 s)
  | (none, s) => (none, s)

/-- `can_send_message`. -/
def send (s : TxBus) (message : TxMessage) (during : List ℕ) : TxBus :=
  match s.found during with
  | (some buffer, s) => s.load buffer message
  | (none, s) => { s with c := s.c.dropped }

end TxBus

inductive TxEvent where
  | transmits
  | send (message : TxMessage) (during : List ℕ)

namespace TxBus

def step (s : TxBus) : TxEvent → TxBus
  | .transmits => s.transmits
  | .send message during => s.send message during

/-- Behind the reset the registers TXBnCTRL are 0. -/
def boot (c : CanixState) : TxBus where
  c := { c with chip := ⟨fun address =>
    if address ∈ txOrder.map fun buffer => ofBuffer txb0ctrl (txIndex buffer) then 0
    else c.chip.reg address⟩ }
  accepted := []
  number := fun _ => 0
  bus := []

/-- The bus shows the accepted messages in the order of the calls, however many of the
transmissions end that are pending. -/
def Ordered (s : TxBus) : Prop := ∀ n, (transmits^[n] s).bus <+: List.range s.accepted.length

/-- Each message that is accepted finds the buffers below its own free when it is loaded. -/
def LoadsLowest (s : TxBus) : TxEvent → Prop
  | .transmits => True
  | .send _ during => ∀ buffer, (s.found during).1 = some buffer →
      ∀ lower < buffer, canSendable (s.found during).2.chip (txIndex lower) = true

theorem txOrder_nodup : txOrder.Nodup := by decide

/-- The messages in the order in which they will leave. -/
def waits (s : TxBus) : List ℕ := waiting txOrder s.slot

theorem slot_transmits {s : TxBus} {buffer : Fin 3} (next : served txOrder s.slot = some buffer) :
    s.transmits.slot = Function.update s.slot buffer none := by
  unfold transmits
  rw [next]
  funext other
  unfold slot CanixState.ended
  dsimp only
  rw [canSendable_transmitted]
  by_cases same : other = buffer
  · rw [same, Function.update_self, decide_eq_true rfl, Bool.true_or, if_pos rfl]
  · rw [Function.update_of_ne same, decide_eq_false same, Bool.false_or]

theorem slot_load (s : TxBus) (buffer : Fin 3) (message : TxMessage) :
    (s.load buffer message).slot = Function.update s.slot buffer (some s.accepted.length) := by
  funext other
  unfold slot load CanixState.loaded
  dsimp only
  rw [canSendable_load _ _ _ _ _ message.fits]
  by_cases same : other = buffer
  · rw [same, Function.update_self, Function.update_self, decide_eq_false fun apart => apart rfl,
      Bool.false_and, if_neg Bool.false_ne_true]
  · rw [Function.update_of_ne same, Function.update_of_ne same, decide_eq_true same, Bool.true_and]

/-- A transmission brings the first waiting message to the bus. -/
theorem transmits_spec (s : TxBus) :
    (s.waits = [] ∧ s.transmits = s) ∨
      ∃ value, s.waits = value :: s.transmits.waits ∧ s.transmits.bus = s.bus ++ [value] ∧
        s.transmits.accepted = s.accepted := by
  cases next : served txOrder s.slot with
  | none =>
      refine .inl ⟨waiting_nil_of_served next, ?_⟩
      unfold transmits
      rw [next]
  | some buffer =>
      obtain ⟨value, used, first⟩ := waiting_serve txOrder_nodup next
      have own : s.number buffer = value := by
        unfold slot at used
        split at used
        · cases used
        · exact Option.some.inj used
      refine .inr ⟨value, ?_, ?_, ?_⟩
      · rw [waits, first, waits, slot_transmits next]
      · unfold transmits
        rw [next, ← own]
      · unfold transmits
        rw [next]

/-- The messages on the bus and those that wait are the accepted ones, in the order of the calls. -/
def InOrder (s : TxBus) : Prop := s.bus ++ s.waits = List.range s.accepted.length

theorem inOrder_transmits {s : TxBus} (order : s.InOrder) : s.transmits.InOrder := by
  rcases transmits_spec s with ⟨-, same⟩ | ⟨value, first, bus, accepted⟩
  · rwa [same]
  · unfold InOrder
    rw [bus, accepted, List.append_assoc, List.singleton_append, ← first]
    exact order

theorem inOrder_iterate {s : TxBus} (order : s.InOrder) (n : ℕ) : (transmits^[n] s).InOrder := by
  induction n with
  | zero => exact order
  | succ n ih =>
      rw [Function.iterate_succ_apply']
      exact inOrder_transmits ih

theorem accepted_transmits (s : TxBus) : s.transmits.accepted = s.accepted := by
  rcases transmits_spec s with ⟨-, same⟩ | ⟨value, -, -, accepted⟩
  · rw [same]
  · exact accepted

theorem accepted_iterate (s : TxBus) (n : ℕ) : (transmits^[n] s).accepted = s.accepted := by
  induction n with
  | zero => rfl
  | succ n ih => rw [Function.iterate_succ_apply', accepted_transmits, ih]

/-- After enough transmissions all messages that waited have been on the bus. -/
theorem exists_all_sent (s : TxBus) : ∃ n, (transmits^[n] s).bus = s.bus ++ s.waits := by
  generalize count : s.waits.length = k
  induction k generalizing s with
  | zero => exact ⟨0, by rw [List.eq_nil_of_length_eq_zero count, List.append_nil]; rfl⟩
  | succ k ih =>
      rcases transmits_spec s with ⟨none_, -⟩ | ⟨value, first, bus, -⟩
      · rw [none_] at count
        cases count
      · rw [first, List.length_cons] at count
        obtain ⟨n, sent⟩ := ih s.transmits (Nat.succ.inj count)
        refine ⟨n + 1, ?_⟩
        rw [Function.iterate_succ_apply, sent, bus, first, List.append_assoc, List.singleton_append]

/-- When no message is lost, the order on the bus is that of the messages that wait. -/
theorem ordered_iff_inOrder {s : TxBus}
    (complete : (s.bus ++ s.waits).length = s.accepted.length) : s.Ordered ↔ s.InOrder := by
  constructor
  · intro ordered
    obtain ⟨n, sent⟩ := exists_all_sent s
    refine (sent ▸ ordered n).eq_of_length ?_
    rw [complete, List.length_range]
  · intro order n
    have later := inOrder_iterate order n
    rw [InOrder, accepted_iterate] at later
    exact later ▸ List.prefix_append _ _

theorem ordered_of_inOrder {s : TxBus} (order : s.InOrder) : s.Ordered := by
  refine (ordered_iff_inOrder ?_).mpr order
  rw [order, List.length_range]

/-! ## One call -/

theorem free_transmits {s : TxBus} {buffer : Fin 3}
    (free : canSendable s.chip (txIndex buffer) = true) :
    canSendable s.transmits.chip (txIndex buffer) = true := by
  unfold transmits
  split
  · unfold chip CanixState.ended
    dsimp only
    rw [canSendable_transmitted]
    exact (congrArg (_ || ·) free).trans (Bool.or_true _)
  · exact free

/-- What a transmission keeps holds at each access of a call. -/
theorem rounds_keeps {holds : TxBus → Prop} (keeps : ∀ s, holds s → holds s.transmits)
    (during : List ℕ) (place : ℕ) (s : TxBus) (start : holds s) :
    holds (rounds during place s) := by
  unfold rounds
  generalize during.getD place 0 = n
  induction n with
  | zero => exact start
  | succ n ih =>
      rw [Function.iterate_succ_apply']
      exact keeps _ ih

theorem found_keeps {holds : TxBus → Prop} (keeps : ∀ s, holds s → holds s.transmits) {s : TxBus}
    (during : List ℕ) (start : holds s) : holds (s.found during).2 := by
  have last := @freeBuffer_keeps _ chip _ _ (rounds_keeps keeps during) s start
  unfold found
  generalize freeBuffer chip (rounds during) s = tested at last ⊢
  obtain ⟨buffer, next⟩ := tested
  cases buffer with
  | none => exact last
  | some buffer => exact rounds_keeps keeps during 3 next last

/-- The buffer that a call loads is free. -/
theorem found_free {s : TxBus} {during : List ℕ} {buffer : Fin 3}
    (some_ : (s.found during).1 = some buffer) : (s.found during).2.slot buffer = none := by
  have free := @freeBuffer_free _ chip (rounds during) s
  refine if_pos ?_
  unfold found at some_ ⊢
  generalize freeBuffer chip (rounds during) s = tested at some_ free ⊢
  obtain ⟨first, next⟩ := tested
  cases first with
  | none => cases some_
  | some first =>
      obtain rfl : first = buffer := Option.some.inj some_
      have keeps (s : TxBus) (sendable : canSendable s.chip (txIndex first) = true) :
          canSendable s.transmits.chip (txIndex first) = true := free_transmits sendable
      exact rounds_keeps keeps during 3 next (free rfl)

/-- A call loads a free buffer that it finds, or counts its message as dropped. -/
theorem send_cases (s : TxBus) (message : TxMessage) (during : List ℕ) :
    ((s.found during).1 = none ∧
        s.send message during = { (s.found during).2 with c := (s.found during).2.c.dropped }) ∨
      ∃ buffer, (s.found during).1 = some buffer ∧ (s.found during).2.slot buffer = none ∧
        s.send message during = (s.found during).2.load buffer message := by
  have free (buffer : Fin 3) := @found_free s during buffer
  unfold send
  generalize s.found during = found at free ⊢
  obtain ⟨buffer, next⟩ := found
  cases buffer with
  | none => exact .inl ⟨rfl, rfl⟩
  | some buffer => exact .inr ⟨buffer, rfl, free buffer rfl, rfl⟩

theorem txOrder_split (buffer : Fin 3) : txOrder = txOrder.filter (fun other => buffer < other) ++
    buffer :: txOrder.filter fun other => other < buffer := by
  revert buffer
  decide

theorem mem_behind {buffer other : Fin 3} :
    (other ∈ txOrder.filter fun other => other < buffer) ↔ other < buffer := by
  revert buffer other
  decide

section Load

variable {s : TxBus} {buffer : Fin 3}

/-- Behind the load one more message waits, in front of those of the buffers below. -/
theorem waits_load (free : s.slot buffer = none) (message : TxMessage) :
    ∃ front back, s.waits = front ++ back ∧
      (s.load buffer message).waits = front ++ s.accepted.length :: back := by
  have nodup := txOrder_nodup
  rw [txOrder_split buffer] at nodup
  obtain ⟨before, behind⟩ := waiting_put nodup free s.accepted.length
  rw [← txOrder_split buffer] at before behind
  refine ⟨_, _, before, ?_⟩
  rw [waits, slot_load, behind]

theorem accepted_load (message : TxMessage) :
    (s.load buffer message).accepted.length = s.accepted.length + 1 :=
  List.length_append

/-- Loading loses no message. -/
theorem complete_load (order : s.InOrder) (free : s.slot buffer = none) (message : TxMessage) :
    ((s.load buffer message).bus ++ (s.load buffer message).waits).length =
      (s.load buffer message).accepted.length := by
  obtain ⟨front, back, before, behind⟩ := waits_load free message
  have length := congrArg List.length order
  have bus : (s.load buffer message).bus = s.bus := rfl
  rw [before, List.length_range] at length
  rw [behind, bus, accepted_load]
  simp only [List.length_append, List.length_cons] at length ⊢
  omega

/-- Loading keeps the order exactly when the buffers below are free. -/
theorem inOrder_load_iff (order : s.InOrder) (free : s.slot buffer = none) (message : TxMessage) :
    (s.load buffer message).InOrder ↔
      ∀ lower < buffer, canSendable s.chip (txIndex lower) = true := by
  have nodup := txOrder_nodup
  have new : s.accepted.length ∉ waiting txOrder s.slot := by
    intro inside
    have known : s.accepted.length ∈ List.range s.accepted.length :=
      order ▸ List.mem_append_right s.bus inside
    exact Nat.lt_irrefl _ (List.mem_range.mp known)
  rw [txOrder_split buffer] at nodup new
  have last := waiting_put_last_iff nodup free new
  rw [← txOrder_split buffer, ← slot_load s buffer message] at last
  have still : (s.load buffer message).InOrder ↔
      (s.load buffer message).waits = s.waits ++ [s.accepted.length] := by
    unfold InOrder
    rw [accepted_load, List.range_succ, ← order, List.append_assoc]
    exact List.append_right_inj s.bus
  refine (still.trans last).trans ⟨fun empty lower below => ?_, fun sendable lower inside => ?_⟩
  · have none_ := empty lower (mem_behind.mpr below)
    unfold slot at none_
    split at none_
    case isTrue sendable => exact sendable
    case isFalse => cases none_
  · exact if_pos (sendable lower (mem_behind.mp inside))

end Load

section Step

variable {s : TxBus} (order : s.InOrder)
include order

theorem inOrder_found (during : List ℕ) : (s.found during).2.InOrder := by
  have keeps (s : TxBus) (order : s.InOrder) : s.transmits.InOrder := inOrder_transmits order
  exact found_keeps keeps during order

/-- No step loses a message. -/
theorem complete_step (event : TxEvent) :
    ((s.step event).bus ++ (s.step event).waits).length = (s.step event).accepted.length := by
  cases event with
  | transmits =>
      have later := inOrder_transmits order
      change (s.transmits.bus ++ s.transmits.waits).length = s.transmits.accepted.length
      rw [later, List.length_range]
  | send message during =>
      have later := inOrder_found order during
      change ((s.send message during).bus ++ (s.send message during).waits).length =
        (s.send message during).accepted.length
      rcases send_cases s message during with ⟨-, dropped⟩ | ⟨buffer, -, free, loaded⟩
      · have same := congrArg List.length later
        rw [List.length_range] at same
        rw [dropped]
        exact same
      · rw [loaded]
        exact complete_load later free message

/-- A step keeps the order exactly when its message is loaded behind the others. -/
theorem inOrder_step_iff (event : TxEvent) : (s.step event).InOrder ↔ s.LoadsLowest event := by
  cases event with
  | transmits => exact iff_of_true (inOrder_transmits order) trivial
  | send message during =>
      have later := inOrder_found order during
      change (s.send message during).InOrder ↔ ∀ buffer, (s.found during).1 = some buffer →
        ∀ lower < buffer, canSendable (s.found during).2.chip (txIndex lower) = true
      rcases send_cases s message during with ⟨none_, dropped⟩ | ⟨buffer, some_, free, loaded⟩
      · rw [dropped, none_]
        have still : InOrder { (s.found during).2 with c := (s.found during).2.c.dropped } := later
        exact iff_of_true still fun _ absent => nomatch absent
      · rw [loaded, inOrder_load_iff later free message, some_]
        constructor
        · intro sendable other same
          cases same
          exact sendable
        · exact fun sendable => sendable buffer rfl

theorem ordered_step_iff (event : TxEvent) : (s.step event).Ordered ↔ s.LoadsLowest event :=
  (ordered_iff_inOrder (complete_step order event)).trans (inOrder_step_iff order event)

end Step

theorem ctrl_boot (c : CanixState) (buffer : Fin 3) :
    (boot c).chip.reg (ofBuffer txb0ctrl (txIndex buffer)) = 0 := by
  refine if_pos ?_
  revert buffer
  decide

theorem free_boot (c : CanixState) (buffer : Fin 3) : (boot c).slot buffer = none := by
  refine if_pos (decide_eq_true ?_)
  exact congrArg (· &&& txreq) (ctrl_boot c buffer)

theorem inOrder_boot (c : CanixState) : (boot c).InOrder := by
  have empty : (boot c).waits = [] :=
    List.filterMap_eq_nil_iff.mpr fun buffer _ => free_boot c buffer
  unfold InOrder
  rw [empty]
  rfl

/-- The lowest buffer is found first. -/
theorem freeTxBuffer_zero {chip : Mcp2515} (found : freeTxBuffer chip = some 0) :
    canSendable chip 0 = true := by
  unfold freeTxBuffer at found
  split at found
  case isTrue zero => exact zero
  case isFalse =>
    split at found
    case isTrue => exact absurd (Option.some.inj found) (by decide)
    case isFalse =>
      split at found
      case isTrue => exact absurd (Option.some.inj found) (by decide)
      case isFalse => cases found

/-- The buffer that a call finds in which no transmission ends. -/
theorem found_rest (s : TxBus) : (s.found []).2 = s ∧
    (s.found []).1.map txIndex = freeTxBuffer s.chip := by
  have tested := freeBuffer_rest chip s
  have rest : rounds [] = fun _ s => s := rfl
  unfold found
  rw [rest]
  generalize freeBuffer chip (fun _ s => s) s = tests at tested
  obtain ⟨buffer, next⟩ := tests
  obtain ⟨index, same⟩ := Prod.mk.inj tested
  cases buffer with
  | none => exact ⟨same, index⟩
  | some buffer => exact ⟨same, index⟩

/-- A call in which no transmission ends keeps the order when buffer 0 is free or all buffers are
pending. -/
theorem loadsLowest_rest_iff (s : TxBus) (message : TxMessage) :
    s.LoadsLowest (.send message []) ↔
      canSendable s.chip 0 = true ∨ freeTxBuffer s.chip = none := by
  obtain ⟨same, index⟩ := found_rest s
  change (∀ buffer, (s.found []).1 = some buffer →
    ∀ lower < buffer, canSendable (s.found []).2.chip (txIndex lower) = true) ↔ _
  rw [same, ← index]
  cases found : (s.found []).1 with
  | none => exact iff_of_true (fun _ none_ => nomatch none_) (.inr rfl)
  | some buffer =>
      rw [found] at index
      constructor
      · intro sendable
        match buffer with
        | 0 => exact .inl (freeTxBuffer_zero index.symm)
        | 1 => exact .inl (sendable 1 rfl 0 (by decide))
        | 2 => exact .inl (sendable 2 rfl 0 (by decide))
      · rintro (zero | none_) other chosen lower below
        · cases chosen
          have first : freeTxBuffer s.chip = some 0 := if_pos zero
          have lowest : txIndex buffer = txIndex 0 := Option.some.inj (index.trans first)
          obtain rfl : buffer = 0 := by
            by_contra apart
            exact txIndex_ne_iff.mpr apart lowest
          exact absurd below (Fin.not_lt_zero lower)
        · cases none_

/-- In a run the messages leave in the order of the calls exactly when each one that is accepted
finds the buffers below its own free: in a call during which no transmission ends, when buffer 0 is
free or all buffers are pending. -/
theorem tx_ordered_iff (c : CanixState) (events : List TxEvent) :
    (AlwaysHolds step Ordered (boot c) events ↔ AlwaysFits step LoadsLowest (boot c) events) ∧
      ∀ (s : TxBus) (message : TxMessage), s.LoadsLowest (.send message []) ↔
        canSendable s.chip 0 = true ∨ freeTxBuffer s.chip = none :=
  ⟨alwaysHolds_part_iff InOrder (inOrder_boot c) (fun _ => ordered_of_inOrder)
    (fun _ event order => ordered_step_iff order event)
    fun _ event order => (inOrder_step_iff order event).mpr, loadsLowest_rest_iff⟩

/-- Two messages of one call each, and no transmission ends between them. -/
def twoMessages : List TxEvent := List.replicate 2 (.send ⟨0, [], by decide⟩ [])

/-- The second message overtakes the first one. -/
theorem tx_ordered_fails :
    ¬ AlwaysHolds step Ordered
      (boot ⟨⟨fun _ => 0⟩, Vector.replicate 12 ⟨false, 0, 0, Vector.replicate 8 0⟩, 0, 0, 0, 0⟩)
      twoMessages := by
  intro ordered
  have first := ordered twoMessages (List.prefix_refl _) 1
  exact absurd first (by decide)

/-! ## What the buffers hold -/

/-- The registers of a buffer hold a message. -/
structure Holds (chip : Mcp2515) (buffer : Fin 3) (message : TxMessage) : Prop where
  id : ∀ k (inside : k < 4), chip.reg (ofBuffer txb0sidh (txIndex buffer) + UInt8.ofNat k) =
    (idRegisters message.id)[k]
  length : chip.reg (ofBuffer txb0dlc (txIndex buffer)) = UInt8.ofNat message.data.length
  data : ∀ i (inside : i < message.data.length),
    chip.reg (ofBuffer txb0d0 (txIndex buffer) + UInt8.ofNat i) = message.data[i]

/-- The priority bits TXP of a buffer. -/
def txPriority (chip : Mcp2515) (buffer : Fin 3) : UInt8 :=
  chip.reg (ofBuffer txb0ctrl (txIndex buffer)) &&& 0x03

/-- Each message that waits is in its buffer, and the buffers have one priority. -/
structure Sound (s : TxBus) : Prop where
  holds : ∀ buffer number, s.slot buffer = some number →
    ∃ message, s.accepted[number]? = some message ∧ Holds s.chip buffer message
  priority : ∀ buffer, txPriority s.chip buffer = 0

theorem holds_congr {chip other : Mcp2515} {buffer : Fin 3} {message : TxMessage}
    (holds : Holds chip buffer message)
    (same : ∀ register : UInt8, (ofBuffer txb0ctrl (txIndex buffer)).toNat < register.toNat →
      register.toNat < (ofBuffer txb0ctrl (txIndex buffer)).toNat + 16 →
        other.reg register = chip.reg register) : Holds other buffer message := by
  obtain ⟨ctrl, -, dlc, -, -⟩ := buffer_places (txIndex_cases buffer)
  have fits := message.fits
  have offset {register : UInt8} (low : register.toNat < 0x40) {k : ℕ} (small : k < 16) :=
    ofBuffer_add_toNat (txIndex_cases buffer) low small
  refine ⟨fun k inside => ?_, ?_, fun i inside => ?_⟩
  · have here : _ = 0x31 + 16 * (txIndex buffer).toNat + k :=
      offset (by decide : txb0sidh.toNat < 0x40) (by omega)
    rw [same _ (by omega) (by omega)]
    exact holds.id k inside
  · rw [same _ (by omega) (by omega)]
    exact holds.length
  · have here : _ = 0x36 + 16 * (txIndex buffer).toNat + i :=
      offset (by decide : txb0d0.toNat < 0x40) (by omega)
    rw [same _ (by omega) (by omega)]
    exact holds.data i inside

/-- Neither the end of a transmission nor a load changes the priority bits. -/
theorem priority_bits (control value : UInt8) :
    ((control &&& ~~~txreq) ||| (value &&& txreq)) &&& 0x03 = control &&& 0x03 := by
  refine uint8_ext fun i inside => ?_
  simp only [txreq, UInt8.toBitVec_or, UInt8.toBitVec_and, UInt8.toBitVec_not, BitVec.getLsbD_or,
    BitVec.getLsbD_and]
  interval_cases i
  all_goals simp

theorem txPriority_congr {chip other : Mcp2515} {buffer : Fin 3}
    (same : other.reg (ofBuffer txb0ctrl (txIndex buffer)) =
      chip.reg (ofBuffer txb0ctrl (txIndex buffer))) :
    txPriority other buffer = txPriority chip buffer := by
  unfold txPriority
  rw [same]

theorem txPriority_bitModify (chip : Mcp2515) (buffer other : Fin 3) (value : UInt8) :
    txPriority (chip.bitModify (ofBuffer txb0ctrl (txIndex buffer)) txreq value) other =
      txPriority chip other := by
  by_cases same : other = buffer
  · subst same
    unfold txPriority Mcp2515.bitModify
    rw [Mcp2515.writeRegister_same]
    exact priority_bits _ value
  · exact txPriority_congr (chip.bitModify_other _ _ (ofBuffer_ctrl_ne same))

theorem sound_transmits {s : TxBus} (sound : s.Sound) : s.transmits.Sound := by
  cases next : served txOrder s.slot with
  | none =>
      unfold transmits
      rwa [next]
  | some sent =>
      have slots := slot_transmits next
      have chip_ : s.transmits.chip = s.chip.transmitted sent := by
        unfold transmits
        rw [next]
        rfl
      refine ⟨fun buffer number used => ?_, fun buffer => ?_⟩
      · rw [slots] at used
        have apart : buffer ≠ sent := by
          rintro rfl
          rw [Function.update_self] at used
          cases used
        rw [Function.update_of_ne apart] at used
        obtain ⟨message, accepted, holds⟩ := sound.holds buffer number used
        refine ⟨message, (accepted_transmits s).symm ▸ accepted, holds_congr holds ?_⟩
        intro register low high
        obtain ⟨here, -⟩ := buffer_places (txIndex_cases buffer)
        obtain ⟨there, -⟩ := buffer_places (txIndex_cases sent)
        rw [chip_]
        exact Mcp2515.bitModify_other _ _ _ (ne_of_toNat (by omega))
      · rw [chip_, Mcp2515.transmitted, txPriority_bitModify]
        exact sound.priority buffer

theorem sound_load {s : TxBus} (sound : s.Sound) (buffer : Fin 3) (message : TxMessage) :
    (s.load buffer message).Sound := by
  have slots := slot_load s buffer message
  have loaded : (s.load buffer message).chip = loadTxBuffer s.chip (txIndex buffer) message.id
    message.data (UInt8.ofNat message.data.length) := rfl
  have accepted : (s.load buffer message).accepted = s.accepted ++ [message] := rfl
  refine ⟨fun other number used => ?_, fun other => ?_⟩
  · rw [slots] at used
    by_cases same : other = buffer
    · subst same
      rw [Function.update_self] at used
      obtain rfl : s.accepted.length = number := Option.some.inj used
      refine ⟨message, by rw [accepted, List.getElem?_concat_length], ?_, ?_, ?_⟩
      · exact fun k inside => loadTxBuffer_id _ _ _ (txIndex_cases other) message.fits inside
      · exact loadTxBuffer_dlc _ _ _ (txIndex_cases other) message.fits
      · exact fun i inside => loadTxBuffer_data _ _ _ (txIndex_cases other) message.fits inside
    · rw [Function.update_of_ne same] at used
      obtain ⟨earlier, known, holds⟩ := sound.holds other number used
      obtain ⟨inside, -⟩ := List.getElem?_eq_some_iff.mp known
      refine ⟨earlier, ?_, holds_congr holds fun register low high => ?_⟩
      · rw [accepted, List.getElem?_append_left inside, known]
      · rw [loaded]
        exact loadTxBuffer_other _ _ _ message.fits same (by omega) high
  · rw [← sound.priority other, loaded]
    by_cases same : other = buffer
    · subst same
      obtain ⟨ctrl, sidh, dlc, d0, upper⟩ := buffer_places (txIndex_cases other)
      have fits := message.fits
      have four : (idRegisters message.id).length = 4 := rfl
      unfold loadTxBuffer
      rw [txPriority_bitModify]
      refine txPriority_congr ?_
      rw [Mcp2515.writeRegisterP_below _ _ _ (by omega) (by omega),
        Mcp2515.writeRegister_other _ _ (ne_of_toNat (by omega)),
        Mcp2515.writeRegisterP_below _ _ _ (by omega) (by omega)]
    · exact txPriority_congr
        (loadTxBuffer_other _ _ _ message.fits same (Nat.le_refl _) (by omega))

theorem sound_step {s : TxBus} (sound : s.Sound) (event : TxEvent) : (s.step event).Sound := by
  have keeps (s : TxBus) (sound : s.Sound) : s.transmits.Sound := sound_transmits sound
  cases event with
  | transmits => exact sound_transmits sound
  | send message during =>
      have later := found_keeps keeps during sound
      change (s.send message during).Sound
      rcases send_cases s message during with ⟨-, dropped⟩ | ⟨buffer, -, -, loaded⟩
      · rw [dropped]
        exact ⟨later.holds, later.priority⟩
      · rw [loaded]
        exact sound_load later buffer message

/-- In every state of a run each message that waits is whole in its buffer, and the controller has
the numbers of the buffers alone to choose by. -/
theorem sound_run (c : CanixState) (events : List TxEvent) :
    (runAll step (boot c) events).Sound := by
  refine runAll_invariant Sound ?_ fun _ event sound => sound_step sound event
  refine ⟨fun buffer number used => ?_, fun buffer => ?_⟩
  · rw [free_boot] at used
    cases used
  · exact congrArg (· &&& 0x03) (ctrl_boot c buffer)

end TxBus

end Hcan.Canix
