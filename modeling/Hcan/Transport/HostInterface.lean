import Hcan.Canix.Sending
import Hcan.Transport.Hid

/-!
# The firmware of the host interface

It turns frames from the bus into text and text from the serial line into frames.
The parser knows the same grammar as `hcanhid`; what it cannot use ends in a loop
that waits for the watchdog.
-/

namespace Hcan.Transport

open Hcan.Library Hcan.Canix

/-- The globals of the firmware.  The bounds check behind every character keeps the
index inside. -/
structure HostInterface where
  canix : CanixState
  obuffer : Vector UInt8 64
  oindex : UInt8
  inside : oindex.toNat < 64
  /-- `none` stands for -1. -/
  firstBitsChar : Option UInt8
  /-- The characters written to the USB line. -/
  usb : List UInt8

namespace HostInterface

/-- The state that `main` enters its loop with, but for the boot message. -/
def reset (canix : CanixState) : HostInterface where
  canix := canix
  obuffer := .replicate 64 0
  oindex := 0
  inside := by decide
  firstBitsChar := none
  usb := []

def extended (hi : HostInterface) : UInt32 :=
  idOfBytes hi.obuffer[0] hi.obuffer[1] hi.obuffer[2] hi.obuffer[3]

/-- `handle_serial_command`; no result when the firmware waits for the watchdog. -/
def handleSerialCommand (hi : HostInterface) (command : UInt8) : Option HostInterface :=
  if command = 'B'.toUInt8 then
    some { hi with
      oindex := 0
      inside := by decide
      firstBitsChar := none
      usb := hi.usb ++ ['B'.toUInt8] }
  else if command = 'C'.toUInt8 then
    some { hi with oindex := 0, inside := by decide, firstBitsChar := none }
  else if command = 'F'.toUInt8 then
    if hi.obuffer[4].toNat + 5 = hi.oindex.toNat then
      let size := hi.obuffer[4]
      let data := (hi.obuffer.toList.drop 5).take size.toNat
      some { hi with canix := canSendMessage hi.canix hi.extended data size }
    else none
  else if command = 'P'.toUInt8 then some { hi with usb := hi.usb ++ ['P'.toUInt8] }
  else if command = 'R'.toUInt8 then none
  else if command = 'S'.toUInt8 then
    some { hi with usb := hi.usb ++ ['0'.toUInt8, '2'.toUInt8] }
  else some hi

/-- A character of a value.  The first digit is kept in an `int` from a signed `char`,
so that the byte 0xFF counts as no digit; a byte in the last place ends in the bounds check. -/
def handleValue (hi : HostInterface) (c : UInt8) : Option HostInterface :=
  match hi.firstBitsChar with
  | none => some { hi with firstBitsChar := if c = 0xFF then none else some c }
  | some first =>
      if inside : (hi.oindex + 1).toNat < 64 then
        some { hi with
          obuffer := hi.obuffer.set hi.oindex.toNat (convertHexstr2int first c) hi.inside
          oindex := hi.oindex + 1
          inside := inside
          firstBitsChar := none }
      else none

def handleSerialInput (hi : HostInterface) (c : UInt8) : Option HostInterface :=
  if isCommand c then hi.handleSerialCommand c else hi.handleValue c

def inputs (hi : HostInterface) (chars : List UInt8) : Option HostInterface :=
  chars.foldlM handleSerialInput hi

/-- `handle_frame_input`: a frame from the queue as text. -/
def handleFrameInput (hi : HostInterface) (extended : UInt32) (data : Vector UInt8 8) :
    Option HostInterface := do
  let (message, canix) ← canReadMessage hi.canix extended data
  let text := ['C'.toUInt8] ++ (idBytes message.extended).flatMap hexPair ++
    hexPair message.size ++ message.payload.flatMap hexPair ++ ['F'.toUInt8]
  some { hi with canix := canix, usb := hi.usb ++ text }

/-! ## Reading a frame text -/

theorem handleSerialInput_value (hi : HostInterface) {c : UInt8} (value : isCommand c = false) :
    hi.handleSerialInput c = hi.handleValue c := by
  rw [handleSerialInput, value, if_neg Bool.false_ne_true]

theorem hexchar_ne (c : UInt8) : hexchar ((c &&& 0xf0) >>> 4) ≠ 0xFF := by
  revert c
  refine forall_byte ?_
  decide +kernel

/-- What the digits of some bytes leave behind. -/
structure Filled (hi : HostInterface) (bytes : List UInt8) (next : HostInterface) : Prop where
  canix : next.canix = hi.canix
  obuffer : next.obuffer = store hi.obuffer hi.oindex.toNat bytes
  oindex : next.oindex.toNat = hi.oindex.toNat + bytes.length
  firstBitsChar : next.firstBitsChar = none
  usb : next.usb = hi.usb

theorem inputs_hexPair {hi : HostInterface} (aligned : hi.firstBitsChar = none) (byte : UInt8)
    (room : hi.oindex.toNat + 1 < 64) :
    ∃ next, hi.inputs (hexPair byte) = some next ∧ Filled hi [byte] next := by
  have up : (hi.oindex + 1).toNat = hi.oindex.toNat + 1 := Mcp2515.toNat_succ (by omega)
  have values := hexPair_not_command byte
  have first : hi.handleSerialInput (hexchar ((byte &&& 0xf0) >>> 4)) =
      some { hi with firstBitsChar := some (hexchar ((byte &&& 0xf0) >>> 4)) } := by
    rw [handleSerialInput_value hi (values _ List.mem_cons_self), handleValue, aligned]
    simp only
    rw [if_neg (hexchar_ne byte)]
  have second : ({ hi with firstBitsChar := some (hexchar ((byte &&& 0xf0) >>> 4)) } :
      HostInterface).handleSerialInput (hexchar (byte &&& 0x0f)) = some { hi with
        obuffer := hi.obuffer.set hi.oindex.toNat byte hi.inside
        oindex := hi.oindex + 1
        inside := by omega
        firstBitsChar := none } := by
    rw [handleSerialInput_value _ (values _ (List.mem_cons_of_mem _ (List.mem_singleton_self _))),
      handleValue]
    simp only
    rw [dif_pos (by omega), convert_hexPair]
  unfold inputs hexPair
  rw [List.foldlM_cons, first, Option.bind_eq_bind, Option.bind_some, List.foldlM_cons, second,
    Option.bind_eq_bind, Option.bind_some, List.foldlM_nil]
  refine ⟨_, rfl, rfl, ?_, up, rfl, rfl⟩
  exact set_eq_store hi.obuffer hi.inside byte

theorem inputs_append (hi : HostInterface) (front back : List UInt8) :
    hi.inputs (front ++ back) = (hi.inputs front).bind fun middle => middle.inputs back :=
  List.foldlM_append

/-- The digits of some bytes fill the buffer. -/
theorem inputs_bytes {hi : HostInterface} (aligned : hi.firstBitsChar = none) (bytes : List UInt8)
    (room : hi.oindex.toNat + bytes.length < 64) :
    ∃ next, hi.inputs (bytes.flatMap hexPair) = some next ∧ Filled hi bytes next := by
  induction bytes generalizing hi with
  | nil => exact ⟨hi, rfl, rfl, rfl, rfl, aligned, rfl⟩
  | cons byte bytes ih =>
      rw [List.length_cons] at room
      obtain ⟨middle, taken, front⟩ := inputs_hexPair aligned byte (by omega)
      have up : middle.oindex.toNat = hi.oindex.toNat + 1 := front.oindex
      obtain ⟨next, rest, back⟩ := ih front.firstBitsChar (by omega)
      rw [List.flatMap_cons, inputs_append, taken, Option.bind_some]
      refine ⟨next, rest, back.canix.trans front.canix, ?_, ?_, back.firstBitsChar,
        back.usb.trans front.usb⟩
      · rw [back.obuffer, front.obuffer, up]
        rfl
      · rw [back.oindex, up, List.length_cons]
        omega

/-- `C` begins a frame in every state. -/
theorem handleSerialInput_begin (hi : HostInterface) :
    hi.handleSerialInput 'C'.toUInt8 =
      some { hi with oindex := 0, inside := by decide, firstBitsChar := none } := by
  rw [handleSerialInput, if_pos (by decide), handleSerialCommand, if_neg (by decide), if_pos rfl]

theorem handleSerialInput_end {hi : HostInterface} {id : UInt32} {payload : List UInt8}
    (fits : payload.length ≤ 8) (oindex : hi.oindex.toNat = (frameBytes id payload).length)
    (filled : ∀ k, (inBytes : k < (frameBytes id payload).length) → (inBuffer : k < 64) →
      hi.obuffer[k] = (frameBytes id payload)[k]) :
    hi.handleSerialInput 'F'.toUInt8 = some { hi with
      canix := canSendMessage hi.canix id payload (UInt8.ofNat payload.length) } := by
  have length : (frameBytes id payload).length = payload.length + 5 := rfl
  have fourth : hi.obuffer[4] = UInt8.ofNat payload.length :=
    filled 4 (by omega) (by decide)
  have small : (UInt8.ofNat payload.length).toNat = payload.length := by
    rw [UInt8.toNat_ofNat']
    exact Nat.mod_eq_of_lt (by omega)
  have ids : hi.extended = id := by
    rw [extended, filled 0 (by omega) (by decide), filled 1 (by omega) (by decide),
      filled 2 (by omega) (by decide), filled 3 (by omega) (by decide)]
    exact idOfBytes_idBytes id
  have data : (hi.obuffer.toList.drop 5).take payload.length = payload := by
    refine List.ext_getElem ?_ ?_
    · rw [List.length_take, List.length_drop, Vector.length_toList]
      omega
    · intro k _ inPayload
      rw [List.getElem_take, List.getElem_drop, toList_byte,
        filled (5 + k) (by omega) (by omega)]
      simp only [Nat.add_comm 5 k]
      rfl
  rw [handleSerialInput, if_pos (by decide), handleSerialCommand, if_neg (by decide),
    if_neg (by decide), if_pos rfl, fourth, small, if_pos (by rw [oindex, length])]
  simp only
  rw [small, ids, data]

/-- A frame text is loaded into the CAN controller, whatever the parser has read before. -/
theorem inputs_frameText (hi : HostInterface) (id : UInt32) {payload : List UInt8}
    (fits : payload.length ≤ 8) :
    ∃ next, hi.inputs (frameText id payload) = some next ∧
      next.canix = canSendMessage hi.canix id payload (UInt8.ofNat payload.length) ∧
      next.usb = hi.usb := by
  have length : (frameBytes id payload).length = payload.length + 5 := rfl
  have zero : (0 : UInt8).toNat = 0 := rfl
  let ready : HostInterface := { hi with oindex := 0, inside := by decide, firstBitsChar := none }
  have idle : ready.firstBitsChar = none := rfl
  obtain ⟨next, taken, front⟩ := inputs_bytes idle (frameBytes id payload)
    (by simp only [zero, ready]; omega)
  have oindex : next.oindex.toNat = (frameBytes id payload).length := by
    rw [front.oindex]
    exact Nat.zero_add _
  have filled (k : Nat) (inBytes : k < (frameBytes id payload).length) (inBuffer : k < 64) :
      next.obuffer[k] = (frameBytes id payload)[k] := by
    have here := store_at hi.obuffer 0 (frameBytes id payload) inBytes (by omega)
    simp only [Nat.zero_add] at here
    simp only [front.obuffer]
    exact here
  have canix : next.canix = hi.canix := front.canix
  refine ⟨{ next with
    canix := canSendMessage next.canix id payload (UInt8.ofNat payload.length) }, ?_,
    by rw [canix], front.usb⟩
  rw [frameText, List.cons_append, ← List.singleton_append, inputs_append, inputs, List.foldlM_cons,
    handleSerialInput_begin]
  rw [Option.bind_eq_bind, Option.bind_some, List.foldlM_nil, Option.pure_def, Option.bind_some,
    inputs_append, taken, Option.bind_some, inputs, List.foldlM_cons,
    handleSerialInput_end fits oindex filled]
  rfl

end HostInterface

end Hcan.Transport
