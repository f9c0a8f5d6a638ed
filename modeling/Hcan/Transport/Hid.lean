import Hcan.Library.Bytes
import Hcan.Library.Copy
import Hcan.Transport.HexText

/-!
# The daemon `hcanhid`

The parser of the serial input with the slot for the frame towards `hcand`.  A step
is one pass of the main loop: it empties the slot when the socket is writable and
reads a character when there is one.  Bytes that `reset_HI` drops while it empties
the line are no part of the input.
-/

namespace Hcan.Transport

open Hcan.Library

/-- The record that travels over the sockets. -/
structure CANFrame where
  id : UInt32
  size : UInt32
  data : Vector UInt8 8
  deriving DecidableEq, Repr

def CANFrame.payload (frame : CANFrame) : List UInt8 := frame.data.toList.take frame.size.toNat

structure Hid where
  ibuffer : Vector UInt8 64
  iindex : UInt8
  /-- `none` stands for -1. -/
  firstBitsChar : Option UInt8
  /-- `Y` has been read and `recchar` waits for the reset flag. -/
  awaitingFlag : Bool
  /-- The frame in `frame_to_hcand` while the busy flag is set. -/
  frameToHcand : Option CANFrame
  toHI : List UInt8
  deriving DecidableEq, Repr

/-- The state that `main` begins with; `toHI` is empty behind the reset of the line. -/
def Hid.reset : Hid where
  ibuffer := .replicate 64 0
  iindex := 0
  firstBitsChar := none
  awaitingFlag := false
  frameToHcand := none
  toHI := []

/-- The identifier in the first four bytes of the buffer. -/
def Hid.extended (s : Hid) : UInt32 :=
  idOfBytes s.ibuffer[0] s.ibuffer[1] s.ibuffer[2] s.ibuffer[3]

/-- `ibuffer[4] == iindex - 5`; the difference is an `int`. -/
def Hid.sizeMatches (s : Hid) : Bool := s.ibuffer[4].toNat + 5 = s.iindex.toNat

/-- `ibuffer[i]`; the loops below stay inside. -/
def Hid.bufferAt (s : Hid) (i : Nat) : UInt8 := if bound : i < 64 then s.ibuffer[i] else 0

/-- The frame that `F` ends; `stack` is what the local record holds before. -/
def Hid.frame (s : Hid) (stack : Vector UInt8 8) : Option CANFrame := do
  let data ← copyInto (fun i => s.bufferAt (5 + i)) s.ibuffer[4].toNat stack
  some ⟨s.extended, s.ibuffer[4].toUInt32, data⟩

/-- `handle_serial_command`; no result when a write goes outside an array. -/
def Hid.handleSerialCommand (s : Hid) (stack : Vector UInt8 8) (command : UInt8) : Option Hid :=
  if command = 'B'.toUInt8 then some { s with iindex := 0 }
  else if command = 'Y'.toUInt8 then some { s with awaitingFlag := true }
  else if command = 'C'.toUInt8 then some { s with iindex := 0 }
  else if command = 'F'.toUInt8 then
    if s.sizeMatches then do
      let frame ← s.frame stack
      -- a frame that finds the slot taken is dropped with a message
      some { s with frameToHcand := s.frameToHcand.or (some frame) }
    else some { s with iindex := 0, toHI := s.toHI ++ ['R'.toUInt8] }
  else some { s with toHI := s.toHI ++ ['R'.toUInt8] }

/-- A character of a value: the first digit is kept, the second one ends a byte. -/
def Hid.handleValue (s : Hid) (c : UInt8) : Option Hid :=
  match s.firstBitsChar with
  | none => some { s with firstBitsChar := some c }
  | some first =>
      if bound : s.iindex.toNat < 64 then
        some { s with
          ibuffer := s.ibuffer.set s.iindex.toNat (convertHexstr2int first c)
          iindex := s.iindex + 1
          firstBitsChar := none }
      else none

def Hid.input (s : Hid) (stack : Vector UInt8 8) (c : UInt8) : Option Hid :=
  if s.awaitingFlag then some { s with iindex := 0, awaitingFlag := false }
  else if isCommand c then s.handleSerialCommand stack c
  else s.handleValue c

/-- A pass of the main loop: what `select` reports, and the stack at that time. -/
structure Pass where
  writable : Bool
  char : Option UInt8
  stack : Vector UInt8 8

def Hid.flush (s : Hid) (writable : Bool) : Hid :=
  if writable then { s with frameToHcand := none } else s

def Hid.pass (s : Hid) (pass : Pass) : Option Hid :=
  match pass.char with
  | none => some (s.flush pass.writable)
  | some c => (s.flush pass.writable).input pass.stack c

/-- The frame that a pass puts into the empty slot. -/
def Hid.delivered (s : Hid) (pass : Pass) : Option CANFrame :=
  let s := s.flush pass.writable
  if pass.char = some 'F'.toUInt8 ∧ s.awaitingFlag = false ∧ s.sizeMatches = true ∧
      s.frameToHcand = none then s.frame pass.stack
  else none

/-- The state behind some passes, with the frames delivered on the way. -/
def Hid.run (s : Hid) : List Pass → Option (Hid × List CANFrame)
  | [] => some (s, [])
  | pass :: passes => do
      let next ← s.pass pass
      let (last, frames) ← next.run passes
      some (last, (s.delivered pass).toList ++ frames)

theorem input_end {s : Hid} (ready : s.awaitingFlag = false) (stack : Vector UInt8 8) :
    s.input stack 'F'.toUInt8 =
      if s.sizeMatches = true then (s.frame stack).map fun frame =>
        { s with frameToHcand := s.frameToHcand.or (some frame) }
      else some { s with iindex := 0, toHI := s.toHI ++ ['R'.toUInt8] } := by
  rw [Hid.input, if_neg (by rw [ready]; exact Bool.false_ne_true), if_pos (by decide),
    Hid.handleSerialCommand, if_neg (by decide), if_neg (by decide), if_neg (by decide), if_pos rfl]
  congr 1
  cases s.frame stack <;> rfl

/-- A pass that reads `F`: nothing when the sizes differ, else the frame when the slot is free. -/
theorem run_end_mismatch {s : Hid} (ready : s.awaitingFlag = false) (writable : Bool)
    (stack : Vector UInt8 8) (differs : s.sizeMatches = false) :
    ∃ last, s.run [⟨writable, some 'F'.toUInt8, stack⟩] = some (last, []) := by
  have flushed : (s.flush writable).awaitingFlag = false := by cases writable <;> exact ready
  have differsToo : (s.flush writable).sizeMatches = false := by cases writable <;> exact differs
  have passed : s.pass ⟨writable, some 'F'.toUInt8, stack⟩ = _ := input_end flushed stack
  have nothing : s.delivered ⟨writable, some 'F'.toUInt8, stack⟩ = none :=
    if_neg fun all => Bool.false_ne_true (differsToo.symm.trans all.2.2.1)
  rw [differsToo, if_neg Bool.false_ne_true] at passed
  rw [Hid.run, passed, nothing]
  exact ⟨_, rfl⟩

theorem run_end_match {s : Hid} (ready : s.awaitingFlag = false) (writable : Bool)
    (stack : Vector UInt8 8) (agrees : s.sizeMatches = true) {frame : CANFrame}
    (built : s.frame stack = some frame) :
    ∃ last, s.run [⟨writable, some 'F'.toUInt8, stack⟩] =
      some (last, if writable = true ∨ s.frameToHcand = none then [frame] else []) := by
  have flushed : (s.flush writable).awaitingFlag = false := by cases writable <;> exact ready
  have agreesToo : (s.flush writable).sizeMatches = true := by cases writable <;> exact agrees
  have builtToo : (s.flush writable).frame stack = some frame := by cases writable <;> exact built
  have passed : s.pass ⟨writable, some 'F'.toUInt8, stack⟩ = _ := input_end flushed stack
  rw [agreesToo, if_pos rfl, builtToo, Option.map_some] at passed
  have slot : (s.flush writable).frameToHcand = none ↔
      writable = true ∨ s.frameToHcand = none := by
    cases writable <;> simp [Hid.flush]
  rw [Hid.run, passed]
  by_cases free : writable = true ∨ s.frameToHcand = none
  · have delivers : s.delivered ⟨writable, some 'F'.toUInt8, stack⟩ = some frame :=
      (if_pos ⟨rfl, flushed, agreesToo, slot.mpr free⟩).trans builtToo
    rw [delivers, if_pos free]
    exact ⟨_, rfl⟩
  · have nothing : s.delivered ⟨writable, some 'F'.toUInt8, stack⟩ = none :=
      if_neg fun all => free (slot.mp all.2.2.2)
    rw [nothing, if_neg free]
    exact ⟨_, rfl⟩

theorem run_append (s : Hid) (front back : List Pass) :
    s.run (front ++ back) = (s.run front).bind fun middle =>
      (middle.1.run back).map fun last => (last.1, middle.2 ++ last.2) := by
  induction front generalizing s with
  | nil =>
      rw [Hid.run, List.nil_append, Option.bind_some]
      cases s.run back <;> rfl
  | cons pass front ih =>
      rw [List.cons_append, Hid.run, Hid.run]
      cases s.pass pass with
      | none => rfl
      | some next =>
          simp only [Option.bind_eq_bind, Option.bind_some, ih]
          cases next.run front with
          | none => rfl
          | some middle =>
              simp only [Option.bind_some]
              cases middle.1.run back with
              | none => rfl
              | some last => simp [List.append_assoc]

/-- The input that the passes read. -/
def inputOf (passes : List Pass) : List UInt8 := passes.filterMap Pass.char

/-! ## Values -/

/-- The bytes that a sequence of digits stands for, and the digit left over. -/
def pairUp : List UInt8 → List UInt8
  | msb :: lsb :: digits => convertHexstr2int msb lsb :: pairUp digits
  | [_] => []
  | [] => []

def leftOver : List UInt8 → Option UInt8
  | _ :: _ :: digits => leftOver digits
  | [digit] => some digit
  | [] => none

/-- The buffer behind storing some bytes from an index on. -/
def store (buffer : Vector UInt8 64) (i : Nat) : List UInt8 → Vector UInt8 64
  | [] => buffer
  | byte :: bytes => store (buffer.setIfInBounds i byte) (i + 1) bytes

theorem set_eq_store (buffer : Vector UInt8 64) {i : Nat} (inside : i < 64) (byte : UInt8) :
    buffer.set i byte = buffer.setIfInBounds i byte := by
  ext k bound
  rw [Vector.getElem_set, Vector.getElem_setIfInBounds]

theorem store_before (buffer : Vector UInt8 64) (i : Nat) (bytes : List UInt8) {k : Nat}
    (inside : k < 64) (before : k < i) : (store buffer i bytes)[k] = buffer[k] := by
  induction bytes generalizing buffer i with
  | nil => rfl
  | cons byte bytes ih =>
      rw [store, ih _ _ (by omega), byte_set_ne inside (by omega)]

theorem store_at (buffer : Vector UInt8 64) (i : Nat) (bytes : List UInt8) {k : Nat}
    (here : k < bytes.length) (inside : i + k < 64) :
    (store buffer i bytes)[i + k] = bytes[k] := by
  induction bytes generalizing buffer i k with
  | nil => exact absurd here (Nat.not_lt_zero k)
  | cons byte bytes ih =>
      cases k with
      | zero =>
          rw [store, store_before _ _ _ inside (by omega)]
          exact byte_set_self inside
      | succ k =>
          have shifted := ih (buffer.setIfInBounds i byte) (i + 1)
            (Nat.lt_of_succ_lt_succ here) (by omega)
          simp only [Nat.add_assoc, Nat.add_comm 1 k] at shifted
          exact shifted

theorem pairUp_hexPair (bytes : List UInt8) : pairUp (bytes.flatMap hexPair) = bytes := by
  induction bytes with
  | nil => rfl
  | cons byte bytes ih =>
      rw [List.flatMap_cons, hexPair, List.cons_append, List.cons_append, List.nil_append, pairUp,
        convert_hexPair, ih]

theorem pairUp_length (digits : List UInt8) : (pairUp digits).length = digits.length / 2 := by
  induction digits using pairUp.induct with
  | case1 msb lsb digits ih =>
      rw [pairUp, List.length_cons, ih, List.length_cons, List.length_cons]
      omega
  | case2 digit => rw [pairUp, List.length_nil, List.length_singleton]
  | case3 => rfl

section HandleValue

variable {s : Hid} {first : UInt8} (c : UInt8)

theorem handleValue_first (half : s.firstBitsChar = none) :
    s.handleValue c = some { s with firstBitsChar := some c } := by
  rw [Hid.handleValue, half]

theorem handleValue_second (half : s.firstBitsChar = some first) (inside : s.iindex.toNat < 64) :
    s.handleValue c = some { s with
      ibuffer := s.ibuffer.set s.iindex.toNat (convertHexstr2int first c)
      iindex := s.iindex + 1
      firstBitsChar := none } := by
  rw [Hid.handleValue, half]
  exact dif_pos inside

/-- Behind the end of the buffer the second digit is written into other memory. -/
theorem handleValue_overrun (half : s.firstBitsChar = some first)
    (outside : ¬ s.iindex.toNat < 64) : s.handleValue c = none := by
  rw [Hid.handleValue, half]
  exact dif_neg outside

theorem handleValue_awaiting {next : Hid} (taken : s.handleValue c = some next) :
    next.awaitingFlag = s.awaitingFlag := by
  cases half : s.firstBitsChar with
  | none =>
      rw [handleValue_first c half] at taken
      cases taken
      rfl
  | some first =>
      by_cases inside : s.iindex.toNat < 64
      · rw [handleValue_second c half inside] at taken
        cases taken
        rfl
      · rw [handleValue_overrun c half inside] at taken
        cases taken

end HandleValue

/-- Digits fill the buffer pair by pair. -/
theorem handleValue_pairs (s : Hid) (digits : List UInt8) (aligned : s.firstBitsChar = none)
    (fits : s.iindex.toNat + digits.length / 2 ≤ 64) :
    digits.foldlM Hid.handleValue s = some { s with
      ibuffer := store s.ibuffer s.iindex.toNat (pairUp digits)
      iindex := s.iindex + UInt8.ofNat (digits.length / 2)
      firstBitsChar := leftOver digits } := by
  induction digits using pairUp.induct generalizing s with
  | case1 msb lsb digits ih =>
      have half : (msb :: lsb :: digits).length / 2 = digits.length / 2 + 1 := by
        rw [List.length_cons, List.length_cons]
        omega
      rw [half] at fits ⊢
      have inside : s.iindex.toNat < 64 := by omega
      have up : (s.iindex + 1).toNat = s.iindex.toNat + 1 := by
        rw [UInt8.toNat_add]
        exact Nat.mod_eq_of_lt (by rw [UInt8.toNat_one]; omega)
      have second := handleValue_second (s := { s with firstBitsChar := some msb }) lsb rfl inside
      rw [List.foldlM_cons, handleValue_first msb aligned, Option.bind_eq_bind, Option.bind_some,
        List.foldlM_cons, second, Option.bind_eq_bind, Option.bind_some,
        ih _ rfl (by rw [up]; omega)]
      simp only [up, pairUp, store, leftOver]
      have sum : s.iindex + 1 + UInt8.ofNat (digits.length / 2) =
          s.iindex + UInt8.ofNat (digits.length / 2 + 1) := by
        rw [UInt8.ofNat_add, UInt8.add_assoc, UInt8.add_comm (UInt8.ofNat _)]
        rfl
      rw [sum, set_eq_store]
  | case2 digit =>
      rw [List.foldlM_cons, handleValue_first digit aligned]
      simp [pairUp, store, leftOver]
  | case3 =>
      rw [List.foldlM_nil, pairUp, store, leftOver, ← aligned]
      simp

end Hcan.Transport
