import Mathlib.Logic.Function.Basic
import Mathlib.Tactic.IntervalCases
import Hcan.Library.Bits
import Hcan.Library.Bytes
import Hcan.Library.Copy

/-!
# The registers of the MCP2515

The CAN controller as its register file behind the SPI commands: single and
burst accesses, the identifier split over four registers, the transmit buffers
and the receive buffer.  What a frame carries from a transmit buffer over the bus
into the receive buffer of another controller is stated as a relation between the
two register files.
-/

namespace Hcan.Canix

open Hcan.Library

/-- The register file, addressed as over SPI. -/
structure Mcp2515 where
  reg : UInt8 → UInt8

def canintf : UInt8 := 0x2C
def txb0ctrl : UInt8 := 0x30
def txb0sidh : UInt8 := 0x31
def txb0dlc : UInt8 := 0x35
def txb0d0 : UInt8 := 0x36
def rxb0sidh : UInt8 := 0x61
def rxb0dlc : UInt8 := 0x65
def rxb0d0 : UInt8 := 0x66

/-- The masks `1 << RX0IF`, `1 << TXREQ` and `1 << EXIDE`. -/
def rx0if : UInt8 := 0x01
def txreq : UInt8 := 0x08
def exide : UInt8 := 0x08

namespace Mcp2515

def readRegister (chip : Mcp2515) (address : UInt8) : UInt8 := chip.reg address

def writeRegister (chip : Mcp2515) (address data : UInt8) : Mcp2515 :=
  ⟨Function.update chip.reg address data⟩

def bitModify (chip : Mcp2515) (address mask data : UInt8) : Mcp2515 :=
  chip.writeRegister address ((chip.reg address &&& ~~~mask) ||| (data &&& mask))

/-- A burst write; the address counts up by itself. -/
def writeRegisterP (chip : Mcp2515) (address : UInt8) : List UInt8 → Mcp2515
  | [] => chip
  | byte :: bytes => (chip.writeRegister address byte).writeRegisterP (address + 1) bytes

/-- A burst read of `length` registers into an array. -/
def readRegisterP {n : Nat} (chip : Mcp2515) (address : UInt8) (length : Nat)
    (data : Vector UInt8 n) : Option (Vector UInt8 n) :=
  copyInto (fun i => chip.reg (address + UInt8.ofNat i)) length data

theorem writeRegister_other (chip : Mcp2515) {address other : UInt8} (data : UInt8)
    (apart : other ≠ address) : (chip.writeRegister address data).reg other = chip.reg other := by
  unfold writeRegister
  exact Function.update_of_ne apart data chip.reg

theorem writeRegister_same (chip : Mcp2515) (address data : UInt8) :
    (chip.writeRegister address data).reg address = data := by
  unfold writeRegister
  exact Function.update_self address data chip.reg

theorem bitModify_other (chip : Mcp2515) {address other : UInt8} (mask data : UInt8)
    (apart : other ≠ address) : (chip.bitModify address mask data).reg other = chip.reg other :=
  chip.writeRegister_other _ apart

theorem toNat_succ {address : UInt8} (bound : address.toNat + 1 < 256) :
    (address + 1).toNat = address.toNat + 1 := by
  rw [UInt8.toNat_add]
  exact Nat.mod_eq_of_lt bound

/-- A burst leaves the registers below it alone. -/
theorem writeRegisterP_below (chip : Mcp2515) (address : UInt8) (bytes : List UInt8)
    {other : UInt8} (fits : address.toNat + bytes.length ≤ 256)
    (below : other.toNat < address.toNat) :
    (chip.writeRegisterP address bytes).reg other = chip.reg other := by
  induction bytes generalizing chip address with
  | nil => rfl
  | cons byte bytes ih =>
      have apart : other ≠ address := by
        rintro rfl
        exact Nat.lt_irrefl _ below
      rw [writeRegisterP]
      cases bytes with
      | nil => exact chip.writeRegister_other byte apart
      | cons next rest =>
          rw [List.length_cons, List.length_cons] at fits
          have up : (address + 1).toNat = address.toNat + 1 := toNat_succ (by omega)
          rw [ih _ _ (by rw [up, List.length_cons]; omega) (by omega),
            chip.writeRegister_other byte apart]

/-- The registers that a burst writes. -/
theorem writeRegisterP_inside (chip : Mcp2515) (address : UInt8) (bytes : List UInt8)
    {other : UInt8} {i : Nat} (fits : address.toNat + bytes.length ≤ 256)
    (inside : i < bytes.length) (place : other.toNat = address.toNat + i) :
    (chip.writeRegisterP address bytes).reg other = bytes[i] := by
  induction bytes generalizing chip address i with
  | nil => exact absurd inside (Nat.not_lt_zero i)
  | cons byte bytes ih =>
      rw [List.length_cons] at fits inside
      rw [writeRegisterP]
      cases i with
      | zero =>
          obtain rfl : other = address := UInt8.toNat_inj.mp place
          cases bytes with
          | nil => exact chip.writeRegister_same other byte
          | cons next rest =>
              rw [List.length_cons] at fits
              have up : (other + 1).toNat = other.toNat + 1 := toNat_succ (by omega)
              rw [writeRegisterP_below _ _ _ (by rw [up, List.length_cons]; omega) (by omega)]
              exact chip.writeRegister_same other byte
      | succ i =>
          have up : (address + 1).toNat = address.toNat + 1 := toNat_succ (by omega)
          exact ih _ _ (by omega) (Nat.lt_of_succ_lt_succ inside) (by omega)

end Mcp2515

/-- The registers SIDH, SIDL, EID8 and EID0 of a 29-bit identifier. -/
def idRegisters (id : UInt32) : List UInt8 :=
  [(id >>> 21).toUInt8,
    ((id >>> 16).toUInt8 &&& (0x03 : UInt8)) ||| ((id >>> 13).toUInt8 &&& (0xE0 : UInt8)) ||| exide,
    (id >>> 8).toUInt8, id.toUInt8]

/-- The identifier that four received registers stand for. -/
def extendedId (sidh sidl eid8 eid0 : UInt8) : UInt32 :=
  eid0.toUInt32 ||| (eid8.toUInt32 <<< 8) ||| ((sidl.toUInt32 &&& 0x03) <<< 16) |||
    (((sidl.toUInt32 &&& 0xe0) >>> 3) <<< 16) ||| (sidh.toUInt32 <<< 21)

/-- Only the identifier bits of SIDL count. -/
theorem extendedId_congr {sidl other : UInt8} (high : sidl &&& 0xE0 = other &&& 0xE0)
    (low : sidl &&& 0x03 = other &&& 0x03) (sidh eid8 eid0 : UInt8) :
    extendedId sidh sidl eid8 eid0 = extendedId sidh other eid8 eid0 := by
  have widen (byte mask : UInt8) :
      byte.toUInt32 &&& mask.toUInt32 = (byte &&& mask).toUInt32 := (UInt8.toUInt32_and _ _).symm
  have sameHigh : sidl.toUInt32 &&& 0xe0 = other.toUInt32 &&& 0xe0 := by
    rw [show (0xe0 : UInt32) = (0xE0 : UInt8).toUInt32 from rfl, widen, widen, high]
  have sameLow : sidl.toUInt32 &&& 0x03 = other.toUInt32 &&& 0x03 := by
    rw [show (0x03 : UInt32) = (0x03 : UInt8).toUInt32 from rfl, widen, widen, low]
  rw [extendedId, extendedId, sameHigh, sameLow]

/-- Splitting an identifier over the registers and joining it again. -/
theorem extendedId_idRegisters {id : UInt32} (small : id < 0x20000000) :
    extendedId (id >>> 21).toUInt8
      (((id >>> 16).toUInt8 &&& (0x03 : UInt8)) ||| ((id >>> 13).toUInt8 &&& (0xE0 : UInt8)) |||
        exide) (id >>> 8).toUInt8 id.toUInt8 = id := by
  have bits : id.toBitVec.toNat < 2 ^ 29 := small
  refine uint32_ext fun i inside => ?_
  have clear := bit_of_lt (i := i) bits
  simp only [extendedId, exide, UInt32.toBitVec_or, UInt32.toBitVec_and, UInt8.toBitVec_or,
    UInt8.toBitVec_and, UInt8.toBitVec_toUInt32, UInt32.toBitVec_toUInt8,
    UInt32.toBitVec_shiftLeft, UInt32.toBitVec_shiftRight, BitVec.getLsbD_or,
    BitVec.getLsbD_setWidth]
  interval_cases i
  all_goals simp at clear
  all_goals simp [clear]

/-- A frame as the driver hands it on: identifier, length and the array with the data. -/
structure Message where
  extended : UInt32
  size : UInt8
  data : Vector UInt8 8
  deriving DecidableEq, Repr

/-- `data[i]`; the loops below stay inside. -/
def byteAt (data : Vector UInt8 8) (i : Nat) : UInt8 := if bound : i < 8 then data[i] else 0

/-- The data bytes that belong to the frame. -/
def Message.payload (message : Message) : List UInt8 :=
  message.data.toList.take message.size.toNat

def mcp2515MessageAvailable (chip : Mcp2515) : Bool := chip.readRegister canintf &&& rx0if ≠ 0

def receivedId (chip : Mcp2515) : UInt32 :=
  extendedId (chip.reg rxb0sidh) (chip.reg (rxb0sidh + 1)) (chip.reg (rxb0sidh + 2))
    (chip.reg (rxb0sidh + 3))

/-- The low nibble of RXB0DLC, 0 to 15. -/
def receivedSize (chip : Mcp2515) : UInt8 := chip.readRegister rxb0dlc &&& 0x0F

def receivedByte (chip : Mcp2515) (i : Nat) : UInt8 := chip.reg (rxb0d0 + UInt8.ofNat i)

def receivedPayload (chip : Mcp2515) : List UInt8 :=
  (List.range (receivedSize chip).toNat).map (receivedByte chip)

/-- `mcp2515_read_message`: the data go into the array of the caller. -/
def mcp2515ReadMessage (chip : Mcp2515) (data : Vector UInt8 8) : Option (Message × Mcp2515) := do
  let size := receivedSize chip
  let data ← chip.readRegisterP rxb0d0 size.toNat data
  some (⟨receivedId chip, size, data⟩, chip.bitModify canintf 0x01 0x00)

theorem mcp2515ReadMessage_eq (chip : Mcp2515) (data : Vector UInt8 8)
    (fits : (receivedSize chip).toNat ≤ 8) :
    mcp2515ReadMessage chip data =
      some (⟨receivedId chip, receivedSize chip,
        overlay (receivedByte chip) (receivedSize chip).toNat data⟩,
        chip.bitModify canintf 0x01 0x00) := by
  have copied := copyInto_of_le (receivedByte chip) data fits
  unfold receivedByte at copied
  rw [mcp2515ReadMessage, Mcp2515.readRegisterP, copied]
  rfl

/-- A longer frame is written behind the end of the array. -/
theorem mcp2515ReadMessage_eq_none (chip : Mcp2515) (data : Vector UInt8 8)
    (long : 8 < (receivedSize chip).toNat) : mcp2515ReadMessage chip data = none := by
  rw [mcp2515ReadMessage, Mcp2515.readRegisterP, copyInto_of_lt _ data long]
  rfl

/-! ## Transmitting -/

/-- The place of a register of transmit buffer `index`. -/
def ofBuffer (register index : UInt8) : UInt8 := register + (index <<< 4)

def canSendable (chip : Mcp2515) (index : UInt8) : Bool :=
  chip.readRegister (ofBuffer txb0ctrl index) &&& txreq = 0

def canAnySendable (chip : Mcp2515) : Bool :=
  canSendable chip 0 || canSendable chip 1 || canSendable chip 2

/-- The transmit buffer that the next frame goes into. -/
def freeTxBuffer (chip : Mcp2515) : Option UInt8 :=
  if canSendable chip 0 then some 0
  else if canSendable chip 1 then some 1
  else if canSendable chip 2 then some 2
  else none

/-- The register accesses of `can_send_message` for a free buffer; `data` are the
`length` bytes behind the data pointer. -/
def loadTxBuffer (chip : Mcp2515) (index : UInt8) (id : UInt32) (data : List UInt8)
    (length : UInt8) : Mcp2515 :=
  let chip := chip.writeRegisterP (ofBuffer txb0sidh index) (idRegisters id)
  let chip := chip.writeRegister (ofBuffer txb0dlc index) length
  let chip := chip.writeRegisterP (ofBuffer txb0d0 index) data
  chip.bitModify (ofBuffer txb0ctrl index) txreq txreq

theorem freeTxBuffer_cases {chip : Mcp2515} {index : UInt8}
    (free : freeTxBuffer chip = some index) :
    index = 0 ∨ index = 1 ∨ index = 2 := by
  unfold freeTxBuffer at free
  split at free
  · exact .inl (Option.some.inj free).symm
  · split at free
    · exact .inr (.inl (Option.some.inj free).symm)
    · split at free
      · exact .inr (.inr (Option.some.inj free).symm)
      · cases free

/-- What the bus carries from a transmit buffer into the receive buffer of another
controller.  SIDL has bits beside the identifier that the bus does not carry, and
the identifier extension is sent when EXIDE is set. -/
structure Carries (tx : Mcp2515) (index : UInt8) (rx : Mcp2515) : Prop where
  available : mcp2515MessageAvailable rx
  sidh : rx.reg rxb0sidh = tx.reg (ofBuffer txb0sidh index)
  sidl : rx.reg (rxb0sidh + 1) &&& 0xE0 = tx.reg (ofBuffer txb0sidh index + 1) &&& 0xE0
  extended : tx.reg (ofBuffer txb0sidh index + 1) &&& exide ≠ 0 →
    rx.reg (rxb0sidh + 1) &&& 0x03 = tx.reg (ofBuffer txb0sidh index + 1) &&& 0x03 ∧
    rx.reg (rxb0sidh + 2) = tx.reg (ofBuffer txb0sidh index + 2) ∧
    rx.reg (rxb0sidh + 3) = tx.reg (ofBuffer txb0sidh index + 3)
  dlc : rx.reg rxb0dlc &&& 0x0F = tx.reg (ofBuffer txb0dlc index) &&& 0x0F
  data : ∀ i, i < (tx.reg (ofBuffer txb0dlc index) &&& 0x0F).toNat → i < 8 →
    rx.reg (rxb0d0 + UInt8.ofNat i) = tx.reg (ofBuffer txb0d0 index + UInt8.ofNat i)

section Loaded

variable {index : UInt8}

theorem ofBuffer_add_toNat (buffer : index = 0 ∨ index = 1 ∨ index = 2) {register : UInt8}
    (low : register.toNat < 0x40) {k : Nat} (small : k < 16) :
    (ofBuffer register index + UInt8.ofNat k).toNat = register.toNat + 16 * index.toNat + k := by
  have shifted : (index <<< 4).toNat = 16 * index.toNat := by
    rcases buffer with rfl | rfl | rfl <;> decide
  have upper : index.toNat ≤ 2 := by
    rcases buffer with rfl | rfl | rfl <;> decide
  rw [ofBuffer, UInt8.toNat_add, UInt8.toNat_add, shifted, UInt8.toNat_ofNat']
  omega

/-- The four places of a transmit buffer, one behind the other. -/
theorem buffer_places (buffer : index = 0 ∨ index = 1 ∨ index = 2) :
    (ofBuffer txb0ctrl index).toNat = 0x30 + 16 * index.toNat ∧
      (ofBuffer txb0sidh index).toNat = 0x31 + 16 * index.toNat ∧
      (ofBuffer txb0dlc index).toNat = 0x35 + 16 * index.toNat ∧
      (ofBuffer txb0d0 index).toNat = 0x36 + 16 * index.toNat ∧ index.toNat ≤ 2 := by
  rcases buffer with rfl | rfl | rfl <;> decide

theorem ne_of_toNat {first second : UInt8} (apart : first.toNat ≠ second.toNat) :
    first ≠ second := fun same => apart (congrArg UInt8.toNat same)

variable (chip : Mcp2515) (id : UInt32) {data : List UInt8} (length : UInt8)

theorem loadTxBuffer_id (buffer : index = 0 ∨ index = 1 ∨ index = 2) (fits : data.length ≤ 8)
    {k : Nat} (inside : k < 4) :
    (loadTxBuffer chip index id data length).reg (ofBuffer txb0sidh index + UInt8.ofNat k) =
      (idRegisters id)[k] := by
  have low : txb0sidh.toNat < 0x40 := by decide
  have here : _ = 0x31 + 16 * index.toNat + k := ofBuffer_add_toNat buffer low (by omega)
  obtain ⟨ctrl, sidh, dlc, d0, upper⟩ := buffer_places buffer
  have four : (idRegisters id).length = 4 := rfl
  unfold loadTxBuffer
  rw [Mcp2515.bitModify_other _ _ _ (ne_of_toNat (by omega)),
    Mcp2515.writeRegisterP_below _ _ _ (by omega) (by omega),
    Mcp2515.writeRegister_other _ _ (ne_of_toNat (by omega)),
    Mcp2515.writeRegisterP_inside _ _ _ (by omega) (by rw [four]; exact inside) (by omega)]
  rfl

theorem loadTxBuffer_dlc (buffer : index = 0 ∨ index = 1 ∨ index = 2) (fits : data.length ≤ 8) :
    (loadTxBuffer chip index id data length).reg (ofBuffer txb0dlc index) = length := by
  obtain ⟨ctrl, sidh, dlc, d0, upper⟩ := buffer_places buffer
  unfold loadTxBuffer
  rw [Mcp2515.bitModify_other _ _ _ (ne_of_toNat (by omega)),
    Mcp2515.writeRegisterP_below _ _ _ (by omega) (by omega), Mcp2515.writeRegister_same]

theorem loadTxBuffer_data (buffer : index = 0 ∨ index = 1 ∨ index = 2) (fits : data.length ≤ 8)
    {i : Nat} (inside : i < data.length) :
    (loadTxBuffer chip index id data length).reg (ofBuffer txb0d0 index + UInt8.ofNat i) =
      data[i] := by
  have low : txb0d0.toNat < 0x40 := by decide
  have here : _ = 0x36 + 16 * index.toNat + i := ofBuffer_add_toNat buffer low (by omega)
  obtain ⟨ctrl, sidh, dlc, d0, upper⟩ := buffer_places buffer
  unfold loadTxBuffer
  rw [Mcp2515.bitModify_other _ _ _ (ne_of_toNat (by omega)),
    Mcp2515.writeRegisterP_inside _ _ _ (by omega) inside (by omega)]

theorem low_nibble {length : UInt8} (small : length.toNat < 16) : length &&& 0x0F = length := by
  refine UInt8.toNat_inj.mp ?_
  rw [UInt8.toNat_and]
  exact (Nat.and_two_pow_sub_one_eq_mod length.toNat 4).trans (Nat.mod_eq_of_lt small)

/-- EXIDE is set in every identifier that the driver loads. -/
theorem exide_set (rest : UInt8) : (rest ||| exide) &&& exide ≠ 0 := by
  intro clear
  have bit := congrArg (fun byte : UInt8 => byte.toBitVec.getLsbD 3) clear
  simp [exide] at bit

/-- What `can_send_message` loads arrives as it was given. -/
theorem carries_loaded (buffer : index = 0 ∨ index = 1 ∨ index = 2) {rx : Mcp2515}
    (small : id < 0x20000000) (size : data.length = length.toNat) (fits : data.length ≤ 8)
    (carried : Carries (loadTxBuffer chip index id data length) index rx) :
    receivedId rx = id ∧ receivedSize rx = length ∧ receivedPayload rx = data := by
  have ids (k : Nat) (inside : k < 4) := loadTxBuffer_id chip id length buffer fits inside
  have dlc := loadTxBuffer_dlc chip id length buffer fits
  have bytes (i : Nat) (inside : i < data.length) :=
    loadTxBuffer_data chip id length buffer fits inside
  generalize loadTxBuffer chip index id data length = tx at carried ids dlc bytes
  have first : ofBuffer txb0sidh index + UInt8.ofNat 0 = ofBuffer txb0sidh index := by simp
  have sidh : tx.reg (ofBuffer txb0sidh index) = (id >>> 21).toUInt8 := by
    rw [← first]
    exact ids 0 (by decide)
  have sidl : tx.reg (ofBuffer txb0sidh index + 1) = ((id >>> 16).toUInt8 &&& (0x03 : UInt8)) |||
      ((id >>> 13).toUInt8 &&& (0xE0 : UInt8)) ||| exide := ids 1 (by decide)
  have eid8 : tx.reg (ofBuffer txb0sidh index + 2) = (id >>> 8).toUInt8 := ids 2 (by decide)
  have eid0 : tx.reg (ofBuffer txb0sidh index + 3) = id.toUInt8 := ids 3 (by decide)
  have whole : length &&& 0x0F = length := low_nibble (by omega)
  have sameSize : receivedSize rx = length := by
    rw [receivedSize, Mcp2515.readRegister, carried.dlc, dlc, whole]
  obtain ⟨low, middle, last⟩ := carried.extended (by rw [sidl]; exact exide_set _)
  refine ⟨?_, sameSize, ?_⟩
  · rw [receivedId, extendedId_congr carried.sidl low, carried.sidh, middle, last, sidh, sidl,
      eid8, eid0]
    exact extendedId_idRegisters small
  · rw [receivedPayload, sameSize]
    refine List.ext_getElem (by rw [List.length_map, List.length_range, size]) ?_
    intro i inRange inData
    have carriedByte := carried.data i (by rw [dlc, whole, ← size]; exact inData) (by omega)
    rw [List.getElem_map, List.getElem_range, receivedByte, carriedByte, bytes i inData]

end Loaded

end Hcan.Canix
