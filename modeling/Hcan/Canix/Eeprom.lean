import Hcan.Library.Replay

/-!
# The EEPROM of a board

The content is a function of the cell number.  Every byte write is also kept in
a log, so that the order of the writes of an operation can be observed.  A
16-bit address selects a cell through the address register of the controller,
which decodes the addresses up to the last EDS byte as they are; what it does
with the addresses behind the memory is left open.
-/

namespace Hcan.Canix

open Hcan.Library

/-- A controller type: `EDS_DATA_END` and the decoding of EEPROM addresses. -/
structure Mcu where
  edsDataEnd : Nat
  cellOf : Nat → Nat
  edsDataEnd_cases : edsDataEnd = 1023 ∨ edsDataEnd = 2047
  cellOf_of_le : ∀ address, address ≤ edsDataEnd → cellOf address = address

/-- The 1 KiB controller; its address register has ten bits. -/
def atmega32 : Mcu where
  edsDataEnd := 1023
  cellOf address := address % 1024
  edsDataEnd_cases := .inl rfl
  cellOf_of_le := fun _ bound => Nat.mod_eq_of_lt (Nat.lt_succ_of_le bound)

/-- The 2 KiB controller; its address register is read as eleven bits. -/
def atmega644 : Mcu where
  edsDataEnd := 2047
  cellOf address := address % 2048
  edsDataEnd_cases := .inr rfl
  cellOf_of_le := fun _ bound => Nat.mod_eq_of_lt (Nat.lt_succ_of_le bound)

/-- Content and write log of the EEPROM. -/
structure Eeprom (mcu : Mcu) where
  cell : Nat → UInt8
  log : List (Nat × UInt8)

/-- Pointer arithmetic of the 16-bit controller. -/
def ptrAdd (p n : Nat) : Nat := (p + n) % 65536

theorem ptrAdd_of_lt {p n : Nat} (bound : p + n < 65536) : ptrAdd p n = p + n :=
  Nat.mod_eq_of_lt bound

variable {mcu : Mcu}

namespace Eeprom

/-- The EEPROM as a board finds it at power-up: a content and no writes yet. -/
def powerUp (content : Nat → UInt8) : Eeprom mcu := ⟨content, []⟩

@[simp] theorem powerUp_cell (content : Nat → UInt8) :
    (powerUp content : Eeprom mcu).cell = content := rfl

@[simp] theorem powerUp_log (content : Nat → UInt8) :
    (powerUp content : Eeprom mcu).log = [] := rfl

/-- `later` is `ee` after the writes `writes`, oldest first. -/
structure Wrote (ee : Eeprom mcu) (writes : List (Nat × UInt8)) (later : Eeprom mcu) : Prop where
  log : later.log = ee.log ++ writes
  cell : later.cell = replay writes ee.cell

theorem Wrote.refl (ee : Eeprom mcu) : ee.Wrote [] ee := ⟨(List.append_nil _).symm, rfl⟩

theorem Wrote.trans {first second third : Eeprom mcu} {front back : List (Nat × UInt8)}
    (wroteFront : first.Wrote front second) (wroteBack : second.Wrote back third) :
    first.Wrote (front ++ back) third where
  log := by rw [wroteBack.log, wroteFront.log, List.append_assoc]
  cell := by rw [wroteBack.cell, wroteFront.cell, replay_append]

/-- The content that is left when the power fails after `count` of the writes
that lead from `content` to `later`. -/
def powerFail (content : Nat → UInt8) (later : Eeprom mcu) (count : Nat) : Nat → UInt8 :=
  replay (later.log.take count) content

end Eeprom

def eepromReadByte (ee : Eeprom mcu) (p : Nat) : UInt8 := ee.cell (mcu.cellOf p)

def eepromWriteByte (ee : Eeprom mcu) (p : Nat) (v : UInt8) : Eeprom mcu :=
  ⟨Function.update ee.cell (mcu.cellOf p) v, ee.log ++ [(mcu.cellOf p, v)]⟩

theorem Mcu.edsDataEnd_le (mcu : Mcu) : mcu.edsDataEnd ≤ 2047 := by
  rcases mcu.edsDataEnd_cases with small | large <;> omega

theorem Mcu.le_edsDataEnd (mcu : Mcu) : 1023 ≤ mcu.edsDataEnd := by
  rcases mcu.edsDataEnd_cases with small | large <;> omega

theorem eepromReadByte_of_le (ee : Eeprom mcu) {p : Nat} (bound : p ≤ mcu.edsDataEnd) :
    eepromReadByte ee p = ee.cell p := by
  rw [eepromReadByte, mcu.cellOf_of_le p bound]

/-- A byte write inside the memory is one entry of the log under its own address. -/
theorem eepromWriteByte_wrote (ee : Eeprom mcu) {p : Nat} (bound : p ≤ mcu.edsDataEnd)
    (v : UInt8) : ee.Wrote [(p, v)] (eepromWriteByte ee p v) where
  log := by rw [eepromWriteByte, mcu.cellOf_of_le p bound]
  cell := by rw [eepromWriteByte, mcu.cellOf_of_le p bound]; rfl

end Hcan.Canix
