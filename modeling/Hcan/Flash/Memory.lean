import Mathlib.Logic.Function.Basic
import Hcan.Flash.Crc

/-!
# The flash of the controllers

The boot loader stands at the end of the flash and writes the pages in front of it.  The
flash is a function of its cells, and the address lines above them do not exist.
-/

namespace Hcan.Flash

/-- The controllers that a boot loader is built for: `hcanbl8` for the ATmega8, `hcanbl32` for
the others. -/
inductive Controller where
  | atmega8
  | atmega32
  | atmega644
  deriving DecidableEq, Repr

/-- `SPM_PAGESIZE`. -/
def Controller.pageSize : Controller → Nat
  | atmega8 => 64
  | atmega32 => 128
  | atmega644 => 256

def Controller.flashSize : Controller → Nat
  | atmega8 => 0x2000
  | atmega32 => 0x8000
  | atmega644 => 0x10000

/-- `MT_BOOTLOADER_ADDRESS`: the boot section begins here and ends with the flash. -/
def Controller.bootloaderAddress : Controller → Nat
  | atmega8 => 0x1800
  | atmega32 => 0x7000
  | atmega644 => 0xF000

/-- The boot loader is that of `hcanbl32`, and not the one of `hcanbl8`. -/
def Controller.hcanbl32 : Controller → Bool
  | atmega8 => false
  | atmega32 => true
  | atmega644 => true

def Controller.typeId : Controller → UInt8
  | atmega8 => 0
  | atmega32 => 1
  | atmega644 => 2

variable {c : Controller}

theorem pageSize_pos (c : Controller) : 0 < c.pageSize := by cases c <;> decide

theorem pageSize_le (c : Controller) : c.pageSize ≤ 256 := by cases c <;> decide

theorem flashSize_pos (c : Controller) : 0 < c.flashSize := by cases c <;> decide

theorem bootloaderAddress_le (c : Controller) : c.bootloaderAddress ≤ c.flashSize := by
  cases c <;> decide

theorem bootloaderAddress_lt (c : Controller) : c.bootloaderAddress < 65536 := by
  cases c <;> decide

/-- The content of the cells. -/
abbrev Memory (c : Controller) := Fin c.flashSize → UInt8

/-- What is read at an address. -/
def byteAt (flash : Memory c) (address : Nat) : UInt8 :=
  flash ⟨address % c.flashSize, Nat.mod_lt _ (flashSize_pos c)⟩

/-- The memory with a content for every address that has a cell. -/
def memoryOf (content : Nat → UInt8) : Memory c := fun a => content a

/-- The page of an address. -/
def pageOf (c : Controller) (address : Nat) : Nat := address % c.flashSize / c.pageSize

/-- `boot_page_erase`. -/
def bootPageErase (flash : Memory c) (address : Nat) : Memory c :=
  fun a => if a / c.pageSize = pageOf c address then 0xff else flash a

/-- `boot_page_fill`: a word goes little-endian into the temporary buffer. -/
def bootPageFill (c : Controller) (buffer : Nat → UInt8) (address : Nat) (word : UInt16) :
    Nat → UInt8 :=
  let offset := address % c.pageSize / 2 * 2
  Function.update (Function.update buffer offset word.toUInt8) (offset + 1) (word >>> 8).toUInt8

/-- `boot_page_write`: programming only clears bits. -/
def bootPageWrite (flash : Memory c) (buffer : Nat → UInt8) (address : Nat) : Memory c :=
  fun a =>
    if a / c.pageSize = pageOf c address then flash a &&& buffer (a % c.pageSize) else flash a

/-- `calculate_crc16_over_flash`: the words are read from the flash as little-endian. -/
def calculateCrc16OverFlash (flash : Memory c) (size : UInt16) : UInt16 :=
  crcOverWords (byteAt flash) (size.toNat / 2)

/-- The flash holds the image from address 0 on. -/
def Holds (flash : Memory c) (image : List UInt8) : Prop :=
  image.length ≤ c.flashSize ∧ ∀ i, (inside : i < image.length) → byteAt flash i = image[i]

/-- Board and host agree about an image in the flash. -/
theorem crc_agrees {flash : Memory c} {image : List UInt8} (holds : Holds flash image)
    {size : UInt16} (length : size.toNat = image.length) :
    calculateCrc16OverFlash flash size = crc16 image := by
  rw [calculateCrc16OverFlash, crc16, length]
  refine crcOverWords_congr fun i inside => ?_
  have within : i < image.length := by omega
  rw [holds.2 i within, List.getD_eq_getElem?_getD, List.getElem?_eq_getElem within,
    Option.getD_some]

end Hcan.Flash
