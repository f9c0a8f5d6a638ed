import Mathlib.Logic.Function.Basic

/-!
# The checksum over a firmware

The board computes it over the words of the flash, the host over the bytes of the
image.  Both take the high byte of a word first.
-/

namespace Hcan.Flash

/-- The loop over bits of the reflected CRC with the polynomial 0xA001. -/
def crcBits : Nat → UInt16 → UInt16
  | 0, crc => crc
  | bits + 1, crc =>
      if crc &&& 1 ≠ 0 then crcBits bits ((crc >>> 1) ^^^ 0xA001) else crcBits bits (crc >>> 1)

/-- `_crc16_update`, of the host and of the library of the board. -/
def crc16Update (crc : UInt16) (a : UInt8) : UInt16 := crcBits 8 (crc ^^^ a.toUInt16)

/-- The checksum over the first `count` words of a memory. -/
def crcOverWords (byteAt : Nat → UInt8) : Nat → UInt16
  | 0 => 0xffff
  | count + 1 =>
      crc16Update (crc16Update (crcOverWords byteAt count) (byteAt (2 * count + 1)))
        (byteAt (2 * count))

/-- `ihexfile::crc16`; `b` stands behind `a` and is taken first. -/
def crc16 (image : List UInt8) : UInt16 :=
  crcOverWords (fun i => image.getD i 0) (image.length / 2)

theorem crcOverWords_congr {first second : Nat → UInt8} {count : Nat}
    (same : ∀ i, i < 2 * count → first i = second i) :
    crcOverWords first count = crcOverWords second count := by
  induction count with
  | zero => rfl
  | succ count ih =>
      rw [crcOverWords, crcOverWords, ih fun i inside => same i (by omega),
        same (2 * count + 1) (by omega), same (2 * count) (by omega)]

end Hcan.Flash
