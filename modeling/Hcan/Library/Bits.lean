import Mathlib.Data.Nat.Bitwise

/-!
# Equality by bits

Packed fields are compared bit by bit.  The first lemmas reduce an equation between
words to its bits and tell which bits of a small word are clear; the last ones take a word
of two bytes apart again.
-/

namespace Hcan.Library

theorem bit_of_lt {w k i : Nat} {word : BitVec w} (small : word.toNat < 2 ^ k) (high : k ≤ i) :
    word.getLsbD i = false :=
  Nat.testBit_lt_two_pow (Nat.lt_of_lt_of_le small (Nat.pow_le_pow_right (by decide) high))

theorem uint16_ofInt_natCast (n : Nat) : (UInt16.ofInt n).toNat = n % 65536 := by
  change (UInt16.ofNat ((n : Int) % 65536).toNat).toNat = _
  rw [UInt16.toNat_ofNat']
  omega

theorem uint8_ofInt_natCast (n : Nat) : (UInt8.ofInt n).toNat = n % 256 := by
  change (UInt8.ofNat ((n : Int) % 256).toNat).toNat = _
  rw [UInt8.toNat_ofNat']
  omega

theorem uint32_ext {first second : UInt32}
    (bits : ∀ i, i < 32 → first.toBitVec.getLsbD i = second.toBitVec.getLsbD i) :
    first = second :=
  UInt32.toBitVec_inj.mp (BitVec.eq_of_getLsbD_eq bits)

theorem uint16_ext {first second : UInt16}
    (bits : ∀ i, i < 16 → first.toBitVec.getLsbD i = second.toBitVec.getLsbD i) :
    first = second :=
  UInt16.toBitVec_inj.mp (BitVec.eq_of_getLsbD_eq bits)

theorem uint8_ext {first second : UInt8}
    (bits : ∀ i, i < 8 → first.toBitVec.getLsbD i = second.toBitVec.getLsbD i) :
    first = second :=
  UInt8.toBitVec_inj.mp (BitVec.eq_of_getLsbD_eq bits)

/-- All bytes are counted. -/
theorem forall_byte {P : UInt8 → Prop} (all : ∀ n, n < 256 → P (UInt8.ofNat n)) (c : UInt8) :
    P c := by
  have here := all c.toNat c.toNat_lt
  rwa [UInt8.ofNat_toNat] at here

theorem uint8_toNat_pred {word : UInt8} (left : word ≠ 0) :
    (word - 1).toNat = word.toNat - 1 := by
  have least : 1 ≤ word.toNat := Nat.pos_of_ne_zero fun zero => left (UInt8.toNat_inj.mp zero)
  have bound : 1 ≤ word := UInt8.le_iff_toNat_le.mpr least
  exact UInt8.toNat_sub_of_le _ _ bound

theorem uint16_toNat_pred {word : UInt16} (left : word ≠ 0) :
    (word - 1).toNat = word.toNat - 1 := by
  have least : 1 ≤ word.toNat := Nat.pos_of_ne_zero fun zero => left (UInt16.toNat_inj.mp zero)
  have bound : 1 ≤ word := UInt16.le_iff_toNat_le.mpr least
  exact UInt16.toNat_sub_of_le _ _ bound

theorem joined_toNat (high low : UInt8) :
    ((high.toUInt16 <<< 8) ||| low.toUInt16).toNat = high.toNat * 256 + low.toNat := by
  have most := high.toNat_lt
  have least := low.toNat_lt
  rw [UInt16.toNat_or, UInt16.toNat_shiftLeft, UInt8.toNat_toUInt16, UInt8.toNat_toUInt16,
    show (8 : UInt16).toNat % 16 = 8 from rfl, Nat.mod_eq_of_lt (by rw [Nat.shiftLeft_eq]; omega),
    ← Nat.shiftLeft_add_eq_or_of_lt least, Nat.shiftLeft_eq]

theorem joined_high (high low : UInt8) :
    (((high.toUInt16 <<< 8) ||| low.toUInt16) >>> 8).toUInt8 = high := by
  have most := high.toNat_lt
  have least := low.toNat_lt
  refine UInt8.toNat_inj.mp ?_
  rw [UInt16.toNat_toUInt8, UInt16.toNat_shiftRight, joined_toNat,
    show (8 : UInt16).toNat % 16 = 8 from rfl, Nat.shiftRight_eq_div_pow]
  omega

theorem joined_low (high low : UInt8) :
    ((high.toUInt16 <<< 8) ||| low.toUInt16).toUInt8 = low := by
  have least := low.toNat_lt
  refine UInt8.toNat_inj.mp ?_
  rw [UInt16.toNat_toUInt8, joined_toNat]
  omega

end Hcan.Library
