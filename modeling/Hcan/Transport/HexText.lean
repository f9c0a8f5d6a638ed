import Mathlib.Tactic.IntervalCases
import Hcan.Library.Bits

/-!
# Frames as text

The serial line between `hcanhid` and the firmware of the host interface carries
frames as text: `C`, the bytes of the frame as pairs of lower-case hex digits, `F`.
Both programs have the same conversion between bytes and digits.
-/

namespace Hcan.Transport

open Hcan.Library

def hexchars : List UInt8 :=
  ['0', '1', '2', '3', '4', '5', '6', '7', '8', '9', 'a', 'b', 'c', 'd', 'e', 'f'].map Char.toUInt8

/-- `hexchars[nibble]`; the callers mask the index. -/
def hexchar (nibble : UInt8) : UInt8 := hexchars.getD nibble.toNat 0

/-- The two digits of `send_char_to_HT` and `sendvalue`. -/
def hexPair (c : UInt8) : List UInt8 :=
  [hexchar ((c &&& 0xf0) >>> 4), hexchar (c &&& 0x0f)]

/-- The value of a digit; other characters than the digits give some value, too. -/
def digitValue (digit : UInt8) : UInt8 :=
  if '0'.toUInt8 ≤ digit ∧ digit ≤ '9'.toUInt8 then digit - '0'.toUInt8
  else (digit - 'a'.toUInt8) + 10

def convertHexstr2int (msb lsb : UInt8) : UInt8 := (digitValue msb <<< 4) ||| digitValue lsb

/-- Commands are in the range `[A-Z]`; every other character is a digit of a value. -/
def isCommand (c : UInt8) : Bool := 'A'.toUInt8 ≤ c && c ≤ 'Z'.toUInt8

/-- The bytes of an identifier in the order of the line. -/
def idBytes (id : UInt32) : List UInt8 :=
  [id.toUInt8, (id >>> 8).toUInt8, (id >>> 16).toUInt8, (id >>> 24).toUInt8]

def idOfBytes (b0 b1 b2 b3 : UInt8) : UInt32 :=
  b0.toUInt32 ||| (b1.toUInt32 <<< 8) ||| (b2.toUInt32 <<< 16) ||| (b3.toUInt32 <<< 24)

/-- The bytes of a frame on the line. -/
def frameBytes (id : UInt32) (payload : List UInt8) : List UInt8 :=
  idBytes id ++ UInt8.ofNat payload.length :: payload

/-- A complete frame text. -/
def frameText (id : UInt32) (payload : List UInt8) : List UInt8 :=
  'C'.toUInt8 :: (frameBytes id payload).flatMap hexPair ++ ['F'.toUInt8]

theorem hexchar_not_command (nibble : UInt8) : isCommand (hexchar nibble) = false := by
  revert nibble
  refine forall_byte ?_
  decide +kernel

theorem hexPair_not_command (c : UInt8) : ∀ digit ∈ hexPair c, isCommand digit = false := by
  intro digit found
  simp only [hexPair, List.mem_cons, List.not_mem_nil, or_false] at found
  rcases found with rfl | rfl
  · exact hexchar_not_command _
  · exact hexchar_not_command _

theorem idOfBytes_idBytes (id : UInt32) :
    idOfBytes id.toUInt8 (id >>> 8).toUInt8 (id >>> 16).toUInt8 (id >>> 24).toUInt8 = id := by
  refine uint32_ext fun i inside => ?_
  simp only [idOfBytes, UInt32.toBitVec_or, UInt8.toBitVec_toUInt32, UInt32.toBitVec_toUInt8,
    UInt32.toBitVec_shiftLeft, UInt32.toBitVec_shiftRight, BitVec.getLsbD_or,
    BitVec.getLsbD_setWidth]
  interval_cases i
  all_goals simp

def highNibble (c : UInt8) : UInt8 := (c &&& 0xf0) >>> 4
def lowNibble (c : UInt8) : UInt8 := c &&& 0x0f

theorem hexPair_eq (c : UInt8) : hexPair c = [hexchar (highNibble c), hexchar (lowNibble c)] := rfl

theorem highNibble_lt (c : UInt8) : highNibble c < 16 := by
  rw [UInt8.lt_iff_toNat_lt, highNibble, UInt8.toNat_shiftRight, UInt8.toNat_and]
  have masked : c.toNat &&& 240 ≤ 240 := Nat.and_le_right
  change (c.toNat &&& 240) >>> 4 < 16
  rw [Nat.shiftRight_eq_div_pow]
  omega

theorem lowNibble_lt (c : UInt8) : lowNibble c < 16 := by
  rw [UInt8.lt_iff_toNat_lt, lowNibble, UInt8.toNat_and]
  exact Nat.lt_succ_of_le Nat.and_le_right

theorem digitValue_hexchar {nibble : UInt8} (small : nibble < 16) :
    digitValue (hexchar nibble) = nibble := by
  revert small
  refine forall_byte (P := fun n => n < 16 → digitValue (hexchar n) = n) ?_ nibble
  decide +kernel

theorem digitValue_high (c : UInt8) : digitValue (hexchar (highNibble c)) = highNibble c :=
  digitValue_hexchar (highNibble_lt c)

theorem digitValue_low (c : UInt8) : digitValue (hexchar (lowNibble c)) = lowNibble c :=
  digitValue_hexchar (lowNibble_lt c)

theorem nibbles (c : UInt8) : (highNibble c <<< 4) ||| lowNibble c = c := by
  refine uint8_ext fun i inside => ?_
  simp only [lowNibble, highNibble, UInt8.toBitVec_or, UInt8.toBitVec_and, UInt8.toBitVec_shiftLeft,
    UInt8.toBitVec_shiftRight, BitVec.getLsbD_or, BitVec.getLsbD_and]
  interval_cases i
  all_goals simp

/-- A byte is read back from its digits. -/
theorem convert_hexPair (c : UInt8) :
    convertHexstr2int (hexchar ((c &&& 0xf0) >>> 4)) (hexchar (c &&& 0x0f)) = c := by
  change convertHexstr2int (hexchar (highNibble c)) (hexchar (lowNibble c)) = c
  rw [convertHexstr2int, digitValue_high, digitValue_low, nibbles]

/-- The nibbles of a byte put together from two digits. -/
theorem lowNibble_pair (high c : UInt8) :
    lowNibble ((high <<< 4) ||| highNibble c) = highNibble c := by
  refine uint8_ext fun i inside => ?_
  simp only [lowNibble, highNibble, UInt8.toBitVec_or, UInt8.toBitVec_and, UInt8.toBitVec_shiftLeft,
    UInt8.toBitVec_shiftRight, BitVec.getLsbD_or, BitVec.getLsbD_and]
  interval_cases i
  all_goals simp

theorem highNibble_pair (c other : UInt8) :
    highNibble ((lowNibble c <<< 4) ||| highNibble other) = lowNibble c := by
  refine uint8_ext fun i inside => ?_
  simp only [lowNibble, highNibble, UInt8.toBitVec_or, UInt8.toBitVec_and, UInt8.toBitVec_shiftLeft,
    UInt8.toBitVec_shiftRight, BitVec.getLsbD_and]
  interval_cases i
  all_goals simp

/-- A byte that consists of the low digit of its neighbour and its own high digit. -/
theorem nibbles_of_shifted {before c : UInt8}
    (same : (lowNibble before <<< 4) ||| highNibble c = c) :
    lowNibble c = highNibble c ∧ lowNibble before = highNibble c := by
  constructor
  · have low := lowNibble_pair (lowNibble before) c
    rwa [same] at low
  · have high := highNibble_pair before c
    rw [same] at high
    exact high.symm

theorem idBytes_idOfBytes (b0 b1 b2 b3 : UInt8) :
    idBytes (idOfBytes b0 b1 b2 b3) = [b0, b1, b2, b3] := by
  have low : (idOfBytes b0 b1 b2 b3).toUInt8 = b0 := by
    refine uint8_ext fun i inside => ?_
    simp only [idOfBytes, UInt32.toBitVec_or, UInt8.toBitVec_toUInt32, UInt32.toBitVec_toUInt8,
      UInt32.toBitVec_shiftLeft, BitVec.getLsbD_or, BitVec.getLsbD_setWidth]
    interval_cases i
    all_goals simp
  have second : (idOfBytes b0 b1 b2 b3 >>> 8).toUInt8 = b1 := by
    refine uint8_ext fun i inside => ?_
    simp only [idOfBytes, UInt32.toBitVec_or, UInt8.toBitVec_toUInt32, UInt32.toBitVec_toUInt8,
      UInt32.toBitVec_shiftLeft, UInt32.toBitVec_shiftRight, BitVec.getLsbD_setWidth]
    interval_cases i
    all_goals simp
  have third : (idOfBytes b0 b1 b2 b3 >>> 16).toUInt8 = b2 := by
    refine uint8_ext fun i inside => ?_
    simp only [idOfBytes, UInt32.toBitVec_or, UInt8.toBitVec_toUInt32, UInt32.toBitVec_toUInt8,
      UInt32.toBitVec_shiftLeft, UInt32.toBitVec_shiftRight, BitVec.getLsbD_setWidth]
    interval_cases i
    all_goals simp
  have fourth : (idOfBytes b0 b1 b2 b3 >>> 24).toUInt8 = b3 := by
    refine uint8_ext fun i inside => ?_
    simp only [idOfBytes, UInt32.toBitVec_or, UInt8.toBitVec_toUInt32, UInt32.toBitVec_toUInt8,
      UInt32.toBitVec_shiftLeft, UInt32.toBitVec_shiftRight, BitVec.getLsbD_setWidth]
    interval_cases i
    all_goals simp
  rw [idBytes, low, second, third, fourth]

end Hcan.Transport
