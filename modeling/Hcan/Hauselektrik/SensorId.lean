import Hcan.Library.Bits

/-!
# Identifiers of sensors

The identification of a 1-wire sensor is configured as text.  The parser rejects texts that are too
short; behind another character than a digit it goes on with the byte that it has.
-/

namespace Hcan.Hauselektrik

open Hcan.Library

/-- The first digit of a byte; other characters leave the byte of the last pair. -/
def withHigh (v c : UInt8) : UInt8 :=
  let v := if 'a'.toUInt8 ≤ c ∧ c ≤ 'f'.toUInt8 then (c - 'a'.toUInt8 + 10) <<< 4 else v
  if '0'.toUInt8 ≤ c ∧ c ≤ '9'.toUInt8 then (c - '0'.toUInt8) <<< 4 else v

/-- The second digit of a byte. -/
def withLow (v c : UInt8) : UInt8 :=
  let v := if 'a'.toUInt8 ≤ c ∧ c ≤ 'f'.toUInt8 then v ||| (c - 'a'.toUInt8 + 10) else v
  if '0'.toUInt8 ≤ c ∧ c ≤ '9'.toUInt8 then v ||| (c - '0'.toUInt8) else v

/-- The loop of `tempsensor_str2id` from the pair `i` on; without a result it returns 1. -/
def str2idFrom (str : ℕ → UInt8) : ℕ → UInt8 → ℕ → Option (List UInt8)
  | _, _, 0 => some []
  | i, v, left + 1 =>
      if str (i * 2) = 0 ∨ str (i * 2 + 1) = 0 then none
      else
        let v := withLow (withHigh v (str (i * 2))) (str (i * 2 + 1))
        (str2idFrom str (i + 1) v left).map (v :: ·)

/-- `tempsensor_str2id` with the memory behind `str`. -/
def tempsensorStr2id (str : ℕ → UInt8) : Option (List UInt8) := str2idFrom str 0 0 8

def hexDigits : List UInt8 :=
  ['0', '1', '2', '3', '4', '5', '6', '7', '8', '9', 'a', 'b', 'c', 'd', 'e', 'f'].map Char.toUInt8

/-- The value of a digit. -/
def hexValue (c : UInt8) : UInt8 := UInt8.ofNat (hexDigits.idxOf c)

/-- The value of two digits. -/
def pairValue (str : ℕ → UInt8) (i : ℕ) : UInt8 :=
  16 * hexValue (str (i * 2)) + hexValue (str (i * 2 + 1))

/-- The parser accepts the texts of sixteen digits, with their values. -/
structure ParsesRight (str : ℕ → UInt8) : Prop where
  accepts : (tempsensorStr2id str).isSome ↔ ∀ k < 16, str k ∈ hexDigits
  values : ∀ id ∈ tempsensorStr2id str, id = (List.range 8).map (pairValue str)

section Digits

variable {str : ℕ → UInt8} {c : UInt8}

theorem hexDigit_ne_zero (digit : c ∈ hexDigits) : c ≠ 0 := by
  rintro rfl
  exact absurd digit (by decide)

/-- The digits are those of the two ranges, with their values. -/
theorem hexDigit_cases (c : UInt8) : c ∈ hexDigits →
    ('a'.toUInt8 ≤ c ∧ c ≤ 'f'.toUInt8) ∧ ¬ ('0'.toUInt8 ≤ c ∧ c ≤ '9'.toUInt8) ∧
        c - 'a'.toUInt8 + 10 = hexValue c ∨
      ¬ ('a'.toUInt8 ≤ c ∧ c ≤ 'f'.toUInt8) ∧ ('0'.toUInt8 ≤ c ∧ c ≤ '9'.toUInt8) ∧
        c - '0'.toUInt8 = hexValue c := by
  revert c
  exact forall_byte (by decide +kernel)

theorem withHigh_digit (v : UInt8) (digit : c ∈ hexDigits) : withHigh v c = hexValue c <<< 4 := by
  unfold withHigh
  obtain ⟨letter, noNumber, same⟩ | ⟨noLetter, number, same⟩ := hexDigit_cases c digit
  · rw [if_pos letter, if_neg noNumber, same]
  · rw [if_pos number, same]

theorem withLow_digit (v : UInt8) (digit : c ∈ hexDigits) : withLow v c = v ||| hexValue c := by
  unfold withLow
  obtain ⟨letter, noNumber, same⟩ | ⟨noLetter, number, same⟩ := hexDigit_cases c digit
  · rw [if_pos letter, if_neg noNumber, same]
  · rw [if_neg noLetter, if_pos number, same]

theorem hexValue_lt (c : UInt8) : c ∈ hexDigits → hexValue c < 16 := by
  revert c
  exact forall_byte (by decide +kernel)

/-- Two digits do not overlap in their byte. -/
theorem digits_joined {high low : UInt8} (high_ : high < 16) (low_ : low < 16) :
    high <<< 4 ||| low = 16 * high + low := by
  have small : high.toNat < 16 := UInt8.lt_iff_toNat_lt.mp high_
  have least : low.toNat < 2 ^ 4 := UInt8.lt_iff_toNat_lt.mp low_
  refine UInt8.toNat_inj.mp ?_
  rw [UInt8.toNat_or, UInt8.toNat_shiftLeft, show (4 : UInt8).toNat % 8 = 4 from rfl,
    Nat.mod_eq_of_lt (by rw [Nat.shiftLeft_eq]; omega), ← Nat.shiftLeft_add_eq_or_of_lt least,
    Nat.shiftLeft_eq, UInt8.toNat_add, UInt8.toNat_mul, show (16 : UInt8).toNat = 16 from rfl]
  omega

theorem str2idFrom_isSome (i : ℕ) (v : UInt8) (left : ℕ) :
    (str2idFrom str i v left).isSome ↔ ∀ k, i * 2 ≤ k → k < (i + left) * 2 → str k ≠ 0 := by
  induction left generalizing i v with
  | zero => exact iff_of_true rfl fun k least most => by omega
  | succ left ih =>
      unfold str2idFrom
      by_cases short : str (i * 2) = 0 ∨ str (i * 2 + 1) = 0
      · rw [if_pos short]
        refine iff_of_false Bool.false_ne_true fun all => ?_
        obtain first | second := short
        · exact all _ (by omega) (by omega) first
        · exact all _ (by omega) (by omega) second
      · rw [if_neg short, Option.isSome_map, ih]
        constructor
        · intro later k least most
          by_cases here : (i + 1) * 2 ≤ k
          · exact later k here (by omega)
          · obtain rfl | rfl : k = i * 2 ∨ k = i * 2 + 1 := by omega
            · exact fun zero => short (.inl zero)
            · exact fun zero => short (.inr zero)
        · exact fun all k least most => all k (by omega) (by omega)

theorem tempsensorStr2id_isSome :
    (tempsensorStr2id str).isSome ↔ ∀ k < 16, str k ≠ 0 := by
  refine (str2idFrom_isSome 0 0 8).trans ?_
  exact ⟨fun all k most => all k (Nat.zero_le k) most, fun all k _ most => all k most⟩

/-- The loop gives digits their values, whatever it has before. -/
theorem str2idFrom_digits (i : ℕ) (v : UInt8) (left : ℕ)
    (digits : ∀ k, i * 2 ≤ k → k < (i + left) * 2 → str k ∈ hexDigits) :
    str2idFrom str i v left = some ((List.range' i left).map (pairValue str)) := by
  induction left generalizing i v with
  | zero => rfl
  | succ left ih =>
      have first : str (i * 2) ∈ hexDigits := digits _ (by omega) (by omega)
      have second : str (i * 2 + 1) ∈ hexDigits := digits _ (by omega) (by omega)
      have long : ¬ (str (i * 2) = 0 ∨ str (i * 2 + 1) = 0) :=
        not_or.mpr ⟨hexDigit_ne_zero first, hexDigit_ne_zero second⟩
      have value : withLow (withHigh v (str (i * 2))) (str (i * 2 + 1)) = pairValue str i := by
        rw [withHigh_digit v first, withLow_digit _ second]
        exact digits_joined (hexValue_lt _ first) (hexValue_lt _ second)
      unfold str2idFrom
      rw [if_neg long]
      dsimp only
      rw [value, ih (i + 1) _ fun k least most => digits k (by omega) (by omega)]
      rfl

end Digits

/-- The parser is right exactly for texts that end early or have sixteen digits. -/
theorem tempsensorStr2id_right_iff (str : ℕ → UInt8) :
    ParsesRight str ↔ (∃ k < 16, str k = 0) ∨ ∀ k < 16, str k ∈ hexDigits := by
  constructor
  · intro right
    by_cases short : ∃ k < 16, str k = 0
    · exact .inl short
    · simp only [not_exists, not_and] at short
      exact .inr (right.accepts.mp (tempsensorStr2id_isSome.mpr short))
  · rintro (⟨k, inside, zero⟩ | digits)
    · have rejected : ¬ (tempsensorStr2id str).isSome :=
        fun accepted => tempsensorStr2id_isSome.mp accepted k inside zero
      refine ⟨iff_of_false rejected fun digits => hexDigit_ne_zero (digits k inside) zero,
        fun id parsed => ?_⟩
      exact absurd (Option.isSome_of_mem parsed) rejected
    · have parsed : tempsensorStr2id str = some ((List.range' 0 8).map (pairValue str)) :=
        str2idFrom_digits 0 0 8 fun k _ most => digits k most
      refine ⟨iff_of_true (parsed ▸ rfl) digits, fun id same => ?_⟩
      rw [parsed] at same
      rw [← Option.some.inj same, List.range_eq_range']

/-- The characters of a text and the NUL behind them. -/
def zString (text : List Char) (k : ℕ) : UInt8 := (text.map Char.toUInt8).getD k 0

/-- Sixteen letters that are no digits are accepted, as the sensor 0. -/
theorem tempsensorStr2id_letters :
    ¬ ParsesRight (zString (List.replicate 16 'z')) ∧
      tempsensorStr2id (zString (List.replicate 16 'z')) = some (List.replicate 8 0) := by
  have parsed :
      tempsensorStr2id (zString (List.replicate 16 'z')) = some (List.replicate 8 0) := by decide
  refine ⟨fun right => ?_, parsed⟩
  have digits := right.accepts.mp (parsed ▸ rfl)
  exact absurd (digits 0 (by decide)) (by decide)

end Hcan.Hauselektrik
