import Mathlib.Data.List.Induction

/-!
# Decimal digits as bytes

Numbers as the bytes of their decimal digits, read back digit by digit.
-/

namespace Hcan.Library

/-- The byte is a decimal digit. -/
def isDecimal (byte : UInt8) : Bool := 48 ≤ byte && byte ≤ 57

/-- The number that the digits stand for. -/
def decimalValue (digits : List UInt8) : ℕ :=
  digits.foldl (fun value digit => 10 * value + (digit.toNat - 48)) 0

/-- The digits of a number. -/
def decimalDigits (n : ℕ) : List UInt8 := (Nat.toDigits 10 n).map fun c => UInt8.ofNat c.toNat

theorem decimalValue_snoc (digits : List UInt8) (digit : UInt8) :
    decimalValue (digits ++ [digit]) = 10 * decimalValue digits + (digit.toNat - 48) :=
  List.foldl_append

theorem decimalValue_zero_cons (digits : List UInt8) :
    decimalValue (48 :: digits) = decimalValue digits := rfl

theorem digitChar_byte {digit : ℕ} (small : digit < 10) :
    (UInt8.ofNat digit.digitChar.toNat).toNat = digit + 48 := by
  rw [Nat.toNat_digitChar_of_lt_ten small, UInt8.toNat_ofNat']
  omega

theorem isDecimal_iff {byte : UInt8} :
    isDecimal byte = true ↔ 48 ≤ byte.toNat ∧ byte.toNat ≤ 57 := by
  unfold isDecimal
  rw [Bool.and_eq_true, decide_eq_true_iff, decide_eq_true_iff, UInt8.le_iff_toNat_le,
    UInt8.le_iff_toNat_le]
  exact Iff.rfl

/-- The digits stand for their number. -/
theorem decimalValue_decimalDigits (n : ℕ) : decimalValue (decimalDigits n) = n := by
  induction n using Nat.strongRecOn with
  | ind n ih =>
      by_cases small : n < 10
      · have single : decimalDigits n = [] ++ [UInt8.ofNat n.digitChar.toNat] := by
          rw [decimalDigits, Nat.toDigits_of_lt_base small]
          rfl
        rw [single, decimalValue_snoc, digitChar_byte small, Nat.add_sub_cancel]
        exact Nat.zero_add n
      · have last : n % 10 < 10 := Nat.mod_lt n (by decide)
        have split : decimalDigits n =
            decimalDigits (n / 10) ++ [UInt8.ofNat (n % 10).digitChar.toNat] := by
          rw [decimalDigits, Nat.toDigits_of_base_le (by decide) (Nat.le_of_not_lt small),
            List.map_append]
          rfl
        rw [split, decimalValue_snoc, ih (n / 10) (by omega), digitChar_byte last]
        omega

theorem decimalDigits_all (n : ℕ) : ∀ byte ∈ decimalDigits n, isDecimal byte = true := by
  induction n using Nat.strongRecOn with
  | ind n ih =>
      intro byte inside
      by_cases small : n < 10
      · rw [decimalDigits, Nat.toDigits_of_lt_base small, List.map_singleton,
          List.mem_singleton] at inside
        rw [inside, isDecimal_iff, digitChar_byte small]
        omega
      · have last : n % 10 < 10 := Nat.mod_lt n (by decide)
        rw [decimalDigits, Nat.toDigits_of_base_le (by decide) (Nat.le_of_not_lt small),
          List.map_append, List.mem_append] at inside
        rcases inside with front | back
        · exact ih (n / 10) (by omega) byte front
        · rw [List.map_singleton, List.mem_singleton] at back
          rw [back, isDecimal_iff, digitChar_byte last]
          omega

theorem decimalDigits_ne_nil (n : ℕ) : decimalDigits n ≠ [] :=
  fun none => Nat.toDigits_ne_nil (List.map_eq_nil_iff.mp none)

end Hcan.Library
