import Mathlib.Logic.Function.Iterate
import Hcan.Library.Bits

/-!
# Timed values

A value with a counter that ticks down to 0; the tick that reaches 0 changes the value.  What the
value comes to rest at is an invariant of the ticks.
-/

namespace Hcan.Library

structure TimedValue (α : Type*) where
  value : α
  left : ℕ

namespace TimedValue

section Ticks

variable {α : Type*} {expire : α → α}

def tick (expire : α → α) (timed : TimedValue α) : TimedValue α :=
  match timed.left with
  | 0 => timed
  | 1 => ⟨expire timed.value, 0⟩
  | left + 2 => ⟨timed.value, left + 1⟩

/-- The tick of a counter that is a word. -/
theorem tick_word {value : α} {word : UInt16} (left : word ≠ 0) :
    tick expire ⟨value, word.toNat⟩ =
      ⟨if word - 1 = 0 then expire value else value, (word - 1).toNat⟩ := by
  have positive : word.toNat ≠ 0 := fun zero => left (UInt16.toNat_inj.mp zero)
  have lower := uint16_toNat_pred left
  by_cases last : word - 1 = 0
  · have one : word.toNat = 1 := by
      rw [last] at lower
      change 0 = _ at lower
      omega
    rw [if_pos last, last, one]
    rfl
  · have many : (word - 1).toNat ≠ 0 := fun zero => last (UInt16.toNat_inj.mp zero)
    obtain ⟨less, counted⟩ : ∃ less, word.toNat = less + 2 := ⟨word.toNat - 2, by omega⟩
    rw [if_neg last, lower, counted]
    rfl

/-- The value that the ticks lead to. -/
def rest (expire : α → α) (timed : TimedValue α) : α :=
  if timed.left = 0 then timed.value else expire timed.value

theorem left_tick (timed : TimedValue α) : (timed.tick expire).left = timed.left - 1 := by
  obtain ⟨value, left⟩ := timed
  match left with
  | 0 => rfl
  | 1 => rfl
  | left + 2 => rfl

theorem rest_tick (timed : TimedValue α) :
    (timed.tick expire).rest expire = timed.rest expire := by
  obtain ⟨value, left⟩ := timed
  match left with
  | 0 => rfl
  | 1 => rfl
  | left + 2 => rfl

theorem left_ticks (timed : TimedValue α) (n : ℕ) :
    ((tick expire)^[n] timed).left = timed.left - n := by
  induction n with
  | zero => rfl
  | succ n ih =>
      rw [Function.iterate_succ_apply', left_tick, ih]
      omega

theorem rest_ticks (timed : TimedValue α) (n : ℕ) :
    ((tick expire)^[n] timed).rest expire = timed.rest expire := by
  induction n with
  | zero => rfl
  | succ n ih => rw [Function.iterate_succ_apply', rest_tick, ih]

/-- After as many ticks as are left the value rests. -/
theorem value_ticks {timed : TimedValue α} {n : ℕ} (enough : timed.left ≤ n) :
    ((tick expire)^[n] timed).value = timed.rest expire := by
  have stopped : ((tick expire)^[n] timed).left = 0 := by
    rw [left_ticks]
    omega
  have rests : ((tick expire)^[n] timed).rest expire = timed.rest expire := rest_ticks timed n
  unfold rest at rests
  rwa [if_pos stopped] at rests

/-- The value changes in the tick that reaches 0. -/
theorem value_tick (timed : TimedValue α) :
    (timed.tick expire).value = if timed.left = 1 then expire timed.value else timed.value := by
  obtain ⟨value, left⟩ := timed
  match left with
  | 0 => rfl
  | 1 => rfl
  | left + 2 => rfl

/-- Before the tick that reaches 0 the value is the first one. -/
theorem value_ticks_of_lt {timed : TimedValue α} {n : ℕ} (early : n < timed.left) :
    ((tick expire)^[n] timed).value = timed.value := by
  induction n with
  | zero => rfl
  | succ n ih =>
      rw [Function.iterate_succ_apply', value_tick, left_ticks, if_neg (by omega),
        ih (Nat.lt_of_succ_lt early)]

end Ticks

end TimedValue

end Hcan.Library
