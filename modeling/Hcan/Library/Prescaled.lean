import Mathlib.Logic.Function.Iterate

/-!
# Counters behind a divider

A divider counts down with every tick and reloads when it is found at 0; every reload steps a
counter down.  How many ticks are left until the counter is at 0 is one measure for every phase of
the divider.
-/

namespace Hcan.Library

structure Prescaled where
  divider : ℕ
  counter : ℕ

namespace Prescaled

variable {reload : ℕ}

def tick (reload : ℕ) (timer : Prescaled) : Prescaled :=
  match timer.divider with
  | 0 => ⟨reload, timer.counter - 1⟩
  | divider + 1 => ⟨divider, timer.counter⟩

/-- The ticks until the counter is at 0. -/
def left (reload : ℕ) (timer : Prescaled) : ℕ :=
  match timer.counter with
  | 0 => 0
  | counter + 1 => timer.divider + 1 + counter * (reload + 1)

theorem left_tick (timer : Prescaled) :
    (timer.tick reload).left reload = timer.left reload - 1 := by
  obtain ⟨divider, counter⟩ := timer
  match divider, counter with
  | 0, 0 => rfl
  | divider + 1, 0 => rfl
  | divider + 1, counter + 1 =>
      change divider + 1 + _ = divider + 1 + 1 + _ - 1
      omega
  | 0, 1 => exact (congrArg (0 + 1 + · - 1) (Nat.zero_mul (reload + 1))).symm
  | 0, counter + 2 =>
      have row : (counter + 1) * (reload + 1) = counter * (reload + 1) + (reload + 1) :=
        Nat.succ_mul counter (reload + 1)
      change reload + 1 + counter * (reload + 1) = 0 + 1 + (counter + 1) * (reload + 1) - 1
      omega

theorem left_ticks (timer : Prescaled) (n : ℕ) :
    ((tick reload)^[n] timer).left reload = timer.left reload - n := by
  induction n with
  | zero => rfl
  | succ n ih =>
      rw [Function.iterate_succ_apply', left_tick, ih]
      omega

/-- The counter is at 0 when no tick is left. -/
theorem counter_eq_zero_iff (timer : Prescaled) : timer.counter = 0 ↔ timer.left reload = 0 := by
  obtain ⟨divider, counter⟩ := timer
  match counter with
  | 0 => exact iff_of_true rfl rfl
  | counter + 1 =>
      refine iff_of_false (Nat.succ_ne_zero counter) ?_
      change divider + 1 + _ ≠ 0
      omega

/-- A full count takes its rows less the ticks of the first one that are over. -/
theorem left_full (divider counter : ℕ) :
    left reload ⟨divider, counter + 1⟩ = divider + 1 + counter * (reload + 1) := rfl

end Prescaled

end Hcan.Library
