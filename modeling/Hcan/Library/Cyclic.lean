import Mathlib.Data.Nat.Notation

/-!
# Closed intervals on a circle

The points `0` to `n - 1` lie on a circle.  An interval is walked forward from its first to its
last point, which may lead over the end of the numbers; the interval of a point and itself is this
point alone.
-/

namespace Hcan.Library

/-- The number of steps forward from one point to another. -/
def forward (n first last : ℕ) : ℕ := (last + n - first) % n

/-- The point is passed on the walk from `first` to `last`. -/
def InCyclic (n first last point : ℕ) : Prop :=
  ∃ step, step ≤ forward n first last ∧ point = (first + step) % n

section Circle

variable {n first last point : ℕ}

theorem forward_of_le (le : first ≤ last) (bound : last < n) :
    forward n first last = last - first := by
  have turn : last + n - first = last - first + n := by omega
  rw [forward, turn, Nat.add_mod_right, Nat.mod_eq_of_lt (by omega)]

theorem forward_of_lt (lt : last < first) (bound : first < n) :
    forward n first last = last + n - first :=
  Nat.mod_eq_of_lt (by omega)

/-- A point is passed when it is no farther than the last one. -/
theorem inCyclic_iff_forward (firstBound : first < n) (bound : point < n) :
    InCyclic n first last point ↔ forward n first point ≤ forward n first last := by
  constructor
  · rintro ⟨step, most, rfl⟩
    have least : step < n := Nat.lt_of_le_of_lt most (Nat.mod_lt _ (by omega))
    refine Nat.le_trans (Nat.le_of_eq ?_) most
    by_cases turn : first + step < n
    · rw [Nat.mod_eq_of_lt turn, forward_of_le (Nat.le_add_right first step) turn,
        Nat.add_sub_cancel_left]
    · have past : (first + step) % n = first + step - n := by
        rw [Nat.mod_eq_sub_mod (by omega), Nat.mod_eq_of_lt (by omega)]
      rw [past, forward_of_lt (by omega) firstBound]
      omega
  · intro near
    refine ⟨forward n first point, near, ?_⟩
    rcases Nat.lt_or_ge point first with before | behind
    · rw [forward_of_lt before firstBound, Nat.add_sub_of_le (by omega), Nat.add_mod_right,
        Nat.mod_eq_of_lt bound]
    · rw [forward_of_le behind bound, Nat.add_sub_of_le behind, Nat.mod_eq_of_lt bound]

/-- One turn is added to what lies before the first point of an interval over the end. -/
theorem inCyclic_iff_shifted (firstBound : first < n) (lastBound : last < n) (bound : point < n) :
    InCyclic n first last point ↔
      first ≤ (if last < first ∧ point < first then point + n else point) ∧
        (if last < first ∧ point < first then point + n else point) ≤
          if last < first then last + n else last := by
  rw [inCyclic_iff_forward firstBound bound]
  rcases Nat.lt_or_ge last first with crossing | straight
  · rw [forward_of_lt crossing firstBound, if_pos crossing]
    rcases Nat.lt_or_ge point first with before | behind
    · rw [forward_of_lt before firstBound, if_pos ⟨crossing, before⟩]
      omega
    · rw [forward_of_le behind bound, if_neg fun both => Nat.not_lt_of_le behind both.2]
      omega
  · rw [forward_of_le straight lastBound, if_neg (Nat.not_lt_of_le straight),
      if_neg fun both => Nat.not_lt_of_le straight both.1]
    rcases Nat.lt_or_ge point first with before | behind
    · rw [forward_of_lt before firstBound]
      omega
    · rw [forward_of_le behind bound]
      omega

end Circle

end Hcan.Library
