import Mathlib.Data.List.ReduceOption

/-!
# A store of slots

A fixed number of slots, each one free or holding a value.  A value is put into
the lowest free slot and taken from the lowest used one.  Taking always yields
the first value in slot order; putting appends behind the last value as long as
no slot is free below a used one.
-/

namespace Hcan.Library

variable {α : Type*}

/-- The slot that the next value is taken from, and the one it is put into. -/
def lowestUsed (slots : List (Option α)) : Nat := slots.findIdx Option.isSome
def lowestFree (slots : List (Option α)) : Nat := slots.findIdx Option.isNone

/-- No slot is free below a used one. -/
def Packed (slots : List (Option α)) : Prop :=
  slots.Pairwise fun lower upper => upper.isSome → lower.isSome

instance (slots : List (Option α)) : Decidable (Packed slots) :=
  inferInstanceAs (Decidable (List.Pairwise _ slots))

theorem packed_of_empty {slots : List (Option α)} (empty : slots.reduceOption = []) :
    Packed slots := by
  obtain ⟨n, rfl⟩ := (List.reduceOption_eq_nil_iff slots).mp empty
  exact List.pairwise_replicate.mpr (.inr id)

/-- Taking yields the first value in slot order. -/
theorem reduceOption_take (slots : List (Option α)) (used : lowestUsed slots < slots.length) :
    ∃ value, slots[lowestUsed slots]? = some (some value) ∧
      slots.reduceOption = value :: (slots.set (lowestUsed slots) none).reduceOption := by
  induction slots with
  | nil => exact absurd used (Nat.not_lt_zero _)
  | cons slot slots ih =>
      cases slot with
      | none =>
          have next : lowestUsed (none :: slots) = lowestUsed slots + 1 := by
            simp [lowestUsed, List.findIdx_cons]
          rw [next] at used ⊢
          obtain ⟨value, here, order⟩ := ih (Nat.lt_of_succ_lt_succ used)
          refine ⟨value, by rw [List.getElem?_cons_succ, here], ?_⟩
          rw [List.set_cons_succ, List.reduceOption_cons_of_none,
            List.reduceOption_cons_of_none, order]
      | some value =>
          have first : lowestUsed (some value :: slots) = 0 := by
            simp [lowestUsed, List.findIdx_cons]
          rw [first]
          refine ⟨value, rfl, ?_⟩
          rw [List.set_cons_zero, List.reduceOption_cons_of_some, List.reduceOption_cons_of_none]

/-- Putting into packed slots appends behind the last value. -/
theorem reduceOption_put {slots : List (Option α)} (packed : Packed slots)
    (room : lowestFree slots < slots.length) (value : α) :
    (slots.set (lowestFree slots) (some value)).reduceOption = slots.reduceOption ++ [value] := by
  induction slots with
  | nil => exact absurd room (Nat.not_lt_zero _)
  | cons slot slots ih =>
      obtain ⟨above, rest⟩ := List.pairwise_cons.mp packed
      cases slot with
      | none =>
          have first : lowestFree (none :: slots) = 0 := by simp [lowestFree, List.findIdx_cons]
          have empty : slots.reduceOption = [] := by
            refine (List.reduceOption_eq_nil_iff slots).mpr ⟨slots.length, ?_⟩
            refine List.eq_replicate_of_mem fun upper member => ?_
            cases upper with
            | none => rfl
            | some other => exact absurd (above _ member rfl) Bool.false_ne_true
          rw [first, List.set_cons_zero, List.reduceOption_cons_of_some,
            List.reduceOption_cons_of_none, empty, List.nil_append]
      | some present =>
          have next : lowestFree (some present :: slots) = lowestFree slots + 1 := by
            simp [lowestFree, List.findIdx_cons]
          rw [next] at room ⊢
          rw [List.set_cons_succ, List.reduceOption_cons_of_some, List.reduceOption_cons_of_some,
            ih rest (Nat.lt_of_succ_lt_succ room), List.cons_append]

/-- Putting into slots that are not packed brings the value in front of an earlier one. -/
theorem reduceOption_put_unpacked {slots : List (Option α)} (unpacked : ¬ Packed slots)
    (value : α) :
    ∃ front back, back ≠ [] ∧ slots.reduceOption = front ++ back ∧
      (slots.set (lowestFree slots) (some value)).reduceOption = front ++ value :: back := by
  induction slots with
  | nil => exact absurd List.Pairwise.nil unpacked
  | cons slot slots ih =>
      cases slot with
      | none =>
          have first : lowestFree (none :: slots) = 0 := by simp [lowestFree, List.findIdx_cons]
          rw [first, List.set_cons_zero, List.reduceOption_cons_of_some,
            List.reduceOption_cons_of_none]
          refine ⟨[], slots.reduceOption, fun empty => unpacked ?_, rfl, rfl⟩
          exact packed_of_empty (by rw [List.reduceOption_cons_of_none, empty])
      | some present =>
          have next : lowestFree (some present :: slots) = lowestFree slots + 1 := by
            simp [lowestFree, List.findIdx_cons]
          have inRest : ¬ Packed slots := fun packed =>
            unpacked (List.Pairwise.cons (fun _ _ _ => rfl) packed)
          obtain ⟨front, back, some, before, behind⟩ := ih inRest
          refine ⟨present :: front, back, some, ?_, ?_⟩
          · rw [List.reduceOption_cons_of_some, before, List.cons_append]
          · rw [next, List.set_cons_succ, List.reduceOption_cons_of_some, behind, List.cons_append]

/-- Wherever it is put, a value is added and nothing is lost. -/
theorem reduceOption_put_perm (slots : List (Option α)) (room : lowestFree slots < slots.length)
    (value : α) :
    ((slots.set (lowestFree slots) (some value)).reduceOption).Perm
      (value :: slots.reduceOption) := by
  induction slots with
  | nil => exact absurd room (Nat.not_lt_zero _)
  | cons slot slots ih =>
      cases slot with
      | none =>
          have first : lowestFree (none :: slots) = 0 := by simp [lowestFree, List.findIdx_cons]
          rw [first, List.set_cons_zero, List.reduceOption_cons_of_some,
            List.reduceOption_cons_of_none]
      | some present =>
          have next : lowestFree (some present :: slots) = lowestFree slots + 1 := by
            simp [lowestFree, List.findIdx_cons]
          rw [next] at room ⊢
          rw [List.set_cons_succ, List.reduceOption_cons_of_some, List.reduceOption_cons_of_some]
          exact ((ih (Nat.lt_of_succ_lt_succ room)).cons present).trans (List.Perm.swap _ _ _)

end Hcan.Library
