import Mathlib.Data.List.Basic

/-!
# Bounded copy loops

A loop writes `source 0`, `source 1`, … into an array of fixed length.  It has
no result when a write would leave the array, so that running it is the proof
that it stays inside.
-/

namespace Hcan.Library

variable {α : Type*} {n : Nat}

/-- `for (i = 0; i < count; i++) target[i] = source(i)`. -/
def copyInto (source : Nat → α) : Nat → Vector α n → Option (Vector α n)
  | 0, target => some target
  | count + 1, target => do
      let target ← copyInto source count target
      if bound : count < n then some (target.set count (source count)) else none

/-- The array behind a copy of `count` elements. -/
def overlay (source : Nat → α) (count : Nat) (target : Vector α n) : Vector α n :=
  Vector.ofFn fun i => if i.val < count then source i else target[i]

theorem overlay_getElem (source : Nat → α) (count : Nat) (target : Vector α n) {i : Nat}
    (bound : i < n) :
    (overlay source count target)[i] = if i < count then source i else target[i] := by
  rw [overlay, Vector.getElem_ofFn]
  rfl

theorem overlay_getElem_of_lt (source : Nat → α) {count : Nat} (target : Vector α n) {i : Nat}
    (bound : i < n) (copied : i < count) : (overlay source count target)[i] = source i := by
  rw [overlay_getElem source count target bound, if_pos copied]

theorem copyInto_of_le (source : Nat → α) {count : Nat} (target : Vector α n)
    (fits : count ≤ n) : copyInto source count target = some (overlay source count target) := by
  induction count with
  | zero =>
      have same : overlay source 0 target = target := by
        ext i bound
        rw [overlay_getElem _ _ _ bound, if_neg (Nat.not_lt_zero i)]
      rw [copyInto, same]
  | succ count ih =>
      have bound : count < n := fits
      rw [copyInto, ih (Nat.le_of_lt bound), Option.bind_eq_bind, Option.bind_some, dif_pos bound]
      congr 1
      ext i inside
      rw [Vector.getElem_set, overlay_getElem _ _ _ inside, overlay_getElem _ _ _ inside]
      rcases Nat.lt_trichotomy i count with before | rfl | behind
      · rw [if_neg (by omega), if_pos before, if_pos (by omega)]
      · rw [if_pos rfl, if_pos (by omega)]
      · rw [if_neg (by omega), if_neg (by omega), if_neg (by omega)]

/-- A copy that is longer than the array writes behind its end. -/
theorem copyInto_of_lt (source : Nat → α) {count : Nat} (target : Vector α n)
    (overrun : n < count) : copyInto source count target = none := by
  induction count with
  | zero => exact absurd overrun (Nat.not_lt_zero n)
  | succ count ih =>
      rw [copyInto]
      by_cases earlier : n < count
      · rw [ih earlier]
        rfl
      · have last : count = n := by omega
        rw [copyInto_of_le source target (Nat.le_of_eq last), Option.bind_eq_bind, Option.bind_some,
          dif_neg (by omega)]

theorem copyInto_isSome (source : Nat → α) (count : Nat) (target : Vector α n) :
    (copyInto source count target).isSome ↔ count ≤ n := by
  by_cases fits : count ≤ n
  · rw [copyInto_of_le source target fits]
    exact iff_of_true rfl fits
  · rw [copyInto_of_lt source target (by omega)]
    exact iff_of_false Bool.false_ne_true fits

theorem copyInto_eq_some_iff {source : Nat → α} {count : Nat} {target result : Vector α n} :
    copyInto source count target = some result ↔
      count ≤ n ∧ result = overlay source count target := by
  constructor
  · intro copied
    have fits : count ≤ n :=
      (copyInto_isSome source count target).mp (Option.isSome_of_eq_some copied)
    rw [copyInto_of_le source target fits] at copied
    exact ⟨fits, (Option.some.inj copied).symm⟩
  · rintro ⟨fits, rfl⟩
    exact copyInto_of_le source target fits

/-- The copied part is the front of the array. -/
theorem overlay_take (source : Nat → α) {count : Nat} (target : Vector α n) (fits : count ≤ n) :
    (overlay source count target).toList.take count = (List.range count).map source := by
  refine List.ext_getElem ?_ ?_
  · rw [List.length_take, Vector.length_toList, List.length_map, List.length_range,
      Nat.min_eq_left fits]
  · intro i inTake inRange
    have copied : i < count := by simpa using inRange
    rw [List.getElem_take, Vector.getElem_toList, overlay_getElem_of_lt _ _ (by omega) copied,
      List.getElem_map, List.getElem_range]

/-- `for (i = 0; i < count; i++) target[start + i] = source(i)`. -/
def copyAt (source : Nat → α) (start : Nat) : Nat → Vector α n → Option (Vector α n)
  | 0, target => some target
  | count + 1, target => do
      let target ← copyAt source start count target
      if bound : start + count < n then some (target.set (start + count) (source count)) else none

/-- The copy stays inside exactly when each of its writes does. -/
theorem copyAt_isSome (source : Nat → α) (start count : Nat) (target : Vector α n) :
    (copyAt source start count target).isSome ↔ ∀ i < count, start + i < n := by
  induction count with
  | zero => exact iff_of_true rfl fun i below => absurd below (Nat.not_lt_zero i)
  | succ count ih =>
      rw [Nat.forall_lt_succ_right, ← ih, copyAt]
      cases copyAt source start count target with
      | none => simp
      | some copied =>
          rw [Option.bind_eq_bind, Option.bind_some]
          split
          next bound => exact iff_of_true rfl ⟨rfl, bound⟩
          next behind => exact iff_of_false Bool.false_ne_true fun inside => behind inside.2

end Hcan.Library
