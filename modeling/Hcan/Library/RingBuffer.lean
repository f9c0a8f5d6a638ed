import Mathlib.Data.List.Rotate

/-!
# Ring buffers

A buffer of fixed size whose oldest value makes room for the next one.  In the order of their age
the values are a window that moves over everything that has been added.
-/

namespace Hcan.Library

/-- The buffer with the place of the next value. -/
structure RingBuffer (α : Type*) (n : ℕ) where
  data : Vector α n
  next : Fin n
  deriving DecidableEq, Repr

namespace RingBuffer

theorem advance_lt {n : ℕ} (next : Fin n) : (next + 1) % n < n :=
  Nat.mod_lt _ (Nat.lt_of_le_of_lt (Nat.zero_le _) next.isLt)

section Values

variable {α : Type*} {n : ℕ}

/-- A buffer that is full of one value. -/
def full (value : α) (start : Fin n) : RingBuffer α n := ⟨Vector.replicate n value, start⟩

def add (ring : RingBuffer α n) (value : α) : RingBuffer α n where
  data := ring.data.set ring.next value ring.next.isLt
  next := ⟨(ring.next + 1) % n, advance_lt ring.next⟩

/-- The values in the order of their age. -/
def contents (ring : RingBuffer α n) : List α := ring.data.toList.rotate ring.next

theorem length_contents (ring : RingBuffer α n) : ring.contents.length = n := by
  rw [contents, List.length_rotate, Vector.length_toList]

theorem contents_perm (ring : RingBuffer α n) : ring.contents.Perm ring.data.toList :=
  List.rotate_perm _ _

/-- A value replaces the oldest one. -/
theorem contents_add (ring : RingBuffer α n) (value : α) :
    (ring.add value).contents = ring.contents.tail ++ [value] := by
  have size : ring.data.toList.length = n := Vector.length_toList
  have inside : ring.next.val < ring.data.toList.length := by
    rw [size]
    exact ring.next.isLt
  obtain ⟨front, oldest, back, cut, here⟩ :
      ∃ front oldest back, ring.data.toList = front ++ oldest :: back ∧
        front.length = ring.next.val := by
    refine ⟨ring.data.toList.take ring.next, ring.data.toList[ring.next.val],
      ring.data.toList.drop (ring.next + 1), ?_, List.length_take_of_le inside.le⟩
    rw [List.getElem_cons_drop, List.take_append_drop]
  have before : ring.contents = oldest :: back ++ front := by
    rw [contents, cut, ← here, List.rotate_append_length_eq]
  have after : (ring.add value).data.toList = front ++ [value] ++ back := by
    change (ring.data.set ring.next value ring.next.isLt).toList = _
    rw [Vector.toList_set, cut, ← here, List.set_append_right _ _ (Nat.le_refl _), Nat.sub_self,
      List.set_cons_zero, List.append_assoc, List.singleton_append]
  have place : (ring.add value).contents = (front ++ [value] ++ back).rotate (ring.next + 1) := by
    have wide : (front ++ [value] ++ back).length = n := by
      rw [← after, Vector.length_toList]
    rw [contents, after, ← List.rotate_mod _ (ring.next + 1), wide]
    rfl
  have length : ring.next + 1 = (front ++ [value]).length := by
    rw [List.length_append, here, List.length_singleton]
  rw [place, length, List.rotate_append_length_eq, before, List.cons_append, List.tail_cons,
    List.append_assoc]

/-- Behind some values the buffer shows the last of all. -/
theorem contents_addAll (ring : RingBuffer α n) (values : List α) :
    (values.foldl add ring).contents = (ring.contents ++ values).drop values.length := by
  induction values generalizing ring with
  | nil => rw [List.append_nil]; rfl
  | cons value values ih =>
      have positive : 0 < ring.contents.length := by
        rw [length_contents]
        exact Nat.lt_of_le_of_lt (Nat.zero_le _) ring.next.isLt
      rw [List.foldl_cons, ih, contents_add, List.length_cons, Nat.add_comm, ← List.drop_drop,
        List.drop_one, List.tail_append_of_ne_nil (List.ne_nil_of_length_pos positive),
        List.append_assoc, List.singleton_append]

/-- Behind enough values the buffer shows the last of these. -/
theorem contents_addAll_of_le (ring : RingBuffer α n) {values : List α}
    (enough : n ≤ values.length) :
    (values.foldl add ring).contents = values.drop (values.length - n) := by
  rw [contents_addAll, List.drop_append, length_contents, List.drop_of_length_le, List.nil_append]
  rw [length_contents]
  exact enough

end Values

end RingBuffer

end Hcan.Library
