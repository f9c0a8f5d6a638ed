import Mathlib.Data.List.Basic
import Mathlib.Logic.Function.Iterate

/-!
# Shift registers

A chain of stages in which every clock moves the contents on by one stage.  Behind as many clocks
as there are stages nothing of the old contents is left, whatever it was.
-/

namespace Hcan.Library

variable {α : Type*}

/-- A value enters at the first stage, that of the last one is lost. -/
def shiftIn (value : α) (stages : List α) : List α := (value :: stages).take stages.length

def shiftAll (values stages : List α) : List α :=
  values.foldl (fun stages value => shiftIn value stages) stages

@[simp] theorem shiftAll_nil (stages : List α) : shiftAll [] stages = stages := rfl

@[simp]
theorem shiftAll_cons (value : α) (values stages : List α) :
    shiftAll (value :: values) stages = shiftAll values (shiftIn value stages) := rfl

theorem shiftAll_append (front back stages : List α) :
    shiftAll (front ++ back) stages = shiftAll back (shiftAll front stages) := List.foldl_append

@[simp]
theorem shiftIn_length (value : α) (stages : List α) :
    (shiftIn value stages).length = stages.length := by
  rw [shiftIn, List.length_take, List.length_cons]
  omega

/-- The last value is in the first stage. -/
theorem shiftAll_eq_take (values stages : List α) :
    shiftAll values stages = (values.reverse ++ stages).take stages.length := by
  induction values generalizing stages with
  | nil => exact (List.take_length).symm
  | cons value values ih =>
      have cut : stages.length ≤ values.length + stages.length + 1 := by omega
      rw [shiftAll_cons, ih, shiftIn_length, shiftIn, List.reverse_cons, List.append_assoc,
        List.singleton_append, List.take_append, List.take_append, List.take_take,
        Nat.min_eq_left (Nat.sub_le _ _)]

/-- A stage holds the value that was as many clocks ago. -/
theorem shiftAll_getElem? {values stages : List α} {i : Nat} (stage : i < stages.length)
    (clocked : i < values.length) : (shiftAll values stages)[i]? = values.reverse[i]? := by
  rw [shiftAll_eq_take, List.getElem?_take_of_lt stage,
    List.getElem?_append_left (by rwa [List.length_reverse])]

/-- A value leaves at the first stage, another one enters at the last. -/
def shiftOut (value : α) (stages : List α) : List α := (stages ++ [value]).tail

/-- What comes out behind some clocks is the value that was loaded into that stage. -/
theorem shiftOut_iterate_head? {value : α} {stages : List α} {n : Nat} (stage : n < stages.length) :
    ((shiftOut value)^[n] stages).head? = stages[n]? := by
  induction n generalizing stages with
  | zero => rw [Function.iterate_zero_apply, List.head?_eq_getElem?]
  | succ n ih =>
      cases stages with
      | nil => exact absurd stage (Nat.not_lt_zero _)
      | cons first rest =>
          have next : shiftOut value (first :: rest) = rest ++ [value] := rfl
          have inside : n < rest.length := Nat.lt_of_succ_lt_succ stage
          rw [Function.iterate_succ_apply, next,
            ih (Nat.lt_of_lt_of_le inside (by rw [List.length_append]; exact Nat.le_add_right _ _)),
            List.getElem?_append_left inside, List.getElem?_cons_succ]

end Hcan.Library
