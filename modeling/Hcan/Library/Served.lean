import Mathlib.Data.List.Nodup
import Mathlib.Logic.Function.Basic

/-!
# Places that are served by rank

Each place is free or holds a value.  A server takes the value of the first used place in a fixed
order of the places.  So the values leave in this order, and a value that is put into a free place
leaves behind all others exactly when no place behind its own is used.
-/

namespace Hcan.Library

variable {ι α : Type*} {order front back : List ι} {slot : ι → Option α}

/-- The values in the order in which they leave. -/
def waiting (order : List ι) (slot : ι → Option α) : List α := order.filterMap slot

/-- The place that is served next. -/
def served (order : List ι) (slot : ι → Option α) : Option ι := order.find? fun i => (slot i).isSome

theorem waiting_nil_of_served (none_ : served order slot = none) : waiting order slot = [] := by
  refine List.filterMap_eq_nil_iff.mpr fun i inside => ?_
  have free := List.find?_eq_none.mp none_ i inside
  exact Option.not_isSome_iff_eq_none.mp free

variable [DecidableEq ι]

theorem filterMap_update {i : ι} (outside : i ∉ order) (value : Option α) :
    order.filterMap (Function.update slot i value) = order.filterMap slot :=
  List.filterMap_congr fun _ inside =>
    Function.update_of_ne (ne_of_mem_of_not_mem inside outside) value slot

/-- Serving takes the first value that waits. -/
theorem waiting_serve (nodup : order.Nodup) {i : ι} (next : served order slot = some i) :
    ∃ value, slot i = some value ∧
      waiting order slot = value :: waiting order (Function.update slot i none) := by
  induction order with
  | nil => cases next
  | cons j order ih =>
      obtain ⟨outside, rest⟩ := List.nodup_cons.mp nodup
      cases here : slot j with
      | none =>
          have later : served order slot = some i := by
            rwa [served, List.find?_cons_of_neg (by rw [here]; exact Bool.false_ne_true)] at next
          obtain ⟨value, used, tail⟩ := ih rest later
          have apart : j ≠ i := by
            rintro rfl
            rw [here] at used
            cases used
          refine ⟨value, used, ?_⟩
          rw [waiting, waiting, List.filterMap_cons_none here,
            List.filterMap_cons_none ((Function.update_of_ne apart none slot).trans here)]
          exact tail
      | some value =>
          have same : j = i := by
            rw [served, List.find?_cons_of_pos (by rw [here]; rfl)] at next
            exact Option.some.inj next
          subst same
          refine ⟨value, here, ?_⟩
          rw [waiting, waiting, List.filterMap_cons_some here,
            List.filterMap_cons_none (Function.update_self j none slot), filterMap_update outside]

/-- A value that is put into a free place leaves in front of the values behind it. -/
theorem waiting_put {i : ι} (nodup : (front ++ i :: back).Nodup) (free : slot i = none)
    (value : α) :
    waiting (front ++ i :: back) slot = front.filterMap slot ++ back.filterMap slot ∧
      waiting (front ++ i :: back) (Function.update slot i (some value)) =
        front.filterMap slot ++ value :: back.filterMap slot := by
  have apart := List.nodup_middle.mp nodup
  obtain ⟨outside, -⟩ := List.nodup_cons.mp apart
  have inFront : i ∉ front := fun inside => outside (List.mem_append_left _ inside)
  have inBack : i ∉ back := fun inside => outside (List.mem_append_right _ inside)
  constructor
  · rw [waiting, List.filterMap_append, List.filterMap_cons_none free]
  · rw [waiting, List.filterMap_append, filterMap_update inFront,
      List.filterMap_cons_some (Function.update_self i (some value) slot), filterMap_update inBack]

/-- It leaves last exactly when no place behind its own is used. -/
theorem waiting_put_last_iff {i : ι} (nodup : (front ++ i :: back).Nodup) (free : slot i = none)
    {value : α} (new : value ∉ waiting (front ++ i :: back) slot) :
    waiting (front ++ i :: back) (Function.update slot i (some value)) =
      waiting (front ++ i :: back) slot ++ [value] ↔ ∀ j ∈ back, slot j = none := by
  obtain ⟨before, after⟩ := waiting_put nodup free value
  rw [before] at new
  rw [before, after, List.append_assoc, List.append_cancel_left_eq, ← List.filterMap_eq_nil_iff]
  generalize back.filterMap slot = behind at new ⊢
  cases behind with
  | nil => exact iff_of_true rfl rfl
  | cons other rest =>
      refine iff_of_false (fun same => new ?_) (List.cons_ne_nil other rest)
      rw [(List.cons.inj same).1]
      exact List.mem_append_right _ List.mem_cons_self

end Hcan.Library
