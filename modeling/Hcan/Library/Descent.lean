import Mathlib.Logic.Relation
import Mathlib.Data.Fintype.Card

/-!
# Grounded points of a finite relation

A point is grounded when no cycle can be reached from it.  On a finite type every step from
a grounded point leads to a point of smaller height; from a point that is not grounded
there is always a step to another such point.
-/

namespace Hcan.Library

open Relation

variable {α : Type*} {R : α → α → Prop}

/-- No cycle is reachable from `a`. -/
def Grounded (R : α → α → Prop) (a : α) : Prop :=
  ¬ ∃ b, ReflTransGen R a b ∧ TransGen R b b

theorem Grounded.step {a b : α} (grounded : Grounded R a) (edge : R a b) : Grounded R b := by
  rintro ⟨c, reach, cycle⟩
  exact grounded ⟨c, .head edge reach, cycle⟩

theorem exists_step_of_not_grounded {a : α} (endless : ¬ Grounded R a) :
    ∃ b, R a b ∧ ¬ Grounded R b := by
  obtain ⟨c, reach, cycle⟩ := not_not.mp endless
  rcases ReflTransGen.cases_head reach with rfl | ⟨b, edge, rest⟩
  · obtain ⟨b, edge, back⟩ := TransGen.head'_iff.mp cycle
    exact ⟨b, edge, not_not.mpr ⟨a, back, cycle⟩⟩
  · exact ⟨b, edge, not_not.mpr ⟨c, rest, cycle⟩⟩

theorem grounded_of_acyclic (acyclic : ∀ a, ¬ TransGen R a a) (a : α) : Grounded R a :=
  fun ⟨b, _, cycle⟩ => acyclic b cycle

open Classical in
/-- The number of points that can be reached in one step or more. -/
noncomputable def height [Fintype α] (R : α → α → Prop) (a : α) : Nat :=
  (Finset.univ.filter fun b => TransGen R a b).card

theorem height_le [Fintype α] (R : α → α → Prop) (a : α) : height R a ≤ Fintype.card α := by
  classical
  exact Finset.card_le_univ _

/-- A step from a grounded point loses the point it leads to. -/
theorem height_lt [Fintype α] {a b : α} (grounded : Grounded R a) (edge : R a b) :
    height R b < height R a := by
  classical
  apply Finset.card_lt_card
  constructor
  · intro c reached
    have path := (Finset.mem_filter.mp reached).2
    exact Finset.mem_filter.mpr ⟨Finset.mem_univ c, .head edge path⟩
  · intro all
    have own := Finset.mem_filter.mpr ⟨Finset.mem_univ b, TransGen.single edge⟩
    exact grounded ⟨b, .single edge, (Finset.mem_filter.mp (all own)).2⟩

end Hcan.Library
