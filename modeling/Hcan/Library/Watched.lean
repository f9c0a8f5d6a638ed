import Hcan.Library.Run

/-!
# Watched runs

A run beside the list of what is seen of its steps.  Every run can be watched, and what is seen in
it follows by the invariant rule, with the list as a part of the state.
-/

namespace Hcan.Library

/-- A step, with what is seen of it appended to what has been seen before. -/
def Watched {σ ε β : Type*} (step : σ → ε → σ → Prop) (seen : σ → ε → σ → List β)
    (now : σ × List β) (event : ε) (next : σ × List β) : Prop :=
  step now.1 event next.1 ∧ next.2 = now.2 ++ seen now.1 event next.1

namespace Run

variable {σ ε β : Type*} {step : σ → ε → σ → Prop} {first last : σ} {events : List ε}

theorem watched (run : Run step first events last) (seen : σ → ε → σ → List β)
    (before : List β) :
    ∃ after, Run (Watched step seen) (first, before) events (last, after) := by
  induction run generalizing before with
  | nil state => exact ⟨before, .nil _⟩
  | @cons first middle last event events taken _ ih =>
      obtain ⟨after, rest⟩ := ih (before ++ seen first event middle)
      exact ⟨after, .cons ⟨taken, rfl⟩ rest⟩

end Run

end Hcan.Library
