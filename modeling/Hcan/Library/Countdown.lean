import Hcan.Library.Run
import Mathlib.Data.List.Induction

/-!
# Stretches that a counter bounds

A property of the states of a run that, once it has begun to hold, holds for as many
counted events as a measure says.  So a state in which it holds lies less than that
many counted events behind the event with which it began.
-/

namespace Hcan.Library

variable {σ ε : Type*} {step : σ → ε → σ} {holds : σ → Prop} {measure : σ → Nat}
  {counted : ε → Nat}

/-- While the property holds the measure counts down, and with the last event counted the
property ends. -/
structure Countdown (step : σ → ε → σ) (holds : σ → Prop) (measure : σ → Nat)
    (counted : ε → Nat) : Prop where
  stays : ∀ state event, holds state → counted event < measure state →
    holds (step state event) ∧ measure (step state event) + counted event = measure state
  ends : ∀ state event, holds state → measure state ≤ counted event → ¬holds (step state event)

namespace Countdown

theorem persists (countdown : Countdown step holds measure counted) {state : σ} (events : List ε)
    (begun : holds state) (few : tally counted events < measure state) :
    holds (events.foldl step state) := by
  induction events generalizing state with
  | nil => exact begun
  | cons event events ih =>
      rw [tally_cons] at few
      obtain ⟨still, measured⟩ := countdown.stays state event begun (by omega)
      exact ih still (by omega)

/-- Where the property holds it has begun with an event not too long ago. -/
theorem onset (countdown : Countdown step holds measure counted) {start : σ} (events : List ε)
    (before : ¬holds start) (now : holds (events.foldl step start)) :
    ∃ front event back, events = front ++ event :: back ∧ ¬holds (front.foldl step start) ∧
      holds ((front ++ [event]).foldl step start) ∧
      measure (events.foldl step start) + tally counted back =
        measure ((front ++ [event]).foldl step start) := by
  induction events using List.reverseRecOn with
  | nil => exact absurd now before
  | append_singleton events event ih =>
      rw [List.foldl_concat] at now
      by_cases earlier : holds (events.foldl step start)
      · obtain ⟨front, first, back, split, notYet, begun, measured⟩ := ih earlier
        have few : counted event < measure (events.foldl step start) := by
          by_contra many
          exact countdown.ends _ event earlier (Nat.le_of_not_lt many) now
        obtain ⟨-, falls⟩ := countdown.stays _ event earlier few
        refine ⟨front, first, back ++ [event], by simp [split], notYet, begun, ?_⟩
        have total : tally counted (back ++ [event]) = tally counted back + counted event := by
          simp [tally]
        rw [List.foldl_concat, total]
        omega
      · exact ⟨events, event, [], rfl, earlier, by rwa [List.foldl_concat], rfl⟩

end Countdown

end Hcan.Library
