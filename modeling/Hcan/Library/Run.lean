import Mathlib.Algebra.Ring.Nat
import Mathlib.Data.List.Basic

/-!
# Runs of a labelled transition relation

A run is a finite sequence of steps, each one labelled by an event.  What every
step keeps holds at the end of a run.  A counted invariant additionally carries
the number of counted events since the run began; timing bounds between two
steps are proved with it.
-/

namespace Hcan.Library

/-- `Run step first events last`: steps labelled `events` lead from `first` to `last`. -/
inductive Run {σ ε : Type*} (step : σ → ε → σ → Prop) : σ → List ε → σ → Prop where
  | nil (state : σ) : Run step state [] state
  | cons {first middle last : σ} {event : ε} {events : List ε}
      (taken : step first event middle) (rest : Run step middle events last) :
      Run step first (event :: events) last

/-- The number of counted events. -/
def tally {ε : Type*} (counted : ε → Nat) (events : List ε) : Nat := (events.map counted).sum

@[simp] theorem tally_nil {ε : Type*} (counted : ε → Nat) : tally counted [] = 0 := rfl

@[simp]
theorem tally_cons {ε : Type*} (counted : ε → Nat) (event : ε) (events : List ε) :
    tally counted (event :: events) = counted event + tally counted events := by
  rw [tally, List.map_cons, List.sum_cons, tally]

namespace Run

variable {σ ε : Type*} {step other : σ → ε → σ → Prop} {first last : σ} {events : List ε}

theorem append_iff {front back : List ε} :
    Run step first (front ++ back) last ↔
      ∃ middle, Run step first front middle ∧ Run step middle back last := by
  constructor
  · intro run
    induction front generalizing first with
    | nil => exact ⟨first, .nil first, run⟩
    | cons event front ih =>
        cases run with
        | cons taken rest =>
            obtain ⟨middle, inFront, inBack⟩ := ih rest
            exact ⟨middle, .cons taken inFront, inBack⟩
  · rintro ⟨middle, inFront, inBack⟩
    induction inFront with
    | nil state => exact inBack
    | cons taken _ ih => exact .cons taken (ih inBack)

theorem single {event : ε} (taken : step first event last) : Run step first [event] last :=
  .cons taken (.nil last)

/-- A run of a relation is a run of every weaker relation. -/
theorem mono (run : Run step first events last)
    (weaker : ∀ state event next, step state event next → other state event next) :
    Run other first events last := by
  induction run with
  | nil state => exact .nil state
  | cons taken _ ih => exact .cons (weaker _ _ _ taken) ih

/-- The invariant rule. -/
theorem invariant (holds : σ → Prop) (run : Run step first events last)
    (keeps : ∀ state event next, step state event next → holds state → holds next)
    (start : holds first) : holds last := by
  induction run with
  | nil state => exact start
  | cons taken _ ih => exact ih (keeps _ _ _ taken start)

/-- The invariant rule with a count of events. -/
theorem counted (counted : ε → Nat) (holds : Nat → σ → Prop) {k : Nat}
    (run : Run step first events last)
    (keeps : ∀ k state event next, step state event next → holds k state →
      holds (k + counted event) next)
    (start : holds k first) : holds (k + tally counted events) last := by
  induction run generalizing k with
  | nil state => exact start
  | @cons first middle last event events taken _ ih =>
      rw [tally_cons, ← Nat.add_assoc]
      exact ih (keeps k _ _ _ taken start)

/-- A function that takes every event of the list runs through it. -/
theorem of_foldl {next : σ → ε → σ}
    (taken : ∀ state, ∀ event ∈ events, step state event (next state event)) :
    Run step first events (events.foldl next first) := by
  induction events generalizing first with
  | nil => exact .nil first
  | cons event events ih =>
      refine .cons (taken first event List.mem_cons_self) (ih fun state later inside => ?_)
      exact taken state later (List.mem_cons_of_mem event inside)

/-- Executing the events of a partial step function gives a run. -/
theorem of_execute {next : σ → ε → Option σ} (executed : events.foldlM next first = some last) :
    Run (fun state event later => next state event = some later) first events last := by
  induction events generalizing first with
  | nil =>
      cases executed
      exact .nil _
  | cons event events ih =>
      rw [List.foldlM_cons] at executed
      obtain ⟨middle, taken, rest⟩ := Option.bind_eq_some_iff.mp executed
      exact .cons taken (ih rest)

end Run

end Hcan.Library
