import Mathlib.Data.List.Infix

/-!
# Deterministic machines

A machine takes one event after the other; the state after some events is a fold.  Where a step
keeps an invariant exactly when its event fits the state, a run stays inside the invariant exactly
when each of its events fits.
-/

namespace Hcan.Library

/-- The state after the events. -/
def runAll {σ ε : Type*} (step : σ → ε → σ) (first : σ) (events : List ε) : σ :=
  events.foldl step first

/-- The invariant holds in every state of the run. -/
def AlwaysHolds {σ ε : Type*} (step : σ → ε → σ) (holds : σ → Prop) (first : σ)
    (events : List ε) : Prop :=
  ∀ front, front <+: events → holds (runAll step first front)

/-- Every step of the run fits the state that it is taken in. -/
def AlwaysFits {σ ε : Type*} (step : σ → ε → σ) (fits : σ → ε → Prop) (first : σ)
    (events : List ε) : Prop :=
  ∀ front event, front ++ [event] <+: events → fits (runAll step first front) event

section Machine

variable {σ ε : Type*} {step : σ → ε → σ} {first : σ} {events : List ε}

@[simp] theorem runAll_nil : runAll step first [] = first := rfl

@[simp]
theorem runAll_cons (event : ε) :
    runAll step first (event :: events) = runAll step (step first event) events := rfl

theorem runAll_append (front : List ε) :
    runAll step first (front ++ events) = runAll step (runAll step first front) events :=
  List.foldl_append

theorem runAll_snoc (front : List ε) (event : ε) :
    runAll step first (front ++ [event]) = step (runAll step first front) event :=
  runAll_append front

/-- The invariant rule. -/
theorem runAll_invariant (holds : σ → Prop) (start : holds first)
    (keeps : ∀ state event, holds state → holds (step state event)) :
    holds (runAll step first events) := by
  induction events generalizing first with
  | nil => exact start
  | cons event events ih => exact ih (keeps first event start)

theorem alwaysHolds_nil {holds : σ → Prop} : AlwaysHolds step holds first [] ↔ holds first := by
  refine ⟨fun always => always [] List.nil_prefix, fun here front before => ?_⟩
  rwa [List.prefix_nil.mp before]

theorem alwaysHolds_cons {holds : σ → Prop} {event : ε} :
    AlwaysHolds step holds first (event :: events) ↔
      holds first ∧ AlwaysHolds step holds (step first event) events := by
  constructor
  · intro always
    refine ⟨always [] List.nil_prefix, fun front before => ?_⟩
    exact always (event :: front) (List.cons_prefix_cons.mpr ⟨rfl, before⟩)
  · rintro ⟨here, later⟩ front before
    cases front with
    | nil => exact here
    | cons other front =>
        obtain ⟨rfl, rest⟩ := List.cons_prefix_cons.mp before
        exact later front rest

theorem alwaysFits_nil {fits : σ → ε → Prop} : AlwaysFits step fits first [] := by
  intro front event before
  cases List.append_eq_nil_iff.mp (List.prefix_nil.mp before) with
  | intro _ none => cases none

theorem alwaysFits_cons {fits : σ → ε → Prop} {event : ε} :
    AlwaysFits step fits first (event :: events) ↔
      fits first event ∧ AlwaysFits step fits (step first event) events := by
  constructor
  · intro always
    refine ⟨always [] event (List.cons_prefix_cons.mpr ⟨rfl, List.nil_prefix⟩),
      fun front last before => ?_⟩
    exact always (event :: front) last (List.cons_prefix_cons.mpr ⟨rfl, before⟩)
  · rintro ⟨here, later⟩ front last before
    cases front with
    | nil =>
        obtain ⟨rfl, -⟩ := List.cons_prefix_cons.mp before
        exact here
    | cons other front =>
        obtain ⟨rfl, rest⟩ := List.cons_prefix_cons.mp before
        exact later front last rest

/-- The invariant rule for a part that shows: while it does, the whole invariant is kept. -/
theorem alwaysHolds_part_iff (holds : σ → Prop) {part : σ → Prop} {fits : σ → ε → Prop}
    (start : holds first) (shown : ∀ state, holds state → part state)
    (exact_ : ∀ state event, holds state → (part (step state event) ↔ fits state event))
    (keeps : ∀ state event, holds state → fits state event → holds (step state event)) :
    AlwaysHolds step part first events ↔ AlwaysFits step fits first events := by
  induction events generalizing first with
  | nil => exact iff_of_true (alwaysHolds_nil.mpr (shown first start)) alwaysFits_nil
  | cons event events ih =>
      have here := exact_ first event start
      rw [alwaysHolds_cons, alwaysFits_cons]
      constructor
      · rintro ⟨-, later⟩
        have fitting := here.mp (later [] List.nil_prefix)
        exact ⟨fitting, (ih (keeps first event start fitting)).mp later⟩
      · rintro ⟨fitting, later⟩
        exact ⟨shown first start, (ih (keeps first event start fitting)).mpr later⟩

/-- The invariant rule, exactly. -/
theorem alwaysHolds_iff {holds : σ → Prop} {fits : σ → ε → Prop} (start : holds first)
    (exact_ : ∀ state event, holds state → (holds (step state event) ↔ fits state event)) :
    AlwaysHolds step holds first events ↔ AlwaysFits step fits first events :=
  alwaysHolds_part_iff holds start (fun _ here => here) exact_
    fun state event here => (exact_ state event here).mpr

/-- A condition on the events alone. -/
theorem alwaysFits_forall {fits : ε → Prop} :
    AlwaysFits step (fun _ event => fits event) first events ↔ ∀ event ∈ events, fits event := by
  induction events generalizing first with
  | nil => exact iff_of_true alwaysFits_nil fun _ inside => absurd inside List.not_mem_nil
  | cons event events ih => rw [alwaysFits_cons, ih, List.forall_mem_cons]

/-- Where an invariant makes every step fit, all runs do. -/
theorem alwaysFits_of_holds (holds : σ → Prop) {fits : σ → ε → Prop} (start : holds first)
    (keeps : ∀ state event, holds state → holds (step state event))
    (fitting : ∀ state event, holds state → fits state event) :
    AlwaysFits step fits first events :=
  fun front event _ => fitting (runAll step first front) event (runAll_invariant holds start keeps)

/-- Two conditions on the steps that agree inside an invariant hold in the same runs. -/
theorem alwaysFits_congr_of_holds (holds : σ → Prop) {fits other : σ → ε → Prop}
    (start : holds first) (keeps : ∀ state event, holds state → holds (step state event))
    (same : ∀ state event, holds state → (fits state event ↔ other state event)) :
    AlwaysFits step fits first events ↔ AlwaysFits step other first events :=
  forall₂_congr fun front event => imp_congr_right fun _ =>
    same (runAll step first front) event (runAll_invariant holds start keeps)

/-- Steps that keep an invariant where they fit one condition fit another one that follows. -/
theorem alwaysFits_of_fits (holds : σ → Prop) {fits other : σ → ε → Prop} (start : holds first)
    (keeps : ∀ state event, holds state → fits state event → holds (step state event))
    (follows : ∀ state event, holds state → fits state event → other state event)
    (fitting : AlwaysFits step fits first events) : AlwaysFits step other first events := by
  induction events generalizing first with
  | nil => exact alwaysFits_nil
  | cons event events ih =>
      obtain ⟨here, later⟩ := alwaysFits_cons.mp fitting
      exact alwaysFits_cons.mpr
        ⟨follows first event start here, ih (keeps first event start here) later⟩

/-- Two conditions on the steps that agree hold in the same runs. -/
theorem alwaysFits_congr {fits other : σ → ε → Prop}
    (same : ∀ state event, fits state event ↔ other state event) :
    AlwaysFits step fits first events ↔ AlwaysFits step other first events :=
  forall₂_congr fun front event => imp_congr_right fun _ => same (runAll step first front) event

end Machine

end Hcan.Library
