import Hcan.Controller.Timer
import Mathlib.Data.List.Basic
import Mathlib.Data.List.Induction
import Mathlib.Data.Nat.Basic

/-!
# The rounds that are not lost

An event is one flag, so that two interrupts before the next test make one round.  The
number of rounds is right exactly in the runs in which every interrupt finds the flag of
the 10 ms clock cleared.  Then the slower clocks are right as well, because at most two
idle handlers can have taken that flag before one of them tests the next.
-/

namespace Hcan.Controller

open TimerState

def Takt.period : Takt → Nat
  | .hundredth => 1
  | .tenth => 10
  | .one => 100

/-- Every call of `timer_handler` is one 10 ms round, and every 10th and 100th one a slower
round. -/
def AllRounds (s : TimerState) : Prop := ∀ t, s.rounds t = s.calls / t.period

/-- Every interrupt of the run finds the flag of the 10 ms clock cleared. -/
def Attentive (events : List TimerEvent) : Prop :=
  ∀ front back, events = front ++ .timer :: back → (run front).event .hundredth = false

/-- The last event of the run is the return of an idle handler. -/
def IdleReturned (events : List TimerEvent) : Prop :=
  ∃ front, events = front ++ [.advance] ∧ (run front).top = some .done

theorem run_snoc (events : List TimerEvent) (event : TimerEvent) :
    run (events ++ [event]) = (run events).step event := List.foldl_concat ..

/-- The counters count the calls, and a reset comes right behind the test. -/
structure Orderly (s : TimerState) : Prop where
  hundredth : s.counter100th.toNat = s.calls % 10
  tenth : s.counter10th.toNat = s.calls / 10 % 10
  reset : ∀ t, s.top = some (.reset t) → s.event t = true
  /-- Below a sleep no reset is pending. -/
  outer : s.sleeping = true → maySleep s.outer = true
  inner : s.inner ≠ none → s.sleeping = true

theorem Orderly.inner_none {s : TimerState} (orderly : Orderly s) (awake : s.sleeping = false) :
    s.inner = none := by
  by_contra nested
  exact Bool.false_ne_true (awake.symm.trans (orderly.inner nested))

theorem orderly_start : Orderly start where
  hundredth := rfl
  tenth := rfl
  reset _ top := nomatch top
  outer asleep := nomatch asleep
  inner nested := absurd rfl nested

/-- What the interrupt changes. -/
structure Interrupted (s next : TimerState) : Prop where
  calls : next.calls = s.calls + 1
  event : ∀ t, next.event t = (s.event t || decide ((s.calls + 1) % t.period = 0))
  rounds : next.rounds = s.rounds
  outer : next.outer = s.outer
  sleeping : next.sleeping = s.sleeping
  inner : next.inner = s.inner
  hundredth : next.counter100th.toNat = next.calls % 10
  tenth : next.counter10th.toNat = next.calls / 10 % 10

/-- A counter below ten that is incremented. -/
theorem counter_succ {counter : UInt8} {n : Nat} (small : counter.toNat = n % 10) :
    (counter + 1).toNat = n % 10 + 1 ∧ (counter + 1 = 10 ↔ n % 10 = 9) := by
  have value : (counter + 1).toNat = n % 10 + 1 := by
    rw [UInt8.toNat_add, small]
    change (n % 10 + 1) % 256 = _
    omega
  refine ⟨value, ?_⟩
  rw [← UInt8.toNat_inj, value]
  change n % 10 + 1 = 10 ↔ _
  omega

theorem timerHandler_interrupted {s : TimerState} (hundredth : s.counter100th.toNat = s.calls % 10)
    (tenth : s.counter10th.toNat = s.calls / 10 % 10) : Interrupted s s.timerHandler := by
  obtain ⟨fast, full⟩ := counter_succ hundredth
  obtain ⟨slow, whole⟩ := counter_succ tenth
  have below : s.counter10th ≠ 10 := by
    intro same
    rw [same] at tenth
    change 10 = _ at tenth
    omega
  by_cases tens : (s.calls + 1) % 10 = 0
  · have carry : s.counter100th + 1 = 10 := full.mpr (by omega)
    by_cases hundreds : (s.calls + 1) % 100 = 0
    · have carries : s.counter10th + 1 = 10 := whole.mpr (by omega)
      unfold timerHandler
      dsimp only
      rw [if_pos carry]
      dsimp only
      rw [if_pos carries]
      refine ⟨rfl, fun t => ?_, rfl, rfl, rfl, rfl, tens.symm, ?_⟩
      · cases t with
        | hundredth => simp [Takt.period, Nat.mod_one]
        | tenth => simp [Takt.period, tens]
        | one => simp [Takt.period, hundreds]
      · change 0 = (s.calls + 1) / 10 % 10
        omega
    · have stays : s.counter10th + 1 ≠ 10 := mt whole.mp (by omega)
      unfold timerHandler
      dsimp only
      rw [if_pos carry]
      dsimp only
      rw [if_neg stays]
      refine ⟨rfl, fun t => ?_, rfl, rfl, rfl, rfl, tens.symm, ?_⟩
      · cases t with
        | hundredth => simp [Takt.period, Nat.mod_one]
        | tenth => simp [Takt.period, tens]
        | one => simp [Takt.period, hundreds]
      · change (s.counter10th + 1).toNat = (s.calls + 1) / 10 % 10
        omega
  · have stays : s.counter100th + 1 ≠ 10 := mt full.mp (by omega)
    have hundreds : ¬(s.calls + 1) % 100 = 0 := by omega
    unfold timerHandler
    dsimp only
    rw [if_neg stays]
    dsimp only
    rw [if_neg below]
    refine ⟨rfl, fun t => ?_, rfl, rfl, rfl, rfl, ?_, ?_⟩
    · cases t with
      | hundredth => simp [Takt.period, Nat.mod_one]
      | tenth => simp [Takt.period, tens]
      | one => simp [Takt.period, hundreds]
    · change (s.counter100th + 1).toNat = (s.calls + 1) % 10
      omega
    · change s.counter10th.toNat = (s.calls + 1) / 10 % 10
      omega

/-- The steps that change anything. -/
inductive StepCase (s : TimerState) : TimerEvent → TimerState → Prop where
  | same (event : TimerEvent) (other : event ≠ .timer) : StepCase s event s
  | timer : StepCase s .timer s.timerHandler
  | callInner (asleep : s.sleeping = true) (idle : s.inner = none) :
      StepCase s .idle { s with inner := some (.test .hundredth) }
  | callOuter (awake : s.sleeping = false) (idle : s.outer = none) :
      StepCase s .idle { s with outer := some (.test .hundredth) }
  | inner {phase : IdlePhase} (here : s.inner = some phase) :
      StepCase s .advance { (s.proceed phase).1 with inner := (s.proceed phase).2 }
  | outer {phase : IdlePhase} (none : s.inner = none) (awake : s.sleeping = false)
      (here : s.outer = some phase) :
      StepCase s .advance { (s.proceed phase).1 with outer := (s.proceed phase).2 }
  | sleep (awake : s.sleeping = false) (may : maySleep s.outer = true) :
      StepCase s .sleep { s with sleeping := true }
  | wake (asleep : s.sleeping = true) (none : s.inner = none) :
      StepCase s .wake { s with sleeping := false }

theorem step_case (s : TimerState) (event : TimerEvent) : StepCase s event (s.step event) := by
  cases event with
  | timer => exact .timer
  | idle =>
      unfold step
      dsimp only
      split
      · next asleep =>
          split
          · next idle => exact .callInner asleep idle
          · exact .same _ TimerEvent.noConfusion
      · next awake =>
          split
          · next idle => exact .callOuter (eq_false_of_ne_true awake) idle
          · exact .same _ TimerEvent.noConfusion
  | advance =>
      unfold step
      dsimp only
      split
      · next here => exact .inner here
      · next none =>
          split
          · exact .same _ TimerEvent.noConfusion
          · next awake =>
              split
              · next here => exact .outer none (eq_false_of_ne_true awake) here
              · exact .same _ TimerEvent.noConfusion
  | sleep =>
      unfold step
      dsimp only
      split
      · next both =>
          rw [Bool.and_eq_true, Bool.not_eq_true'] at both
          exact .sleep both.1 both.2
      · exact .same _ TimerEvent.noConfusion
  | wake =>
      unfold step
      dsimp only
      split
      · next both =>
          rw [Bool.and_eq_true, Option.isNone_iff_eq_none] at both
          exact .wake both.1 both.2
      · exact .same _ TimerEvent.noConfusion

theorem top_inner {s : TimerState} {phase : IdlePhase} (here : s.inner = some phase) :
    s.top = some phase := by
  unfold top
  rw [here]

theorem top_outer {s : TimerState} (none : s.inner = none) (awake : s.sleeping = false) :
    s.top = s.outer := by
  unfold top
  rw [none, awake]
  rfl

/-- A reset is reached only with the event, and nothing but flags and rounds changes. -/
theorem proceed_reset (s : TimerState) (phase : IdlePhase) {t : Takt}
    (next : (s.proceed phase).2 = some (.reset t)) : (s.proceed phase).1.event t = true := by
  cases phase with
  | test u =>
      change some (if s.event u then IdlePhase.reset u else u.behind) = _ at next
      split at next
      · next event =>
          cases next
          exact event
      · cases u <;> cases next
  | reset u => cases next
  | round u => cases u <;> cases next
  | done => cases next

theorem proceed_same (s : TimerState) (phase : IdlePhase) :
    ∃ event rounds, (s.proceed phase).1 = { s with event := event, rounds := rounds } := by
  cases phase with
  | test t => exact ⟨s.event, s.rounds, rfl⟩
  | reset t => exact ⟨_, _, rfl⟩
  | round t => exact ⟨s.event, s.rounds, rfl⟩
  | done => exact ⟨s.event, s.rounds, rfl⟩

theorem orderly_step {s : TimerState} (orderly : Orderly s) (event : TimerEvent) :
    Orderly (s.step event) := by
  have step := step_case s event
  generalize s.step event = next at step ⊢
  cases step with
  | same => exact orderly
  | timer =>
      obtain ⟨calls, events, rounds, outer, sleeping, inner, hundredth, tenth⟩ :=
        timerHandler_interrupted orderly.hundredth orderly.tenth
      refine ⟨hundredth, tenth, fun t top => ?_, ?_, ?_⟩
      · have before : s.top = some (.reset t) := by
          unfold TimerState.top at top ⊢
          rwa [outer, sleeping, inner] at top
        rw [events, orderly.reset t before, Bool.true_or]
      · rw [sleeping, outer]
        exact orderly.outer
      · rw [sleeping, inner]
        exact orderly.inner
  | callInner asleep idle =>
      exact ⟨orderly.hundredth, orderly.tenth, fun t top => (nomatch top), orderly.outer,
        fun _ => asleep⟩
  | callOuter awake idle =>
      have none := orderly.inner_none awake
      refine ⟨orderly.hundredth, orderly.tenth, fun t top => ?_, fun asleep => ?_, orderly.inner⟩
      · unfold TimerState.top at top
        dsimp only at top
        rw [none, awake] at top
        exact nomatch top
      · exact absurd (awake.symm.trans asleep) Bool.false_ne_true
  | @inner phase here =>
      have asleep := orderly.inner (here ▸ Option.some_ne_none phase)
      have pending (t : Takt) := proceed_reset s phase (t := t)
      obtain ⟨events, rounds, same⟩ := proceed_same s phase
      rw [same] at pending ⊢
      refine ⟨orderly.hundredth, orderly.tenth, fun t top => pending t ?_, orderly.outer,
        fun _ => asleep⟩
      unfold TimerState.top at top
      dsimp only at top
      rw [asleep] at top
      split at top
      · next following => rw [following, ← top]
      · exact nomatch top
  | @outer phase none awake here =>
      have pending (t : Takt) := proceed_reset s phase (t := t)
      obtain ⟨events, rounds, same⟩ := proceed_same s phase
      rw [same] at pending ⊢
      refine ⟨orderly.hundredth, orderly.tenth, fun t top => pending t ?_,
        fun asleep => absurd (awake.symm.trans asleep) Bool.false_ne_true, orderly.inner⟩
      unfold TimerState.top at top
      dsimp only at top
      rw [none, awake] at top
      exact top
  | sleep awake may =>
      have none := orderly.inner_none awake
      refine ⟨orderly.hundredth, orderly.tenth, fun t top => ?_, fun _ => may, fun _ => rfl⟩
      unfold TimerState.top at top
      rw [none] at top
      exact nomatch top
  | wake asleep none =>
      refine ⟨orderly.hundredth, orderly.tenth, fun t top => ?_, fun awake => (nomatch awake),
        fun nested => absurd none nested⟩
      unfold TimerState.top at top
      rw [none] at top
      change s.outer = _ at top
      have may := orderly.outer asleep
      rw [top] at may
      exact nomatch may

theorem orderly_run (events : List TimerEvent) : Orderly (run events) := by
  induction events using List.reverseRecOn with
  | nil => exact orderly_start
  | append_singleton events event ih =>
      rw [run_snoc]
      exact orderly_step ih event

/-! ## Rounds and flags -/

/-- The rounds of a clock and the one that its flag asks for. -/
def TimerState.asked (s : TimerState) (t : Takt) : Nat := s.rounds t + (s.event t).toNat

/-- A reset makes a round of the flag. -/
theorem proceed_asked {s : TimerState} {phase : IdlePhase}
    (pending : ∀ t, phase = .reset t → s.event t = true) (t : Takt) :
    (s.proceed phase).1.asked t = s.asked t := by
  cases phase with
  | reset u =>
      have event := pending u rfl
      unfold asked proceed
      dsimp only
      by_cases same : t = u
      · subst same
        rw [Function.update_self, Function.update_self, event]
        rfl
      · rw [Function.update_of_ne same, Function.update_of_ne same]
  | test u => rfl
  | round u => rfl
  | done => rfl

theorem step_asked {s : TimerState} (orderly : Orderly s) {event : TimerEvent}
    (other : event ≠ .timer) :
    (∀ t, (s.step event).asked t = s.asked t) ∧ (s.step event).calls = s.calls := by
  have step := step_case s event
  generalize s.step event = next at step ⊢
  cases step with
  | same => exact ⟨fun _ => rfl, rfl⟩
  | timer => exact absurd rfl other
  | callInner => exact ⟨fun _ => rfl, rfl⟩
  | callOuter => exact ⟨fun _ => rfl, rfl⟩
  | @inner phase here =>
      have pending (t : Takt) (reset : phase = .reset t) : s.event t = true :=
        orderly.reset t ((top_inner here).trans (congrArg some reset))
      refine ⟨fun t => proceed_asked pending t, ?_⟩
      obtain ⟨events, rounds, same⟩ := proceed_same s phase
      rw [same]
  | @outer phase none awake here =>
      have pending (t : Takt) (reset : phase = .reset t) : s.event t = true :=
        orderly.reset t (((top_outer none awake).trans here).trans (congrArg some reset))
      refine ⟨fun t => proceed_asked pending t, ?_⟩
      obtain ⟨events, rounds, same⟩ := proceed_same s phase
      rw [same]
  | sleep => exact ⟨fun _ => rfl, rfl⟩
  | wake => exact ⟨fun _ => rfl, rfl⟩

theorem attentive_snoc (events : List TimerEvent) (event : TimerEvent) :
    Attentive (events ++ [event]) ↔
      Attentive events ∧ (event = .timer → (run events).event .hundredth = false) := by
  constructor
  · intro attentive
    refine ⟨fun front back split => attentive front (back ++ [event]) ?_, ?_⟩
    · rw [split, List.append_assoc, List.cons_append]
    · rintro rfl
      exact attentive events [] rfl
  · rintro ⟨before, last⟩ front back split
    rcases List.eq_nil_or_concat back with rfl | ⟨back, final, rfl⟩
    · obtain ⟨rfl, same⟩ := List.append_inj' split rfl
      exact last (List.cons.inj same).1
    · rw [List.concat_eq_append, ← List.cons_append, ← List.append_assoc] at split
      exact before front back (List.append_inj' split rfl).1

/-- In every run the flag of the 10 ms clock asks for no more rounds than there were interrupts,
and for as many only in the attentive runs. -/
theorem run_asked (events : List TimerEvent) :
    (run events).asked .hundredth ≤ (run events).calls ∧
      ((run events).asked .hundredth = (run events).calls ↔ Attentive events) := by
  induction events using List.reverseRecOn with
  | nil => exact ⟨Nat.le_refl _, iff_of_true rfl fun front back split => by simp at split⟩
  | append_singleton events event ih =>
      obtain ⟨most, alike⟩ := ih
      have orderly := orderly_run events
      rw [run_snoc, attentive_snoc]
      by_cases tick : event = .timer
      · subst tick
        obtain ⟨calls, flags, rounds, -⟩ := timerHandler_interrupted orderly.hundredth orderly.tenth
        have flag : (run events).timerHandler.event .hundredth = true := by
          rw [flags]
          change (_ || decide (((run events).calls + 1) % 1 = 0)) = true
          rw [Nat.mod_one, decide_eq_true rfl, Bool.or_true]
        have asked : (run events).timerHandler.asked .hundredth =
            (run events).rounds .hundredth + 1 := by
          unfold TimerState.asked
          rw [flag, rounds]
          rfl
        unfold TimerState.asked at most alike
        change (run events).timerHandler.asked .hundredth ≤ _ ∧ _
        rw [step, asked, calls, ← alike]
        cases before : (run events).event .hundredth with
        | false =>
            rw [before] at most
            change _ + 0 ≤ _ at most
            change _ ∧ (_ ↔ _ + 0 = _ ∧ _)
            refine ⟨by omega, fun all => ⟨by omega, fun _ => rfl⟩, fun both => ?_⟩
            omega
        | true =>
            rw [before] at most
            change _ + 1 ≤ _ at most
            refine ⟨by omega, fun all => ?_, fun both => nomatch both.2 rfl⟩
            omega
      · obtain ⟨asked, calls⟩ := step_asked orderly tick
        rw [asked, calls, alike]
        exact ⟨most, fun attentive => ⟨attentive, fun timer => absurd timer tick⟩, And.left⟩

/-- The place of a phase in the idle handler. -/
def IdlePhase.place : IdlePhase → Nat
  | .test .hundredth => 0
  | .reset .hundredth => 1
  | .round .hundredth => 2
  | .test .tenth => 3
  | .reset .tenth => 4
  | .round .tenth => 5
  | .test .one => 6
  | .reset .one => 7
  | .round .one => 8
  | .done => 9

/-- Idle handlers between the first round and the reset of a clock.  One that is behind this reset
hides those below it. -/
def owing (t : Takt) (below : Nat) : Option IdlePhase → Nat
  | none => below
  | some phase =>
      if (IdlePhase.round t).place ≤ phase.place then 0
      else (if (IdlePhase.round .hundredth).place ≤ phase.place then 1 else 0) + below

/-- How many interrupts can have come behind one that has set the flag of the clock. -/
def TimerState.owed (s : TimerState) (t : Takt) : Nat :=
  owing t (owing t 0 s.outer) s.inner + (s.event .hundredth).toNat

theorem owing_le (t : Takt) (below : Nat) (phase : Option IdlePhase) :
    owing t below phase ≤ below + 1 := by
  unfold owing
  split
  · omega
  · split
    · omega
    · split <;> omega

/-- What holds in every state of an attentive run. -/
structure Attended (s : TimerState) : Prop where
  asked : ∀ t, s.asked t = s.calls / t.period
  fresh : ∀ t, s.event t = true → s.calls % t.period < s.owed t

/-- One step of the running idle handler: the flag of a clock is reset, or as many interrupts as
before can have come behind it. -/
theorem proceed_owed {s : TimerState} {phase : IdlePhase}
    (pending : ∀ t, phase = .reset t → s.event t = true) (below : Nat) {t : Takt}
    (flag : (s.proceed phase).1.event t = true) :
    s.event t = true ∧ owing t below (some phase) + (s.event .hundredth).toNat ≤
      owing t below (s.proceed phase).2 + ((s.proceed phase).1.event .hundredth).toNat := by
  cases phase with
  | test u =>
      refine ⟨flag, Nat.add_le_add_right ?_ _⟩
      change owing t below _ ≤ owing t below (some (if s.event u then .reset u else u.behind))
      by_cases event : s.event u = true
      · rw [if_pos event]
        cases u <;> cases t <;> exact Nat.le_refl _
      · rw [if_neg event]
        cases u <;> cases t <;> first
          | exact Nat.le_refl _
          | exact absurd flag event
          | exact Nat.add_le_add_right (Nat.zero_le 1) below
  | reset u =>
      have event := pending u rfl
      change Function.update s.event u false t = true at flag
      change _ ∧ _ ≤ _ + (Function.update s.event u false .hundredth).toNat
      by_cases same : t = u
      · subst same
        rw [Function.update_self] at flag
        exact nomatch flag
      · rw [Function.update_of_ne same] at flag
        refine ⟨flag, ?_⟩
        cases u with
        | hundredth =>
            rw [event, Function.update_self]
            have more : 0 + below + 1 ≤ 1 + below + 0 := by omega
            cases t with
            | hundredth => exact absurd rfl same
            | tenth => exact more
            | one => exact more
        | tenth | one =>
            rw [Function.update_of_ne (by decide)]
            refine Nat.add_le_add_right ?_ _
            cases t <;> first
              | exact absurd rfl same
              | exact Nat.le_refl _
  | round u =>
      refine ⟨flag, Nat.add_le_add_right ?_ _⟩
      cases u <;> cases t <;> exact Nat.le_refl _
  | done =>
      refine ⟨flag, Nat.add_le_add_right ?_ _⟩
      cases t <;> exact Nat.zero_le _

/-- An idle handler that begins owes nothing. -/
theorem owing_begin (t : Takt) (below : Nat) :
    owing t below (some (.test .hundredth)) = below := by
  cases t <;> exact Nat.zero_add below

theorem succ_period (n : Nat) (t : Takt) :
    (n + 1) / t.period = n / t.period + (decide ((n + 1) % t.period = 0)).toNat ∧
      ((n + 1) % t.period = 0 → t ≠ .hundredth → 1 < n % t.period) ∧
      (n + 1) % t.period ≤ n % t.period + 1 := by
  by_cases full : (n + 1) % t.period = 0
  · rw [decide_eq_true full]
    change _ = _ + 1 ∧ _
    cases t with
    | hundredth => exact ⟨by simp [Takt.period], fun _ other => absurd rfl other, by omega⟩
    | tenth | one =>
        simp only [Takt.period] at full ⊢
        exact ⟨by omega, fun _ _ => by omega, by omega⟩
  · rw [decide_eq_false full]
    change _ = _ + 0 ∧ _
    cases t with
    | hundredth => exact absurd (Nat.mod_one _) full
    | tenth | one =>
        simp only [Takt.period] at full ⊢
        exact ⟨by omega, fun both => absurd both full, by omega⟩

theorem attended_timer {s : TimerState} (orderly : Orderly s) (attended : Attended s)
    (clear : s.event .hundredth = false) : Attended s.timerHandler := by
  obtain ⟨calls, flags, rounds, outer, sleeping, inner, -⟩ :=
    timerHandler_interrupted orderly.hundredth orderly.tenth
  have owing_two (t : Takt) : owing t (owing t 0 s.outer) s.inner ≤ 2 :=
    Nat.le_trans (owing_le ..) (Nat.succ_le_succ (owing_le ..))
  have fresh (t : Takt) (flag : s.event t = true) :
      s.calls % t.period < owing t (owing t 0 s.outer) s.inner := by
    have before := attended.fresh t flag
    unfold TimerState.owed at before
    rwa [clear] at before
  have late (t : Takt) (full : (s.calls + 1) % t.period = 0) : s.event t = false := by
    apply eq_false_of_ne_true
    intro flag
    have other : t ≠ .hundredth := by
      rintro rfl
      exact Bool.false_ne_true (clear.symm.trans flag)
    have many := (succ_period s.calls t).2.1 full other
    have few := fresh t flag
    have two := owing_two t
    omega
  constructor
  · intro t
    have asked := attended.asked t
    unfold TimerState.asked at asked ⊢
    rw [flags, rounds, calls, (succ_period s.calls t).1, ← asked]
    by_cases full : (s.calls + 1) % t.period = 0
    · rw [late t full, Bool.false_or]
      rfl
    · rw [decide_eq_false full, Bool.or_false]
      rfl
  · intro t flag
    have now : s.timerHandler.owed t = owing t (owing t 0 s.outer) s.inner + 1 := by
      unfold TimerState.owed
      rw [outer, inner, flags, show Takt.period .hundredth = 1 from rfl, Nat.mod_one,
        decide_eq_true rfl, Bool.or_true]
      rfl
    rw [now, calls]
    rw [flags] at flag
    by_cases full : (s.calls + 1) % t.period = 0
    · rw [full]
      exact Nat.succ_pos _
    · rw [decide_eq_false full, Bool.or_false] at flag
      have before := fresh t flag
      have most := (succ_period s.calls t).2.2
      omega

theorem attended_step {s : TimerState} (orderly : Orderly s) (attended : Attended s)
    {event : TimerEvent}
    (attentive : event = .timer → s.event .hundredth = false) : Attended (s.step event) := by
  have step := step_case s event
  have keeps (other : event ≠ .timer) (t : Takt) :
      (s.step event).asked t = (s.step event).calls / t.period := by
    obtain ⟨asked, calls⟩ := step_asked orderly other
    rw [asked, calls]
    exact attended.asked t
  generalize s.step event = next at step keeps ⊢
  cases step with
  | same => exact attended
  | timer => exact attended_timer orderly attended (attentive rfl)
  | callInner _ idle | callOuter _ idle =>
      refine ⟨keeps TimerEvent.noConfusion, fun t flag => ?_⟩
      have before := attended.fresh t flag
      unfold TimerState.owed at before ⊢
      rw [idle] at before
      dsimp only
      rwa [owing_begin]
  | @inner phase here =>
      refine ⟨keeps TimerEvent.noConfusion, fun t flag => ?_⟩
      have pending (t : Takt) (reset : phase = .reset t) : s.event t = true :=
        orderly.reset t ((top_inner here).trans (congrArg some reset))
      obtain ⟨flagged, more⟩ := proceed_owed pending (owing t 0 s.outer) flag
      have before := attended.fresh t flagged
      obtain ⟨events, rounds, same⟩ := proceed_same s phase
      unfold TimerState.owed at before ⊢
      rw [here] at before
      rw [same] at more ⊢
      exact Nat.lt_of_lt_of_le before more
  | @outer phase none awake here =>
      refine ⟨keeps TimerEvent.noConfusion, fun t flag => ?_⟩
      have pending (t : Takt) (reset : phase = .reset t) : s.event t = true :=
        orderly.reset t (((top_outer none awake).trans here).trans (congrArg some reset))
      obtain ⟨flagged, more⟩ := proceed_owed pending 0 flag
      have before := attended.fresh t flagged
      obtain ⟨events, rounds, same⟩ := proceed_same s phase
      unfold TimerState.owed at before ⊢
      rw [none, here] at before
      rw [same] at more ⊢
      dsimp only
      rw [none]
      exact Nat.lt_of_lt_of_le before more
  | sleep awake may => exact ⟨keeps TimerEvent.noConfusion, attended.fresh⟩
  | wake asleep none => exact ⟨keeps TimerEvent.noConfusion, attended.fresh⟩

theorem attended_run {events : List TimerEvent} (attentive : Attentive events) :
    Attended (run events) := by
  induction events using List.reverseRecOn with
  | nil =>
      refine ⟨fun t => ?_, fun t flag => nomatch flag⟩
      exact (Nat.zero_div _).symm
  | append_singleton events event ih =>
      obtain ⟨before, last⟩ := (attentive_snoc ..).mp attentive
      rw [run_snoc]
      exact attended_step (orderly_run events) (ih before) last

/-! ## The returns of the idle handler -/

/-- When an idle handler returns, a flag is left only behind an interrupt that has come since the
last reset of the 10 ms flag. -/
theorem returned_flags {s : TimerState} (attended : Attended s) (top : s.top = some .done)
    (clear : s.event .hundredth = false) (t : Takt) : s.event t = false := by
  apply eq_false_of_ne_true
  intro flag
  have fresh := attended.fresh t flag
  have nothing : owing t (owing t 0 s.outer) s.inner = 0 := by
    unfold TimerState.top at top
    cases nested : s.inner with
    | some phase =>
        rw [nested] at top
        cases top
        cases t <;> rfl
    | none =>
        rw [nested] at top
        change (if s.sleeping then none else s.outer) = _ at top
        by_cases asleep : s.sleeping = true
        · rw [if_pos asleep] at top
          exact nomatch top
        · rw [if_neg asleep] at top
          rw [top]
          cases t <;> rfl
  unfold TimerState.owed at fresh
  rw [nothing, clear] at fresh
  exact absurd fresh (Nat.not_lt_zero _)

/-- The return itself changes no flag and makes no round. -/
theorem returned_same {s : TimerState} (top : s.top = some .done) :
    (s.step .advance).event = s.event ∧ (s.step .advance).rounds = s.rounds ∧
      (s.step .advance).calls = s.calls := by
  have step := step_case s .advance
  generalize s.step .advance = next at step ⊢
  cases step with
  | same => exact ⟨rfl, rfl, rfl⟩
  | @inner phase here =>
      cases (top_inner here).symm.trans top
      exact ⟨rfl, rfl, rfl⟩
  | @outer phase none awake here =>
      cases ((top_outer none awake).trans here).symm.trans top
      exact ⟨rfl, rfl, rfl⟩

/-- When an idle handler returns all rounds have been made exactly when every interrupt has found
the flag of the 10 ms clock cleared and none has come since. -/
theorem allRounds_iff {events : List TimerEvent} (returned : IdleReturned events) :
    AllRounds (run events) ↔
      Attentive events ∧ (run events).event .hundredth = false := by
  constructor
  · intro all
    obtain ⟨most, attentive⟩ := run_asked events
    have rounds := all .hundredth
    rw [show Takt.period .hundredth = 1 from rfl, Nat.div_one] at rounds
    unfold TimerState.asked at most attentive
    cases flag : (run events).event .hundredth with
    | false =>
        rw [flag, rounds] at attentive
        exact ⟨attentive.mp rfl, rfl⟩
    | true =>
        rw [flag, rounds] at most
        exact absurd most (Nat.not_succ_le_self _)
  · rintro ⟨attentive, clear⟩ t
    obtain ⟨front, rfl, top⟩ := returned
    have attended := attended_run ((attentive_snoc ..).mp attentive).1
    obtain ⟨event, rounds, calls⟩ := returned_same top
    rw [run_snoc, event] at clear
    rw [run_snoc, rounds, calls, ← attended.asked t]
    unfold TimerState.asked
    rw [returned_flags attended top clear t]
    rfl

/-- One interrupt and an idle handler that makes its round. -/
def oneTick : List TimerEvent := [.timer, .idle] ++ List.replicate 6 .advance

/-- Two interrupts before the same idle handler. -/
def twoTicks : List TimerEvent := .timer :: oneTick

theorem twoTicks_returned : IdleReturned twoTicks :=
  ⟨[.timer, .timer, .idle] ++ List.replicate 5 .advance, rfl, rfl⟩

theorem allRounds_iff_oneTick :
    AllRounds (run oneTick) ↔ Attentive oneTick ∧ (run oneTick).event .hundredth = false :=
  allRounds_iff ⟨[.timer, .idle] ++ List.replicate 5 .advance, rfl, rfl⟩

/-- The second interrupt before the idle handler is lost. -/
theorem twoTicks_one_round :
    IdleReturned twoTicks ∧ (run twoTicks).calls = 2 ∧ (run twoTicks).rounds .hundredth = 1 ∧
      ¬AllRounds (run twoTicks) := by
  refine ⟨twoTicks_returned, rfl, rfl, fun all => ?_⟩
  have both : 1 = 2 := all .hundredth
  exact absurd both (by decide)

end Hcan.Controller
