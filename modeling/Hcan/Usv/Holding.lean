import Hcan.Usv.StateMachine

/-!
# How long the unit stays at the battery

A switch to the battery holds the relay for 200 calls of the timer handler, and a return of the
mains for 30 steps of the seconds counter.  The steps are 101 calls apart and the first one comes
when the divider is through, so the calls that are left depend on the divider at the switch.
-/

namespace Hcan.Usv

open Hcan.Canix Hcan.Controller Hcan.Library

namespace UsvModul

/-- The relay goes to the battery in the step. -/
def ToBattery (selfaddr : UInt16) (usv : UsvModul) (event : UsvEvent) : Prop :=
  usv.relay = false ∧ (step selfaddr usv event).relay = true

/-- The relay goes to the mains in the step. -/
def ToMains (selfaddr : UInt16) (usv : UsvModul) (event : UsvEvent) : Prop :=
  usv.relay = true ∧ (step selfaddr usv event).relay = false

/-- The step switches the relay. -/
def Switches (selfaddr : UInt16) (usv : UsvModul) (event : UsvEvent) : Prop :=
  (step selfaddr usv event).relay ≠ usv.relay

/-- The mains voltage has returned. -/
def MainsReturned : UsvEvent → Prop
  | .state measured => returned measured
  | _ => False

/-- The event switches to the battery: the unit is free to react and stands at the mains, and the
buffer breaks down while the battery is charged. -/
def BreaksDown (usv : UsvModul) : UsvEvent → Prop
  | .state measured => usv.usvTimer = 0 ∧ usv.onBattery = false ∧ fails measured
  | _ => False

/-- Between a switch to the battery and the event `later` lie 3000 calls of the timer handler where
`later` switches back because the mains voltage has returned, and 200 where it switches at all. -/
def KeepsBattery (selfaddr : UInt16) (front : List UsvEvent) (switch : UsvEvent)
    (back : List UsvEvent) (later : UsvEvent) : Prop :=
  (ToMains selfaddr (after selfaddr (front ++ switch :: back)) later → MainsReturned later →
      3000 ≤ timerCalls back) ∧
    (Switches selfaddr (after selfaddr (front ++ switch :: back)) later → 200 ≤ timerCalls back)

/-- The relay does not flap in the run. -/
def NoFlapping (selfaddr : UInt16) (events : List UsvEvent) : Prop :=
  ∀ front switch back later rest, events = front ++ switch :: (back ++ later :: rest) →
    ToBattery selfaddr (after selfaddr front) switch →
    KeepsBattery selfaddr front switch back later

/-- A switch to the battery is made with at least 70 calls to go in the second. -/
def SwitchesEarly (usv : UsvModul) (event : UsvEvent) : Prop :=
  BreaksDown usv event → 70 ≤ usv.timerCounter.toNat

section Switches

variable {selfaddr : UInt16} {usv : UsvModul} {event : UsvEvent}

/-- What a step does to the relay and its counters. -/
theorem step_cases (selfaddr : UInt16) (usv : UsvModul) (event : UsvEvent) :
    (event = .timer ∧ (step selfaddr usv event).switching =
        ⟨usv.out, usv.onBattery, if usv.usvTimer > 0 then usv.usvTimer - 1 else usv.usvTimer,
          usv.seconds.tick 100⟩) ∨
      (event ≠ .timer ∧ (step selfaddr usv event).switching = usv.switching) ∨
      (event ≠ .timer ∧ BreaksDown usv event ∧
        (step selfaddr usv event).switching = usv.atBattery) ∨
      (event ≠ .timer ∧ usv.usvTimer = 0 ∧ usv.onBattery = true ∧
        (MainsReturned event → usv.switchBackCounter = 0) ∧
        (step selfaddr usv event).switching = usv.atMains) := by
  cases event with
  | timer => exact .inl ⟨rfl, switching_timerHandler usv⟩
  | frame u frame =>
      exact .inr (.inl ⟨UsvEvent.noConfusion, switching_canCallback selfaddr usv u frame⟩)
  | state measured =>
      rcases switching_stateHandler selfaddr usv measured with
        same | ⟨free, mains, failing, switched⟩ | ⟨free, battery, counted, switched⟩
      · exact .inr (.inl ⟨UsvEvent.noConfusion, same⟩)
      · exact .inr (.inr (.inl ⟨UsvEvent.noConfusion, ⟨free, mains, failing⟩, switched⟩))
      · exact .inr (.inr (.inr ⟨UsvEvent.noConfusion, free, battery, counted, switched⟩))

theorem relay_atBattery (switched : (step selfaddr usv event).switching = usv.atBattery) :
    (step selfaddr usv event).relay = true := by
  rw [relay_eq_isOn, switched]
  exact isOn_relay usv.out true

theorem relay_atMains (switched : (step selfaddr usv event).switching = usv.atMains) :
    (step selfaddr usv event).relay = false := by
  rw [relay_eq_isOn, switched]
  exact isOn_relay usv.out false

theorem free_of_breaksDown (failing : BreaksDown usv event) : usv.usvTimer = 0 := by
  cases event with
  | timer => exact absurd failing not_false
  | frame u frame => exact absurd failing not_false
  | state measured => exact failing.1

/-- A step that switches finds the hold time over. -/
theorem free_of_switches (switched : Switches selfaddr usv event) : usv.usvTimer = 0 := by
  rcases step_cases selfaddr usv event with
    ⟨-, counted⟩ | ⟨-, same⟩ | ⟨-, failing, -⟩ | ⟨-, free, -, -, -⟩
  · refine absurd ?_ switched
    rw [relay_eq_isOn, counted]
    rfl
  · exact absurd (relay_eq_of_switching same) switched
  · exact free_of_breaksDown failing
  · exact free

/-- A step back to a mains voltage that has returned finds the seconds over. -/
theorem counted_of_toMains (back : ToMains selfaddr usv event) (arrived : MainsReturned event) :
    usv.switchBackCounter = 0 := by
  rcases step_cases selfaddr usv event with
    ⟨rfl, -⟩ | ⟨-, same⟩ | ⟨-, -, switched⟩ | ⟨-, -, -, counted, -⟩
  · exact absurd arrived not_false
  · have standing := relay_eq_of_switching same
    rw [back.2, back.1] at standing
    exact absurd standing Bool.false_ne_true
  · have arrivedAt := relay_atBattery switched
    rw [back.2] at arrivedAt
    exact absurd arrivedAt Bool.false_ne_true
  · exact counted arrived

theorem switching_of_breaksDown (selfaddr : UInt16) (failing : BreaksDown usv event) :
    (step selfaddr usv event).switching = usv.atBattery := by
  cases event with
  | timer => exact absurd failing not_false
  | frame u frame => exact absurd failing not_false
  | state measured => exact switching_fails selfaddr failing.1 failing.2.1 failing.2.2

theorem mains_of_breaksDown (failing : BreaksDown usv event) : usv.onBattery = false := by
  cases event with
  | timer => exact absurd failing not_false
  | frame u frame => exact absurd failing not_false
  | state measured => exact failing.2.1

/-- Where the unit knows its relay, the step that breaks down is the one to the battery. -/
theorem toBattery_iff (known : usv.relay = usv.onBattery) :
    ToBattery selfaddr usv event ↔ BreaksDown usv event := by
  constructor
  · rintro ⟨mains, battery⟩
    rcases step_cases selfaddr usv event with
      ⟨-, counted⟩ | ⟨-, same⟩ | ⟨-, failing, -⟩ | ⟨-, -, -, -, switched⟩
    · have standing : (step selfaddr usv event).relay = usv.relay := by
        rw [relay_eq_isOn, counted]
        rfl
      rw [battery, mains] at standing
      exact absurd standing.symm Bool.false_ne_true
    · have standing := relay_eq_of_switching same
      rw [battery, mains] at standing
      exact absurd standing.symm Bool.false_ne_true
    · exact failing
    · have arrivedAt := relay_atMains switched
      rw [battery] at arrivedAt
      exact absurd arrivedAt.symm Bool.false_ne_true
  · intro failing
    exact ⟨known.trans (mains_of_breaksDown failing),
      relay_atBattery (switching_of_breaksDown selfaddr failing)⟩

end Switches

theorem timerCalls_cons (event : UsvEvent) (events : List UsvEvent) :
    timerCalls (event :: events) = timerCalls events + if event = .timer then 1 else 0 := by
  unfold timerCalls
  rw [List.count_cons]
  by_cases timed : event = .timer
  · rw [if_pos (beq_iff_eq.mpr timed), if_pos timed]
  · rw [if_neg fun same => timed (beq_iff_eq.mp same), if_neg timed]

/-- The calls of the timer handler until the seconds counter lets the mains back. -/
def wait (usv : UsvModul) : ℕ := usv.seconds.left 100

/-- When `calls` of the timer handler have passed since the switch, the counters hold the rest. -/
structure Guarded (calls : ℕ) (usv : UsvModul) : Prop where
  mains : 3000 ≤ usv.wait + calls
  relay : 200 ≤ usv.usvTimer.toNat + calls

section Hold

variable {selfaddr : UInt16} {usv : UsvModul} {event : UsvEvent} {calls : ℕ}

theorem guarded_of_switching {later : UsvModul} (same : later.switching = usv.switching)
    (guarded : Guarded calls usv) : Guarded calls later := by
  have counter : later.usvTimer = usv.usvTimer := congrArg Switching.usvTimer same
  have seconds : later.seconds = usv.seconds := congrArg Switching.seconds same
  refine ⟨?_, ?_⟩
  · unfold wait
    rw [seconds]
    exact guarded.mains
  · rw [counter]
    exact guarded.relay

theorem wait_atBattery (switched : (step selfaddr usv event).switching = usv.atBattery) :
    (step selfaddr usv event).wait = usv.timerCounter.toNat + 2930 := by
  have seconds : (step selfaddr usv event).seconds = ⟨usv.timerCounter.toNat, 30⟩ :=
    congrArg Switching.seconds switched
  unfold wait
  rw [seconds, Prescaled.left_full]

theorem usvTimer_atBattery (switched : (step selfaddr usv event).switching = usv.atBattery) :
    (step selfaddr usv event).usvTimer = 200 := congrArg Switching.usvTimer switched

/-- One step keeps the counters. -/
theorem guarded_step (selfaddr : UInt16) (event : UsvEvent) (guarded : Guarded calls usv) :
    Guarded (calls + if event = .timer then 1 else 0) (step selfaddr usv event) := by
  obtain ⟨mains, relay⟩ := guarded
  rcases step_cases selfaddr usv event with
    ⟨timed, -⟩ | ⟨other, same⟩ | ⟨other, failing, switched⟩ | ⟨other, free, -, -, switched⟩
  · subst timed
    have waited : (step selfaddr usv .timer).wait = usv.wait - 1 := by
      change usv.timerHandler.seconds.left 100 = _
      have ticked : usv.timerHandler.seconds = usv.seconds.tick 100 :=
        congrArg Switching.seconds (switching_timerHandler usv)
      rw [ticked, Prescaled.left_tick]
      rfl
    have counted : (step selfaddr usv .timer).usvTimer.toNat = usv.usvTimer.toNat - 1 := by
      have counter := congrArg Switching.usvTimer (switching_timerHandler usv)
      exact (congrArg UInt16.toNat counter).trans (toNat_countdown usv.usvTimer)
    rw [if_pos rfl]
    refine ⟨?_, ?_⟩
    · rw [waited]
      omega
    · rw [counted]
      omega
  · rw [if_neg other]
    exact guarded_of_switching same ⟨mains, relay⟩
  · -- A second switch to the battery comes late enough for a count of its own.
    have late : usv.usvTimer.toNat = 0 :=
      congrArg UInt16.toNat (free_of_breaksDown failing)
    rw [if_neg other]
    refine ⟨?_, ?_⟩
    · rw [wait_atBattery switched]
      omega
    · rw [usvTimer_atBattery switched]
      exact Nat.le_add_right 200 (calls + 0)
  · have late : usv.usvTimer.toNat = 0 := congrArg UInt16.toNat free
    have seconds : (step selfaddr usv event).seconds = usv.seconds :=
      congrArg Switching.seconds switched
    rw [if_neg other]
    refine ⟨?_, ?_⟩
    · unfold wait
      rw [seconds]
      exact mains
    · omega

/-- The counters hold what is left over a whole run. -/
theorem guarded_run (selfaddr : UInt16) (events : List UsvEvent) (guarded : Guarded calls usv) :
    Guarded (calls + timerCalls events) (runAll (step selfaddr) usv events) := by
  induction events generalizing usv calls with
  | nil => exact guarded
  | cons event events ih =>
      have next := ih (guarded_step selfaddr event guarded)
      rw [timerCalls_cons, Nat.add_comm (timerCalls events), ← Nat.add_assoc]
      exact next

/-- The hold time does not depend on the divider. -/
theorem guarded_switch (early : 70 ≤ usv.timerCounter.toNat)
    (switched : (step selfaddr usv event).switching = usv.atBattery) :
    Guarded 0 (step selfaddr usv event) := by
  refine ⟨?_, ?_⟩
  · rw [wait_atBattery switched]
    omega
  · rw [usvTimer_atBattery switched]
    exact Nat.le_refl 200

end Hold

section Waiting

variable {selfaddr : UInt16} {usv : UsvModul}

theorem runAll_timers (selfaddr : UInt16) (n : ℕ) (usv : UsvModul) :
    runAll (step selfaddr) usv (List.replicate n .timer) = timerHandler^[n] usv := by
  induction n generalizing usv with
  | zero => rfl
  | succ n ih => exact ih usv.timerHandler

theorem switching_timers (n : ℕ) (usv : UsvModul) :
    (timerHandler^[n] usv).out = usv.out ∧ (timerHandler^[n] usv).onBattery = usv.onBattery ∧
      (timerHandler^[n] usv).usvTimer.toNat = usv.usvTimer.toNat - n ∧
      (timerHandler^[n] usv).seconds = (Prescaled.tick 100)^[n] usv.seconds := by
  induction n with
  | zero => exact ⟨rfl, rfl, rfl, rfl⟩
  | succ n ih =>
      obtain ⟨out, onBattery, usvTimer, seconds⟩ := ih
      have last := switching_timerHandler (timerHandler^[n] usv)
      rw [Function.iterate_succ_apply', Function.iterate_succ_apply']
      refine ⟨?_, ?_, ?_, ?_⟩
      · exact (congrArg Switching.out last).trans out
      · exact (congrArg Switching.onBattery last).trans onBattery
      · have counted := congrArg (fun part : Switching => part.usvTimer.toNat) last
        refine counted.trans ((toNat_countdown _).trans ?_)
        omega
      · rw [← seconds]
        exact congrArg Switching.seconds last

/-- The values of a mains voltage that is back. -/
def mainsUp : Measured := ⟨Vector.replicate 5 900, 900, 900, 900, 900, 900, 900, 900⟩

/-- The values of a mains voltage that fails. -/
def mainsDown : Measured := ⟨Vector.replicate 5 600, 600, 900, 600, 600, 600, 900, 900⟩

theorem returned_mainsUp : returned mainsUp := ⟨by decide, by decide⟩

theorem fails_mainsDown : fails mainsDown := ⟨by decide, by decide⟩

/-- Once the wait is over the unit goes back to the mains. -/
theorem toMains_of_wait (selfaddr : UInt16) {n : ℕ} (relay : usv.relay = true)
    (known : usv.relay = usv.onBattery) (seconds : usv.wait ≤ n) (held : usv.usvTimer.toNat ≤ n) :
    ToMains selfaddr (timerHandler^[n] usv) (.state mainsUp) := by
  obtain ⟨out, onBattery, usvTimer, ticked⟩ := switching_timers n usv
  have free : (timerHandler^[n] usv).usvTimer = 0 := by
    refine UInt16.toNat_inj.mp ?_
    rw [usvTimer]
    exact Nat.sub_eq_zero_of_le held
  have counted : (timerHandler^[n] usv).switchBackCounter = 0 := by
    refine UInt16.toNat_inj.mp ?_
    change (timerHandler^[n] usv).seconds.counter = 0
    rw [@Prescaled.counter_eq_zero_iff 100, ticked, Prescaled.left_ticks]
    exact Nat.sub_eq_zero_of_le seconds
  have battery : (timerHandler^[n] usv).onBattery = true := by
    rw [onBattery, ← known, relay]
  refine ⟨?_, relay_atMains (switching_returned selfaddr free battery returned_mainsUp counted)⟩
  unfold UsvModul.relay
  rw [out]
  exact relay

end Waiting

/-! ## Every switch to the battery -/

theorem keepsBattery_of_early (selfaddr : UInt16) {front : List UsvEvent} {switch : UsvEvent}
    (failing : BreaksDown (after selfaddr front) switch)
    (early : 70 ≤ (after selfaddr front).timerCounter.toNat) (back : List UsvEvent)
    (later : UsvEvent) : KeepsBattery selfaddr front switch back later := by
  have state : after selfaddr (front ++ switch :: back) =
      runAll (step selfaddr) (step selfaddr (after selfaddr front) switch) back :=
    runAll_append front
  have guarded := guarded_run selfaddr back
    (guarded_switch early (switching_of_breaksDown selfaddr failing))
  rw [← state, Nat.zero_add] at guarded
  refine ⟨fun toMains arrived => ?_, fun switches => ?_⟩
  · have counted : (after selfaddr (front ++ switch :: back)).seconds.counter = 0 :=
      congrArg UInt16.toNat (counted_of_toMains toMains arrived)
    have over_ : (after selfaddr (front ++ switch :: back)).wait = 0 :=
      (Prescaled.counter_eq_zero_iff _).mp counted
    have held := guarded.mains
    rwa [over_, Nat.zero_add] at held
  · have free : (after selfaddr (front ++ switch :: back)).usvTimer.toNat = 0 :=
      congrArg UInt16.toNat (free_of_switches switches)
    have held := guarded.relay
    rwa [free, Nat.zero_add] at held

/-- The unit goes back to the mains as soon as the seconds are over. -/
theorem toMains_of_breaksDown (selfaddr : UInt16) {front : List UsvEvent} {switch : UsvEvent}
    (failing : BreaksDown (after selfaddr front) switch) {n : ℕ}
    (seconds : (after selfaddr front).timerCounter.toNat + 2930 ≤ n) :
    ToMains selfaddr (after selfaddr (front ++ switch :: List.replicate n .timer))
      (.state mainsUp) := by
  have known := relay_after selfaddr front
  have battery := ((@toBattery_iff selfaddr _ _ known).mpr failing).2
  have switched := switching_of_breaksDown selfaddr failing
  have state : after selfaddr (front ++ switch :: List.replicate n .timer) =
      timerHandler^[n] (step selfaddr (after selfaddr front) switch) :=
    (runAll_append front).trans (runAll_timers selfaddr n _)
  rw [state]
  refine toMains_of_wait selfaddr battery (relay_step selfaddr known switch) ?_ ?_
  · rw [wait_atBattery switched]
    exact seconds
  · rw [usvTimer_atBattery switched]
    exact le_trans (show 200 ≤ _ by omega) seconds

theorem timerCalls_replicate (n : ℕ) : timerCalls (List.replicate n .timer) = n :=
  List.count_replicate_self

/-- A switch late in its second is not held. -/
theorem not_keepsBattery_of_late (selfaddr : UInt16) {front : List UsvEvent} {switch : UsvEvent}
    (failing : BreaksDown (after selfaddr front) switch) {n : ℕ}
    (seconds : (after selfaddr front).timerCounter.toNat + 2930 ≤ n) (late : n < 3000) :
    ¬ KeepsBattery selfaddr front switch (List.replicate n .timer) (.state mainsUp) := by
  intro kept
  have enough := kept.1 (toMains_of_breaksDown selfaddr failing seconds) returned_mainsUp
  rw [timerCalls_replicate] at enough
  exact absurd late (Nat.not_lt.mpr enough)

/-- A run does not flap when its switches to the battery come early in their second; a switch that
comes late goes back too early in some continuation. -/
theorem usv_keepsBattery (selfaddr : UInt16) :
    (∀ events, AlwaysFits (step selfaddr) SwitchesEarly init events →
      NoFlapping selfaddr events) ∧
    ∀ front switch, BreaksDown (after selfaddr front) switch →
      ((∀ back later, KeepsBattery selfaddr front switch back later) ↔
        70 ≤ (after selfaddr front).timerCounter.toNat) := by
  refine ⟨?_, ?_⟩
  · intro events fitting front switch back later rest split battery
    have failing := (toBattery_iff (relay_after selfaddr front)).mp battery
    have inside : front ++ [switch] <+: events := by
      refine ⟨back ++ later :: rest, ?_⟩
      rw [split, List.append_assoc]
      rfl
    exact keepsBattery_of_early selfaddr failing (fitting front switch inside failing) back later
  · intro front switch failing
    refine ⟨fun kept => ?_, fun early => keepsBattery_of_early selfaddr failing early⟩
    by_contra late
    exact not_keepsBattery_of_late selfaddr failing (Nat.le_refl _) (by omega) (kept _ _)

/-- A mains voltage that fails behind the start is back 2930 calls later, and so is the relay. -/
theorem usv_keepsBattery_fails :
    ¬ NoFlapping 0 (.state mainsDown :: (List.replicate 2930 .timer ++ [.state mainsUp])) := by
  intro never
  have failing : BreaksDown (after 0 []) (.state mainsDown) := ⟨rfl, rfl, fails_mainsDown⟩
  have battery : ToBattery 0 (after 0 []) (.state mainsDown) :=
    (toBattery_iff (relay_after 0 [])).mpr failing
  exact not_keepsBattery_of_late 0 failing (Nat.le_refl 2930) (by decide)
    (never [] _ (List.replicate 2930 .timer) _ [] rfl battery)

end UsvModul

end Hcan.Usv
