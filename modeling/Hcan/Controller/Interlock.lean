import Hcan.Controller.Transition

/-!
# The relay interlock of the shutter

Two timing conditions stand in the head comment of the source: the power relay
follows a change of the direction relay by 200 ms at least, and the direction
relay changes 500 ms after a standstill at the earliest.  Both are counted
invariants over the diagram.
-/

namespace Hcan.Controller

open Hcan.Canix Hcan.Library

variable {state next : RolladenState} {command : RolladenCommand} {action : RelayAction}
  {wait nextWait k : Nat} {has on : Bool}

/-- The states in which the power relay may be on. -/
def RolladenState.Powered : RolladenState → Prop
  | .aufWait | .auf | .abWait2 | .ab => True
  | _ => False

/-- `k` ticks after a change of the direction relay: two ticks have passed, or
the wait counter still stands for the missing ones. -/
def Rested (k : Nat) (state : RolladenState) (wait : Nat) : Prop :=
  2 ≤ k ∨ ((state = .abWait1 ∨ state = .stopWait3 ∨ state = .dirChangeWait3) ∧ 2 ≤ wait + k)

theorem transition_powered (transition : Transition state command wait action next nextWait)
    (powered : on = true → state.Powered) (stillOn : action.powerThen has on = true) :
    next.Powered := by
  cases transition with
  | waiting _ _ _ _ => exact powered stillOn
  | staying _ _ _ _ _ => exact powered stillOn
  | startAuf _ => trivial
  | startAb _ => exact powered stillOn
  | runsAuf _ => trivial
  | stopAuf _ => cases stillOn
  | turnAuf _ => cases stillOn
  | stoppedAuf _ => exact powered stillOn
  | powerAb _ => trivial
  | runsAb _ => trivial
  | stopAb _ => cases stillOn
  | turnAb _ => cases stillOn
  | dirOffStop _ => exact powered stillOn
  | stoppedAb _ => exact powered stillOn
  | dirOn _ => exact powered stillOn
  | dirOff _ => exact powered stillOn
  | powerAuf _ => trivial

/-- The direction changes between two states without power, and starts the rest. -/
theorem transition_dir (transition : Transition state command wait action next nextWait)
    (changed : action.dirThen has on ≠ on) :
    ¬ state.Powered ∧ ¬ next.Powered ∧ Rested 0 next nextWait := by
  cases transition with
  | startAb _ => exact ⟨id, id, .inr ⟨.inl rfl, Nat.le_refl 2⟩⟩
  | dirOffStop _ => exact ⟨id, id, .inr ⟨.inr (.inl rfl), Nat.le_succ 2⟩⟩
  | dirOn _ => exact ⟨id, id, .inr ⟨.inl rfl, Nat.le_succ 2⟩⟩
  | dirOff _ => exact ⟨id, id, .inr ⟨.inr (.inr rfl), Nat.le_succ 2⟩⟩
  | _ => exact absurd rfl changed

theorem transition_rested (transition : Transition state command (wait - 1) action next nextWait)
    (rested : Rested k state wait) : Rested (k + 1) next nextWait := by
  rcases rested with long | ⟨waits, still⟩
  · exact .inl (by omega)
  · generalize counted : wait - 1 = w at transition
    cases transition with
    | waiting _ _ _ more => exact .inr ⟨waits, by omega⟩
    | powerAb _ => exact .inl (by omega)
    | stoppedAb _ => exact .inl (by omega)
    | powerAuf _ => exact .inl (by omega)
    | staying _ _ _ ready _ => rcases waits with rfl | rfl | rfl <;> exact absurd trivial ready
    | _ => simp at waits

/-- Power comes on in a rested system only. -/
theorem transition_power_on
    (transition : Transition state command (wait - 1) action next nextWait)
    (rested : Rested k state wait) (comesOn : action.powerThen has false = true) : 2 ≤ k + 1 := by
  rcases rested with long | ⟨waits, still⟩
  · omega
  · generalize counted : wait - 1 = w at transition
    cases transition with
    | powerAb _ => omega
    | powerAuf _ => omega
    | startAuf _ => simp at waits
    | _ => simp [RelayAction.powerThen] at comesOn

section Steps

variable {byZero : Int → Int} {self : UInt16} {s t : RolladenSystem} {event : RolladenEvent}

/-- The configuration uses two pins, and the power relay is on in powered states only. -/
structure Interlocked (s : RolladenSystem) : Prop where
  distinct : s.device.config.portPower ≠ s.device.config.portDir
  powered : s.powerOn = true → s.device.lowlevelState.Powered

theorem Interlocked.step (interlocked : Interlocked s)
    (taken : RolladenStep byZero self s event t) : Interlocked t := by
  have config := (rolladenStep_cases taken).1
  refine ⟨config ▸ interlocked.distinct, fun stillOn => ?_⟩
  rcases rolladenStep_relays interlocked.distinct taken with
    ⟨-, action, _, _, transition, power, -⟩ | ⟨-, same⟩
  · exact transition_powered transition interlocked.powered (power ▸ stillOn)
  · rw [same.state]
    exact interlocked.powered (same.power ▸ stillOn)

theorem Interlocked.run {events : List RolladenEvent} (interlocked : Interlocked s)
    (run : Run (RolladenStep byZero self) s events t) : Interlocked t :=
  run.invariant Interlocked (fun _ _ _ taken before => before.step taken) interlocked

/-- A change of the direction finds the power off, leaves it off and starts the rest. -/
theorem Interlocked.dir_changed (interlocked : Interlocked s)
    (taken : RolladenStep byZero self s event t) (changed : s.dirOn ≠ t.dirOn) :
    s.powerOn = false ∧ t.powerOn = false ∧
      Rested 0 t.device.lowlevelState t.device.lowlevelWaitCounter := by
  rcases rolladenStep_relays interlocked.distinct taken with
    ⟨-, action, _, _, transition, -, dir⟩ | ⟨-, same⟩
  · obtain ⟨notBefore, notAfter, rested⟩ := transition_dir transition (dir ▸ changed.symm)
    have after := interlocked.step taken
    refine ⟨?_, ?_, rested⟩
    · exact Bool.eq_false_iff.mpr fun stillOn => notBefore (interlocked.powered stillOn)
    · exact Bool.eq_false_iff.mpr fun stillOn => notAfter (after.powered stillOn)
  · exact absurd same.dir.symm changed

/-- The rest goes on until two ticks have passed. -/
theorem Interlocked.rested_step (interlocked : Interlocked s)
    (rested : Rested k s.device.lowlevelState s.device.lowlevelWaitCounter)
    (taken : RolladenStep byZero self s event t) :
    Rested (k + tickCount event) t.device.lowlevelState t.device.lowlevelWaitCounter := by
  rcases rolladenStep_relays interlocked.distinct taken with
    ⟨tick, action, _, _, transition, -, -⟩ | ⟨idle, same⟩
  · rw [tick]
    exact transition_rested transition rested
  · rw [idle, Nat.add_zero, same.state, same.wait]
    exact rested

theorem Interlocked.power_on (interlocked : Interlocked s)
    (rested : Rested k s.device.lowlevelState s.device.lowlevelWaitCounter)
    (taken : RolladenStep byZero self s event t) (off : s.powerOn = false)
    (comesOn : t.powerOn = true) : 2 ≤ k + tickCount event := by
  rcases rolladenStep_relays interlocked.distinct taken with
    ⟨tick, action, _, _, transition, power, -⟩ | ⟨-, same⟩
  · rw [tick]
    rw [comesOn, off] at power
    exact transition_power_on transition rested power.symm
  · rw [same.power, off] at comesOn
    cases comesOn

/-- The shutter relay interlock: from an initialised shutter with both relays
off, the direction relay changes only while the power relay is off, and the
power relay comes on two ticks after a change of the direction or later. -/
theorem rolladen_interlock (byZero : Int → Int) (self : UInt16) {config : EdsRolladenBlock}
    {out : Outputs} (distinct : config.portPower ≠ config.portDir)
    (powerOff : out.isOn config.portPower = false)
    {front : List RolladenEvent} {before changed : RolladenSystem} {change : RolladenEvent}
    (runFront : Run (RolladenStep byZero self) ⟨rolladenInit config, out⟩ front before)
    (changing : RolladenStep byZero self before change changed)
    (different : before.dirOn ≠ changed.dirOn) :
    before.powerOn = false ∧ changed.powerOn = false ∧
      ∀ (between : List RolladenEvent) (later after : RolladenSystem) (start : RolladenEvent),
        Run (RolladenStep byZero self) changed between later →
        RolladenStep byZero self later start after →
        later.powerOn = false → after.powerOn = true →
        2 ≤ tally tickCount between + tickCount start := by
  have initially : Interlocked ⟨rolladenInit config, out⟩ := by
    refine ⟨distinct, fun on => ?_⟩
    have off : RolladenSystem.powerOn ⟨rolladenInit config, out⟩ = false := powerOff
    rw [off] at on
    cases on
  have interlocked := initially.run runFront
  obtain ⟨offBefore, offAfter, rested⟩ := interlocked.dir_changed changing different
  refine ⟨offBefore, offAfter, fun between later after start runBetween starting off on => ?_⟩
  have both := runBetween.counted tickCount
    (fun k t => Interlocked t ∧ Rested k t.device.lowlevelState t.device.lowlevelWaitCounter)
    (fun k t event t' taken holds => ⟨holds.1.step taken, holds.1.rested_step holds.2 taken⟩)
    ⟨interlocked.step changing, rested⟩
  rw [Nat.zero_add] at both
  exact both.1.power_on both.2 starting off on

end Steps

/-- From the top the kitchen shutter is sent down. -/
theorem rolladen_interlock_kitchen :
    let before := kitchenAfter kitchenBoot [kitchenDown]
    let changed := kitchenAfter before [.tick]
    let later := kitchenAfter changed [.tick]
    let after := kitchenAfter later [.tick]
    before.dirOn ≠ changed.dirOn ∧ later.powerOn = false ∧ after.powerOn = true ∧
      before.powerOn = false ∧ 2 ≤ tally tickCount [.tick] + tickCount .tick := by
  intro before changed later after
  have different : before.dirOn ≠ changed.dirOn := by decide +kernel
  have off : later.powerOn = false := by decide +kernel
  have on : after.powerOn = true := by decide +kernel
  have proved := rolladen_interlock (fun _ => 0) 7 (by decide) (by decide +kernel)
    (kitchenRun kitchenBoot (by decide : ∀ event ∈ [kitchenDown], Unshared kitchenShutter event))
    (kitchenTick before) different
  exact ⟨different, off, on, proved.1, proved.2.2 [.tick] later after .tick
    (.single (kitchenTick changed)) (kitchenTick later) off on⟩

/-! ## A change of direction after a standstill -/

/-- A shutter together with a history variable: the last tick has found the state
`stopWait1`. -/
structure WatchedRolladen where
  system : RolladenSystem
  fresh : Bool

def WatchedRolladen.watch (s : WatchedRolladen) : RolladenEvent → Bool
  | .tick => decide (s.system.device.lowlevelState = .stopWait1)
  | _ => s.fresh

/-- A step of a shutter that is not sent down in the first tick of a stop after
moving up. -/
structure PatientStep (byZero : Int → Int) (selfaddr : UInt16) (s : WatchedRolladen)
    (event : RolladenEvent) (next : WatchedRolladen) : Prop where
  taken : RolladenStep byZero selfaddr s.system event next.system
  watched : next.fresh = s.watch event
  patient : tickCount event = 1 → s.fresh = true → s.system.device.lowlevelState = .stop →
    s.system.device.lowlevelCommand ≠ .ab

/-- `k` ticks after the power relay went off: five ticks have passed, or the
state guarantees the missing ones. -/
inductive Settling (k : Nat) (fresh : Bool) : RolladenState → Nat → Prop where
  | settled {state : RolladenState} {wait : Nat} (long : 5 ≤ k) : Settling k fresh state wait
  | turning {state : RolladenState} {wait : Nat}
      (waits : state = .stopWait2 ∨ state = .dirChangeWait1 ∨ state = .dirChangeWait2)
      (still : 6 ≤ wait + k) : Settling k fresh state wait
  | stopping {wait : Nat} (still : 3 ≤ wait + k) : Settling k fresh .stopWait1 wait
  | standing {wait : Nat} (still : 4 ≤ k ∨ (3 ≤ k ∧ fresh = true)) : Settling k fresh .stop wait
  | starting {wait : Nat} (still : 4 ≤ k) : Settling k fresh .aufWait wait

theorem transition_settling {fresh : Bool}
    (transition : Transition state command (wait - 1) action next nextWait)
    (settling : Settling k fresh state wait)
    (patient : fresh = true → state = .stop → command ≠ .ab) :
    Settling (k + 1) (decide (state = .stopWait1)) next nextWait := by
  generalize counted : wait - 1 = w at transition
  cases settling with
  | settled long => exact .settled (by omega)
  | turning waits still =>
      cases transition with
      | waiting _ _ _ more => exact .turning waits (by omega)
      | staying _ _ _ ready _ => rcases waits with rfl | rfl | rfl <;> exact absurd trivial ready
      | dirOffStop _ => exact .settled (by omega)
      | dirOn _ => exact .settled (by omega)
      | dirOff _ => exact .settled (by omega)
      | _ => simp at waits
  | stopping still =>
      cases transition with
      | waiting _ _ _ more => exact .stopping (by omega)
      | staying _ _ _ ready _ => exact absurd trivial ready
      | stoppedAuf _ => exact .standing (.inr ⟨by omega, rfl⟩)
  | standing still =>
      cases transition with
      | waiting _ _ waits _ => cases waits
      | staying _ _ _ _ _ => exact .standing (.inl (by omega))
      | startAuf _ => exact .starting (by omega)
      | startAb _ =>
          rcases still with long | ⟨long, isFresh⟩
          · exact .settled (by omega)
          · exact absurd rfl (patient isFresh rfl)
  | starting still => exact .settled (by omega)

theorem transition_dir_settled {fresh : Bool}
    (transition : Transition state command (wait - 1) action next nextWait)
    (settling : Settling k fresh state wait)
    (patient : fresh = true → state = .stop → command ≠ .ab)
    (changed : action.dirThen has on ≠ on) : 5 ≤ k + 1 := by
  generalize counted : wait - 1 = w at transition
  cases settling with
  | settled long => omega
  | turning waits still =>
      cases transition with
      | dirOffStop _ => omega
      | dirOn _ => omega
      | dirOff _ => omega
      | startAb _ => simp at waits
      | _ => exact absurd rfl changed
  | standing still =>
      cases transition with
      | startAb _ =>
          rcases still with long | ⟨long, isFresh⟩
          · omega
          · exact absurd rfl (patient isFresh rfl)
      | _ => exact absurd rfl changed
  | stopping _ => cases transition <;> exact absurd rfl changed
  | starting _ => cases transition <;> exact absurd rfl changed

/-- The power relay goes off in a state that settles. -/
theorem transition_power_off {fresh : Bool}
    (transition : Transition state command (wait - 1) action next nextWait)
    (goesOff : action.powerThen has true = false) : Settling 0 fresh next nextWait := by
  generalize wait - 1 = w at transition
  cases transition with
  | stopAuf _ => exact .stopping (Nat.le_refl 3)
  | turnAuf _ => exact .turning (.inr (.inl rfl)) (Nat.le_refl 6)
  | stopAb _ => exact .turning (.inl rfl) (Nat.le_refl 6)
  | turnAb _ => exact .turning (.inr (.inr rfl)) (Nat.le_refl 6)
  | _ => cases goesOff

section PatientSteps

variable {byZero : Int → Int} {self : UInt16} {s t : WatchedRolladen} {event : RolladenEvent}

theorem PatientStep.settling (taken : PatientStep byZero self s event t)
    (distinct : s.system.device.config.portPower ≠ s.system.device.config.portDir)
    (settling : Settling k s.fresh s.system.device.lowlevelState
      s.system.device.lowlevelWaitCounter) :
    Settling (k + tickCount event) t.fresh t.system.device.lowlevelState
      t.system.device.lowlevelWaitCounter := by
  have watched := taken.watched
  rcases rolladenStep_relays distinct taken.taken with
    ⟨tick, action, _, _, transition, -, -⟩ | ⟨idle, same⟩
  · cases event with
    | tick =>
        rw [watched]
        exact transition_settling transition settling (taken.patient tick)
    | frame _ => cases tick
    | other _ _ => cases tick
  · cases event with
    | tick => cases idle
    | frame _ =>
        rw [watched, same.state, same.wait]
        exact settling
    | other _ _ =>
        rw [watched, same.state, same.wait]
        exact settling

/-- The standstill time: in a run of patient steps a change of the direction
relay comes five ticks after the power relay has gone off, or later. -/
theorem rolladen_standstill (byZero : Int → Int) (self : UInt16) {config : EdsRolladenBlock}
    {out : Outputs} (distinct : config.portPower ≠ config.portDir)
    {front : List RolladenEvent} {before stopped : WatchedRolladen} {stop : RolladenEvent}
    (runFront : Run (PatientStep byZero self) ⟨⟨rolladenInit config, out⟩, false⟩ front before)
    (stopping : PatientStep byZero self before stop stopped)
    (wasOn : before.system.powerOn = true) (isOff : stopped.system.powerOn = false) :
    ∀ (between : List RolladenEvent) (later after : WatchedRolladen) (change : RolladenEvent),
      Run (PatientStep byZero self) stopped between later →
      PatientStep byZero self later change after →
      later.system.dirOn ≠ after.system.dirOn →
      5 ≤ tally tickCount between + tickCount change := by
  have keepsDistinct : ∀ s event t, PatientStep byZero self s event t →
      s.system.device.config.portPower ≠ s.system.device.config.portDir →
      t.system.device.config.portPower ≠ t.system.device.config.portDir := by
    intro s event t taken apart
    rw [(rolladenStep_cases taken.taken).1]
    exact apart
  have apart := runFront.invariant
    (fun t => t.system.device.config.portPower ≠ t.system.device.config.portDir)
    keepsDistinct distinct
  have settling : Settling 0 stopped.fresh stopped.system.device.lowlevelState
      stopped.system.device.lowlevelWaitCounter := by
    rcases rolladenStep_relays apart stopping.taken with
      ⟨-, action, _, _, transition, power, -⟩ | ⟨-, same⟩
    · rw [isOff, wasOn] at power
      exact transition_power_off transition power.symm
    · rw [same.power, wasOn] at isOff
      cases isOff
  intro between later after change runBetween changing different
  obtain ⟨apartThen, settlingThen⟩ := runBetween.counted tickCount
    (fun k t => t.system.device.config.portPower ≠ t.system.device.config.portDir ∧
      Settling k t.fresh t.system.device.lowlevelState t.system.device.lowlevelWaitCounter)
    (fun k t event t' taken holds =>
      ⟨keepsDistinct t event t' taken holds.1, taken.settling holds.1 holds.2⟩)
    ⟨keepsDistinct _ _ _ stopping apart, settling⟩
  rw [Nat.zero_add] at settlingThen
  rcases rolladenStep_relays apartThen changing.taken with
    ⟨tick, action, _, _, transition, -, dir⟩ | ⟨-, same⟩
  · rw [tick]
    exact transition_dir_settled transition settlingThen (changing.patient tick)
      (dir ▸ different.symm)
  · exact absurd same.dir.symm different

end PatientSteps

/-- Sent up, the kitchen shutter stops at the top in the fifth tick. -/
def kitchenUp : List RolladenEvent :=
  [kitchenTaster, kitchenTasterUp, .tick, .tick, .tick, .tick]

/-- Sent down again in the first tick of the stop it changes its direction relay
four ticks after power off. -/
theorem kitchen_direction_early :
    let before := kitchenAfter kitchenBoot kitchenUp
    let stopped := kitchenAfter before [.tick]
    let later := kitchenAfter stopped [.tick, .tick, .tick, kitchenTaster]
    Run (RolladenStep (fun _ => 0) 7) kitchenBoot kitchenUp before ∧
      RolladenStep (fun _ => 0) 7 before .tick stopped ∧
      before.powerOn = true ∧ stopped.powerOn = false ∧
      Run (RolladenStep (fun _ => 0) 7) stopped [.tick, .tick, .tick, kitchenTaster] later ∧
      RolladenStep (fun _ => 0) 7 later .tick (kitchenAfter later [.tick]) ∧
      later.dirOn ≠ (kitchenAfter later [.tick]).dirOn ∧
      tally tickCount [.tick, .tick, .tick, kitchenTaster] + tickCount .tick = 4 := by
  intro before stopped later
  exact ⟨kitchenRun kitchenBoot (by decide +kernel), kitchenTick before, by decide +kernel,
    by decide +kernel, kitchenRun stopped (by decide +kernel), kitchenTick later,
    by decide +kernel, rfl⟩

/-- The watched shutter after some events. -/
def kitchenWatched (s : WatchedRolladen) (events : List RolladenEvent) : WatchedRolladen :=
  events.foldl (fun s event => ⟨s.system.after (fun _ => 0) 7 event, s.watch event⟩) s

/-- Every event of the list is a patient step. -/
def kitchenPatient (s : WatchedRolladen) : List RolladenEvent → Bool
  | [] => true
  | event :: events =>
      decide (Unshared s.system.device.config event ∧ (tickCount event = 1 → s.fresh = true →
        s.system.device.lowlevelState = .stop → s.system.device.lowlevelCommand ≠ .ab)) &&
      kitchenPatient (kitchenWatched s [event]) events

theorem kitchenPatientRun (s : WatchedRolladen) {events : List RolladenEvent}
    (patient : kitchenPatient s events = true) :
    Run (PatientStep (fun _ => 0) 7) s events (kitchenWatched s events) := by
  induction events generalizing s with
  | nil => exact .nil s
  | cons event events ih =>
      obtain ⟨now, later⟩ := Bool.and_eq_true_iff.mp patient
      obtain ⟨unshared, patience⟩ := of_decide_eq_true now
      exact .cons ⟨⟨unshared, rfl⟩, rfl, patience⟩ (ih _ later)

/-- Sent down one tick later the shutter keeps the standstill time. -/
theorem rolladen_standstill_kitchen :
    let before := kitchenWatched ⟨kitchenBoot, false⟩ kitchenUp
    let stopped := kitchenWatched before [.tick]
    let later := kitchenWatched stopped [.tick, .tick, .tick, .tick, kitchenTaster]
    later.system.dirOn ≠ (kitchenWatched later [.tick]).system.dirOn ∧
      5 ≤ tally tickCount [.tick, .tick, .tick, .tick, kitchenTaster] + tickCount .tick := by
  intro before stopped later
  have step : ∀ s : WatchedRolladen, kitchenPatient s [.tick] = true →
      PatientStep (fun _ => 0) 7 s .tick (kitchenWatched s [.tick]) := by
    intro s patient
    cases kitchenPatientRun s patient with
    | cons taken rest =>
        cases rest
        exact taken
  have changes : later.system.dirOn ≠ (kitchenWatched later [.tick]).system.dirOn := by
    decide +kernel
  exact ⟨changes, rolladen_standstill (fun _ => 0) 7 (by decide)
    (kitchenPatientRun ⟨kitchenBoot, false⟩ (by decide +kernel : kitchenPatient _ kitchenUp = true))
    (step before (by decide +kernel)) (by decide +kernel) (by decide +kernel) _ later _ .tick
    (kitchenPatientRun stopped (by decide +kernel)) (step later (by decide +kernel)) changes⟩

end Hcan.Controller
