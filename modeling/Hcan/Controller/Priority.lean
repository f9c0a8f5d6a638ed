import Hcan.Controller.SaveRestore

/-!
# Manual operation and the target position

A press of the push-button takes the target position away in the states that its handler
distinguishes.  A press in a waiting state leaves the target of an earlier command.
-/

namespace Hcan.Controller

open Hcan.Canix Hcan.Library

/-- The target stays or is taken away. -/
def TargetKept (p next : DeviceDataRolladen) : Prop :=
  next.sollLaufzeit = p.sollLaufzeit ∨ next.sollLaufzeit = -1

theorem TargetKept.none {p next : DeviceDataRolladen} (kept : TargetKept p next)
    (before : p.sollLaufzeit = -1) : next.sollLaufzeit = -1 :=
  kept.elim (fun same => same.trans before) id

theorem sollErreicht_target (p : DeviceDataRolladen) (reached : Prop) [Decidable reached] :
    TargetKept p (rolladenSollErreicht p reached) := by
  unfold rolladenSollErreicht
  split
  · exact .inr rfl
  · exact .inl rfl

theorem obereEndposition_soll (p : DeviceDataRolladen) :
    (rolladenObereEndposition p).1.sollLaufzeit = p.sollLaufzeit := by
  unfold rolladenObereEndposition
  split <;> split <;> rfl

theorem untereEndposition_soll (p : DeviceDataRolladen) :
    (rolladenUntereEndposition p).1.sollLaufzeit = p.sollLaufzeit := by
  unfold rolladenUntereEndposition
  split <;> split <;> rfl

theorem streckeZaehlen_target (p : DeviceDataRolladen) :
    TargetKept p (rolladenStreckeZaehlen p).1 := by
  unfold rolladenStreckeZaehlen
  split
  · unfold rolladenZaehleAuf TargetKept
    dsimp only
    rw [obereEndposition_soll]
    exact sollErreicht_target _ _
  · split
    · unfold rolladenZaehleAb TargetKept
      dsimp only
      rw [untereEndposition_soll]
      exact sollErreicht_target _ _
    · exact .inl rfl

theorem hilevelCount_soll (p : DeviceDataRolladen) :
    (rolladenHilevelCount p).sollLaufzeit = p.sollLaufzeit := by
  unfold rolladenHilevelCount
  dsimp only
  split
  · split <;> rfl
  · rfl

section Handler

variable (byZero : Int → Int) (self : UInt16)

theorem switch_soll (p : DeviceDataRolladen) (out : Outputs) :
    (rolladenLowlevelSwitch byZero self p out).1.sollLaufzeit = p.sollLaufzeit := by
  unfold rolladenLowlevelSwitch
  dsimp only
  repeat' split
  all_goals rfl

theorem timerHandler_target (p : DeviceDataRolladen) (out : Outputs) :
    TargetKept p (rolladenLowlevelTimerHandler byZero self p out).1 := by
  have counted := streckeZaehlen_target
    (rolladenLowlevelSwitch byZero self (rolladenCountDown p) out).1
  unfold TargetKept at counted ⊢
  rw [switch_soll] at counted
  unfold rolladenLowlevelTimerHandler
  dsimp only
  split
  · exact counted
  · rw [hilevelCount_soll]
    exact counted

/-- The shutter takes the target of the frame: it stands and the frame is for its group. -/
def AcceptsTarget (p : DeviceDataRolladen) (frame : CanixFrame) : Prop :=
  frame.data[1] = hcanHesRolladenPositionSet ∧ p.lowlevelState = .stop ∧
    (rolladenIsInGroup p frame.data[2] = true ∨
      (p.config.taster = frame.data[2] ∧ frame.data[3] ≥ 200))

theorem tasterDown_target (p : DeviceDataRolladen) : TargetKept p (rolladenTasterDown p) := by
  unfold rolladenTasterDown
  dsimp only
  repeat' split
  all_goals first | exact .inl rfl | exact .inr rfl

theorem positionSet_target {p : DeviceDataRolladen} (moves : p.lowlevelState ≠ .stop)
    (pos : UInt8) : TargetKept p (rolladenPositionSet byZero p pos) := by
  unfold rolladenPositionSet
  split
  case h_1 stands => exact absurd stands moves
  case h_2 => split <;> first | exact .inl rfl | exact .inr rfl
  case h_3 => split <;> first | exact .inl rfl | exact .inr rfl
  case h_4 => exact .inl rfl

theorem canCallback_target {p : DeviceDataRolladen} {frame : CanixFrame}
    (other : ¬ AcceptsTarget p frame) :
    TargetKept p (rolladenCanCallback byZero self p frame).1 := by
  unfold rolladenCanCallback
  dsimp only
  split
  · split
    · exact tasterDown_target p
    · exact .inl rfl
  · split
    · split <;> exact .inl rfl
    · split
      case isTrue isSet =>
        split
        case isTrue own =>
          exact positionSet_target byZero (fun stands => other ⟨isSet, stands, own⟩) _
        case isFalse => exact .inl rfl
      case isFalse =>
        split
        · split <;> exact .inl rfl
        · split <;> exact .inl rfl

end Handler

/-- A press of the own push-button. -/
def PressesTaster (p : DeviceDataRolladen) (frame : CanixFrame) : Prop :=
  frame.data[1] = hcanHesTasterDown ∧ frame.data[2] = p.config.taster

theorem callback_press (byZero : Int → Int) (self : UInt16) {p : DeviceDataRolladen}
    {frame : CanixFrame} (press : PressesTaster p frame) :
    (rolladenCanCallback byZero self p frame).1 = rolladenTasterDown p := by
  unfold rolladenCanCallback
  rw [if_pos press.1, if_pos press.2.symm]

theorem tasterDown_ready {p : DeviceDataRolladen} (ready : ¬ p.lowlevelState.Waits) :
    (rolladenTasterDown p).sollLaufzeit = -1 := by
  obtain ⟨config, summe, laufzeit, soll, source, lastDir, state, command, wait, up⟩ := p
  cases state with
  | stop => cases lastDir <;> rfl
  | auf => rfl
  | ab => rfl
  | _ => exact absurd trivial ready

theorem tasterDown_waits {p : DeviceDataRolladen} (waits : p.lowlevelState.Waits) :
    (rolladenTasterDown p).sollLaufzeit = p.sollLaufzeit := by
  obtain ⟨config, summe, laufzeit, soll, source, lastDir, state, command, wait, up⟩ := p
  cases state <;> first | exact waits.elim | rfl

/-! ## Runs without a new target -/

/-- The steps of a shutter that takes no target, restarts among them. -/
structure UntargetedStep (byZero : Int → Int) (selfaddr : UInt16) (s : RolladenSystem)
    (event : Option RolladenEvent) (t : RolladenSystem) : Prop where
  happens : LifeStep byZero selfaddr s event t
  untargeted : ∀ frame, event = some (.frame frame) → ¬ AcceptsTarget s.device frame

section Runs

variable {byZero : Int → Int} {self : UInt16} {s t : RolladenSystem}

theorem UntargetedStep.none {event : Option RolladenEvent}
    (taken : UntargetedStep byZero self s event t) (before : s.device.sollLaufzeit = -1) :
    t.device.sollLaufzeit = -1 := by
  obtain ⟨happens, untargeted⟩ := taken
  cases happens with
  | @event event _ =>
      cases event with
      | tick => exact (timerHandler_target byZero self s.device s.out).none before
      | frame frame => exact (canCallback_target byZero self (untargeted frame rfl)).none before
      | other n state => exact before
  | restart config out => rfl

theorem untargetedRun_none {events : List (Option RolladenEvent)}
    (run : Run (UntargetedStep byZero self) s events t) (before : s.device.sollLaufzeit = -1) :
    t.device.sollLaufzeit = -1 :=
  run.invariant (fun t => t.device.sollLaufzeit = -1) (fun _ _ _ taken => taken.none) before

/-- Behind a press there is no target until the next one is taken, exactly when the press does
not arrive in a waiting state or no target is pending. -/
theorem press_priority_iff (byZero : Int → Int) (self : UInt16) (s : RolladenSystem)
    {frame : CanixFrame} (press : PressesTaster s.device frame) :
    (∀ events t, Run (UntargetedStep byZero self) (s.after byZero self (.frame frame)) events t →
      t.device.sollLaufzeit = -1) ↔
    ¬ s.device.lowlevelState.Waits ∨ s.device.sollLaufzeit = -1 := by
  have pressed : (s.after byZero self (.frame frame)).device = rolladenTasterDown s.device :=
    callback_press byZero self press
  constructor
  · intro none
    by_contra pending
    rw [not_or, not_not] at pending
    have still := none [] _ (.nil _)
    rw [pressed, tasterDown_waits pending.1] at still
    exact pending.2 still
  · rintro (ready | free) events t run
    · refine untargetedRun_none run ?_
      rw [pressed]
      exact tasterDown_ready ready
    · refine untargetedRun_none run ?_
      rw [pressed]
      exact (tasterDown_target s.device).none free

/-- The kitchen shutter on its way to the half. -/
def kitchenHalfway : RolladenSystem :=
  (kitchenBoot.after (fun _ => 0) 7 (.frame (hesFrame hcanHesRolladenPositionSet 20 50))).ticks
    (fun _ => 0) 7 20

/-- Pressed while it drives, the kitchen shutter forgets its target. -/
theorem press_priority_kitchen :
    kitchenHalfway.device.lowlevelState = .ab ∧ kitchenHalfway.device.sollLaufzeit = 50 ∧
      ∀ events t, Run (UntargetedStep (fun _ => 0) 7)
        (kitchenHalfway.after (fun _ => 0) 7 (.frame (hesFrame hcanHesTasterDown 9 0))) events t →
          t.device.sollLaufzeit = -1 := by
  have drives : kitchenHalfway.device.lowlevelState = .ab := by decide +kernel
  have press : PressesTaster kitchenHalfway.device (hesFrame hcanHesTasterDown 9 0) :=
    ⟨rfl, by decide +kernel⟩
  refine ⟨drives, by decide +kernel,
    (press_priority_iff (fun _ => 0) 7 kitchenHalfway press).mpr (.inl ?_)⟩
  rw [drives]
  exact not_false

/-- The kitchen shutter is sent to the half and pressed in the tick that it starts in: it goes on
to the half and stops there. -/
theorem kitchen_press_ignored :
    ∃ s, Run (LifeStep (fun _ => 0) 7) kitchenBoot
        [some (.frame (hesFrame hcanHesRolladenPositionSet 20 50)), some .tick] s ∧
      s.device.lowlevelState = .abWait1 ∧
      PressesTaster s.device (hesFrame hcanHesTasterDown 9 0) ∧
      (s.after (fun _ => 0) 7 kitchenTaster).device.sollLaufzeit = 50 ∧
      StandsAt 50 (((s.after (fun _ => 0) 7 kitchenTaster).after (fun _ => 0) 7
        kitchenTasterUp).ticks (fun _ => 0) 7 70) := by
  refine ⟨_, .cons (.event ?_) (.single (.event trivial)), ?_, ⟨rfl, rfl⟩, ?_, ?_, ?_⟩
  · intro reload
    cases reload
  all_goals decide +kernel

end Runs

end Hcan.Controller
