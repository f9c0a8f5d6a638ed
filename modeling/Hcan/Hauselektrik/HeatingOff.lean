import Hcan.Hauselektrik.HeatingStep
import Hcan.Library.Bits

/-!
# Switching a heating off

The frame that switches a heating off leaves the countdown of an earlier timed mode running.
When it ends the heating turns to the time zones, so off lasts exactly when no countdown runs.
-/

namespace Hcan.Hauselektrik

open Hcan.Canix Hcan.Controller Hcan.Library

variable {mcu : Mcu}

/-- The frame sets a mode other than OFF. -/
def StartsMode (self : UInt16) (id : UInt8) (f : CanixFrame) : Prop :=
  IsFor self id hcanHesHeizungSetModeManual f ∨
    IsFor self id hcanHesHeizungSetModeThermostatDetails f ∨
    IsFor self id hcanHesHeizungSetModeAutomatik f

/-- A step without a frame that sets another mode. -/
def OffStep (undef : Undefined) (env : Environment mcu) (i : Nat) (id : UInt8) (b : Board mcu)
    (event : HeizungEvent) (next : Board mcu) : Prop :=
  HeizungStep undef env i b event next ∧ ∀ f, event = .frame f → ¬StartsMode env.self id f

/-- A mode without a countdown. -/
structure Untimed (id : UInt8) (mode : HeizungMode) (p : DeviceDataHeizung) : Prop where
  id : p.config.id = id
  mode : p.mode = mode
  duration : p.durationCounter = 0

section Step

variable {undef : Undefined} {env : Environment mcu} {i : Nat} {b next : Board mcu} {id : UInt8}
  {mode : HeizungMode} {p q : DeviceDataHeizung} {f : CanixFrame}

theorem Untimed.tick (untimed : Untimed id mode p) (self : UInt16) :
    Untimed id mode (heizungTimerHandler undef self b p).1 := by
  obtain ⟨config, ticked, duration⟩ := heizungTimerHandler_timed undef self b p
  constructor
  · rw [config, untimed.id]
  · rw [ticked, modeAfter, if_neg (by rw [untimed.duration]; decide), untimed.mode]
  · rw [duration, durationAfter, untimed.duration]
    rfl

/-- A frame that sets no other mode keeps the heating off. -/
theorem Untimed.off_frame (untimed : Untimed id .off p) (change : FrameChange env.self f p q)
    (quiet : ¬StartsMode env.self id f) : Untimed id .off q := by
  have here := untimed.id
  subst here
  cases change with
  | kept _ => exact untimed
  | measured _ => exact ⟨rfl, untimed.mode, untimed.duration⟩
  | opened _ => exact ⟨rfl, untimed.mode, untimed.duration⟩
  | off _ => exact ⟨rfl, rfl, untimed.duration⟩
  | manual own => exact absurd (.inl own) quiet
  | thermostat own => exact absurd (.inr (.inl own)) quiet
  | automatik own => exact absurd (.inr (.inr own)) quiet
  | written idx temp _ => exact ⟨rfl, untimed.mode, untimed.duration⟩

theorem IsFor.setsMode {command : UInt8} (own : IsFor env.self id command f)
    (sets : command = hcanHesHeizungSetModeOff ∨ command = hcanHesHeizungSetModeManual ∨
      command = hcanHesHeizungSetModeThermostatDetails ∨
      command = hcanHesHeizungSetModeAutomatik) : SetsMode env.self id f := by
  obtain ⟨accepted, rfl, addressed⟩ := own
  exact ⟨accepted, addressed, sets⟩

/-- A frame that does not set the mode keeps any mode without a countdown. -/
theorem Untimed.frame (untimed : Untimed id mode p) (change : FrameChange env.self f p q)
    (quiet : ¬SetsMode env.self id f) : Untimed id mode q := by
  have here := untimed.id
  subst here
  cases change with
  | kept _ => exact untimed
  | measured _ => exact ⟨rfl, untimed.mode, untimed.duration⟩
  | opened _ => exact ⟨rfl, untimed.mode, untimed.duration⟩
  | off own => exact absurd (own.setsMode (.inl rfl)) quiet
  | manual own => exact absurd (own.setsMode (.inr (.inl rfl))) quiet
  | thermostat own => exact absurd (own.setsMode (.inr (.inr (.inl rfl)))) quiet
  | automatik own => exact absurd (own.setsMode (.inr (.inr (.inr rfl)))) quiet
  | written idx temp _ => exact ⟨rfl, untimed.mode, untimed.duration⟩

/-- The step lemma, for what the frames of a run keep. -/
theorem step_untimed {event : HeizungEvent} (step : HeizungStep undef env i b event next)
    (frames : ∀ f p q, event = .frame f → Untimed id mode p → FrameChange env.self f p q →
      Untimed id mode q)
    (now : AtSlot i (Untimed id mode) b) : AtSlot i (Untimed id mode) next := by
  obtain ⟨p, slot, untimed⟩ := now
  cases event with
  | tick => exact ⟨_, (heizungStep_tick slot step).1, untimed.tick env.self⟩
  | frame f =>
      obtain ⟨q, here, change, -⟩ := heizungStep_frame slot step
      exact ⟨q, here, frames f p q rfl untimed change⟩
  | elsewhere => exact ⟨p, (heizungStep_elsewhere step).trans slot, untimed⟩

theorem run_off {last : Board mcu} {events : List HeizungEvent}
    (run : Run (OffStep undef env i id) b events last) (now : AtSlot i (Untimed id .off) b) :
    AtSlot i (Untimed id .off) last :=
  run.invariant _ (fun _ _ _ step => step_untimed step.1 fun f _ _ isFrame untimed change =>
    untimed.off_frame change (step.2 f isFrame)) now

theorem run_untimed {last : Board mcu} {events : List HeizungEvent}
    (run : Run (UndisturbedStep undef env i id) b events last)
    (now : AtSlot i (Untimed id mode) b) : AtSlot i (Untimed id mode) last :=
  run.invariant _ (fun _ _ _ step => step_untimed step.1 fun f _ _ isFrame untimed change =>
    untimed.frame change (step.2 f isFrame)) now

theorem OffStep.tick (slot : b.devices[i]? = some (.heizung p))
    (ran : heizungTick undef env.self (fun _ => pure ()) i p b = some ((), next)) :
    OffStep undef env i id b .tick next :=
  ⟨.tick slot ran, fun _ isFrame => nomatch isFrame⟩

/-- A running countdown ends after as many ticks and turns the heating to the time zones. -/
theorem exists_run_automatik (undef : Undefined) (env : Environment mcu) (id : UInt8)
    {seconds : Nat} (slot : b.devices[i]? = some (.heizung p))
    (running : p.durationCounter.toNat = seconds + 1) :
    ∃ events last, Run (OffStep undef env i id) b events last ∧
      AtSlot i (fun q => q.mode = .automatik) last := by
  induction seconds generalizing b p with
  | zero =>
      have one : p.durationCounter = 1 := UInt16.toNat_inj.mp running
      obtain ⟨next, ran, ticked⟩ := heizungTick_returns undef env (fun q => q.mode = .automatik)
        slot (by
          rw [(heizungTimerHandler_timed undef env.self b p).2.1, modeAfter, if_pos one])
      exact ⟨[.tick], next, .single (.tick slot ran), ticked⟩
  | succ seconds ih =>
      have positive : p.durationCounter > 0 := UInt16.lt_iff_toNat_lt.mpr <| by
        rw [running]
        exact Nat.succ_pos _
      obtain ⟨next, ran, q, here, left⟩ := heizungTick_returns undef env
        (fun q => q.durationCounter.toNat = seconds + 1) slot (by
          rw [(heizungTimerHandler_timed undef env.self b p).2.2, durationAfter, if_pos positive,
            uint16_toNat_pred (UInt16.pos_iff_ne_zero.mp positive), running]
          rfl)
      obtain ⟨events, last, run, ended⟩ := ih here left
      exact ⟨.tick :: events, last, .cons (.tick slot ran) run, ended⟩

/-- What the frame that switches off leaves. -/
theorem frame_off (slot : b.devices[i]? = some (.heizung p))
    (off : IsFor env.self p.config.id hcanHesHeizungSetModeOff f)
    (step : HeizungStep undef env i b (.frame f) next) :
    next.devices[i]? = some (.heizung { p with mode := .off }) := by
  obtain ⟨q, here, change, -⟩ := heizungStep_frame slot step
  have sets := off.setsMode (.inl rfl)
  cases change with
  | kept other => exact absurd sets other
  | measured other => exact absurd sets other
  | opened other => exact absurd sets other
  | off _ => exact here
  | manual own => exact absurd (off.named.symm.trans own.named) (by decide)
  | thermostat own => exact absurd (off.named.symm.trans own.named) (by decide)
  | automatik own => exact absurd (off.named.symm.trans own.named) (by decide)
  | written idx temp other => exact absurd sets other

theorem frame_manual (slot : b.devices[i]? = some (.heizung p))
    (manual : IsFor env.self p.config.id hcanHesHeizungSetModeManual f)
    (step : HeizungStep undef env i b (.frame f) next) :
    next.devices[i]? = some (.heizung
      { p with
        mode := .manual
        manualRate := f.data[3]
        durationCounter := frameWord f.data[4] f.data[5] }) := by
  obtain ⟨q, here, change, -⟩ := heizungStep_frame slot step
  have sets := manual.setsMode (.inr (.inl rfl))
  cases change with
  | kept other => exact absurd sets other
  | measured other => exact absurd sets other
  | opened other => exact absurd sets other
  | off own => exact absurd (manual.named.symm.trans own.named) (by decide)
  | manual _ => exact here
  | thermostat own => exact absurd (manual.named.symm.trans own.named) (by decide)
  | automatik own => exact absurd (manual.named.symm.trans own.named) (by decide)
  | written idx temp other => exact absurd sets other

end Step

/-- A heating that a frame has switched off stays off exactly when no countdown runs; one that
is set to a rate without a limit stays there. -/
theorem off_stays_iff (undef : Undefined) (env : Environment mcu) {i : Nat} {b next : Board mcu}
    {p : DeviceDataHeizung} {f : CanixFrame} (slot : b.devices[i]? = some (.heizung p))
    (step : HeizungStep undef env i b (.frame f) next) :
    (IsFor env.self p.config.id hcanHesHeizungSetModeOff f →
        ((∀ events last, Run (OffStep undef env i p.config.id) next events last →
            AtSlot i (fun q => q.mode = .off) last) ↔ p.durationCounter = 0)) ∧
      (IsFor env.self p.config.id hcanHesHeizungSetModeManual f →
        frameWord f.data[4] f.data[5] = 0 →
        ∀ events last, Run (UndisturbedStep undef env i p.config.id) next events last →
          AtSlot i (fun q => q.mode = .manual) last) := by
  constructor
  · intro off
    have here := frame_off slot off step
    constructor
    · intro stays
      by_contra running
      have positive : p.durationCounter.toNat ≠ 0 := fun zero => running (UInt16.toNat_inj.mp zero)
      obtain ⟨events, last, run, q, found, automatik⟩ :=
        exists_run_automatik undef env p.config.id here
          (by change p.durationCounter.toNat = p.durationCounter.toNat - 1 + 1; omega)
      obtain ⟨q', found', isOff⟩ := stays events last run
      cases found.symm.trans found'
      rw [automatik] at isOff
      cases isOff
    · intro untimed events last run
      obtain ⟨q, found, kept⟩ := run_off run ⟨_, here, rfl, rfl, untimed⟩
      exact ⟨q, found, kept.mode⟩
  · intro manual unlimited events last run
    obtain ⟨q, found, kept⟩ := run_untimed run
      ⟨_, frame_manual slot manual step, rfl, rfl, unlimited⟩
    exact ⟨q, found, kept.mode⟩

/-- The heating of the kitchen, set to a rate without a limit. -/
def manualHeizung : DeviceDataHeizung :=
  { kitchenHeizung 7 60 with mode := .manual, manualRate := 50 }

/-- A heating that is set to a rate without a limit is switched off and stays so. -/
theorem manualHeizung_stays_off :
    HeizungStep zeroUndefined quietEnvironment 0 (kitchenBoard (kitchenHeizung 7 60))
        (.frame (kitchenFrame hcanHesHeizungSetModeManual 7 50 0 0 0))
        (kitchenBoard manualHeizung) ∧
      HeizungStep zeroUndefined quietEnvironment 0 (kitchenBoard manualHeizung)
        (.frame (kitchenFrame hcanHesHeizungSetModeOff 7 0 0 0 0))
        (kitchenBoard { manualHeizung with mode := .off }) ∧
      ∀ events last, Run (OffStep zeroUndefined quietEnvironment 0 7)
          (kitchenBoard { manualHeizung with mode := .off }) events last →
        AtSlot 0 (fun q => q.mode = .off) last := by
  have step : HeizungStep zeroUndefined quietEnvironment 0 (kitchenBoard manualHeizung)
      (.frame (kitchenFrame hcanHesHeizungSetModeOff 7 0 0 0 0))
      (kitchenBoard { manualHeizung with mode := .off }) := heizungExecute_step rfl
  exact ⟨heizungExecute_step rfl, step,
    ((off_stays_iff zeroUndefined quietEnvironment rfl step).1 ⟨rfl, rfl, rfl⟩).mpr rfl⟩

/-- The heating of the kitchen, set to a rate for two seconds. -/
def timedHeizung : DeviceDataHeizung :=
  { kitchenHeizung 7 60 with mode := .manual, manualRate := 50, durationCounter := 2 }

/-- It is switched off and turns to the time zones. -/
theorem timedHeizung_turns_on :
    HeizungStep zeroUndefined quietEnvironment 0 (kitchenBoard (kitchenHeizung 7 60))
        (.frame (kitchenFrame hcanHesHeizungSetModeManual 7 50 0 2 0))
        (kitchenBoard timedHeizung) ∧
      HeizungStep zeroUndefined quietEnvironment 0 (kitchenBoard timedHeizung)
        (.frame (kitchenFrame hcanHesHeizungSetModeOff 7 0 0 0 0))
        (kitchenBoard { timedHeizung with mode := .off }) ∧
      ∃ events last, Run (OffStep zeroUndefined quietEnvironment 0 7)
          (kitchenBoard { timedHeizung with mode := .off }) events last ∧
        AtSlot 0 (fun q => q.mode = .automatik) last := by
  refine ⟨heizungExecute_step rfl, heizungExecute_step rfl, ?_⟩
  have slot : (kitchenBoard { timedHeizung with mode := .off }).devices[0]? =
      some (.heizung { timedHeizung with mode := .off }) := rfl
  have running : timedHeizung.durationCounter.toNat = 1 + 1 := rfl
  exact exists_run_automatik zeroUndefined quietEnvironment 7 slot running

end Hcan.Hauselektrik
