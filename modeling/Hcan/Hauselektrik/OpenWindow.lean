import Hcan.Hauselektrik.HeatingStep

/-!
# The valve behind an open window

While the window stop runs, every tick closes the pulse, and the next tick switches the pin
off.  The valve care of a heating in the mode OFF sets the pin itself and does not look at the
window.
-/

namespace Hcan.Hauselektrik

open Hcan.Canix Hcan.Controller Hcan.Library

variable {mcu : Mcu}

/-- The evaluation of a tick opens the valve for its care. -/
def CareOpens (b : Board mcu) (p : DeviceDataHeizung) : Prop :=
  p.timerCounter ≥ 5 ∧ p.mode = .off ∧ p.durationCounter ≠ 1 ∧
    (p.ventilpflegeCounter > 1 ∨ CareTime b.clock p.config.id) ∧
    b.out.hasPin p.config.port = true

section Window

variable {undef : Undefined} {env : Environment mcu} {i : Nat} {b next : Board mcu}
  {p q : DeviceDataHeizung}

theorem Regulates.closed (regulated : Regulates p q) (closed : p.pwmWidth = 0)
    (window : p.reedHeizStopCounter ≠ 0) : q.pwmWidth = 0 := by
  rcases regulated.pulse with ⟨-, same⟩ | ⟨rate, -, width⟩
  · rw [same, closed]
  · rw [width, if_pos window]

/-- A tick behind which the window stop still runs has closed the pulse. -/
theorem heizungTimerHandler_closes (self : UInt16)
    (window : (heizungTimerHandler undef self b p).1.reedHeizStopCounter > 0) :
    (heizungTimerHandler undef self b p).1.pwmWidth = 0 := by
  have regulated := heizungTimerHandler_regulates undef self b p
  have reed := congrArg DeviceDataHeizung.reedHeizStopCounter regulated.kept
  dsimp only at reed
  rw [heizungPrepared_reed] at reed
  have running : reedAfter p ≠ 0 := by
    rw [reed] at window
    exact (UInt8.ne_of_lt window).symm
  apply regulated.closed
  · dsimp only
    rw [heizungPrepared_eq]
    exact if_pos running
  · dsimp only
    rwa [heizungPrepared_reed]

/-- Between two ticks the pulse stays closed. -/
theorem step_closed {event : HeizungEvent} (step : HeizungStep undef env i b event next)
    (between : event ≠ .tick) (now : AtSlot i (fun p => p.pwmWidth = 0) b) :
    AtSlot i (fun p => p.pwmWidth = 0) next := by
  obtain ⟨p, slot, closed⟩ := now
  cases event with
  | tick => exact absurd rfl between
  | frame f =>
      obtain ⟨q, here, change, -⟩ := heizungStep_frame slot step
      exact ⟨q, here, change.pulse.1.trans closed⟩
  | elsewhere => exact ⟨p, (heizungStep_elsewhere step).trans slot, closed⟩

theorem run_closed {last : Board mcu} {events : List HeizungEvent}
    (run : Run (HeizungStep undef env i) b events last) (between : .tick ∉ events)
    (now : AtSlot i (fun p => p.pwmWidth = 0) b) : AtSlot i (fun p => p.pwmWidth = 0) last := by
  induction run with
  | nil => exact now
  | cons taken _ ih =>
      apply ih fun later => between (List.mem_cons_of_mem _ later)
      apply step_closed taken _ now
      rintro rfl
      exact between List.mem_cons_self

/-- The pin behind a tick with a closed pulse. -/
theorem closed_isOn (self : UInt16) (closed : p.pwmWidth = 0) :
    (heizungTimerHandler undef self b p).2.1.isOn p.config.port = false ↔ ¬CareOpens b p := by
  have off : (heizungPulse b p).isOn p.config.port = false := by
    rw [heizungPulse_isOn, closed]
    exact if_pos (UInt16.zero_le)
  have idle : modeAfter p = .off ↔ p.mode = .off ∧ p.durationCounter ≠ 1 := by
    unfold modeAfter
    by_cases last : p.durationCounter = 1
    · rw [if_pos last]
      exact iff_of_false (by decide) fun both => both.2 last
    · rw [if_neg last]
      exact (and_iff_left last).symm
  rw [heizungTimerHandler_isOn, off]
  by_cases evaluated : p.timerCounter ≥ 5 ∧ modeAfter p = .off
  · have isOff := idle.mp evaluated.2
    have care : careAfter b.clock p ≠ 0 ↔
        p.ventilpflegeCounter > 1 ∨ CareTime b.clock p.config.id := by
      unfold careAfter
      by_cases running : 1 < p.ventilpflegeCounter
      · rw [if_pos running]
        refine iff_of_true (fun zero => ?_) (.inl running)
        rw [pred_eq_zero.mp zero] at running
        exact absurd running (by decide)
      · rw [if_neg running]
        by_cases time : CareTime b.clock p.config.id
        · rw [if_pos ⟨isOff.1, time⟩]
          exact iff_of_true (by decide) (.inr time)
        · rw [if_neg fun both => time both.2]
          exact iff_of_false (fun zero => zero rfl) fun some => some.elim running time
    rw [if_pos evaluated, ← Bool.not_eq_true, not_iff_not, Bool.and_eq_true, decide_eq_true_eq,
      care]
    exact ⟨fun both => ⟨evaluated.1, isOff.1, isOff.2, both.1, both.2⟩,
      fun opens => ⟨opens.2.2.2.1, opens.2.2.2.2⟩⟩
  · rw [if_neg evaluated]
    exact iff_of_true rfl fun opens =>
      evaluated ⟨opens.1, idle.mpr ⟨opens.2.1, opens.2.2.1⟩⟩

end Window

/-- Behind the second of two ticks with a running window stop the valve is closed exactly when
this tick does not open it for its care. -/
theorem window_closes_iff {undef : Undefined} {env : Environment mcu} {i : Nat}
    {b first second next : Board mcu} {p : DeviceDataHeizung} {events : List HeizungEvent}
    (before : HeizungStep undef env i b .tick first)
    (opened : AtSlot i (fun q => q.reedHeizStopCounter > 0) first)
    (run : Run (HeizungStep undef env i) first events second) (between : .tick ∉ events)
    (slot : second.devices[i]? = some (.heizung p))
    (step : HeizungStep undef env i second .tick next) :
    next.out.isOn p.config.port = false ↔ ¬CareOpens second p := by
  have closed : AtSlot i (fun q => q.pwmWidth = 0) first := by
    cases before with
    | tick here ran =>
        obtain ⟨found, -⟩ := heizungTick_ran undef here ran
        obtain ⟨q, again, window⟩ := opened
        rw [← Device.heizung.inj (Option.some.inj (found.symm.trans again))] at window
        exact ⟨_, found, heizungTimerHandler_closes env.self window⟩
  obtain ⟨q, here, width⟩ := run_closed run between closed
  cases slot.symm.trans here
  rw [(heizungStep_tick slot step).2]
  exact closed_isOn env.self width

/-- A heating with an open window and a rate of 100 percent. -/
def openHeizung : DeviceDataHeizung :=
  { kitchenHeizung 7 60 with mode := .manual, manualRate := 100, reedHeizStopCounter := 60 }

/-- The valve of the heating is closed behind its second tick. -/
theorem openHeizung_closed :
    let first := heizungTicked zeroUndefined 5 0 openHeizung (kitchenBoard openHeizung)
    let p := (heizungTimerHandler zeroUndefined 5 (kitchenBoard openHeizung) openHeizung).1
    (heizungTicked zeroUndefined 5 0 p first).out.isOn p.config.port = false := by
  intro first p
  have before : HeizungStep zeroUndefined quietEnvironment 0 (kitchenBoard openHeizung) .tick
      first := heizungStep_ticked rfl
  have slot := (heizungStep_tick rfl before).1
  have step : HeizungStep zeroUndefined quietEnvironment 0 first .tick
      (heizungTicked zeroUndefined 5 0 p first) := heizungStep_ticked slot
  refine (window_closes_iff before ⟨p, slot, by decide +kernel⟩ (.nil first) List.not_mem_nil slot
    step).mpr fun opens => ?_
  exact absurd opens.2.1 (by decide +kernel)

/-- Sunday noon, when the valve of the heating 0 is cared for. -/
def noonBoard : Board atmega32 :=
  { kitchenBoard (kitchenHeizung 0 60) with clock := ⟨7, 12, 0, 0, 1, 1, 8⟩ }

/-- A window of the heating opens, and the board ticks. -/
def windowEvents (ticks : Nat) : List HeizungEvent :=
  .frame (kitchenFrame hcanHesReedkontaktOffen 9 0 0 0 0) :: List.replicate ticks .tick

/-- In the sixth second the valve is opened behind the open window. -/
theorem care_opens_window :
    (kitchenBehind noonBoard (windowEvents 5)).map
        (fun s => (s.1.reedHeizStopCounter, s.2.isOn 3)) = some (55, false) ∧
      (kitchenBehind noonBoard (windowEvents 6)).map
        (fun s => (s.1.reedHeizStopCounter, s.2.isOn 3)) = some (54, true) := by
  decide +kernel

end Hcan.Hauselektrik
