import Hcan.Hauselektrik.PulseWidth
import Hcan.Library.Watched

/-!
# The reports about the demand

The counter of the message about the demand counts every tick but those whose evaluation finds
the mode OFF.  It is set to 60 by the message and to 210 when the temperature control opens the
valve, so that the next message is due a bounded time behind the later one of both.  The control
reloads it too when the window stop keeps the valve shut; such ticks are kept apart.
-/

namespace Hcan.Hauselektrik

open Hcan.Canix Hcan.Eds Hcan.Controller Hcan.Library

variable {mcu : Mcu}

/-- The evaluation finds the mode OFF, and the handler returns before the message. -/
def Skips (p : DeviceDataHeizung) : Prop := p.timerCounter ≥ 5 ∧ modeAfter p = .off

instance skipsDecidable (p : DeviceDataHeizung) : Decidable (Skips p) :=
  inferInstanceAs (Decidable (_ ∧ _))

/-- The control finds a closed valve and a room that is too cold. -/
def AsksAt (undef : Undefined) (p : DeviceDataHeizung) (soll : UInt16) : Prop :=
  heizungGetPwm undef p = 0 ∧ p.measureValue.toInt16.toInt <
    undef.int (soll.toInt16.toInt - p.config.hysterese.toNat)

/-- The evaluation of the record calls `heizung_set_pwm` with the full rate. -/
def AsksToOpen (undef : Undefined) (b : Board mcu) (p : DeviceDataHeizung) : Prop :=
  ∃ soll, activeSoll b p = some soll ∧ AsksAt undef p soll

/-- The tick evaluates the record, asks for the open valve and reloads the counter. -/
def TickAsks (undef : Undefined) (b : Board mcu) (p : DeviceDataHeizung) : Prop :=
  p.timerCounter ≥ 5 ∧ AsksToOpen undef b (heizungPrepared b p)

/-- Nothing keeps the registers of the pulse from being opened. -/
def CanOpen (p : DeviceDataHeizung) : Prop := reedAfter p = 0 ∧ p.config.pwmPeriode > 0

instance canOpenDecidable (p : DeviceDataHeizung) : Decidable (CanOpen p) :=
  inferInstanceAs (Decidable (_ ∧ _))

/-- The tick opens the valve. -/
def TickOpens (undef : Undefined) (b : Board mcu) (p : DeviceDataHeizung) : Prop :=
  TickAsks undef b p ∧ CanOpen p

/-- The tick asks for the open valve, and the window stop keeps it shut. -/
def TickAsksInVain (undef : Undefined) (b : Board mcu) (p : DeviceDataHeizung) : Prop :=
  TickAsks undef b p ∧ ¬CanOpen p

/-- What a tick makes of the counter, and whether it sends the message. -/
inductive DemandTick (undef : Undefined) (b : Board mcu) (p : DeviceDataHeizung) :
    DeviceDataHeizung → List CanixFrame → Prop where
  | skipped {q : DeviceDataHeizung} (skips : Skips p) (still : ¬TickAsks undef b p)
      (counter : q.waermebedarfCounter = p.waermebedarfCounter) : DemandTick undef b p q []
  | reloaded {q : DeviceDataHeizung} (asks : TickAsks undef b p)
      (counter : q.waermebedarfCounter = 209) : DemandTick undef b p q []
  | reported {q : DeviceDataHeizung} {message : CanixFrame} (still : ¬TickAsks undef b p)
      (counter : q.waermebedarfCounter = 60) : DemandTick undef b p q [message]
  | counted {q : DeviceDataHeizung} (reaches : ¬Skips p) (still : ¬TickAsks undef b p)
      (some : p.waermebedarfCounter ≠ 0)
      (counter : q.waermebedarfCounter = p.waermebedarfCounter - 1) : DemandTick undef b p q []

section Tick

variable {undef : Undefined} {b : Board mcu} {p : DeviceDataHeizung} {soll : UInt16}

theorem heizungSetPwm_demand (p : DeviceDataHeizung) (rate : UInt8) :
    (heizungSetPwm p rate).waermebedarfCounter = p.waermebedarfCounter := by
  rw [heizungSetPwm_eq]

theorem heizungSetPwmByTemp_demand (undef : Undefined) (p : DeviceDataHeizung) (soll : UInt16) :
    (AsksAt undef p soll ∧
        (heizungSetPwmByTemp undef p soll p.measureValue).waermebedarfCounter = 210) ∨
      (¬AsksAt undef p soll ∧
        (heizungSetPwmByTemp undef p soll p.measureValue).waermebedarfCounter =
          p.waermebedarfCounter) := by
  unfold heizungSetPwmByTemp
  dsimp only
  split
  · next closes =>
      refine .inr ⟨fun opens => ?_, heizungSetPwm_demand p 0⟩
      exact rate_pos_iff.mp closes.1 opens.1
  · split
    · next opens => exact .inl ⟨opens, rfl⟩
    · next still => exact .inr ⟨still, rfl⟩

theorem heizungRegulate_demand (undef : Undefined) (b : Board mcu) (p : DeviceDataHeizung)
    (out : Outputs) :
    (p.mode ≠ .off ∧ AsksToOpen undef b p ∧
        (heizungRegulate undef b p out).1.waermebedarfCounter = 210) ∨
      (¬AsksToOpen undef b p ∧
        (heizungRegulate undef b p out).1.waermebedarfCounter = p.waermebedarfCounter) := by
  have unopened (idle : activeSoll b p = none) : ¬AsksToOpen undef b p := by
    rintro ⟨soll, active, -⟩
    rw [idle] at active
    cases active
  by_cases off : p.mode = .off
  · refine .inr ⟨fun opens => activeSoll_on opens.choose_spec.1 off, ?_⟩
    rw [heizungRegulate, off]
    dsimp only
    split
    · exact heizungSetPwm_demand ..
    · exact heizungSetPwm_demand ..
  · rcases heizungRegulate_cases (b := b) undef out off with
      ⟨soll, active⟩ | ⟨idle, -, rate, result⟩ | ⟨idle, -, result⟩
    · rw [heizungRegulate_active undef out active]
      rcases heizungSetPwmByTemp_demand undef p soll with ⟨opens, counter⟩ | ⟨still, counter⟩
      · exact .inl ⟨off, ⟨soll, active, opens⟩, counter⟩
      · refine .inr ⟨?_, counter⟩
        rintro ⟨other, again, opens⟩
        cases active.symm.trans again
        exact still opens
    · rw [result]
      exact .inr ⟨unopened idle, heizungSetPwm_demand p rate⟩
    · rw [result]
      exact .inr ⟨unopened idle, rfl⟩

/-- Behind the evaluation the message is sent when its counter is zero. -/
theorem demandTick_message (self : UInt16) {q : DeviceDataHeizung} (reaches : ¬Skips p)
    (still : ¬TickAsks undef b p) (counter : q.waermebedarfCounter = p.waermebedarfCounter) :
    DemandTick undef b p (heizungWaermebedarf undef self q).1
      (heizungWaermebedarf undef self q).2 := by
  unfold heizungWaermebedarf
  by_cases due : q.waermebedarfCounter = 0
  · rw [if_pos due]
    exact .reported still rfl
  · rw [if_neg due]
    exact .counted reaches still (counter ▸ due) (congrArg (· - 1) counter)

theorem heizungTimerHandler_demand (undef : Undefined) (self : UInt16) (b : Board mcu)
    (p : DeviceDataHeizung) :
    DemandTick undef b p (heizungTimerHandler undef self b p).1
      (heizungTimerHandler undef self b p).2.2 := by
  have counter : (heizungPrepared b p).waermebedarfCounter = p.waermebedarfCounter := by
    rw [heizungPrepared_eq]
  have mode := heizungPrepared_mode b p
  have timer := heizungPrepared_timer b p
  rw [heizungTimerHandler_eq, timer, mode]
  generalize same : heizungPrepared b p = q at counter mode
  generalize heizungPulse b p = out
  by_cases evaluated : p.timerCounter ≥ 5
  · rw [if_pos evaluated]
    have evaluates := heizungRegulate_demand undef b { q with timerCounter := 0 } out
    have same : AsksToOpen undef b { q with timerCounter := 0 } ↔ TickAsks undef b p := by
      rw [TickAsks, and_iff_right evaluated, same]
      rfl
    rw [same] at evaluates
    generalize heizungRegulate undef b { q with timerCounter := 0 } out = regulated at evaluates ⊢
    dsimp only at evaluates ⊢
    by_cases off : modeAfter p = .off
    · rw [if_pos off]
      obtain ⟨unopened, unchanged⟩ :=
        evaluates.resolve_left fun opens => opens.1 (mode.trans off)
      exact .skipped ⟨evaluated, off⟩ unopened (unchanged.trans counter)
    · have reaches : ¬Skips p := fun skips => off skips.2
      rw [if_neg off]
      rcases evaluates with ⟨-, opens, reloaded⟩ | ⟨unopened, unchanged⟩
      · have later : ¬regulated.1.waermebedarfCounter = 0 := by
          rw [reloaded]
          decide
        rw [heizungWaermebedarf, if_neg later]
        exact .reloaded opens (congrArg (· - 1) reloaded)
      · exact demandTick_message self reaches unopened (unchanged.trans counter)
  · rw [if_neg evaluated]
    exact demandTick_message self (fun skips => evaluated skips.1)
      (fun opens => evaluated opens.1) counter

theorem heizungSetPwmByTemp_asks (asks : AsksAt undef p soll) :
    heizungSetPwmByTemp undef p soll p.measureValue =
      { heizungSetPwm p 100 with waermebedarfCounter := 210 } := by
  unfold heizungSetPwmByTemp
  dsimp only
  rw [if_neg fun both => rate_pos_iff.mp both.1 asks.1]
  exact if_pos asks

/-- The registers behind a tick that asks for the open valve. -/
theorem tickAsks_fullyOpen_iff (self : UInt16) (asks : TickAsks undef b p) :
    FullyOpen (heizungTimerHandler undef self b p).1 ↔ CanOpen p := by
  obtain ⟨evaluated, soll, active, cold⟩ := asks
  have registers := heizungTimerHandler_active undef self evaluated active
  have reed : (heizungPrepared b p).reedHeizStopCounter = reedAfter p := by
    rw [heizungPrepared_eq]
  have config : (heizungPrepared b p).config = p.config := by rw [heizungPrepared_eq]
  generalize heizungPrepared b p = q at active cold registers reed config
  have asks : AsksAt undef { q with timerCounter := 0 } soll := cold
  dsimp only at registers
  rw [heizungSetPwmByTemp_asks asks, heizungSetPwm_eq] at registers
  dsimp only at registers
  rw [reed, config] at registers
  obtain ⟨width, ends⟩ := registers
  unfold FullyOpen CanOpen
  rw [width, ends, full_width, periode_pos_iff]
  by_cases window : reedAfter p ≠ 0
  · rw [if_pos window]
    refine iff_of_false (fun ⟨zero, positive⟩ => ?_) fun both => window both.1
    have some := periode_pos_iff.mpr positive
    rw [← zero] at some
    exact absurd some (by decide)
  · rw [if_neg window]
    exact and_congr_left fun _ => iff_of_true rfl (not_not.mp window)

end Tick

/-! ## Between two reports -/

/-- The next tick of the heating sends the message; it is the only one the handler sends. -/
def DemandReported (undef : Undefined) (self : UInt16) (i : Nat) (b : Board mcu) : Prop :=
  AtSlot i (fun p => (heizungTimerHandler undef self b p).2.2 ≠ []) b

/-- The next tick of the heating opens the valve. -/
def ValveOpened (undef : Undefined) (i : Nat) (b : Board mcu) : Prop :=
  AtSlot i (TickOpens undef b) b

/-- The next tick of the heating asks for the open valve in vain. -/
def ValveStopped (undef : Undefined) (i : Nat) (b : Board mcu) : Prop :=
  AtSlot i (TickAsksInVain undef b) b

/-- A step that neither sends the message nor opens the valve, nor asks for it in vain. -/
structure QuietStep (undef : Undefined) (env : Environment mcu) (i : Nat) (b : Board mcu)
    (event : HeizungEvent) (next : Board mcu) : Prop where
  step : HeizungStep undef env i b event next
  unreported : event = .tick → ¬DemandReported undef env.self i b
  unopened : event = .tick → ¬ValveOpened undef i b
  unstopped : event = .tick → ¬ValveStopped undef i b

theorem QuietStep.unasked {undef : Undefined} {env : Environment mcu} {i : Nat}
    {b next : Board mcu} {p : DeviceDataHeizung} (quiet : QuietStep undef env i b .tick next)
    (slot : b.devices[i]? = some (.heizung p)) : ¬TickAsks undef b p := by
  intro asks
  by_cases opens : CanOpen p
  · exact quiet.unopened rfl ⟨p, slot, asks, opens⟩
  · exact quiet.unstopped rfl ⟨p, slot, asks, opens⟩

/-- A tick that reaches the message. -/
def reachedSeen (i : Nat) (b : Board mcu) (event : HeizungEvent) (_ : Board mcu) : List Unit :=
  match event, b.devices[i]? with
  | .tick, some (.heizung p) => if Skips p then [] else [()]
  | _, _ => []

/-- The message is due within `total` ticks, of which `limit` reach it; `k` and `m` of them have
passed.  Every sixth tick may be skipped, the next one when the timer is full. -/
structure DemandDue (limit total k m : Nat) (p : DeviceDataHeizung) : Prop where
  timer : p.timerCounter.toNat ≤ 5
  reached : p.waermebedarfCounter.toNat + 1 + m ≤ limit
  passed : p.waermebedarfCounter.toNat + 1 +
    (p.waermebedarfCounter.toNat + p.timerCounter.toNat) / 5 + k ≤ total

section Run

variable {undef : Undefined} {env : Environment mcu} {i limit total k m : Nat}
  {b next : Board mcu} {p q : DeviceDataHeizung}

/-- A quiet tick comes one tick nearer to the message, or skips one of the sixth ticks. -/
theorem DemandDue.tick (due : DemandDue limit total k m p) (self : UInt16)
    (unreported : ¬(heizungTimerHandler undef self b p).2.2 ≠ [])
    (unasked : ¬TickAsks undef b p) :
    DemandDue limit total (k + 1) (m + if Skips p then 0 else 1)
      (heizungTimerHandler undef self b p).1 := by
  obtain ⟨timer, reached, passed⟩ := due
  have ticked := heizungTimerHandler_demand undef self b p
  have counts := timer_toNat undef self b p
  generalize heizungTimerHandler undef self b p = handled at unreported ticked counts ⊢
  generalize handled.2.2 = frames at unreported ticked
  cases ticked with
  | skipped skips _ counter =>
      have full : 5 ≤ p.timerCounter.toNat := UInt8.le_iff_toNat_le.mp skips.1
      rw [if_pos skips]
      constructor
      · omega
      · rw [counter]
        omega
      · rw [counter]
        omega
  | reloaded asks _ => exact absurd asks unasked
  | reported _ _ => exact absurd (List.cons_ne_nil _ _) unreported
  | counted reaches _ some counter =>
      have positive : 1 ≤ p.waermebedarfCounter.toNat :=
        Nat.pos_of_ne_zero fun zero => some (UInt8.toNat_inj.mp zero)
      have fewer : handled.1.waermebedarfCounter.toNat = p.waermebedarfCounter.toNat - 1 := by
        rw [counter]
        exact uint8_toNat_pred some
      rw [if_neg reaches]
      constructor
      · omega
      · omega
      · omega

/-- What a run of quiet steps has seen. -/
def DueSeen (i limit total k : Nat) (s : Board mcu × List Unit) : Prop :=
  AtSlot i (DemandDue limit total k s.2.length) s.1

/-- The step lemma. -/
theorem step_due {s t : Board mcu × List Unit} {event : HeizungEvent}
    (step : Watched (QuietStep undef env i) (reachedSeen i) s event t)
    (now : DueSeen i limit total k s) : DueSeen i limit total (k + ticks [event]) t := by
  obtain ⟨quiet, seen⟩ := step
  have taken := quiet.step
  obtain ⟨p, slot, due⟩ := now
  cases event with
  | tick =>
      refine ⟨_, (heizungStep_tick slot taken).1, ?_⟩
      have next := due.tick env.self (fun sends => quiet.unreported rfl ⟨p, slot, sends⟩)
        (quiet.unasked slot)
      have count : t.2.length = s.2.length + if Skips p then 0 else 1 := by
        rw [seen, List.length_append]
        unfold reachedSeen
        rw [slot]
        dsimp only
        split
        · rfl
        · rfl
      rwa [count]
  | frame f =>
      obtain ⟨q, here, change, -⟩ := heizungStep_frame slot taken
      obtain ⟨timer, counter, -⟩ := change.counters
      have count : t.2 = s.2 := seen.trans (List.append_nil _)
      refine ⟨q, here, ?_, ?_, ?_⟩
      · rw [timer]
        exact due.timer
      · rw [counter, count]
        exact due.reached
      · rw [counter, timer]
        exact due.passed
  | elsewhere =>
      have count : t.2 = s.2 := seen.trans (List.append_nil _)
      exact ⟨p, (heizungStep_elsewhere taken).trans slot, count ▸ due⟩

/-- Behind the tick that sends the message. -/
theorem DemandDue.of_report (self : UInt16)
    (sends : (heizungTimerHandler undef self b p).2.2 ≠ []) :
    DemandDue 61 74 0 0 (heizungTimerHandler undef self b p).1 := by
  have ticked := heizungTimerHandler_demand undef self b p
  have counts := timer_toNat undef self b p
  generalize heizungTimerHandler undef self b p = handled at sends ticked counts ⊢
  generalize handled.2.2 = frames at sends ticked
  cases ticked with
  | skipped _ _ _ => exact absurd rfl sends
  | reloaded _ _ => exact absurd rfl sends
  | counted _ _ _ _ => exact absurd rfl sends
  | reported _ counter =>
      have sixty : handled.1.waermebedarfCounter.toNat = 60 := congrArg UInt8.toNat counter
      constructor
      · omega
      · omega
      · omega

/-- Behind the tick that opens the valve. -/
theorem DemandDue.of_opening (self : UInt16) (opens : TickOpens undef b p) :
    DemandDue 210 251 0 0 (heizungTimerHandler undef self b p).1 := by
  have ticked := heizungTimerHandler_demand undef self b p
  have full : 5 ≤ p.timerCounter.toNat := UInt8.le_iff_toNat_le.mp opens.1.1
  have counts := timer_toNat undef self b p
  generalize heizungTimerHandler undef self b p = handled at ticked counts ⊢
  generalize handled.2.2 = frames at ticked
  cases ticked with
  | skipped _ still _ => exact absurd opens.1 still
  | reported still _ => exact absurd opens.1 still
  | counted _ still _ _ => exact absurd opens.1 still
  | reloaded _ counter =>
      have reloaded : handled.1.waermebedarfCounter.toNat = 209 := congrArg UInt8.toNat counter
      constructor
      · omega
      · omega
      · omega

/-- The run lemma. -/
theorem run_due {events : List HeizungEvent} {outs : List Unit}
    (run : Run (Watched (QuietStep undef env i) (reachedSeen i)) (b, []) events (next, outs))
    (now : AtSlot i (DemandDue limit total 0 0) b) :
    ticks events < total ∧ outs.length < limit := by
  obtain ⟨p, -, due⟩ := run.counted _ (DueSeen i limit total)
    (fun _ _ _ _ step now => step_due step now) now
  have reached := due.reached
  have passed := due.passed
  rw [Nat.zero_add] at passed
  change _ + _ + ticks events ≤ total at passed
  dsimp only at reached
  omega

end Run

/-- In every run of a heating, while neither the message about the demand is sent nor the valve
opened or asked for in vain, less than 74 ticks pass behind a message and less than 251 behind an
opening of the valve, and less than 61 and 210 of them reach the message; the registers are open
behind an opening. -/
theorem demand_within {undef : Undefined} {env : Environment mcu} {i : Nat}
    {before first last : Board mcu} {events : List HeizungEvent} {outs : List Unit}
    (step : HeizungStep undef env i before .tick first)
    (run : Run (Watched (QuietStep undef env i) (reachedSeen i)) (first, []) events (last, outs)) :
    (DemandReported undef env.self i before → ticks events < 74 ∧ outs.length < 61) ∧
      (ValveOpened undef i before →
        AtSlot i FullyOpen first ∧ ticks events < 251 ∧ outs.length < 210) := by
  constructor
  · rintro ⟨p, slot, sends⟩
    exact run_due run ⟨_, (heizungStep_tick slot step).1, .of_report env.self sends⟩
  · rintro ⟨p, slot, opens⟩
    have ticked := (heizungStep_tick slot step).1
    exact ⟨⟨_, ticked, (tickAsks_fullyOpen_iff env.self opens.1).mpr opens.2⟩,
      run_due run ⟨_, ticked, .of_opening env.self opens⟩⟩

instance asksAtDecidable (undef : Undefined) (p : DeviceDataHeizung) (soll : UInt16) :
    Decidable (AsksAt undef p soll) :=
  inferInstanceAs (Decidable (_ ∧ _))

instance asksToOpenDecidable (undef : Undefined) (b : Board mcu) (p : DeviceDataHeizung) :
    Decidable (AsksToOpen undef b p) :=
  decidable_of_iff ((activeSoll b p).any fun soll => decide (AsksAt undef p soll)) <| by
    simp only [Option.any_eq_true, decide_eq_true_eq, AsksToOpen]

instance tickAsksDecidable (undef : Undefined) (b : Board mcu) (p : DeviceDataHeizung) :
    Decidable (TickAsks undef b p) :=
  inferInstanceAs (Decidable (_ ∧ _))

instance tickOpensDecidable (undef : Undefined) (b : Board mcu) (p : DeviceDataHeizung) :
    Decidable (TickOpens undef b p) :=
  inferInstanceAs (Decidable (_ ∧ _))

instance tickAsksInVainDecidable (undef : Undefined) (b : Board mcu) (p : DeviceDataHeizung) :
    Decidable (TickAsksInVain undef b p) :=
  inferInstanceAs (Decidable (_ ∧ _))

instance demandReportedDecidable (undef : Undefined) (self : UInt16) (i : Nat) (b : Board mcu) :
    Decidable (DemandReported undef self i b) :=
  inferInstanceAs (Decidable (AtSlot i _ _))

instance valveOpenedDecidable (undef : Undefined) (i : Nat) (b : Board mcu) :
    Decidable (ValveOpened undef i b) :=
  inferInstanceAs (Decidable (AtSlot i _ _))

instance valveStoppedDecidable (undef : Undefined) (i : Nat) (b : Board mcu) :
    Decidable (ValveStopped undef i b) :=
  inferInstanceAs (Decidable (AtSlot i _ _))

/-- Carries out an event that is no tick of a kitchen with the property. -/
def kitchenUnless (holds : Board atmega32 → Prop) [DecidablePred holds] (b : Board atmega32)
    (event : HeizungEvent) : Option (Board atmega32) :=
  match event with
  | .tick => if holds b then none else heizungExecute zeroUndefined quietEnvironment 0 b .tick
  | event => heizungExecute zeroUndefined quietEnvironment 0 b event

theorem kitchenUnless_step {holds : Board atmega32 → Prop} [DecidablePred holds]
    {b next : Board atmega32} {event : HeizungEvent}
    (executed : kitchenUnless holds b event = some next) :
    HeizungStep zeroUndefined quietEnvironment 0 b event next ∧ (event = .tick → ¬holds b) := by
  unfold kitchenUnless at executed
  split at executed
  · split at executed
    · cases executed
    · next never => exact ⟨heizungExecute_step executed, fun _ => never⟩
  · next other => exact ⟨heizungExecute_step executed, fun isTick => absurd isTick other⟩

theorem kitchenUnless_run {holds : Board atmega32 → Prop} [DecidablePred holds]
    {b last : Board atmega32} {events : List HeizungEvent}
    (executed : events.foldlM (kitchenUnless holds) b = some last) :
    Run (fun b event next => HeizungStep zeroUndefined quietEnvironment 0 b event next ∧
      (event = .tick → ¬holds b)) b events last :=
  (Run.of_execute executed).mono fun _ _ _ => kitchenUnless_step

/-- When the valve is opened twelve ticks behind the start, the message of the ninth tick is
followed by the one of tick 222. -/
theorem demand_postponed :
    ∃ (before first last next : Board atmega32) (events : List HeizungEvent),
      Run (HeizungStep zeroUndefined quietEnvironment 0) (kitchenBoard (kitchenHeizung 7 60))
        (List.replicate 8 .tick) before ∧
      DemandReported zeroUndefined 5 0 before ∧
      HeizungStep zeroUndefined quietEnvironment 0 before .tick first ∧
      Run (fun b event next => HeizungStep zeroUndefined quietEnvironment 0 b event next ∧
        (event = .tick → ¬DemandReported zeroUndefined 5 0 b)) first events last ∧
      DemandReported zeroUndefined 5 0 last ∧
      HeizungStep zeroUndefined quietEnvironment 0 last .tick next ∧
      211 < ticks events := by
  have executed : (((List.replicate 8 HeizungEvent.tick).foldlM
      (heizungExecute zeroUndefined quietEnvironment 0) (kitchenBoard (kitchenHeizung 7 60))).bind
      fun before => (heizungExecute zeroUndefined quietEnvironment 0 before .tick).bind
      fun first => ((coldEvents ++ List.replicate 212 HeizungEvent.tick).foldlM
        (kitchenUnless (DemandReported zeroUndefined 5 0)) first).bind
      fun last => (heizungExecute zeroUndefined quietEnvironment 0 last .tick).filter
      fun _ => DemandReported zeroUndefined 5 0 before ∧
        DemandReported zeroUndefined 5 0 last).isSome = true := by
    decide +kernel
  obtain ⟨next, executed⟩ := Option.isSome_iff_exists.mp executed
  obtain ⟨before, off, executed⟩ := Option.bind_eq_some_iff.mp executed
  obtain ⟨first, taken, executed⟩ := Option.bind_eq_some_iff.mp executed
  obtain ⟨last, quiet, executed⟩ := Option.bind_eq_some_iff.mp executed
  obtain ⟨again, both⟩ := Option.filter_eq_some_iff.mp executed
  obtain ⟨reported, later⟩ := of_decide_eq_true both
  exact ⟨before, first, last, next, _,
    (Run.of_execute off).mono fun _ _ _ => heizungExecute_step, reported,
    heizungExecute_step taken, kitchenUnless_run quiet, later, heizungExecute_step again,
    by decide +kernel⟩

/-- Behind the opening 209 ticks pass before the message. -/
theorem turnedOn_within :
    ∃ (before first last : Board atmega32) (outs : List Unit),
      HeizungStep zeroUndefined quietEnvironment 0 before .tick first ∧
      ValveOpened zeroUndefined 0 before ∧ AtSlot 0 FullyOpen first ∧
      Run (Watched (QuietStep zeroUndefined quietEnvironment 0) (reachedSeen 0)) (first, [])
        (List.replicate 209 .tick) (last, outs) ∧ outs.length < 210 := by
  have executed : (((List.replicate 6 HeizungEvent.tick ++ coldEvents ++
      List.replicate 5 HeizungEvent.tick).foldlM (heizungExecute zeroUndefined quietEnvironment 0)
      (kitchenBoard (kitchenHeizung 7 60))).bind
      fun before => (heizungExecute zeroUndefined quietEnvironment 0 before .tick).bind
      fun first => ((List.replicate 209 HeizungEvent.tick).foldlM
        (kitchenUnless fun b => DemandReported zeroUndefined 5 0 b ∨
          ValveOpened zeroUndefined 0 b ∨ ValveStopped zeroUndefined 0 b) first).filter
      fun _ => ValveOpened zeroUndefined 0 before).isSome = true := by
    decide +kernel
  obtain ⟨last, executed⟩ := Option.isSome_iff_exists.mp executed
  obtain ⟨before, on, executed⟩ := Option.bind_eq_some_iff.mp executed
  obtain ⟨first, taken, executed⟩ := Option.bind_eq_some_iff.mp executed
  obtain ⟨quiet, opened⟩ := Option.filter_eq_some_iff.mp executed
  have step := heizungExecute_step taken
  have run : Run (QuietStep zeroUndefined quietEnvironment 0) first
      (List.replicate 209 .tick) last :=
    (kitchenUnless_run quiet).mono fun _ _ _ taken =>
      ⟨taken.1, fun isTick reported => taken.2 isTick (.inl reported),
        fun isTick opens => taken.2 isTick (.inr (.inl opens)),
        fun isTick stopped => taken.2 isTick (.inr (.inr stopped))⟩
  obtain ⟨outs, watched⟩ := run.watched (reachedSeen 0) []
  obtain ⟨isOpen, -, few⟩ := (demand_within step watched).2 (of_decide_eq_true opened)
  exact ⟨before, first, last, outs, step, of_decide_eq_true opened, isOpen, watched, few⟩

end Hcan.Hauselektrik
