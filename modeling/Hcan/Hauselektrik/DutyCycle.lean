import Hcan.Hauselektrik.PulseWidth
import Hcan.Library.Watched

/-!
# The duty cycle

A heating that is set to a rate has both registers of the pulse behind an evaluation and keeps
them.  Behind a wrap of its counter the counter is the number of ticks modulo the period, and the
valve is on in the first ticks of every period.
-/

namespace Hcan.Hauselektrik

open Hcan.Canix Hcan.Eds Hcan.Controller Hcan.Library

variable {mcu : Mcu}

/-- A heating with a period that is set to a rate, and no open window. -/
structure ManualHeating (port periode rate : UInt8) (p : DeviceDataHeizung) : Prop where
  port : p.config.port = port
  periode : p.config.pwmPeriode = periode
  mode : p.mode = .manual
  rate : p.manualRate = rate
  window : p.reedHeizStopCounter = 0

/-- A step behind which the heating is still set to the rate; the rest of the board leaves the
pin alone. -/
structure ManualStep (undef : Undefined) (env : Environment mcu) (i : Nat)
    (port periode rate : UInt8) (b : Board mcu) (event : HeizungEvent) (next : Board mcu) :
    Prop where
  step : HeizungStep undef env i b event next
  manual : AtSlot i (ManualHeating port periode rate) next
  alone : event = .elsewhere → next.out.isOn port = b.out.isOn port ∧
    next.out.hasPin port = b.out.hasPin port

/-- The ticks of a period in which the valve is on. -/
def pulseTicks (periode rate : UInt8) : Nat := periode.toNat * rate.toNat / 100

/-- The valve in tick `n` behind a wrap of the counter. -/
def pulseOn (periode rate : UInt8) (n : Nat) : Bool :=
  decide (n % periode.toNat < pulseTicks periode rate)

/-- The registers stand for the rate. -/
structure PulseSet (periode rate : UInt8) (p : DeviceDataHeizung) : Prop where
  ends : p.pwmEnd.toNat = periode.toNat
  width : p.pwmWidth.toNat = pulseTicks periode rate

section Tick

variable {undef : Undefined} {env : Environment mcu} {i : Nat} {b next : Board mcu}
  {p q : DeviceDataHeizung} {port periode rate : UInt8} {n : Nat}

theorem heizungRegulate_manual (undef : Undefined) (out : Outputs) (manual : p.mode = .manual) :
    heizungRegulate undef b p out = (heizungSetPwm p p.manualRate, out) := by
  rw [heizungRegulate, manual]

/-- The counter, and what the next state says about the tick. -/
theorem manual_tick (self : UInt16)
    (after : ManualHeating port periode rate (heizungTimerHandler undef self b p).1) :
    (heizungTimerHandler undef self b p).1.pwmCounter = pulseAfter p ∧ modeAfter p = .manual ∧
      reedAfter p = 0 := by
  have mode := (heizungTimerHandler_timed undef self b p).2.1
  obtain ⟨-, counter, -, reed⟩ := heizungTimerHandler_counters undef self b p
  exact ⟨counter, mode.symm.trans after.mode, reed.symm.trans after.window⟩

/-- The registers behind a tick of a heating that is set to a rate. -/
theorem manual_registers (undef : Undefined) (self : UInt16) (mode : modeAfter p = .manual)
    (reed : reedAfter p = 0) :
    (heizungTimerHandler undef self b p).1.pwmEnd =
        (if p.timerCounter ≥ 5 then p.config.pwmPeriode.toUInt16 else p.pwmEnd) ∧
      (heizungTimerHandler undef self b p).1.pwmWidth =
        if p.timerCounter ≥ 5 then
          UInt16.ofNat (p.config.pwmPeriode.toNat * p.manualRate.toNat / 100)
        else p.pwmWidth := by
  by_cases evaluated : p.timerCounter ≥ 5
  · have before := heizungPrepared_eq b p
    have config := congrArg DeviceDataHeizung.config before
    have rate := congrArg DeviceDataHeizung.manualRate before
    have manual := (congrArg DeviceDataHeizung.mode before).trans mode
    have closed := (congrArg DeviceDataHeizung.reedHeizStopCounter before).trans reed
    dsimp only at config rate
    rw [heizungTimerHandler_eq, heizungPrepared_timer]
    clear before
    generalize heizungPrepared b p = q at config rate manual closed ⊢
    have result := heizungRegulate_manual (b := b) undef (heizungPulse b p)
      (show { q with timerCounter := 0 }.mode = .manual from manual)
    rw [if_pos evaluated, if_pos evaluated, if_pos evaluated, if_neg (by rw [manual]; decide)]
    dsimp only
    rw [result]
    obtain ⟨sameWidth, sameEnd⟩ := heizungWaermebedarf_pulse undef self
      (heizungSetPwm { q with timerCounter := 0 } q.manualRate)
    rw [sameWidth, sameEnd, heizungSetPwm_eq, config, rate]
    exact ⟨rfl, if_neg (not_not_intro closed)⟩
  · rw [if_neg evaluated, if_neg evaluated]
    exact heizungTimerHandler_between undef self evaluated reed

/-- An evaluation sets the registers, and every other tick keeps them. -/
theorem manual_sets (self : UInt16) (before : ManualHeating port periode rate p)
    (after : ManualHeating port periode rate (heizungTimerHandler undef self b p).1)
    (set_ : p.timerCounter < 5 → PulseSet periode rate p) :
    PulseSet periode rate (heizungTimerHandler undef self b p).1 := by
  obtain ⟨-, mode, reed⟩ := manual_tick self after
  obtain ⟨ends, width⟩ := manual_registers (b := b) undef self mode reed
  by_cases evaluated : p.timerCounter ≥ 5
  · rw [if_pos evaluated, before.periode] at ends
    rw [if_pos evaluated, before.periode, before.rate] at width
    exact ⟨congrArg UInt16.toNat ends, (congrArg UInt16.toNat width).trans (width_toNat ..)⟩
  · have still := set_ (UInt8.not_le.mp evaluated)
    rw [if_neg evaluated] at ends width
    exact ⟨(congrArg UInt16.toNat ends).trans still.ends,
      (congrArg UInt16.toNat width).trans still.width⟩

/-- The pin behind the tick. -/
theorem manual_isOn (undef : Undefined) (self : UInt16)
    (before : ManualHeating port periode rate p) (set_ : PulseSet periode rate p)
    (mode : modeAfter p = .manual) :
    (heizungTimerHandler undef self b p).2.1.isOn port =
      if pulseTicks periode rate ≤ (pulseAfter p).toNat then false
      else if p.pwmCounter + 1 ≥ p.pwmEnd then b.out.hasPin port
      else b.out.isOn port := by
  have pin := heizungTimerHandler_isOn undef self b p
  have on : ¬(p.timerCounter ≥ 5 ∧ modeAfter p = .off) := by
    rw [mode]
    exact fun both => absurd both.2 (by decide)
  have narrow : pulseAfter p ≥ p.pwmWidth ↔ pulseTicks periode rate ≤ (pulseAfter p).toNat := by
    rw [← set_.width]
    exact UInt16.le_iff_toNat_le
  rw [if_neg on, heizungPulse_isOn, before.port] at pin
  rw [pin]
  exact if_congr narrow rfl rfl

end Tick

/-- A wrap of the counter lies `n` ticks back. -/
structure InPhase (port periode rate : UInt8) (n : Nat) (p : DeviceDataHeizung) (out : Outputs) :
    Prop where
  manual : ManualHeating port periode rate p
  set_ : PulseSet periode rate p
  counter : p.pwmCounter.toNat = n % periode.toNat
  hasPin : out.hasPin port = true
  isOn : out.isOn port = pulseOn periode rate n

theorem succ_mod {n m : Nat} (positive : 0 < m) :
    (n + 1) % m = if n % m + 1 = m then 0 else n % m + 1 := by
  have below : n % m < m := Nat.mod_lt n positive
  rw [← Nat.mod_add_mod]
  split
  · next whole => rw [whole, Nat.mod_self]
  · next inside => exact Nat.mod_eq_of_lt (Nat.lt_of_le_of_ne below inside)

/-- The counter of a set pulse in the next tick, as a number. -/
theorem pulse_succ {periode rate : UInt8} {n : Nat} {p : DeviceDataHeizung}
    (set_ : PulseSet periode rate p) (counter : p.pwmCounter.toNat = n % periode.toNat)
    (positive : 0 < periode.toNat) :
    (p.pwmCounter + 1 ≥ p.pwmEnd ↔ (n + 1) % periode.toNat = 0) ∧
      (pulseAfter p).toNat = (n + 1) % periode.toNat := by
  have below : n % periode.toNat < periode.toNat := Nat.mod_lt n positive
  have small := periode.toNat_lt
  have next : (p.pwmCounter + 1).toNat = n % periode.toNat + 1 := by
    rw [UInt16.toNat_add, counter, UInt16.toNat_one]
    omega
  have wraps : p.pwmCounter + 1 ≥ p.pwmEnd ↔ periode.toNat ≤ n % periode.toNat + 1 := by
    rw [← next, ← set_.ends]
    exact UInt16.le_iff_toNat_le
  rw [wraps, pulseAfter, if_congr wraps rfl rfl, succ_mod positive]
  by_cases whole : n % periode.toNat + 1 = periode.toNat
  · rw [if_pos whole, if_pos (Nat.le_of_eq whole.symm)]
    exact ⟨iff_of_true (Nat.le_of_eq whole.symm) rfl, rfl⟩
  · have inside : ¬periode.toNat ≤ n % periode.toNat + 1 := fun ends =>
      whole (Nat.le_antisymm below ends)
    rw [if_neg whole, if_neg inside, next]
    exact ⟨iff_of_false inside (Nat.succ_ne_zero _), rfl⟩

section Phase

variable {undef : Undefined} {env : Environment mcu} {i : Nat} {b next last : Board mcu}
  {p : DeviceDataHeizung} {port periode rate : UInt8} {n : Nat} {events : List HeizungEvent}
  {outs : List Bool}

/-- The tick of a wrap begins a period. -/
theorem InPhase.begins (self : UInt16) (before : ManualHeating port periode rate p)
    (set_ : PulseSet periode rate p) (wraps : p.pwmCounter + 1 ≥ p.pwmEnd)
    (pin : b.out.hasPin port = true)
    (after : ManualHeating port periode rate (heizungTimerHandler undef self b p).1) :
    InPhase port periode rate 0 (heizungTimerHandler undef self b p).1
      (heizungTimerHandler undef self b p).2.1 := by
  obtain ⟨counter, mode, -⟩ := manual_tick self after
  have zero : pulseAfter p = 0 := if_pos wraps
  have on := manual_isOn (b := b) undef self before set_ mode
  refine ⟨after, manual_sets self before after fun _ => set_, ?_,
    (heizungTimerHandler_hasPin ..).trans pin, ?_⟩
  · rw [counter, zero, Nat.zero_mod]
    rfl
  · rw [on, if_pos wraps, pin, zero, pulseOn, Nat.zero_mod, UInt16.toNat_zero]
    by_cases some : 0 < pulseTicks periode rate
    · rw [if_neg (Nat.not_le.mpr some), decide_eq_true some]
    · rw [if_pos (Nat.le_of_not_lt some), decide_eq_false some]

/-- The next tick. -/
theorem InPhase.tick (self : UInt16) (phase : InPhase port periode rate n p b.out)
    (positive : 0 < periode.toNat)
    (after : ManualHeating port periode rate (heizungTimerHandler undef self b p).1) :
    InPhase port periode rate (n + 1) (heizungTimerHandler undef self b p).1
      (heizungTimerHandler undef self b p).2.1 := by
  obtain ⟨counter, mode, -⟩ := manual_tick self after
  obtain ⟨wraps, next⟩ := pulse_succ phase.set_ phase.counter positive
  have on := manual_isOn (b := b) undef self phase.manual phase.set_ mode
  refine ⟨after, manual_sets self phase.manual after fun _ => phase.set_, ?_,
    (heizungTimerHandler_hasPin ..).trans phase.hasPin, ?_⟩
  · rw [counter, next]
  · rw [on, next, if_congr wraps rfl rfl, phase.hasPin, phase.isOn, pulseOn, pulseOn]
    by_cases off : pulseTicks periode rate ≤ (n + 1) % periode.toNat
    · rw [if_pos off, decide_eq_false (Nat.not_lt.mpr off)]
    · rw [if_neg off, decide_eq_true (Nat.lt_of_not_le off)]
      by_cases begins : (n + 1) % periode.toNat = 0
      · rw [if_pos begins]
      · have before : n % periode.toNat < pulseTicks periode rate := by
          rw [succ_mod positive] at off begins
          split at off
          · next whole => exact absurd (if_pos whole) begins
          · exact Nat.lt_of_succ_lt (Nat.lt_of_not_le off)
        rw [if_neg begins, decide_eq_true before]

/-- The valve behind a tick. -/
def valveSeen (port : UInt8) (_ : Board mcu) (event : HeizungEvent) (next : Board mcu) :
    List Bool :=
  match event with
  | .tick => [next.out.isOn port]
  | _ => []

/-- What has been seen since the wrap. -/
def PulseSeen (i : Nat) (port periode rate : UInt8) (n : Nat) (s : Board mcu × List Bool) : Prop :=
  ∃ p, s.1.devices[i]? = some (.heizung p) ∧ InPhase port periode rate n p s.1.out ∧
    s.2 = (List.range (n + 1)).map (pulseOn periode rate)

/-- The step lemma. -/
theorem step_pulse {s t : Board mcu × List Bool} {event : HeizungEvent}
    (positive : 0 < periode.toNat)
    (step : Watched (ManualStep undef env i port periode rate) (valveSeen port) s event t)
    (now : PulseSeen i port periode rate n s) :
    PulseSeen i port periode rate (n + ticks [event]) t := by
  obtain ⟨⟨taken, manual, alone⟩, seen⟩ := step
  obtain ⟨p, slot, phase, outs⟩ := now
  obtain ⟨q, found, after⟩ := manual
  cases event with
  | tick =>
      obtain ⟨here, pins⟩ := heizungStep_tick slot taken
      have same := Device.heizung.inj (Option.some.inj (found.symm.trans here))
      have next := phase.tick env.self positive (same ▸ after)
      generalize heizungTimerHandler undef env.self s.1 p = handled at here pins next
      refine ⟨_, here, by rwa [pins], ?_⟩
      change t.2 = (List.range (n + 1 + 1)).map (pulseOn periode rate)
      rw [seen, outs, List.range_succ (n := n + 1), List.map_append]
      exact congrArg (_ ++ [·]) ((congrArg (·.isOn port) pins).trans next.isOn)
  | frame f =>
      obtain ⟨r, here, change, pins⟩ := heizungStep_frame slot taken
      obtain rfl := Device.heizung.inj (Option.some.inj (found.symm.trans here))
      obtain ⟨width, ends, counter⟩ := change.pulse
      refine ⟨_, here, ⟨after, ⟨?_, ?_⟩, ?_, ?_, ?_⟩, ?_⟩
      · rw [ends]
        exact phase.set_.ends
      · rw [width]
        exact phase.set_.width
      · rw [counter]
        exact phase.counter
      · rw [pins]
        exact phase.hasPin
      · rw [pins]
        exact phase.isOn
      · exact seen.trans ((List.append_nil _).trans outs)
  | elsewhere =>
      have here := (heizungStep_elsewhere taken).trans slot
      obtain ⟨isOn, hasPin⟩ := alone rfl
      exact ⟨p, here, ⟨phase.manual, phase.set_, phase.counter, hasPin.trans phase.hasPin,
        isOn.trans phase.isOn⟩, seen.trans ((List.append_nil _).trans outs)⟩

/-- Between the evaluation and the wrap. -/
structure PulseReady (port periode rate : UInt8) (p : DeviceDataHeizung) : Prop where
  manual : ManualHeating port periode rate p
  set_ : PulseSet periode rate p

theorem step_ready {event : HeizungEvent}
    (step : ManualStep undef env i port periode rate b event next)
    (now : AtSlot i (PulseReady port periode rate) b) :
    AtSlot i (PulseReady port periode rate) next := by
  obtain ⟨taken, ⟨q, found, after⟩, -⟩ := step
  obtain ⟨p, slot, manual, set_⟩ := now
  refine ⟨q, found, after, ?_⟩
  cases event with
  | tick =>
      have here := (heizungStep_tick slot taken).1
      have same := Device.heizung.inj (Option.some.inj (found.symm.trans here))
      have next := manual_sets env.self manual (same ▸ after) fun _ => set_
      rwa [← same] at next
  | frame f =>
      obtain ⟨r, here, change, -⟩ := heizungStep_frame slot taken
      obtain rfl := Device.heizung.inj (Option.some.inj (found.symm.trans here))
      obtain ⟨width, ends, -⟩ := change.pulse
      exact ⟨(congrArg UInt16.toNat ends).trans set_.ends,
        (congrArg UInt16.toNat width).trans set_.width⟩
  | elsewhere =>
      have here := (heizungStep_elsewhere taken).trans slot
      cases found.symm.trans here
      exact set_

end Phase

/-! ## Windows -/

/-- The periods of the pulse, one behind the other. -/
theorem pulse_window {periode rate : UInt8} (percent : rate ≤ 100) {n k : Nat}
    (inside : (k + 1) * periode.toNat ≤ n) :
    (((List.range n).map (pulseOn periode rate)).drop (k * periode.toNat)).take periode.toNat =
      List.replicate (pulseTicks periode rate) true ++
        List.replicate (periode.toNat - pulseTicks periode rate) false := by
  have fits : pulseTicks periode rate ≤ periode.toNat := by
    refine Nat.div_le_of_le_mul ?_
    rw [Nat.mul_comm]
    exact Nat.mul_le_mul_right _ (UInt8.le_iff_toNat_le.mp percent)
  rw [Nat.succ_mul] at inside
  apply List.ext_getElem
  · simp only [List.length_take, List.length_drop, List.length_map, List.length_range,
      List.length_append, List.length_replicate]
    omega
  · intro j short _
    have early : j < periode.toNat := (List.length_take_le ..).trans_lt' short
    have position : (k * periode.toNat + j) % periode.toNat = j := by
      rw [Nat.mul_add_mod', Nat.mod_eq_of_lt early]
    simp only [List.getElem_take, List.getElem_drop, List.getElem_map, List.getElem_range,
      List.getElem_append, List.length_replicate, List.getElem_replicate, pulseOn, position]
    split
    · next on => exact decide_eq_true on
    · next off => exact decide_eq_false off

/-- Of a heating that is set to a rate, from a wrap of the counter behind an evaluation on, the
valve is on in the first ticks of every period, as many as the rate asks for; the counter wraps
once in a period. -/
theorem duty_cycle {undef : Undefined} {env : Environment mcu} {i : Nat}
    {port periode rate : UInt8} {begin_ evaluated waited last : Board mcu}
    {waiting events : List HeizungEvent} {outs : List Bool} (periodic : 1 ≤ periode)
    (percent : rate ≤ 100)
    (manual : AtSlot i (fun p => ManualHeating port periode rate p ∧ p.timerCounter ≥ 5) begin_)
    (evaluation : ManualStep undef env i port periode rate begin_ .tick evaluated)
    (wait : Run (ManualStep undef env i port periode rate) evaluated waiting waited)
    (wraps : AtSlot i (fun p => p.pwmCounter + 1 ≥ p.pwmEnd) waited)
    (pin : waited.out.hasPin port = true)
    (run : Run (Watched (ManualStep undef env i port periode rate) (valveSeen port))
      (waited, []) (.tick :: events) (last, outs)) :
    AtSlot i (fun p => p.pwmCounter.toNat = ticks events % periode.toNat) last ∧
      outs.length = ticks events + 1 ∧
      ∀ k, (k + 1) * periode.toNat ≤ outs.length →
        (outs.drop (k * periode.toNat)).take periode.toNat =
          List.replicate (periode.toNat * rate.toNat / 100) true ++
            List.replicate (periode.toNat - periode.toNat * rate.toNat / 100) false := by
  have ready : AtSlot i (PulseReady port periode rate) evaluated := by
    obtain ⟨p, slot, before, due⟩ := manual
    obtain ⟨taken, ⟨q, found, after⟩, -⟩ := evaluation
    have same := Device.heizung.inj (Option.some.inj
      (found.symm.trans (heizungStep_tick slot taken).1))
    have sets := manual_sets env.self before (same ▸ after) fun early =>
      absurd early (UInt8.not_lt.mpr due)
    rw [← same] at sets
    exact ⟨q, found, after, sets⟩
  obtain ⟨p, slot, before, set_⟩ := wait.invariant _ (fun _ _ _ step => step_ready step) ready
  obtain ⟨r, there, wrap⟩ := wraps
  cases slot.symm.trans there
  cases run with
  | @cons _ middle _ _ _ first rest =>
      have begun : PulseSeen i port periode rate 0 middle := by
        obtain ⟨⟨taken, ⟨q, found, after⟩, -⟩, shown⟩ := first
        obtain ⟨here, pins⟩ := heizungStep_tick slot taken
        have same := Device.heizung.inj (Option.some.inj (found.symm.trans here))
        have phase := InPhase.begins env.self before set_ wrap pin (same ▸ after)
        rw [← same, ← pins] at phase
        exact ⟨q, found, phase, shown.trans (congrArg ([] ++ [·]) phase.isOn)⟩
      obtain ⟨q, here, phase, shown⟩ := rest.counted _ (PulseSeen i port periode rate)
        (fun _ _ _ _ step now => step_pulse periodic step now) begun
      rw [Nat.zero_add] at phase shown
      change outs = (List.range (ticks events + 1)).map (pulseOn periode rate) at shown
      refine ⟨⟨q, here, phase.counter⟩, ?_, fun k inside => ?_⟩
      · rw [shown, List.length_map, List.length_range]
      · rw [shown, List.length_map, List.length_range] at inside
        rw [shown]
        exact pulse_window percent inside

/-- Without a countdown the heating is still set to the rate behind a tick. -/
theorem ManualHeating.tick {undef : Undefined} {port periode rate : UInt8} {b : Board mcu}
    {p : DeviceDataHeizung} (manual : ManualHeating port periode rate p)
    (untimed : p.durationCounter = 0) (self : UInt16) :
    ManualHeating port periode rate (heizungTimerHandler undef self b p).1 ∧
      (heizungTimerHandler undef self b p).1.durationCounter = 0 := by
  have kept := heizungTimerHandler_keeps undef self b p
  obtain ⟨config, mode, duration⟩ := heizungTimerHandler_timed undef self b p
  have reed := (heizungTimerHandler_counters undef self b p).2.2.2
  have still : modeAfter p = .manual := by
    rw [modeAfter, if_neg (by rw [untimed]; decide), manual.mode]
  rw [reedAfter, manual.window] at reed
  rw [heizungCountDuration_eq] at kept
  refine ⟨⟨?_, ?_, mode.trans still, (kept.rate still).trans manual.rate, reed⟩, ?_⟩
  · rw [config, manual.port]
  · rw [config, manual.periode]
  · rw [duration, durationAfter, untimed]
    rfl

/-- A board that only ticks keeps the rate. -/
theorem exists_run_manual (undef : Undefined) (env : Environment mcu) {i : Nat}
    {port periode rate : UInt8} {first : Board mcu} {p : DeviceDataHeizung}
    (slot : first.devices[i]? = some (.heizung p)) (manual : ManualHeating port periode rate p)
    (untimed : p.durationCounter = 0) (n : Nat) :
    ∃ last q, Run (ManualStep undef env i port periode rate) first (List.replicate n .tick) last ∧
      (List.replicate n .tick).foldlM (heizungExecute undef env i) first = some last ∧
      last.devices[i]? = some (.heizung q) ∧ ManualHeating port periode rate q ∧
      q.durationCounter = 0 := by
  induction n generalizing first p with
  | zero => exact ⟨first, p, .nil first, rfl, slot, manual, untimed⟩
  | succ n ih =>
      have step : HeizungStep undef env i first .tick _ := heizungStep_ticked slot
      have here := (heizungStep_tick slot step).1
      obtain ⟨after, still⟩ := manual.tick untimed env.self
      obtain ⟨last, q, run, executed, there, ends⟩ := ih here after still
      refine ⟨last, q, .cons ⟨step, ⟨_, here, after⟩, fun other => nomatch other⟩ run, ?_, there,
        ends⟩
      rw [List.replicate_succ, List.foldlM_cons, heizungExecute, slot]
      dsimp only
      rw [heizungTick_apply]
      exact executed

/-- The kitchen before its first evaluation. -/
def halfHeizung : DeviceDataHeizung :=
  { kitchenHeizung 7 10 with mode := .manual, manualRate := 50, timerCounter := 5 }

/-- Behind the first wrap the valve is on for five ticks of ten. -/
theorem halfHeizung_pulses :
    ∃ waited last outs,
      Run (Watched (ManualStep zeroUndefined quietEnvironment 0 3 10 50) (valveSeen 3))
        (waited, []) (List.replicate 20 .tick) (last, outs) ∧
      (outs.drop 10).take 10 = List.replicate 5 true ++ List.replicate 5 false := by
  have manual : ManualHeating 3 10 50 halfHeizung := ⟨rfl, rfl, rfl, rfl, rfl⟩
  have slot : (kitchenBoard halfHeizung).devices[0]? = some (.heizung halfHeizung) := rfl
  obtain ⟨evaluated, q, first, started, here, after, untimed⟩ :=
    exists_run_manual zeroUndefined quietEnvironment slot manual rfl 1
  have evaluation : ManualStep zeroUndefined quietEnvironment 0 3 10 50
      (kitchenBoard halfHeizung) .tick evaluated := by
    cases first with
    | cons taken rest =>
        cases rest
        exact taken
  obtain ⟨waited, p, wait, executed, there, still, none⟩ :=
    exists_run_manual zeroUndefined quietEnvironment here after untimed 9
  obtain ⟨last, -, run, -⟩ := exists_run_manual zeroUndefined quietEnvironment there still none 20
  obtain ⟨outs, watched⟩ := run.watched (valveSeen 3) []
  have behind : (kitchenBehind (kitchenBoard halfHeizung) (List.replicate 10 .tick)).map
      (fun s => (s.1.pwmCounter, s.1.pwmEnd, s.2.hasPin 3)) = some (9, 10, true) := by
    decide +kernel
  have found : kitchenBehind (kitchenBoard halfHeizung) (List.replicate 10 .tick) =
      some (p, waited.out) := by
    rw [kitchenBehind, List.replicate_add 1 9, List.foldlM_append, started, Option.bind_eq_bind,
      Option.bind_some, executed, Option.bind_some, there]
  rw [found] at behind
  obtain ⟨counter, ends, pin⟩ := by
    simpa only [Option.map_some, Option.some.injEq, Prod.mk.injEq] using behind
  have wraps : p.pwmCounter + 1 ≥ p.pwmEnd := by
    rw [counter, ends]
    decide
  have cycle := duty_cycle (by decide) (by decide) ⟨_, slot, manual, by decide⟩ evaluation wait
    ⟨p, there, wraps⟩ pin watched
  exact ⟨waited, last, outs, watched, cycle.2.2 1 (cycle.2.1 ▸ by decide)⟩

end Hcan.Hauselektrik
