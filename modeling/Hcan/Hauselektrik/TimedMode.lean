import Hcan.Hauselektrik.HeatingTimer
import Hcan.Library.Bits

/-!
# The countdown of a timed mode

Every part of the timer handler but one leaves mode and duration alone, and no frame
changes them that does not set the mode.  So a heating that a frame has set to a rate for
some seconds keeps this rate for as many ticks and then turns to the time zones.
-/

namespace Hcan.Hauselektrik

open Hcan.Canix Hcan.Eds Hcan.Controller Hcan.Library Hcan.Library.Nested

variable {mcu : Mcu}

/-- Mode, duration and configuration are kept, and the rate in the mode MANUAL. -/
structure KeepsTimer (p q : DeviceDataHeizung) : Prop where
  config : q.config = p.config
  mode : q.mode = p.mode
  duration : q.durationCounter = p.durationCounter
  rate : p.mode = .manual → q.manualRate = p.manualRate

section Handler

variable {p q r : DeviceDataHeizung}

theorem KeepsTimer.refl (p : DeviceDataHeizung) : KeepsTimer p p := ⟨rfl, rfl, rfl, fun _ => rfl⟩

theorem KeepsTimer.trans (first : KeepsTimer p q) (second : KeepsTimer q r) : KeepsTimer p r where
  config := second.config.trans first.config
  mode := second.mode.trans first.mode
  duration := second.duration.trans first.duration
  rate manual := (second.rate (first.mode.trans manual)).trans (first.rate manual)

/-- The countdown depends on nothing else. -/
theorem KeepsTimer.counted (kept : KeepsTimer p q) :
    KeepsTimer (heizungCountDuration p) (heizungCountDuration q) := by
  unfold heizungCountDuration
  rw [kept.duration]
  split
  · dsimp only
    rw [kept.mode]
    split
    · exact ⟨kept.config, rfl, rfl, fun manual => nomatch manual⟩
    · exact ⟨kept.config, rfl, rfl, kept.rate⟩
  · exact kept

theorem heizungUpdateHeizstop_keeps (p : DeviceDataHeizung) :
    KeepsTimer p (heizungUpdateHeizstop p) := by
  unfold heizungUpdateHeizstop
  split
  · exact ⟨rfl, rfl, rfl, fun _ => rfl⟩
  · exact .refl p

theorem heizungSetPwm_keeps (p : DeviceDataHeizung) (rate : UInt8) :
    KeepsTimer p (heizungSetPwm p rate) := by
  unfold heizungSetPwm
  split
  · exact heizungUpdateHeizstop_keeps p
  · exact ⟨rfl, rfl, rfl, fun _ => rfl⟩

theorem heizungSetPwmByTemp_keeps (undef : Undefined) (p : DeviceDataHeizung)
    (soll ist : UInt16) : KeepsTimer p (heizungSetPwmByTemp undef p soll ist) := by
  have valve (rate : UInt8) := heizungSetPwm_keeps p rate
  unfold heizungSetPwmByTemp
  dsimp only
  split
  · exact valve 0
  · split
    · exact ⟨(valve 100).config, (valve 100).mode, (valve 100).duration, (valve 100).rate⟩
    · exact .refl p

theorem heizungRegulate_keeps (undef : Undefined) (b : Board mcu) (p : DeviceDataHeizung)
    (out : Outputs) : KeepsTimer p (heizungRegulate undef b p out).1 := by
  unfold heizungRegulate
  cases mode : p.mode with
  | off =>
      have quiet : KeepsTimer p { p with mode := .off, manualRate := 0 } :=
        ⟨rfl, mode.symm, rfl, fun manual => nomatch mode.symm.trans manual⟩
      dsimp only
      split
      · exact quiet.trans (heizungSetPwm_keeps ..)
      · exact quiet.trans (heizungSetPwm_keeps ..)
  | manual => exact heizungSetPwm_keeps ..
  | automatik =>
      dsimp only
      split
      · split
        · exact heizungSetPwmByTemp_keeps ..
        · exact heizungSetPwm_keeps ..
      · exact .refl p
  | thermostat =>
      dsimp only
      split
      · exact heizungSetPwmByTemp_keeps ..
      · exact .refl p

theorem heizungWaermebedarf_keeps (undef : Undefined) (self : UInt16) (p : DeviceDataHeizung) :
    KeepsTimer p (heizungWaermebedarf undef self p).1 := by
  unfold heizungWaermebedarf
  split
  · exact ⟨rfl, rfl, rfl, fun _ => rfl⟩
  · exact ⟨rfl, rfl, rfl, fun _ => rfl⟩

theorem heizungBegin_keeps (clock : RtcClock) (p : DeviceDataHeizung) :
    KeepsTimer p (heizungBegin clock p) := by
  have care (p : DeviceDataHeizung) : KeepsTimer p (heizungCheckVentilpflege clock p) := by
    unfold heizungCheckVentilpflege
    split
    · split
      · exact ⟨rfl, rfl, rfl, fun _ => rfl⟩
      · exact .refl p
    · exact .refl p
  have received (p : DeviceDataHeizung) : KeepsTimer p
      (if p.receivedIntervalCounter ≠ 0xff then
        { p with receivedIntervalCounter := p.receivedIntervalCounter + 1 } else p) := by
    split
    · exact ⟨rfl, rfl, rfl, fun _ => rfl⟩
    · exact .refl p
  unfold heizungBegin
  refine KeepsTimer.trans ?_ ((care _).trans (received _))
  split
  · exact ⟨rfl, rfl, rfl, fun _ => rfl⟩
  · exact .refl p

theorem heizungHandlePwm_keeps (p : DeviceDataHeizung) (out : Outputs) :
    KeepsTimer p (heizungHandlePwm p out).1 := ⟨rfl, rfl, rfl, fun _ => rfl⟩

theorem heizungCountHeizstop_keeps (p : DeviceDataHeizung) :
    KeepsTimer p (heizungCountHeizstop p) := by
  unfold heizungCountHeizstop
  refine KeepsTimer.trans ?_ (heizungUpdateHeizstop_keeps _)
  split
  · exact ⟨rfl, rfl, rfl, fun _ => rfl⟩
  · exact .refl p

/-- The handler keeps the timer but for the countdown. -/
theorem heizungTimerHandler_keeps (undef : Undefined) (self : UInt16) (b : Board mcu)
    (p : DeviceDataHeizung) :
    KeepsTimer (heizungCountDuration p) (heizungTimerHandler undef self b p).1 := by
  have before := ((heizungBegin_keeps b.clock p).trans (heizungHandlePwm_keeps _ b.out)).counted
  have started := before.trans (heizungCountHeizstop_keeps _)
  have timer (p : DeviceDataHeizung) (n : UInt8) : KeepsTimer p { p with timerCounter := n } :=
    ⟨rfl, rfl, rfl, fun _ => rfl⟩
  unfold heizungTimerHandler
  dsimp only
  generalize heizungCountHeizstop (heizungCountDuration
    (heizungHandlePwm (heizungBegin b.clock p) b.out).1) = q at started ⊢
  generalize (heizungHandlePwm (heizungBegin b.clock p) b.out).2 = out
  split
  · have regulated := (started.trans (timer q 0)).trans (heizungRegulate_keeps undef b _ out)
    split
    · exact regulated
    · exact regulated.trans (heizungWaermebedarf_keeps ..)
  · exact (started.trans (timer q _)).trans (heizungWaermebedarf_keeps ..)

end Handler

/-! ## One step -/

/-- The record at an index of the table. -/
def AtSlot (i : Nat) (holds : DeviceDataHeizung → Prop) (b : Board mcu) : Prop :=
  ∃ p, b.devices[i]? = some (.heizung p) ∧ holds p

/-- The heating has been set to a rate for some seconds, and `k` ticks have passed; no seconds
stand for no limit. -/
structure Elapsed (id rate : UInt8) (seconds k : Nat) (p : DeviceDataHeizung) : Prop where
  id : p.config.id = id
  duration : p.durationCounter.toNat = seconds - k
  mode : p.mode = if seconds = 0 ∨ k < seconds then .manual else .automatik
  rate : p.mode = .manual → p.manualRate = rate

/-- The frame sets the mode of the heating. -/
def SetsMode (self : UInt16) (id : UInt8) (frame : CanixFrame) : Prop :=
  hauselektrikAccepts self frame = true ∧ frame.data[2] = id ∧
    (frame.data[1] = hcanHesHeizungSetModeOff ∨ frame.data[1] = hcanHesHeizungSetModeManual ∨
      frame.data[1] = hcanHesHeizungSetModeThermostatDetails ∨
      frame.data[1] = hcanHesHeizungSetModeAutomatik)

def ticks (events : List HeizungEvent) : Nat :=
  tally (fun | .tick => 1 | _ => 0) events

/-- A step without a frame that sets the mode of the heating. -/
def UndisturbedStep (undef : Undefined) (env : Environment mcu) (i : Nat) (id : UInt8)
    (b : Board mcu) (event : HeizungEvent) (next : Board mcu) : Prop :=
  HeizungStep undef env i b event next ∧ ∀ f, event = .frame f → ¬SetsMode env.self id f

section Step

variable {undef : Undefined} {env : Environment mcu} {i : Nat} {b next : Board mcu}
  {id rate : UInt8} {seconds k : Nat} {p q : DeviceDataHeizung} {f : CanixFrame} {must : Prop}

theorem Elapsed.of_keeps (elapsed : Elapsed id rate seconds k p) (kept : KeepsTimer p q) :
    Elapsed id rate seconds k q where
  id := (congrArg EdsHeizungBlock.id kept.config).trans elapsed.id
  duration := (congrArg UInt16.toNat kept.duration).trans elapsed.duration
  mode := kept.mode.trans elapsed.mode
  rate manual :=
    (kept.rate (kept.mode.symm.trans manual)).trans (elapsed.rate (kept.mode.symm.trans manual))

theorem heizungCountDuration_elapsed (elapsed : Elapsed id rate seconds k p) :
    Elapsed id rate seconds (k + 1) (heizungCountDuration p) := by
  have duration := elapsed.duration
  have mode := elapsed.mode
  unfold heizungCountDuration
  by_cases running : p.durationCounter > 0
  · have positive : 0 < p.durationCounter.toNat := UInt16.lt_iff_toNat_lt.mp running
    have fewer : (p.durationCounter - 1).toNat = p.durationCounter.toNat - 1 :=
      uint16_toNat_pred (UInt16.pos_iff_ne_zero.mp running)
    have last : p.durationCounter - 1 = 0 ↔ seconds = k + 1 := by
      rw [← UInt16.toNat_inj, fewer]
      change p.durationCounter.toNat - 1 = 0 ↔ _
      omega
    have manual : p.mode = .manual := mode.trans (if_pos (by omega))
    rw [if_pos running]
    refine ⟨elapsed.id, fewer.trans (by omega), ?_, fun _ => elapsed.rate manual⟩
    change (if p.durationCounter - 1 = 0 then HeizungMode.automatik else p.mode) = _
    rw [if_congr last rfl rfl, manual]
    by_cases past : seconds = k + 1
    · rw [if_pos past, if_neg (by omega)]
    · rw [if_neg past, if_pos (by omega)]
  · have zero : p.durationCounter.toNat = 0 := by
      have none := mt UInt16.lt_iff_toNat_lt.mpr running
      exact Nat.le_zero.mp (Nat.le_of_not_lt none)
    rw [if_neg running]
    refine ⟨elapsed.id, by omega, ?_, elapsed.rate⟩
    rw [mode]
    apply if_congr _ rfl rfl
    omega

theorem atSlot_poke {holds : DeviceDataHeizung → Prop} {g : DeviceDataHeizung → DeviceDataHeizung}
    (kept : ∀ q, holds q → holds (g q)) :
    Keeps must (AtSlot i holds) (poke i g : OnBoard mcu Unit) := by
  apply keeps_modify
  rintro b ⟨q, slot, now⟩
  refine ⟨g q, ?_, kept q now⟩
  change (b.devices.modify i (onRecord g))[i]? = _
  rw [List.getElem?_modify_eq, slot]
  rfl

theorem atSlot_modify {holds : DeviceDataHeizung → Prop} {g : Board mcu → Board mcu}
    (same : ∀ b, (g b).devices = b.devices) :
    Keeps must (AtSlot i holds) (modify g : OnBoard mcu Unit) := by
  apply keeps_modify
  rintro b ⟨q, slot, now⟩
  exact ⟨q, (congrArg (·[i]?) (same b)).trans slot, now⟩

/-- A tick returns, and the record is what the handler has made of it. -/
theorem heizungTick_returns (undef : Undefined) (env : Environment mcu)
    (holds : DeviceDataHeizung → Prop) (slot : b.devices[i]? = some (.heizung p))
    (now : holds (heizungTimerHandler undef env.self b p).1) :
    ∃ next, heizungTick undef env.self (fun _ => pure ()) i p b = some ((), next) ∧
      AtSlot i holds next := by
  unfold heizungTick
  rw [bind_apply]
  dsimp only [Nested.read, Option.bind_some]
  generalize heizungTimerHandler undef env.self b p = handled at now ⊢
  rw [bind_apply]
  have poked : AtSlot i holds
      { b with devices := b.devices.modify i (onRecord fun _ => handled.1) } := by
    refine ⟨handled.1, ?_, now⟩
    rw [List.getElem?_modify_eq, slot]
    rfl
  have rest : Keeps True (AtSlot i holds)
      ((modify fun b : Board mcu => { b with out := handled.2.1 }) >>= fun _ =>
        handled.2.2.forM fun _ => (pure () : OnBoard mcu PUnit)) :=
    keeps_bind (atSlot_modify fun _ => rfl) fun _ => keeps_forM fun _ _ => keeps_pure PUnit.unit
  obtain ⟨returns, kept⟩ := rest _ poked
  obtain ⟨result, ran⟩ := Option.isSome_iff_exists.mp (returns trivial)
  exact ⟨result.2, ran, kept result ran⟩

theorem heizungWriteLine_elapsed (self : UInt16) (f : CanixFrame) (idx : Fin 8) :
    Keeps False (AtSlot i (Elapsed id rate seconds k))
      (heizungWriteLine self (fun _ => pure ()) i p f idx : OnBoard mcu Unit) := by
  unfold heizungWriteLine
  apply keeps_read_bind
  intro b now
  apply keeps_ite
  · intro _
    apply keeps_bind
    · exact atSlot_poke fun q elapsed =>
        ⟨elapsed.id, elapsed.duration, elapsed.mode, elapsed.rate⟩
    · exact fun _ => keeps_bind (atSlot_modify fun _ => rfl) fun _ =>
        keeps_bind (atSlot_modify fun _ => rfl) fun _ => keeps_pure ()
  · exact fun _ => keeps_pure ()

/-- A frame that does not set the mode. -/
theorem heizungCanCallback_elapsed (elapsed : Elapsed id rate seconds k p)
    (accepted : hauselektrikAccepts env.self f = true) (other : ¬SetsMode env.self id f) :
    Keeps False (AtSlot i (Elapsed id rate seconds k))
      (heizungCanCallback env.self (fun _ => pure ()) i p f : OnBoard mcu Unit) := by
  have apart {command : UInt8} (own : p.config.id = f.data[2])
      (sets : command = hcanHesHeizungSetModeOff ∨ command = hcanHesHeizungSetModeManual ∨
        command = hcanHesHeizungSetModeThermostatDetails ∨
        command = hcanHesHeizungSetModeAutomatik) : f.data[1] ≠ command := by
    rintro rfl
    exact other ⟨accepted, own.symm.trans elapsed.id, sets⟩
  unfold heizungCanCallback
  dsimp only
  apply keeps_ite
  · exact fun _ => keeps_ite (fun _ => atSlot_poke fun q now =>
      now.of_keeps ⟨rfl, rfl, rfl, fun _ => rfl⟩) fun _ => keeps_pure ()
  intro _
  apply keeps_ite
  · exact fun _ => keeps_ite (fun _ => atSlot_poke fun q now =>
      now.of_keeps ⟨rfl, rfl, rfl, fun _ => rfl⟩) fun _ => keeps_pure ()
  intro _
  apply keeps_ite _ fun _ => keeps_pure ()
  intro own
  rw [if_neg (apart own (.inl rfl)), if_neg (apart own (.inr (.inl rfl))),
    if_neg (apart own (.inr (.inr (.inl rfl)))), if_neg (apart own (.inr (.inr (.inr rfl))))]
  apply keeps_ite
  · exact fun _ => keeps_read_bind fun _ _ => keeps_pure ()
  intro _
  apply keeps_ite
  · exact fun _ => keeps_pure ()
  intro _
  apply keeps_ite
  · exact fun _ => keeps_dite (fun _ => keeps_pure ()) fun _ => keeps_pure ()
  intro _
  apply keeps_ite _ fun _ => keeps_pure ()
  exact fun _ => keeps_dite (fun _ => heizungWriteLine_elapsed _ _ _) fun _ => keeps_pure ()

/-- The step lemma. -/
theorem step_elapsed {event : HeizungEvent} (step : UndisturbedStep undef env i id b event next)
    (now : AtSlot i (Elapsed id rate seconds k) b) :
    AtSlot i (Elapsed id rate seconds (k + ticks [event])) next := by
  obtain ⟨taken, quiet⟩ := step
  obtain ⟨q, here, elapsed⟩ := now
  cases taken with
  | tick slot ran =>
      cases Device.heizung.inj (Option.some.inj (here.symm.trans slot))
      obtain ⟨other, again, counted⟩ := heizungTick_returns undef env _ slot
        ((heizungCountDuration_elapsed elapsed).of_keeps
          (heizungTimerHandler_keeps undef env.self b q))
      cases ran.symm.trans again
      exact counted
  | frame f ran =>
      by_cases accepted : hauselektrikAccepts env.self f = true
      · rw [if_pos accepted, deviceCanCallback, bind_apply] at ran
        dsimp only [Nested.read, Option.bind_some] at ran
        rw [here] at ran
        change heizungCanCallback env.self _ i q f b = some ((), next) at ran
        exact (heizungCanCallback_elapsed elapsed accepted (quiet f rfl) b
          ⟨q, here, elapsed⟩).2 _ ran
      · rw [if_neg accepted] at ran
        cases ran
        exact ⟨q, here, elapsed⟩
  | elsewhere same => exact ⟨q, same.trans here, elapsed⟩

end Step

section Run

variable {undef : Undefined} {env : Environment mcu} {i : Nat} {first last : Board mcu}
  {id rate : UInt8} {seconds : Nat} {events : List HeizungEvent}

theorem run_elapsed (run : Run (UndisturbedStep undef env i id) first events last)
    (start : AtSlot i (Elapsed id rate seconds 0) first) :
    AtSlot i (Elapsed id rate seconds (ticks events)) last := by
  have counted := run.counted (fun | .tick => 1 | _ => 0)
    (fun k b => AtSlot i (Elapsed id rate seconds k) b)
    (fun k b event next step now => step_elapsed step now) start
  rwa [Nat.zero_add] at counted

/-- A board that only ticks. -/
theorem exists_run_ticks (undef : Undefined) (env : Environment mcu) {p : DeviceDataHeizung}
    (slot : first.devices[i]? = some (.heizung p)) (id : UInt8) (n : Nat) :
    ∃ events last, Run (UndisturbedStep undef env i id) first events last ∧ ticks events = n := by
  induction n generalizing first p with
  | zero => exact ⟨[], first, .nil first, rfl⟩
  | succ n ih =>
      obtain ⟨next, ran, q, here, -⟩ := heizungTick_returns undef env
        (fun _ => True) slot trivial
      obtain ⟨events, last, run, count⟩ := ih here
      refine ⟨.tick :: events, last,
        .cons ⟨.tick slot ran, fun f isFrame => nomatch isFrame⟩ run, ?_⟩
      change tally _ (HeizungEvent.tick :: events) = n + 1
      rw [tally_cons, Nat.add_comm]
      exact congrArg (· + 1) count

end Run

end Hcan.Hauselektrik
