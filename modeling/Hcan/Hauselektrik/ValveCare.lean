import Hcan.Hauselektrik.PulseWidth
import Hcan.Library.Watched

/-!
# The weekly care of a valve

A week of ticks of a heating that is off.  The care of its valve begins in the minute that
belongs to its id, lasts 600 ticks and opens the valve from one evaluation to another.  The
minute lies behind the end of the day for the ids from 240 on, and less than 600 ticks before it
for the ids from 237 on.
-/

namespace Hcan.Hauselektrik

open Hcan.Canix Hcan.Eds Hcan.Controller Hcan.Library

variable {mcu : Mcu}

def weekSeconds : Nat := 7 * 86400

/-- The clock in second `k` of a week that begins on Monday. -/
structure WeekSecond (clock : RtcClock) (k : Nat) : Prop where
  inside : k < weekSeconds
  day : clock.dayOfWeek.toNat = k / 86400 + 1
  hour : clock.hour.toNat = k / 3600 % 24
  minute : clock.minute.toNat = k / 60 % 60
  second : clock.second.toNat = k % 60

/-- The second of the week in which the care of a valve is to begin. -/
def careBegin (id : UInt8) : Nat := 6 * 86400 + (id.toNat * 3 + 12 * 60) * 60

theorem careTime_iff {clock : RtcClock} {k : Nat} {id : UInt8} (second : WeekSecond clock k) :
    CareTime clock id ↔ careBegin id ≤ k ∧ k < careBegin id + 60 := by
  have day : clock.dayOfWeek = 7 ↔ clock.dayOfWeek.toNat = 7 :=
    ⟨congrArg UInt8.toNat, fun same => UInt8.toNat_inj.mp same⟩
  unfold CareTime careBegin
  have week := second.inside
  unfold weekSeconds at week
  rw [day, second.day, second.hour, second.minute]
  omega

/-- The care of the valve begins with this tick. -/
def CareStarts (clock : RtcClock) (p : DeviceDataHeizung) : Prop :=
  ¬1 < p.ventilpflegeCounter ∧ p.mode = .off ∧ CareTime clock p.config.id

instance careStartsDecidable (clock : RtcClock) : DecidablePred (CareStarts clock) := fun _ =>
  inferInstanceAs (Decidable (_ ∧ _ ∧ _))

/-- The counter before tick `k`, from `care` at the beginning of the week on. -/
def careLeft (care begin_ k : Nat) : Nat :=
  if k ≤ begin_ then care - k else begin_ + 601 - k

/-- The valve is open in tick `k`, when `e` is the first tick with an evaluation. -/
def CareOpen (care e begin_ k : Nat) : Prop :=
  k < e + (care + 4 - e) / 6 * 6 ∨ begin_ + e ≤ k ∧ k < begin_ + e + 600

instance careOpenDecidable (care e begin_ k : Nat) : Decidable (CareOpen care e begin_ k) :=
  inferInstanceAs (Decidable (_ ∨ _))

section Counter

variable {clock : RtcClock} {p : DeviceDataHeizung} {care e begin_ k : Nat}

theorem careStarts_iff (off : p.mode = .off) (second : WeekSecond clock k) (bound : care ≤ 600)
    (now : p.ventilpflegeCounter.toNat = careLeft care (careBegin p.config.id) k) :
    CareStarts clock p ↔ k = careBegin p.config.id := by
  have running : 1 < p.ventilpflegeCounter ↔ 1 < p.ventilpflegeCounter.toNat :=
    UInt16.lt_iff_toNat_lt
  have late : 600 < careBegin p.config.id := by
    unfold careBegin
    omega
  rw [CareStarts, careTime_iff second, running, now, careLeft, and_iff_right off]
  split
  · omega
  · omega

theorem careAfter_toNat (off : p.mode = .off) (second : WeekSecond clock k) (bound : care ≤ 600)
    (now : p.ventilpflegeCounter.toNat = careLeft care (careBegin p.config.id) k) :
    (careAfter clock p).toNat = careLeft care (careBegin p.config.id) (k + 1) := by
  have running : 1 < p.ventilpflegeCounter ↔ 1 < p.ventilpflegeCounter.toNat :=
    UInt16.lt_iff_toNat_lt
  have starts := careStarts_iff off second bound now
  unfold CareStarts at starts
  have late : 600 < careBegin p.config.id := by
    unfold careBegin
    omega
  unfold careAfter
  by_cases more : 1 < p.ventilpflegeCounter
  · have fewer : (p.ventilpflegeCounter - 1).toNat = p.ventilpflegeCounter.toNat - 1 :=
      uint16_toNat_pred fun zero => absurd (zero ▸ more) (by decide)
    have some := running.mp more
    rw [if_pos more, fewer]
    unfold careLeft at now ⊢
    split at now
    · split
      · omega
      · omega
    · split
      · omega
      · omega
  · have none := mt running.mpr more
    rw [and_iff_right more] at starts
    rw [if_neg more]
    by_cases begins : p.mode = .off ∧ CareTime clock p.config.id
    · have here := starts.mp begins
      rw [if_pos begins, careLeft, here, if_neg (by omega)]
      change 600 = _
      omega
    · have elsewhere := mt starts.mpr begins
      rw [if_neg begins]
      change 0 = _
      unfold careLeft at now ⊢
      split at now
      · split
        · omega
        · omega
      · split
        · omega
        · omega

/-- An evaluation finds the care running in the ticks in which the valve is open. -/
theorem careLeft_ne_zero_iff (bound : care ≤ 600) (first : e ≤ 5) (late : 6 * 86400 ≤ begin_)
    (whole : begin_ % 6 = 0) (evaluated : k % 6 = e % 6) :
    careLeft care begin_ (k + 1) ≠ 0 ↔ CareOpen care e begin_ k := by
  unfold careLeft CareOpen
  split
  · omega
  · omega

/-- Between two evaluations nothing changes. -/
theorem careOpen_succ (first : e ≤ 5) (late : 6 * 86400 ≤ begin_) (bound : care ≤ 600)
    (whole : begin_ % 6 = 0) (between : (k + 1) % 6 ≠ e % 6) :
    CareOpen care e begin_ (k + 1) ↔ CareOpen care e begin_ k := by
  unfold CareOpen
  omega

end Counter

/-- A heating that is off, with no open window. -/
structure IdleHeizung (port id periode : UInt8) (p : DeviceDataHeizung) : Prop where
  port : p.config.port = port
  id : p.config.id = id
  periode : p.config.pwmPeriode = periode
  mode : p.mode = .off
  window : p.reedHeizStopCounter = 0

/-- Counter and pin behind a tick of the pulse. -/
def pulseStep (ends width : UInt16) (pin : Bool) (s : UInt16 × Bool) : UInt16 × Bool :=
  let counter := if s.1 + 1 ≥ ends then 0 else s.1 + 1
  (counter, if counter ≥ width then false else if s.1 + 1 ≥ ends then pin else s.2)

/-- Counter and pin behind `k` ticks without an evaluation. -/
def earlyPulse (p : DeviceDataHeizung) (out : Outputs) (k : Nat) : UInt16 × Bool :=
  (pulseStep p.pwmEnd p.pwmWidth (out.hasPin p.config.port))^[k]
    (p.pwmCounter, out.isOn p.config.port)

/-- The ticks of the first `k` in which the pulse has the valve open. -/
def earlyOpen (p : DeviceDataHeizung) (out : Outputs) (k : Nat) : Nat :=
  (List.range k).countP fun j => (earlyPulse p out (j + 1)).2

theorem earlyPulse_succ (p : DeviceDataHeizung) (out : Outputs) (k : Nat) :
    earlyPulse p out (k + 1) =
      pulseStep p.pwmEnd p.pwmWidth (out.hasPin p.config.port) (earlyPulse p out k) :=
  Function.iterate_succ_apply' ..

theorem earlyOpen_succ (p : DeviceDataHeizung) (out : Outputs) (k : Nat) :
    earlyOpen p out (k + 1) =
      earlyOpen p out k + if (earlyPulse p out (k + 1)).2 = true then 1 else 0 := by
  rw [earlyOpen, earlyOpen, List.range_succ, List.countP_append, List.countP_singleton]

section Tick

variable {undef : Undefined} {b : Board mcu} {p : DeviceDataHeizung} {port id periode : UInt8}

/-- What the next state says about a tick. -/
theorem idle_tick (self : UInt16)
    (after : IdleHeizung port id periode (heizungTimerHandler undef self b p).1) :
    (heizungTimerHandler undef self b p).1.pwmCounter = pulseAfter p ∧
      (heizungTimerHandler undef self b p).1.ventilpflegeCounter = careAfter b.clock p ∧
      modeAfter p = .off ∧ reedAfter p = 0 := by
  have mode := (heizungTimerHandler_timed undef self b p).2.1
  obtain ⟨-, counter, care, reed⟩ := heizungTimerHandler_counters undef self b p
  exact ⟨counter, care, mode.symm.trans after.mode, reed.symm.trans after.window⟩

/-- An evaluation sets the registers for the care. -/
theorem idle_evaluates (undef : Undefined) (self : UInt16) (evaluated : p.timerCounter ≥ 5)
    (mode : modeAfter p = .off) (reed : reedAfter p = 0) :
    (heizungTimerHandler undef self b p).1.pwmEnd = p.config.pwmPeriode.toUInt16 ∧
      (heizungTimerHandler undef self b p).1.pwmWidth =
        if careAfter b.clock p ≠ 0 then p.config.pwmPeriode.toUInt16 else 0 := by
  have before := heizungPrepared_eq b p
  have config := congrArg DeviceDataHeizung.config before
  have care := congrArg DeviceDataHeizung.ventilpflegeCounter before
  have off := (congrArg DeviceDataHeizung.mode before).trans mode
  have closed := (congrArg DeviceDataHeizung.reedHeizStopCounter before).trans reed
  dsimp only at config care
  rw [heizungTimerHandler_eq, heizungPrepared_timer, if_pos evaluated]
  clear before
  generalize heizungPrepared b p = q at config care off closed ⊢
  have window : ¬q.reedHeizStopCounter ≠ 0 := not_not_intro closed
  rw [if_pos off, heizungRegulate, ← config, ← care]
  dsimp only
  rw [off]
  dsimp only
  by_cases running : q.ventilpflegeCounter ≠ 0
  · rw [if_pos running, if_pos running, heizungSetPwm_eq]
    exact ⟨rfl, (if_neg window).trans (full_width _)⟩
  · rw [if_neg running, if_neg running, heizungSetPwm_eq]
    exact ⟨rfl, (if_neg window).trans (width_zero _)⟩

/-- The pin behind a tick. -/
theorem idle_isOn (undef : Undefined) (self : UInt16) (mode : modeAfter p = .off) :
    (heizungTimerHandler undef self b p).2.1.isOn p.config.port =
      if p.timerCounter ≥ 5 then
        decide (careAfter b.clock p ≠ 0) && b.out.hasPin p.config.port
      else (pulseStep p.pwmEnd p.pwmWidth (b.out.hasPin p.config.port)
        (p.pwmCounter, b.out.isOn p.config.port)).2 := by
  rw [heizungTimerHandler_isOn, heizungPulse_isOn]
  exact if_congr (and_iff_left mode) rfl rfl

end Tick

/-! ## The state in a week -/

/-- The first tick with an evaluation. -/
def firstEvaluation (p : DeviceDataHeizung) : Nat := 5 - p.timerCounter.toNat

/-- The ticks behind it in which the valve is open for a care that has begun before the week. -/
def careAtStart (p : DeviceDataHeizung) : Nat :=
  (p.ventilpflegeCounter.toNat + 4 - firstEvaluation p) / 6 * 6

/-- What holds of the counters of every heating that the firmware has initialised. -/
structure CareBounded (p : DeviceDataHeizung) : Prop where
  timer : p.timerCounter.toNat ≤ 5
  care : p.ventilpflegeCounter.toNat ≤ 600

/-- The valve is open in tick `k`, for the record at the beginning of the week. -/
def CaredAt (p : DeviceDataHeizung) (k : Nat) : Prop :=
  CareOpen p.ventilpflegeCounter.toNat (firstEvaluation p) (careBegin p.config.id) k

instance caredAtDecidable (p : DeviceDataHeizung) : DecidablePred (CaredAt p) := fun _ =>
  inferInstanceAs (Decidable (CareOpen ..))

/-- The record and the pins before tick `k` of a week that has begun with `p` and `out`. -/
structure WeekState (p : DeviceDataHeizung) (out : Outputs) (k : Nat) (q : DeviceDataHeizung)
    (now : Outputs) : Prop where
  idle : IdleHeizung p.config.port p.config.id p.config.pwmPeriode q
  timer : q.timerCounter.toNat = (p.timerCounter.toNat + k) % 6
  care : q.ventilpflegeCounter.toNat =
    careLeft p.ventilpflegeCounter.toNat (careBegin p.config.id) k
  hasPin : now.hasPin p.config.port = out.hasPin p.config.port
  early : k ≤ firstEvaluation p → q.pwmEnd = p.pwmEnd ∧ q.pwmWidth = p.pwmWidth ∧
    (q.pwmCounter, now.isOn p.config.port) = earlyPulse p out k
  late : ∀ j, k = j + 1 → firstEvaluation p ≤ j →
    q.pwmEnd = p.config.pwmPeriode.toUInt16 ∧
      q.pwmWidth = (if CaredAt p j then p.config.pwmPeriode.toUInt16 else 0) ∧
      now.isOn p.config.port =
        (decide (CaredAt p j ∧
          (1 ≤ p.config.pwmPeriode ∨ j % 6 = firstEvaluation p % 6)) && out.hasPin p.config.port)

section Week

variable {undef : Undefined} {env : Environment mcu} {i : Nat} {b next : Board mcu}
  {p q : DeviceDataHeizung} {out : Outputs} {k : Nat}

theorem careBegin_facts (id : UInt8) : 6 * 86400 ≤ careBegin id ∧ careBegin id % 6 = 0 := by
  unfold careBegin
  omega

/-- A pulse of full width keeps the pin on when it has a length; one of no width ends at once. -/
theorem pulseStep_cared {periode : UInt8} {cared : Prop} [Decidable cared] {counter : UInt16}
    {pin on : Bool} (kept : 1 ≤ periode → on = (decide cared && pin)) :
    (pulseStep periode.toUInt16 (if cared then periode.toUInt16 else 0) pin (counter, on)).2 =
      (decide (cared ∧ 1 ≤ periode) && pin) := by
  have low (n : UInt16) : n ≥ 0 := UInt16.le_iff_toNat_le.mpr (Nat.zero_le _)
  unfold pulseStep
  dsimp only
  by_cases full : cared
  · rw [if_pos full]
    by_cases positive : 1 ≤ periode
    · have wide : ¬(if counter + 1 ≥ periode.toUInt16 then 0 else counter + 1) ≥
          periode.toUInt16 := by
        split
        · exact UInt16.not_le.mpr (periode_pos_iff.mpr positive)
        · next short => exact short
      rw [if_neg wide, kept positive, decide_eq_true full, decide_eq_true ⟨full, positive⟩,
        Bool.true_and, ite_id]
    · have zero : periode = 0 := UInt8.toNat_inj.mp
        (Nat.lt_one_iff.mp (UInt8.lt_iff_toNat_lt.mp (UInt8.not_le.mp positive)))
      have none : periode.toUInt16 = 0 := by
        rw [zero]
        rfl
      rw [none, if_pos (low _), decide_eq_false fun both => positive both.2]
      rfl
  · rw [if_neg full, if_pos (low _), decide_eq_false fun both => full both.1]
    rfl

/-- The next tick. -/
theorem WeekState.tick (bounded : CareBounded p) (state : WeekState p out k q b.out)
    (undef : Undefined) (self : UInt16) (second : WeekSecond b.clock k)
    (after : IdleHeizung p.config.port p.config.id p.config.pwmPeriode
      (heizungTimerHandler undef self b q).1) :
    WeekState p out (k + 1) (heizungTimerHandler undef self b q).1
      (heizungTimerHandler undef self b q).2.1 := by
  obtain ⟨counter, care, mode, reed⟩ := idle_tick self after
  obtain ⟨late, whole⟩ := careBegin_facts p.config.id
  have left := careAfter_toNat state.idle.mode second bounded.care
    (by rw [state.idle.id]; exact state.care)
  rw [state.idle.id] at left
  have pin := idle_isOn (b := b) undef self mode
  rw [state.idle.port, state.hasPin] at pin
  have begun := timer_toNat undef self b q
  have first : firstEvaluation p = 5 - p.timerCounter.toNat := rfl
  have timer := state.timer
  have small := bounded.timer
  refine ⟨after, ?_, (congrArg UInt16.toNat care).trans left,
    (heizungTimerHandler_hasPin ..).trans state.hasPin, fun early => ?_, fun j here behind => ?_⟩
  · omega
  · have between : ¬q.timerCounter ≥ 5 := fun evaluated => by
      have full : 5 ≤ q.timerCounter.toNat := UInt8.le_iff_toNat_le.mp evaluated
      omega
    obtain ⟨ends, width⟩ := heizungTimerHandler_between (b := b) undef self between reed
    obtain ⟨sameEnd, sameWidth, pulse⟩ := state.early (Nat.le_of_succ_le early)
    refine ⟨ends.trans sameEnd, width.trans sameWidth, ?_⟩
    rw [if_neg between, sameEnd, sameWidth] at pin
    rw [earlyPulse_succ, ← pulse, pin, counter, pulseAfter, sameEnd]
    rfl
  · cases here
    by_cases evaluated : q.timerCounter ≥ 5
    · have full : 5 ≤ q.timerCounter.toNat := UInt8.le_iff_toNat_le.mp evaluated
      have phase : k % 6 = firstEvaluation p % 6 := by omega
      have cared : careAfter b.clock q ≠ 0 ↔ CaredAt p k := by
        have running : careLeft _ _ (k + 1) ≠ 0 ↔ CaredAt p k :=
          careLeft_ne_zero_iff bounded.care (Nat.sub_le ..) late whole phase
        rw [← running, ← left]
        exact not_congr (UInt16.toNat_inj (b := 0)).symm
      obtain ⟨ends, width⟩ := idle_evaluates (b := b) undef self evaluated mode reed
      rw [state.idle.periode] at ends width
      refine ⟨ends, width.trans (if_congr cared rfl rfl), pin.trans ?_⟩
      simp only [if_pos evaluated, cared, phase, or_true, and_true]
    · have early : ¬5 ≤ q.timerCounter.toNat := fun full =>
        evaluated (UInt8.le_iff_toNat_le.mpr full)
      have phase : k % 6 ≠ firstEvaluation p % 6 := by omega
      obtain ⟨m, rfl⟩ : ∃ m, k = m + 1 := Nat.exists_eq_add_one.mpr (by omega)
      have cared : CaredAt p (m + 1) ↔ CaredAt p m :=
        careOpen_succ (Nat.sub_le ..) late bounded.care whole phase
      obtain ⟨sameEnd, sameWidth, on⟩ := state.late m rfl (by omega)
      obtain ⟨ends, width⟩ := heizungTimerHandler_between (b := b) undef self evaluated reed
      refine ⟨ends.trans sameEnd, (width.trans sameWidth).trans (if_congr cared.symm rfl rfl),
        pin.trans ?_⟩
      have kept : 1 ≤ p.config.pwmPeriode → b.out.isOn p.config.port =
          (decide (CaredAt p m) && out.hasPin p.config.port) := fun positive =>
        on.trans (by simp only [positive, true_or, and_true])
      rw [if_neg evaluated, sameEnd, sameWidth, pulseStep_cared kept]
      simp only [cared, phase, or_false]

/-- A step that is no tick. -/
theorem WeekState.of_same {now later : Outputs} {r : DeviceDataHeizung}
    (state : WeekState p out k q now)
    (idle : IdleHeizung p.config.port p.config.id p.config.pwmPeriode r)
    (timer : r.timerCounter = q.timerCounter)
    (care : r.ventilpflegeCounter = q.ventilpflegeCounter)
    (pulse : r.pwmWidth = q.pwmWidth ∧ r.pwmEnd = q.pwmEnd ∧ r.pwmCounter = q.pwmCounter)
    (isOn : later.isOn p.config.port = now.isOn p.config.port)
    (hasPin : later.hasPin p.config.port = now.hasPin p.config.port) :
    WeekState p out k r later := by
  obtain ⟨width, ends, counter⟩ := pulse
  refine ⟨idle, timer ▸ state.timer, care ▸ state.care, hasPin.trans state.hasPin, ?_, ?_⟩
  · rw [width, ends, counter, isOn]
    exact state.early
  · rw [width, ends, isOn]
    exact state.late

/-- The number of ticks before tick `k` in a stretch of some length. -/
def elapsed (k begin_ length : Nat) : Nat := min (k - begin_) length

theorem elapsed_succ (k begin_ length : Nat) :
    elapsed (k + 1) begin_ length =
      elapsed k begin_ length + if begin_ ≤ k ∧ k < begin_ + length then 1 else 0 := by
  unfold elapsed
  split
  · omega
  · omega

/-- Every sixth tick of a stretch. -/
theorem elapsed_sixth {k begin_ length : Nat} (inside : begin_ ≤ k ∧ k < begin_ + length)
    (sixth : k % 6 = begin_ % 6) :
    (elapsed (k + 1) begin_ length + 5) / 6 = (elapsed k begin_ length + 5) / 6 + 1 := by
  unfold elapsed
  omega

theorem elapsed_mono (k begin_ length : Nat) :
    (elapsed k begin_ length + 5) / 6 ≤ (elapsed (k + 1) begin_ length + 5) / 6 := by
  unfold elapsed
  omega

/-- The number of ticks in which the valve has been open before tick `k`; without a pin or with a
pulse of no length the care opens it in the tick of an evaluation at most. -/
structure OpenCount (p : DeviceDataHeizung) (out : Outputs) (k n : Nat) : Prop where
  sound : out.hasPin p.config.port = true ∧ 1 ≤ p.config.pwmPeriode →
    n = earlyOpen p out (min k (firstEvaluation p)) +
      elapsed k (firstEvaluation p) (careAtStart p) +
      elapsed k (careBegin p.config.id + firstEvaluation p) 600
  unsound : ¬(out.hasPin p.config.port = true ∧ 1 ≤ p.config.pwmPeriode) →
    n ≤ min k (firstEvaluation p) +
      (elapsed k (firstEvaluation p) (careAtStart p) + 5) / 6 +
      (elapsed k (careBegin p.config.id + firstEvaluation p) 600 + 5) / 6

/-- A tick before the first evaluation. -/
theorem OpenCount.succ_early {n : Nat} (count : OpenCount p out k n) {now : Outputs}
    (early : k < firstEvaluation p)
    (on : now.isOn p.config.port = (earlyPulse p out (k + 1)).2) :
    OpenCount p out (k + 1) (n + if now.isOn p.config.port = true then 1 else 0) := by
  have care := elapsed_succ k (firstEvaluation p) (careAtStart p)
  have begun := elapsed_succ k (careBegin p.config.id + firstEvaluation p) 600
  rw [if_neg fun inside => Nat.not_le.mpr early inside.1] at care
  rw [if_neg fun inside => Nat.not_le.mpr (Nat.lt_add_left _ early) inside.1] at begun
  constructor
  · intro sound
    have before := count.sound sound
    rw [Nat.min_eq_left (Nat.le_of_lt early)] at before
    rw [Nat.min_eq_left early, earlyOpen_succ, ← on, care, begun]
    omega
  · intro unsound
    have before := count.unsound unsound
    rw [Nat.min_eq_left (Nat.le_of_lt early)] at before
    rw [Nat.min_eq_left early, care, begun]
    split
    · omega
    · omega

/-- The stretches in which the valve is open. -/
theorem caredAt_iff (behind : firstEvaluation p ≤ k) :
    CaredAt p k ↔ (firstEvaluation p ≤ k ∧ k < firstEvaluation p + careAtStart p) ∨
      (careBegin p.config.id + firstEvaluation p ≤ k ∧
        k < careBegin p.config.id + firstEvaluation p + 600) := by
  rw [and_iff_right behind]
  rfl

/-- A tick behind the first evaluation. -/
theorem OpenCount.succ_late {n : Nat} (bounded : CareBounded p) (count : OpenCount p out k n)
    {now : Outputs} (behind : firstEvaluation p ≤ k)
    (on : now.isOn p.config.port = (decide (CaredAt p k ∧
      (1 ≤ p.config.pwmPeriode ∨ k % 6 = firstEvaluation p % 6)) && out.hasPin p.config.port)) :
    OpenCount p out (k + 1) (n + if now.isOn p.config.port = true then 1 else 0) := by
  obtain ⟨late, whole⟩ := careBegin_facts p.config.id
  have few : firstEvaluation p + careAtStart p ≤ careBegin p.config.id + firstEvaluation p := by
    have care := bounded.care
    unfold careAtStart
    omega
  have cared := caredAt_iff behind
  rw [on]
  constructor
  · intro sound
    have before := count.sound sound
    rw [Nat.min_eq_right behind] at before
    rw [Nat.min_eq_right (Nat.le_succ_of_le behind), sound.1, Bool.and_true, elapsed_succ,
      elapsed_succ]
    simp only [sound.2, true_or, and_true, decide_eq_true_eq, cared]
    by_cases start : firstEvaluation p ≤ k ∧ k < firstEvaluation p + careAtStart p
    · rw [if_pos (.inl start), if_pos start, if_neg (by omega)]
      omega
    · rw [if_neg start]
      simp only [start, false_or]
      omega
  · intro unsound
    have before := count.unsound unsound
    rw [Nat.min_eq_right behind] at before
    rw [Nat.min_eq_right (Nat.le_succ_of_le behind)]
    have care := elapsed_mono k (firstEvaluation p) (careAtStart p)
    have begun := elapsed_mono k (careBegin p.config.id + firstEvaluation p) 600
    split
    · next opens =>
        rw [Bool.and_eq_true, decide_eq_true_eq] at opens
        have phase : k % 6 = firstEvaluation p % 6 :=
          opens.1.2.resolve_left fun positive => unsound ⟨opens.2, positive⟩
        rcases cared.mp opens.1.1 with start | now
        · rw [elapsed_sixth start phase]
          omega
        · rw [elapsed_sixth now (by omega)]
          omega
    · omega

theorem OpenCount.succ {n : Nat} (bounded : CareBounded p) (count : OpenCount p out k n)
    {now : Outputs} (state : WeekState p out (k + 1) q now) :
    OpenCount p out (k + 1) (n + if now.isOn p.config.port = true then 1 else 0) := by
  by_cases early : k < firstEvaluation p
  · exact count.succ_early early (congrArg Prod.snd (state.early early).2.2)
  · exact count.succ_late bounded (Nat.le_of_not_lt early)
      (state.late k rfl (Nat.le_of_not_lt early)).2.2

end Week

/-! ## Weeks -/

/-- A step behind which the heating is off with no open window; the rest of the board leaves the
pin alone. -/
structure IdleStep (undef : Undefined) (env : Environment mcu) (i : Nat)
    (port id periode : UInt8) (b : Board mcu) (event : HeizungEvent) (next : Board mcu) : Prop where
  step : HeizungStep undef env i b event next
  idle : AtSlot i (IdleHeizung port id periode) next
  alone : event = .elsewhere → next.out.isOn port = b.out.isOn port ∧
    next.out.hasPin port = b.out.hasPin port

/-- What is seen of a tick: whether the care begins with it, and the valve behind it. -/
structure CareSeen where
  started : Bool
  isOpen : Bool
  deriving DecidableEq

def careSeen (i : Nat) (port : UInt8) (b : Board mcu) (event : HeizungEvent) (next : Board mcu) :
    List CareSeen :=
  match event with
  | .tick => [⟨decide (AtSlot i (CareStarts b.clock) b), next.out.isOn port⟩]
  | _ => []

/-- A step in a week, beside what has been seen of its ticks; the clock goes with the ticks. -/
def WeekStep (undef : Undefined) (env : Environment mcu) (i : Nat) (port id periode : UInt8)
    (s : Board mcu × List CareSeen) (event : HeizungEvent) (t : Board mcu × List CareSeen) :
    Prop :=
  Watched (IdleStep undef env i port id periode) (careSeen i port) s event t ∧
    (event = .tick → WeekSecond s.1.clock s.2.length)

/-- The care begins in one minute, and the valve is open for about 600 seconds. -/
def WeeklyCare (outs : List CareSeen) : Prop :=
  (∃! minute, ∃ k, k / 60 = minute ∧ ∃ seen ∈ outs[k]?, seen.started = true) ∧
    594 ≤ outs.countP CareSeen.isOpen ∧ outs.countP CareSeen.isOpen ≤ 666

/-- What has been seen of a week that has begun with `p` and `out`. -/
def WeekSeen (i : Nat) (p : DeviceDataHeizung) (out : Outputs) (s : Board mcu × List CareSeen) :
    Prop :=
  ∃ q, s.1.devices[i]? = some (.heizung q) ∧ WeekState p out s.2.length q s.1.out ∧
    s.2.map CareSeen.started =
      (List.range s.2.length).map (fun k => decide (k = careBegin p.config.id)) ∧
    OpenCount p out s.2.length (s.2.countP CareSeen.isOpen)

section Run

variable {undef : Undefined} {env : Environment mcu} {i : Nat} {b next : Board mcu}
  {p q : DeviceDataHeizung} {out : Outputs}

theorem atSlot_iff {holds : DeviceDataHeizung → Prop}
    (slot : b.devices[i]? = some (.heizung p)) : AtSlot i holds b ↔ holds p := by
  constructor
  · rintro ⟨q, again, now⟩
    cases slot.symm.trans again
    exact now
  · exact fun now => ⟨p, slot, now⟩

/-- The step lemma. -/
theorem step_week {s t : Board mcu × List CareSeen} {event : HeizungEvent}
    (bounded : CareBounded p)
    (step : WeekStep undef env i p.config.port p.config.id p.config.pwmPeriode s event t)
    (now : WeekSeen i p out s) : WeekSeen i p out t := by
  obtain ⟨⟨⟨taken, idle, alone⟩, seen⟩, clock⟩ := step
  obtain ⟨q, slot, state, starts, count⟩ := now
  obtain ⟨r, found, after⟩ := idle
  cases event with
  | tick =>
      obtain ⟨here, pins⟩ := heizungStep_tick slot taken
      have same := Device.heizung.inj (Option.some.inj (found.symm.trans here))
      have second := clock rfl
      have begins : CareStarts s.1.clock q ↔ s.2.length = careBegin p.config.id := by
        rw [← state.idle.id]
        exact careStarts_iff state.idle.mode second bounded.care
          (by rw [state.idle.id]; exact state.care)
      have next := state.tick bounded undef env.self second (same ▸ after)
      rw [← same, ← pins] at next
      have counted := count.succ bounded next
      have longer : t.2 = s.2 ++ [⟨decide (s.2.length = careBegin p.config.id),
          t.1.out.isOn p.config.port⟩] := by
        rw [seen, careSeen, decide_eq_decide.mpr ((atSlot_iff slot).trans begins)]
      have length : t.2.length = s.2.length + 1 := by
        rw [longer, List.length_append]
        rfl
      refine ⟨r, found, by rwa [length], ?_, ?_⟩
      · rw [length, List.range_succ, List.map_append, ← starts, longer, List.map_append]
        rfl
      · rw [length, longer, List.countP_append, List.countP_singleton]
        exact counted
  | frame f =>
      obtain ⟨r', here, change, pins⟩ := heizungStep_frame slot taken
      obtain rfl := Device.heizung.inj (Option.some.inj (found.symm.trans here))
      obtain ⟨timer, -, care⟩ := change.counters
      have same : t.2 = s.2 := seen.trans (List.append_nil _)
      rw [WeekSeen, same]
      exact ⟨r, found, state.of_same after timer care change.pulse
        (congrArg (·.isOn p.config.port) pins) (congrArg (·.hasPin p.config.port) pins),
        starts, count⟩
  | elsewhere =>
      have here := (heizungStep_elsewhere taken).trans slot
      obtain ⟨isOn, hasPin⟩ := alone rfl
      have same : t.2 = s.2 := seen.trans (List.append_nil _)
      rw [WeekSeen, same]
      exact ⟨q, here, state.of_same state.idle rfl rfl ⟨rfl, rfl, rfl⟩ isOn hasPin, starts,
        count⟩

/-- The run lemma. -/
theorem run_week {events : List HeizungEvent} {outs : List CareSeen}
    (slot : b.devices[i]? = some (.heizung p)) (bounded : CareBounded p)
    (idle : IdleHeizung p.config.port p.config.id p.config.pwmPeriode p)
    (week : Run (WeekStep undef env i p.config.port p.config.id p.config.pwmPeriode) (b, [])
      events (next, outs)) :
    outs.map CareSeen.started =
        (List.range outs.length).map (fun k => decide (k = careBegin p.config.id)) ∧
      OpenCount p b.out outs.length (outs.countP CareSeen.isOpen) := by
  have begun : WeekSeen i p b.out (b, []) := by
    have none : OpenCount p b.out 0 0 :=
      ⟨fun _ => by simp [earlyOpen, elapsed], fun _ => Nat.zero_le _⟩
    refine ⟨p, slot, ⟨idle, ?_, rfl, rfl, fun _ => ⟨rfl, rfl, rfl⟩, fun j zero => nomatch zero⟩,
      rfl, none⟩
    exact (Nat.mod_eq_of_lt (Nat.lt_succ_of_le bounded.timer)).symm
  obtain ⟨-, -, -, starts, count⟩ :=
    week.invariant _ (fun _ _ _ step => step_week bounded step) begun
  exact ⟨starts, count⟩

/-- Every heating that the firmware has initialised. -/
theorem step_bounded {event : HeizungEvent} (step : HeizungStep undef env i b event next)
    (now : AtSlot i CareBounded b) : AtSlot i CareBounded next := by
  obtain ⟨p, slot, bounded⟩ := now
  cases event with
  | tick =>
      refine ⟨_, (heizungStep_tick slot step).1, ?_, ?_⟩
      · have timer := timer_toNat undef env.self b p
        have small := bounded.timer
        omega
      · rw [(heizungTimerHandler_counters undef env.self b p).2.2.1, careAfter]
        split
        · next running =>
            rw [uint16_toNat_pred fun zero => absurd (zero ▸ running) (by decide)]
            exact Nat.le_trans (Nat.sub_le ..) bounded.care
        · split
          · exact Nat.le_refl 600
          · exact Nat.zero_le _
  | frame f =>
      obtain ⟨q, here, change, -⟩ := heizungStep_frame slot step
      obtain ⟨timer, -, care⟩ := change.counters
      exact ⟨q, here, timer ▸ bounded.timer, care ▸ bounded.care⟩
  | elsewhere => exact ⟨p, (heizungStep_elsewhere step).trans slot, bounded⟩

theorem run_bounded {first : Board mcu} {events : List HeizungEvent} {config : EdsHeizungBlock}
    {it : Nat} (start : first.devices[i]? = some (.heizung (heizungInit config it)))
    (run : Run (HeizungStep undef env i) first events b)
    (slot : b.devices[i]? = some (.heizung p)) : CareBounded p :=
  (atSlot_iff slot).mp <| run.invariant _ (fun _ _ _ step => step_bounded step)
    ⟨_, start, Nat.zero_le _, Nat.zero_le _⟩

end Run

/-- The ticks of a week in which the valve is open, for the state at its beginning: those before
the first evaluation, those of a care that is still running, and those of the care of the week. -/
def careTicks (p : DeviceDataHeizung) (out : Outputs) : Nat :=
  earlyOpen p out (firstEvaluation p) + careAtStart p +
    min 600 ((240 - p.config.id.toNat) * 180 - firstEvaluation p)

/-- The heating has a pin and a pulse, its minute lies within the day, and the care of the week
and what is left of the one before are neither too short nor too long. -/
structure CareSound (p : DeviceDataHeizung) (out : Outputs) : Prop where
  pin : out.hasPin p.config.port = true
  periode : 1 ≤ p.config.pwmPeriode
  id : p.config.id ≤ 239
  enough : 594 ≤ careTicks p out
  few : careTicks p out ≤ 666

section Outcome

variable {p : DeviceDataHeizung} {out : Outputs} {outs : List CareSeen}

theorem started_iff {k : Nat}
    (starts : outs.map CareSeen.started =
      (List.range outs.length).map (fun k => decide (k = careBegin p.config.id))) :
    (∃ seen ∈ outs[k]?, seen.started = true) ↔
      k < outs.length ∧ k = careBegin p.config.id := by
  have here := congrArg (·[k]?) starts
  rw [List.getElem?_map, List.getElem?_map] at here
  constructor
  · rintro ⟨seen, found, started⟩
    have inside : k < outs.length := (List.getElem?_eq_some_iff.mp found).1
    rw [found, List.getElem?_range inside, Option.map_some, Option.map_some, started] at here
    exact ⟨inside, of_decide_eq_true (Option.some.inj here).symm⟩
  · rintro ⟨inside, begins⟩
    rw [List.getElem?_range inside, Option.map_some, decide_eq_true begins] at here
    exact Option.map_eq_some_iff.mp here

/-- The minute in which the care begins. -/
theorem oneMinute_iff
    (starts : outs.map CareSeen.started =
      (List.range outs.length).map (fun k => decide (k = careBegin p.config.id)))
    (whole : outs.length = weekSeconds) :
    (∃! minute, ∃ k, k / 60 = minute ∧ ∃ seen ∈ outs[k]?, seen.started = true) ↔
      p.config.id ≤ 239 := by
  have day : careBegin p.config.id < weekSeconds ↔ p.config.id.toNat ≤ 239 := by
    unfold careBegin weekSeconds
    omega
  simp only [started_iff starts, whole]
  rw [UInt8.le_iff_toNat_le]
  change _ ↔ p.config.id.toNat ≤ 239
  rw [← day]
  constructor
  · rintro ⟨-, ⟨k, -, inside, rfl⟩, -⟩
    exact inside
  · intro inside
    refine ⟨_, ⟨_, rfl, inside, rfl⟩, ?_⟩
    rintro minute ⟨k, rfl, -, rfl⟩
    rfl

theorem weeklyCare_iff (bounded : CareBounded p)
    (starts : outs.map CareSeen.started =
      (List.range outs.length).map (fun k => decide (k = careBegin p.config.id)))
    (count : OpenCount p out outs.length (outs.countP CareSeen.isOpen))
    (whole : outs.length = weekSeconds) : WeeklyCare outs ↔ CareSound p out := by
  have first : firstEvaluation p ≤ 5 := Nat.sub_le ..
  have care := bounded.care
  have few : careAtStart p ≤ 605 := by
    unfold careAtStart
    omega
  have before : min weekSeconds (firstEvaluation p) = firstEvaluation p :=
    Nat.min_eq_right (by unfold weekSeconds; omega)
  have old : elapsed weekSeconds (firstEvaluation p) (careAtStart p) = careAtStart p := by
    unfold elapsed weekSeconds
    omega
  rw [whole] at count
  rw [WeeklyCare, oneMinute_iff starts whole]
  by_cases sound : out.hasPin p.config.port = true ∧ 1 ≤ p.config.pwmPeriode
  · have new : elapsed weekSeconds (careBegin p.config.id + firstEvaluation p) 600 =
        min 600 ((240 - p.config.id.toNat) * 180 - firstEvaluation p) := by
      unfold elapsed weekSeconds careBegin
      omega
    have total := count.sound sound
    rw [before, old, new] at total
    change _ = careTicks p out at total
    rw [total]
    exact ⟨fun ⟨id, enough, few⟩ => ⟨sound.1, sound.2, id, enough, few⟩,
      fun cares => ⟨cares.id, cares.enough, cares.few⟩⟩
  · have total := count.unsound sound
    have new : elapsed weekSeconds (careBegin p.config.id + firstEvaluation p) 600 ≤ 600 :=
      Nat.min_le_right ..
    rw [before, old] at total
    refine iff_of_false (fun cares => ?_) fun cares => sound ⟨cares.pin, cares.periode⟩
    have enough := cares.2.1
    omega

end Outcome

/-- In a week of a heating that is off the care of its valve begins in one minute and opens the
valve for about 600 seconds exactly when its minute lies within the day and the ticks of the care
add up. -/
theorem weekly_care_iff {undef : Undefined} {env : Environment mcu} {i : Nat}
    {first b last : Board mcu} {before events : List HeizungEvent} {config : EdsHeizungBlock}
    {it : Nat} {p : DeviceDataHeizung} {outs : List CareSeen}
    (start : first.devices[i]? = some (.heizung (heizungInit config it)))
    (run : Run (HeizungStep undef env i) first before b)
    (slot : b.devices[i]? = some (.heizung p))
    (idle : p.mode = .off ∧ p.reedHeizStopCounter = 0)
    (week : Run (WeekStep undef env i p.config.port p.config.id p.config.pwmPeriode) (b, [])
      events (last, outs)) (whole : outs.length = weekSeconds) :
    WeeklyCare outs ↔ CareSound p b.out := by
  have bounded := run_bounded start run slot
  obtain ⟨starts, count⟩ := run_week slot bounded ⟨rfl, rfl, rfl, idle.1, idle.2⟩ week
  exact weeklyCare_iff bounded starts count whole

/-- A board with a clock. -/
def weekClock (k : Nat) : RtcClock where
  dayOfWeek := UInt8.ofNat (k / 86400 + 1)
  hour := UInt8.ofNat (k / 3600 % 24)
  minute := UInt8.ofNat (k / 60 % 60)
  second := UInt8.ofNat (k % 60)
  dayOfMonth := 1
  monthOfYear := 1
  year := 8

theorem weekClock_second {k : Nat} (inside : k < weekSeconds) : WeekSecond (weekClock k) k := by
  unfold weekSeconds at inside
  refine ⟨inside, ?_, ?_, ?_, ?_⟩
  · rw [weekClock, UInt8.toNat_ofNat']
    omega
  · rw [weekClock, UInt8.toNat_ofNat']
    omega
  · rw [weekClock, UInt8.toNat_ofNat']
    omega
  · rw [weekClock, UInt8.toNat_ofNat']
    omega

/-- Without a countdown a heating stays off. -/
theorem IdleHeizung.tick {port id periode : UInt8} {b : Board mcu} {p : DeviceDataHeizung}
    (idle : IdleHeizung port id periode p) (untimed : p.durationCounter = 0) (undef : Undefined)
    (self : UInt16) :
    IdleHeizung port id periode (heizungTimerHandler undef self b p).1 ∧
      (heizungTimerHandler undef self b p).1.durationCounter = 0 := by
  obtain ⟨config, mode, duration⟩ := heizungTimerHandler_timed undef self b p
  obtain ⟨-, -, -, reed⟩ := heizungTimerHandler_counters undef self b p
  rw [modeAfter, if_neg (by rw [untimed]; decide), idle.mode] at mode
  rw [reedAfter, idle.window] at reed
  rw [durationAfter, untimed] at duration
  refine ⟨⟨?_, ?_, ?_, mode, reed⟩, duration⟩
  · rw [config, idle.port]
  · rw [config, idle.id]
  · rw [config, idle.periode]

/-- A board that only ticks, beside a clock. -/
theorem exists_run_week (undef : Undefined) (env : Environment mcu) {i : Nat}
    {port id periode : UInt8} {b : Board mcu} {p : DeviceDataHeizung}
    (slot : b.devices[i]? = some (.heizung p)) (idle : IdleHeizung port id periode p)
    (untimed : p.durationCounter = 0) (n : Nat) (inside : n ≤ weekSeconds) :
    ∃ events last outs q, Run (WeekStep undef env i port id periode) (b, []) events (last, outs) ∧
      outs.length = n ∧ last.devices[i]? = some (.heizung q) ∧ IdleHeizung port id periode q ∧
      q.durationCounter = 0 := by
  induction n with
  | zero => exact ⟨[], b, [], p, .nil _, rfl, slot, idle, untimed⟩
  | succ n ih =>
      obtain ⟨events, last, outs, q, run, length, here, still, none⟩ :=
        ih (Nat.le_of_succ_le inside)
      have set_ : HeizungStep undef env i last .elsewhere { last with clock := weekClock n } :=
        .elsewhere rfl
      have there : { last with clock := weekClock n }.devices[i]? = some (.heizung q) := here
      obtain ⟨next, step⟩ : ∃ next, HeizungStep undef env i
          { last with clock := weekClock n } .tick next := ⟨_, heizungStep_ticked there⟩
      obtain ⟨after, later⟩ := still.tick (b := { last with clock := weekClock n }) none undef
        env.self
      have ticked := (heizungStep_tick there step).1
      have clock : WeekStep undef env i port id periode (last, outs) .elsewhere
          ({ last with clock := weekClock n }, outs) :=
        ⟨⟨⟨set_, ⟨q, here, still⟩, fun _ => ⟨rfl, rfl⟩⟩, (List.append_nil _).symm⟩,
          fun other => nomatch other⟩
      have tick : WeekStep undef env i port id periode ({ last with clock := weekClock n }, outs)
          .tick (next, outs ++ careSeen i port { last with clock := weekClock n } .tick next) :=
        ⟨⟨⟨step, ⟨_, ticked, after⟩, fun other => nomatch other⟩, rfl⟩, fun _ => by
          rw [length]
          exact weekClock_second inside⟩
      refine ⟨_, _, _, _, Run.append_iff.mpr ⟨_, run, .cons clock (.single tick)⟩, ?_, ticked,
        after, later⟩
      rw [List.length_append, length]
      rfl

/-- The valve of the heating 7 is cared for on Sunday at 12:21. -/
theorem kitchen_weeklyCare :
    ∃ events last outs,
      Run (WeekStep zeroUndefined quietEnvironment 0 3 7 60)
        (kitchenBoard (kitchenHeizung 7 60), []) events (last, outs) ∧
      outs.length = weekSeconds ∧ WeeklyCare outs := by
  have slot : (kitchenBoard (kitchenHeizung 7 60)).devices[0]? =
      some (.heizung (kitchenHeizung 7 60)) := rfl
  have idle : IdleHeizung 3 7 60 (kitchenHeizung 7 60) := ⟨rfl, rfl, rfl, rfl, rfl⟩
  obtain ⟨events, last, outs, -, week, whole, -⟩ := exists_run_week zeroUndefined quietEnvironment
    slot idle rfl weekSeconds (Nat.le_refl _)
  refine ⟨events, last, outs, week, whole,
    (weekly_care_iff slot (.nil _) slot ⟨rfl, rfl⟩ week whole).mpr ?_⟩
  exact ⟨by decide, by decide, by decide, by decide +kernel, by decide +kernel⟩

/-- The minute of the heating 240 lies behind the end of Sunday. -/
theorem late_kitchen_uncared :
    ∃ events last outs,
      Run (WeekStep zeroUndefined quietEnvironment 0 3 240 60)
        (kitchenBoard (kitchenHeizung 240 60), []) events (last, outs) ∧
      outs.length = weekSeconds ∧ ¬WeeklyCare outs := by
  have slot : (kitchenBoard (kitchenHeizung 240 60)).devices[0]? =
      some (.heizung (kitchenHeizung 240 60)) := rfl
  have idle : IdleHeizung 3 240 60 (kitchenHeizung 240 60) := ⟨rfl, rfl, rfl, rfl, rfl⟩
  obtain ⟨events, last, outs, -, week, whole, -⟩ := exists_run_week zeroUndefined quietEnvironment
    slot idle rfl weekSeconds (Nat.le_refl _)
  have bounded : CareBounded (kitchenHeizung 240 60) := ⟨by decide, by decide⟩
  obtain ⟨starts, count⟩ := run_week slot bounded idle week
  refine ⟨events, last, outs, week, whole, fun cares => ?_⟩
  exact absurd ((weeklyCare_iff bounded starts count whole).mp cares).id (by decide)

end Hcan.Hauselektrik
