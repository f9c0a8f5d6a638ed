import Hcan.Hauselektrik.Ventilation
import Hcan.Hauselektrik.PowerTimer
import Hcan.Library.TimedValue

/-!
# The countdown of the extractor hood

Window and release share one countdown.  The hood is always on a timer except behind a release of no
minutes, and a release lasts its time except when a contact message ends or shortens it.
-/

namespace Hcan.Hauselektrik

open Hcan.Canix Hcan.Controller Hcan.Library

namespace Hood

def step (hood : Hood) : DeviceCall → Hood
  | .frame frame => hood.canCallback frame
  | .tick => hood.timerHandler

/-- The hood after some seconds without a frame. -/
def quiet (hood : Hood) (seconds : ℕ) : Hood := timerHandler^[seconds] hood

/-- The output with the seconds that are left. -/
def timedOutput (hood : Hood) : TimedValue Bool := ⟨hood.isOn, hood.p.counter.toNat⟩

/-- The seconds that a release loads. -/
def releaseTime (config : EdsDunstabzugportBlock) : ℕ := config.freischaltZeit.toNat * 60

/-- A press of the release button. -/
def releases (config : EdsDunstabzugportBlock) (frame : CanixFrame) : Prop :=
  frame.data[1] = hcanHesTasterDown ∧ config.freischaltTaster = frame.data[2]

/-- A contact message that switches the hood on for seven seconds. -/
def opens (config : EdsDunstabzugportBlock) (frame : CanixFrame) : Prop :=
  (frame.data[1] = hcanHesReedkontaktOffen ∨
      frame.data[1] = hcanHesReedkontaktStateChange ∧ frame.data[3] ≠ 0) ∧
    (config.reedGruppe0 = frame.data[2] ∨ config.reedGruppe1 = frame.data[2])

/-- A contact message that switches the hood off. -/
def closes (p : DeviceDataDunstabzugport) (frame : CanixFrame) : Prop :=
  frame.data[1] = hcanHesReedkontaktStateChange ∧ frame.data[3] = 0 ∧
    (p.config.reedGruppe0 = frame.data[2] ∧ p.stateReed1 = false ∨
      p.config.reedGruppe1 = frame.data[2] ∧ p.stateReed0 = false)

instance decidableReleases (config : EdsDunstabzugportBlock) (frame : CanixFrame) :
    Decidable (releases config frame) := by unfold releases; infer_instance

instance decidableOpens (config : EdsDunstabzugportBlock) (frame : CanixFrame) :
    Decidable (opens config frame) := by unfold opens; infer_instance

instance decidableCloses (p : DeviceDataDunstabzugport) (frame : CanixFrame) :
    Decidable (closes p frame) := by unfold closes; infer_instance

section Effects

variable {hood : Hood} {frame : CanixFrame}

theorem timedOutput_ein (hood : Hood) (seconds : UInt16) :
    (hood.ein seconds).timedOutput = ⟨hood.out.hasPin hood.p.config.port, seconds.toNat⟩ := by
  have on : (hood.ein seconds).isOn = hood.out.hasPin hood.p.config.port := by
    change (darlingtonoutputSetpin hood.out hood.p.config.port true).isOn hood.p.config.port = _
    rw [isOn_setpin, isOn_or_hasPin, Bool.true_and]
  unfold timedOutput
  rw [on]
  rfl

theorem timedOutput_aus (hood : Hood) : hood.aus.timedOutput = ⟨false, 0⟩ := by
  have off : hood.aus.isOn = false := isOn_setpin_off hood.out hood.p.config.port
  unfold timedOutput
  rw [off]
  rfl

/-- The report that a contact has been opened. -/
theorem timedOutput_stateChange_open (opened : frame.data[3] ≠ 0) (reedGruppe : UInt8)
    (other : Bool) : (hood.stateChange frame reedGruppe other).timedOutput =
      if reedGruppe = frame.data[2] then ⟨hood.out.hasPin hood.p.config.port, 7⟩
      else hood.timedOutput := by
  unfold stateChange
  split
  · rw [timedOutput_ein]
    rfl
  · rfl

/-- The report that a contact has been closed. -/
theorem timedOutput_stateChange_closed (closed : frame.data[3] = 0) (reedGruppe : UInt8)
    (other : Bool) : (hood.stateChange frame reedGruppe other).timedOutput =
      if reedGruppe = frame.data[2] ∧ other = false then ⟨false, 0⟩ else hood.timedOutput := by
  unfold stateChange
  rw [if_neg (not_not.mpr closed)]
  by_cases own : reedGruppe = frame.data[2]
  · rw [if_pos own]
    by_cases shut : other = false
    · rw [if_pos shut, if_pos ⟨own, shut⟩, timedOutput_aus]
    · rw [if_neg shut, if_neg fun both => shut both.2]
  · rw [if_neg own, if_neg fun both => own both.1]

theorem releaseTime_toNat (config : EdsDunstabzugportBlock) :
    (UInt16.ofNat (config.freischaltZeit.toNat * 60)).toNat = releaseTime config := by
  have small := config.freischaltZeit.toNat_lt
  exact UInt16.toNat_ofNat_of_lt' (show _ < 65536 by omega)

/-- The message of an open contact. -/
theorem timedOutput_offen (offen : frame.data[1] = hcanHesReedkontaktOffen) :
    (hood.canCallback frame).timedOutput =
      if opens hood.p.config frame then ⟨hood.out.hasPin hood.p.config.port, 7⟩
      else hood.timedOutput := by
  unfold canCallback
  rw [if_pos offen]
  by_cases first : hood.p.config.reedGruppe0 = frame.data[2]
  · rw [if_pos first, if_pos ⟨.inl offen, .inl first⟩, timedOutput_ein]
    rfl
  · rw [if_neg first]
    by_cases second : hood.p.config.reedGruppe1 = frame.data[2]
    · rw [if_pos second, if_pos ⟨.inl offen, .inr second⟩, timedOutput_ein]
      rfl
    · rw [if_neg second, if_neg]
      exact fun opening => opening.2.elim first second

/-- The report of a contact. -/
theorem timedOutput_change (change : frame.data[1] = hcanHesReedkontaktStateChange) :
    (hood.canCallback frame).timedOutput =
      if opens hood.p.config frame then ⟨hood.out.hasPin hood.p.config.port, 7⟩
      else if closes hood.p frame then ⟨false, 0⟩
      else hood.timedOutput := by
  have noOffen : frame.data[1] ≠ hcanHesReedkontaktOffen := by
    rw [change]
    decide
  unfold canCallback
  rw [if_neg noOffen, if_pos change]
  dsimp only
  by_cases closed : frame.data[3] = 0
  · have noOpening : ¬ opens hood.p.config frame := by
      rintro ⟨offen | opened, -⟩
      · exact noOffen offen
      · exact opened.2 closed
    rw [if_neg noOpening, timedOutput_stateChange_closed closed,
      timedOutput_stateChange_closed closed]
    by_cases second : hood.p.config.reedGruppe1 = frame.data[2] ∧ hood.p.stateReed0 = false
    · rw [if_pos second, if_pos ⟨change, closed, .inr second⟩]
    · rw [if_neg second]
      exact if_congr ⟨fun first => ⟨change, closed, .inl first⟩,
        fun closing => closing.2.2.resolve_right second⟩ rfl rfl
  · have noClosing : ¬ closes hood.p frame := fun closing => closed closing.2.1
    rw [if_neg noClosing, timedOutput_stateChange_open closed,
      timedOutput_stateChange_open closed, stateChange_config, stateChange_out]
    by_cases second : hood.p.config.reedGruppe1 = frame.data[2]
    · rw [if_pos second, if_pos ⟨.inr ⟨change, closed⟩, .inr second⟩]
    · rw [if_neg second]
      exact if_congr ⟨fun first => ⟨.inr ⟨change, closed⟩, .inl first⟩,
        fun opening => opening.2.resolve_right second⟩ rfl rfl

/-- The other messages, of which only the press of the release counts. -/
theorem timedOutput_press (noOffen : frame.data[1] ≠ hcanHesReedkontaktOffen)
    (noChange : frame.data[1] ≠ hcanHesReedkontaktStateChange) :
    (hood.canCallback frame).timedOutput =
      if releases hood.p.config frame then
        ⟨hood.out.hasPin hood.p.config.port, releaseTime hood.p.config⟩
      else hood.timedOutput := by
  unfold canCallback
  rw [if_neg noOffen, if_neg noChange]
  by_cases press : frame.data[1] = hcanHesTasterDown
  · rw [if_pos press]
    by_cases own : hood.p.config.freischaltTaster = frame.data[2]
    · rw [if_pos own, if_pos ⟨press, own⟩, timedOutput_ein, releaseTime_toNat]
    · rw [if_neg own, if_neg fun both => own both.2]
  · rw [if_neg press, if_neg fun both => press both.1]

theorem not_releases (other : frame.data[1] ≠ hcanHesTasterDown) :
    ¬ releases hood.p.config frame := fun both => other both.1

/-- What a frame does to the output and to its timer. -/
theorem timedOutput_canCallback (hood : Hood) (frame : CanixFrame) :
    (hood.canCallback frame).timedOutput =
      if releases hood.p.config frame then
        ⟨hood.out.hasPin hood.p.config.port, releaseTime hood.p.config⟩
      else if opens hood.p.config frame then ⟨hood.out.hasPin hood.p.config.port, 7⟩
      else if closes hood.p frame then ⟨false, 0⟩
      else hood.timedOutput := by
  by_cases offen : frame.data[1] = hcanHesReedkontaktOffen
  · have noPress : frame.data[1] ≠ hcanHesTasterDown := by
      rw [offen]
      decide
    have noClosing : ¬ closes hood.p frame := by
      rintro ⟨change, -⟩
      rw [offen] at change
      exact absurd change (by decide)
    rw [if_neg (not_releases noPress), if_neg noClosing, timedOutput_offen offen]
  · by_cases change : frame.data[1] = hcanHesReedkontaktStateChange
    · have noPress : frame.data[1] ≠ hcanHesTasterDown := by
        rw [change]
        decide
      rw [if_neg (not_releases noPress), timedOutput_change change]
    · have noOpening : ¬ opens hood.p.config frame := by
        rintro ⟨offen' | opened, -⟩
        · exact offen offen'
        · exact change opened.1
      have noClosing : ¬ closes hood.p frame := fun closing => change closing.1
      rw [if_neg noOpening, if_neg noClosing, timedOutput_press offen change]

/-- A second is a tick of the timer of the output. -/
theorem timedOutput_timerHandler (hood : Hood) :
    hood.timerHandler.timedOutput = hood.timedOutput.tick fun _ => false := by
  unfold timerHandler
  by_cases running : hood.p.counter > 0
  · have ticks : hood.timedOutput.tick (fun _ => false) = _ :=
      TimedValue.tick_word (UInt16.pos_iff_ne_zero.mp running)
    rw [if_pos running, ticks]
    by_cases last : hood.p.counter - 1 = 0
    · rw [if_pos last, if_pos last, timedOutput_aus, last]
      rfl
    · rw [if_neg last, if_neg last]
      rfl
  · have stopped : hood.p.counter = 0 := by
      by_contra left
      exact running (UInt16.pos_iff_ne_zero.mpr left)
    rw [if_neg running]
    unfold timedOutput
    rw [stopped]
    rfl

theorem timedOutput_quiet (hood : Hood) (seconds : ℕ) :
    (hood.quiet seconds).timedOutput =
      (TimedValue.tick fun _ => false)^[seconds] hood.timedOutput := by
  induction seconds with
  | zero => rfl
  | succ seconds ih =>
      unfold quiet at ih ⊢
      rw [Function.iterate_succ_apply', Function.iterate_succ_apply', timedOutput_timerHandler, ih]

theorem step_config (hood : Hood) (call : DeviceCall) :
    (hood.step call).p.config = hood.p.config := by
  cases call with
  | frame frame => exact canCallback_config hood frame
  | tick => exact timerHandler_config hood

theorem step_hasPin (hood : Hood) (call : DeviceCall) (n : UInt8) :
    (hood.step call).out.hasPin n = hood.out.hasPin n := by
  cases call with
  | frame frame => exact canCallback_hasPin hood frame n
  | tick => exact timerHandler_hasPin hood n

end Effects

/-! ## Always on a timer -/

/-- The hood is on only with seconds left, and goes off by itself when they are over. -/
def OnTimer (hood : Hood) : Prop :=
  hood.isOn = true → 0 < hood.p.counter.toNat ∧
    ∀ later, hood.p.counter.toNat ≤ later → (hood.quiet later).isOn = false

/-- The record and the pins behind `init`, and behind every run from it. -/
structure Belongs (config : EdsDunstabzugportBlock) (out : Outputs) (hood : Hood) : Prop where
  record : hood.p.config = config
  pin : hood.out.hasPin config.port = out.hasPin config.port

section Timer

variable {hood : Hood} {config : EdsDunstabzugportBlock} {out : Outputs} {call : DeviceCall}

theorem belongs_init : Belongs config out (init config out) := ⟨rfl, hasPin_setpin ..⟩

theorem belongs_step (belongs : Belongs config out hood) : Belongs config out (hood.step call) :=
  ⟨(step_config hood call).trans belongs.record, (step_hasPin hood call _).trans belongs.pin⟩

theorem onTimer_iff :
    OnTimer hood ↔ (hood.isOn = true → hood.p.counter.toNat ≠ 0) := by
  refine ⟨fun timed on => Nat.ne_of_gt (timed on).1, fun timed on => ?_⟩
  refine ⟨Nat.pos_of_ne_zero (timed on), fun later enough => ?_⟩
  have value := congrArg TimedValue.value (timedOutput_quiet hood later)
  rw [TimedValue.value_ticks enough] at value
  exact value.trans (if_neg (timed on))

theorem onTimer_init : OnTimer (init config out) :=
  onTimer_iff.mpr fun on => absurd on (by
    rw [show (init config out).isOn = false from isOn_setpin_off out config.port]
    exact Bool.noConfusion)

/-- A call leaves the hood on its timer exactly when it is no release of no minutes. -/
theorem onTimer_step_iff (timed : OnTimer hood) (call : DeviceCall) :
    OnTimer (hood.step call) ↔ ∀ frame, call = .frame frame →
      releases hood.p.config frame → hood.out.hasPin hood.p.config.port = true →
        hood.p.config.freischaltZeit ≠ 0 := by
  rw [onTimer_iff] at timed ⊢
  change (hood.step call).timedOutput.value = true → (hood.step call).timedOutput.left ≠ 0 ↔ _
  change hood.timedOutput.value = true → hood.timedOutput.left ≠ 0 at timed
  cases call with
  | tick =>
      refine iff_of_true (fun on => ?_) fun _ same => DeviceCall.noConfusion same
      change hood.timerHandler.timedOutput.value = true at on
      change hood.timerHandler.timedOutput.left ≠ 0
      rw [timedOutput_timerHandler, TimedValue.value_tick] at on
      rw [timedOutput_timerHandler, TimedValue.left_tick]
      split_ifs at on with last
      have running := timed on
      omega
  | frame frame =>
      change (hood.canCallback frame).timedOutput.value = true →
        (hood.canCallback frame).timedOutput.left ≠ 0 ↔ _
      rw [timedOutput_canCallback]
      by_cases release : releases hood.p.config frame
      · rw [if_pos release]
        change (hood.out.hasPin hood.p.config.port = true → releaseTime hood.p.config ≠ 0) ↔ _
        have zero : releaseTime hood.p.config = 0 ↔ hood.p.config.freischaltZeit = 0 := by
          rw [← UInt8.toNat_inj]
          change _ * 60 = 0 ↔ _ = 0
          omega
        constructor
        · intro timed other same _ pin
          exact (not_congr zero).mp (timed pin)
        · intro fits pin
          exact (not_congr zero).mpr (fits frame rfl release pin)
      · refine iff_of_true ?_ fun other same release' =>
          absurd (DeviceCall.frame.inj same ▸ release') release
        rw [if_neg release]
        split_ifs
        · exact fun _ => Nat.succ_ne_zero 6
        · exact False.elim
        · exact timed

end Timer

end Hood

/-- In a run from the initialisation the hood is always on a timer exactly when no release with a
time of no minutes is pressed. -/
theorem hood_onTimer_iff (config : EdsDunstabzugportBlock) (out : Outputs)
    (calls : List DeviceCall) :
    AlwaysHolds Hood.step Hood.OnTimer (.init config out) calls ↔
      (config.freischaltZeit = 0 → out.hasPin config.port = true →
        ∀ frame, .frame frame ∈ calls → ¬ Hood.releases config frame) := by
  rw [alwaysHolds_iff Hood.onTimer_init fun _ call timed => Hood.onTimer_step_iff timed call,
    alwaysFits_congr_of_holds (Hood.Belongs config out) Hood.belongs_init
      (fun _ _ => Hood.belongs_step) fun hood call belongs => by
        rw [belongs.record, belongs.pin],
    alwaysFits_forall]
  constructor
  · intro fits zero pin frame inside release
    exact fits _ inside frame rfl release pin zero
  · rintro fits _ inside frame rfl release pin zero
    exact fits zero pin frame inside release

/-- A hood with two contacts. -/
def kitchen (freischaltZeit : UInt8) : EdsDunstabzugportBlock where
  port := 0
  reedGruppe0 := 1
  reedGruppe1 := 2
  freischaltTaster := 9
  freischaltZeit := freischaltZeit

/-- The press of its release button. -/
def kitchenPress : CanixFrame := hesFrame 5 hcanMulticastInfo 3 hcanHesTasterDown 9 0 0 0 0 0

/-- The report of its first contact. -/
def kitchenContact (offen : UInt8) : CanixFrame :=
  hesFrame 5 hcanMulticastInfo 4 hcanHesReedkontaktStateChange 1 offen 0 0 0 0

/-- A release of no minutes switches the hood on without a timer. -/
theorem kitchen_noTimer :
    (runAll Hood.step (.init (kitchen 0) (.reset 0 0 0 0)) [.frame kitchenPress]).isOn = true ∧
      ¬ Hood.OnTimer
        (runAll Hood.step (.init (kitchen 0) (.reset 0 0 0 0)) [.frame kitchenPress]) := by
  have on : (runAll Hood.step (.init (kitchen 0) (.reset 0 0 0 0))
      [.frame kitchenPress]).isOn = true := by decide +kernel
  refine ⟨on, fun timed => ?_⟩
  have running := Hood.onTimer_iff.mp timed on
  revert running
  decide +kernel

/-! ## The time of a release -/

/-- A hood behind a press of its release button. -/
structure Release where
  hood : Hood
  /-- The seconds since the press. -/
  seconds : ℕ
  /-- The seconds since the opening message that has loaded the timer last. -/
  opened : Option ℕ

namespace Release

/-- The hood in the moment of the press. -/
def pressed (hood : Hood) (press : CanixFrame) : Release := ⟨hood.canCallback press, 0, none⟩

def step (s : Release) : DeviceCall → Release
  | .tick => ⟨s.hood.timerHandler, s.seconds + 1, s.opened.map (· + 1)⟩
  | .frame frame =>
      { s with
        hood := s.hood.canCallback frame
        opened := if Hood.releases s.hood.p.config frame then none
          else if Hood.opens s.hood.p.config frame then some 0
          else s.opened }

/-- The output is on during the time of the release. -/
def Lasts (time : ℕ) (s : Release) : Prop := s.seconds < time → s.hood.isOn = true

/-- During the time of the release no contact message switches the hood off, and none is six
seconds old in a second that is not the last one. -/
def Fits (time : ℕ) (s : Release) : DeviceCall → Prop
  | .tick => s.seconds + 1 < time → s.opened ≠ some 6
  | .frame frame => s.seconds < time → Hood.releases s.hood.p.config frame ∨
      Hood.opens s.hood.p.config frame ∨ ¬ Hood.closes s.hood.p frame

/-- During the release the hood is on, with what is left of seven seconds behind an opening message
and the rest of the release otherwise. -/
structure Timed (config : EdsDunstabzugportBlock) (s : Release) : Prop where
  record : s.hood.p.config = config
  pin : s.hood.out.hasPin config.port = true
  on : s.seconds < Hood.releaseTime config → s.hood.timedOutput.value = true
  left : s.seconds < Hood.releaseTime config → match s.opened with
    | none => Hood.releaseTime config ≤ s.hood.timedOutput.left + s.seconds
    | some age => age < 7 ∧ s.hood.timedOutput.left + age = 7

section Release

variable {config : EdsDunstabzugportBlock} {s : Release} {call : DeviceCall}

theorem timed_pressed {hood : Hood} {press : CanixFrame} (record : hood.p.config = config)
    (pin : hood.out.hasPin config.port = true) (release : Hood.releases config press) :
    Timed config (pressed hood press) := by
  have loaded : (pressed hood press).hood.timedOutput = ⟨true, Hood.releaseTime config⟩ := by
    refine (Hood.timedOutput_canCallback hood press).trans ?_
    rw [record, if_pos release, pin]
  refine ⟨(canCallback_config hood press).trans record, (canCallback_hasPin ..).trans pin,
    fun _ => ?_, fun _ => ?_⟩
  · rw [loaded]
  · rw [loaded]
    exact Nat.le_refl _

theorem lasts_of_timed (timed : Timed config s) : Lasts (Hood.releaseTime config) s := timed.on

/-- A step leaves the hood on exactly when its call fits. -/
theorem lasts_step_iff (timed : Timed config s) (call : DeviceCall) :
    Lasts (Hood.releaseTime config) (s.step call) ↔ Fits (Hood.releaseTime config) s call := by
  cases call with
  | tick =>
      change (s.seconds + 1 < _ → s.hood.timerHandler.timedOutput.value = true) ↔ _
      refine imp_congr_right fun inside => ?_
      have during := Nat.lt_of_succ_lt inside
      have on := timed.on during
      have left := timed.left during
      rw [Hood.timedOutput_timerHandler, TimedValue.value_tick, on]
      cases opened : s.opened with
      | none =>
          rw [opened] at left
          dsimp only at left
          rw [if_neg (by omega)]
          exact iff_of_true rfl (Option.some_ne_none 6).symm
      | some age =>
          rw [opened] at left
          dsimp only at left
          by_cases last : age = 6
          · rw [if_pos (by omega), last]
            exact iff_of_false Bool.false_ne_true fun differs => differs rfl
          · rw [if_neg (by omega)]
            exact iff_of_true rfl fun same => last (Option.some.inj same)
  | frame frame =>
      refine imp_congr_right fun inside => ?_
      have on := timed.on inside
      change (s.hood.canCallback frame).timedOutput.value = true ↔ _
      have pin : s.hood.out.hasPin s.hood.p.config.port = true := timed.record ▸ timed.pin
      rw [Hood.timedOutput_canCallback]
      split_ifs with release opening closing
      · exact iff_of_true pin (.inl release)
      · exact iff_of_true pin (.inr (.inl opening))
      · refine iff_of_false id ?_
        rintro (release' | opening' | stays)
        · exact release release'
        · exact opening opening'
        · exact stays closing
      · exact iff_of_true on (.inr (.inr closing))

theorem timed_step (timed : Timed config s) (fits : Fits (Hood.releaseTime config) s call) :
    Timed config (s.step call) := by
  refine ⟨?_, ?_, (lasts_step_iff timed call).mpr fits, ?_⟩
  · cases call with
    | tick => exact (timerHandler_config s.hood).trans timed.record
    | frame frame => exact (canCallback_config s.hood frame).trans timed.record
  · cases call with
    | tick => exact (timerHandler_hasPin s.hood _).trans timed.pin
    | frame frame => exact (canCallback_hasPin s.hood frame _).trans timed.pin
  · intro inside
    cases call with
    | tick =>
        change s.seconds + 1 < _ at inside
        have left := timed.left (Nat.lt_of_succ_lt inside)
        have old := fits inside
        have counted : (s.step .tick).hood.timedOutput.left = s.hood.timedOutput.left - 1 := by
          change s.hood.timerHandler.timedOutput.left = _
          rw [Hood.timedOutput_timerHandler, TimedValue.left_tick]
        change match s.opened.map (· + 1) with
          | none => Hood.releaseTime config ≤
              (s.step .tick).hood.timedOutput.left + (s.seconds + 1)
          | some age => age < 7 ∧ (s.step .tick).hood.timedOutput.left + age = 7
        rw [counted]
        cases opened : s.opened with
        | none =>
            rw [opened] at left
            dsimp only [Option.map_none] at left ⊢
            omega
        | some age =>
            rw [opened] at left old
            have early : age ≠ 6 := fun same => old (congrArg some same)
            dsimp only [Option.map_some] at left ⊢
            omega
    | frame frame =>
        have left := timed.left inside
        have effect := fits inside
        change match (if Hood.releases s.hood.p.config frame then none
          else if Hood.opens s.hood.p.config frame then some 0 else s.opened : Option ℕ) with
          | none => Hood.releaseTime config ≤
              (s.hood.canCallback frame).timedOutput.left + s.seconds
          | some age => age < 7 ∧ (s.hood.canCallback frame).timedOutput.left + age = 7
        rw [Hood.timedOutput_canCallback]
        split_ifs with release opening closing
        · rw [timed.record]
          exact Nat.le_add_right _ _
        · exact ⟨by decide, rfl⟩
        · exact absurd closing ((effect.resolve_left release).resolve_left opening)
        · exact left

end Release

end Release

/-- Behind a press of the release button the hood stays on for the time of the release exactly when
its pin exists and no contact message ends or shortens it. -/
theorem release_lasts_iff (config : EdsDunstabzugportBlock) (out : Outputs)
    (earlier calls : List DeviceCall) {press : CanixFrame}
    (zeit : 1 ≤ config.freischaltZeit.toNat) (release : Hood.releases config press) :
    AlwaysHolds Release.step (Release.Lasts (Hood.releaseTime config))
        (.pressed (runAll Hood.step (.init config out) earlier) press) calls ↔
      out.hasPin config.port = true ∧
        AlwaysFits Release.step (Release.Fits (Hood.releaseTime config))
          (.pressed (runAll Hood.step (.init config out) earlier) press) calls := by
  obtain ⟨record, samePin⟩ :
      Hood.Belongs config out (runAll Hood.step (.init config out) earlier) :=
    runAll_invariant (Hood.Belongs config out) Hood.belongs_init fun _ _ => Hood.belongs_step
  by_cases pin : out.hasPin config.port = true
  · have timed := Release.timed_pressed record (samePin.trans pin) release
    refine Iff.trans ?_ (and_iff_right pin).symm
    exact alwaysHolds_part_iff (Release.Timed config) timed (fun _ => Release.lasts_of_timed)
      (fun _ call timed => Release.lasts_step_iff timed call)
      fun _ _ => Release.timed_step
  · refine iff_of_false (fun always => pin ?_) fun both => pin both.1
    have on : ((runAll Hood.step (.init config out) earlier).canCallback press).isOn = true :=
      always [] List.nil_prefix (Nat.mul_pos zeit (by decide))
    have here := hasPin_of_isOn on
    rwa [canCallback_config, canCallback_hasPin, record, samePin] at here

/-- Behind a release of a minute, a window that is opened and closed switches the hood off. -/
theorem kitchen_airing :
    Hood.releases (kitchen 1) kitchenPress ∧
      ¬ AlwaysHolds Release.step (Release.Lasts (Hood.releaseTime (kitchen 1)))
        (.pressed (runAll Hood.step (.init (kitchen 1) (.reset 0 0 0 0)) []) kitchenPress)
        [.tick, .frame (kitchenContact 1), .tick, .frame (kitchenContact 0)] := by
  refine ⟨by decide, fun always => ?_⟩
  have on := always _ List.prefix_rfl (by decide)
  revert on
  decide +kernel

/-- Behind a release of a minute the hood is on for all of its seconds without a message. -/
theorem kitchen_released :
    AlwaysHolds Release.step (Release.Lasts (Hood.releaseTime (kitchen 1)))
      (.pressed (runAll Hood.step (.init (kitchen 1) (.reset 0 0 0 0)) []) kitchenPress)
      [.tick, .tick] := by
  refine (release_lasts_iff (kitchen 1) (.reset 0 0 0 0) [] [.tick, .tick] (by decide)
    (by decide)).mpr ⟨by decide, ?_⟩
  refine alwaysFits_cons.mpr ⟨fun _ => (Option.some_ne_none 6).symm, ?_⟩
  exact alwaysFits_cons.mpr ⟨fun _ => (Option.some_ne_none 6).symm, alwaysFits_nil⟩

end Hcan.Hauselektrik
