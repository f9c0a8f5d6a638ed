import Hcan.Hauselektrik.TimedPower

/-!
# The delay of a power port as a group

With a timer feature the last group field of a power port holds the delay.  The callback leaves the
field out of the groups for AUTO_AUS only; with the other features a frame for the group with the
number of the delay switches the port.
-/

namespace Hcan.Hauselektrik

open Hcan.Canix Hcan.Eds Hcan.Controller Hcan.Library

/-- A group that is none of the three that are not a delay. -/
def DeviceDataPowerport.Foreign (p : DeviceDataPowerport) (group : UInt8) : Prop :=
  p.config.gruppe[0] ≠ group ∧ p.config.gruppe[1] ≠ group ∧ p.config.gruppe[2] ≠ group

/-- The delay is taken for the group. -/
def DeviceDataPowerport.DelayIsGroup (p : DeviceDataPowerport) (group : UInt8) : Prop :=
  group ≠ 255 ∧ p.hasFeature powerportFeatureAutoAus = false ∧ p.config.gruppe[3] = group

/-- Pin, relay and timer are the same. -/
structure Port.Untouched (port next : Port) : Prop where
  isOn : next.isOn = port.isOn
  relais : next.p.bistableRelaisState = port.p.bistableRelaisState
  timer : next.p.countDownTimer = port.p.countDownTimer

section Groups

variable {p : DeviceDataPowerport} {group : UInt8}

theorem toList_groups (groups : Vector UInt8 4) :
    groups.toList = [groups[0], groups[1], groups[2], groups[3]] := by
  obtain ⟨⟨groups⟩, size⟩ := groups
  obtain ⟨first, second, third, fourth, rfl⟩ := List.length_eq_four.mp size
  rfl

theorem isInGroup_iff : powerportIsInGroup p group = true ↔ ¬ p.Foreign group ∧ group ≠ 255 ∨
    p.DelayIsGroup group := by
  unfold powerportIsInGroup DeviceDataPowerport.DelayIsGroup DeviceDataPowerport.Foreign
  rw [toList_groups]
  cases p.hasFeature powerportFeatureAutoAus with
  | true => grind
  | false => grind

theorem isInGroup_foreign (foreign : p.Foreign group) :
    powerportIsInGroup p group = true ↔ p.DelayIsGroup group := by
  rw [isInGroup_iff]
  exact ⟨fun inside => inside.resolve_left fun own => own.1 foreign, .inr⟩

theorem isInGroup_own (own : ¬ p.Foreign group) :
    powerportIsInGroup p group = true ↔ group ≠ 255 := by
  rw [isInGroup_iff]
  exact ⟨fun inside => inside.elim And.right And.left, fun used => .inl ⟨own, used⟩⟩

end Groups

/-- The flank leaves a port without AUTO_AUS as it is. -/
def Port.Settled (during : Port → Port) (port : Port) : Flanke → Prop
  | .steigende =>
      if port.p.hasFeature powerportFeatureVerzoegertEin = true then
        port.p.countDownTimer = port.p.config.delay
      else port.p.countDownTimer = 0 ∧
        if port.p.hasFeature powerportFeatureBistableRelais = true then
          port.isOn = false ∧ (during
            { port with out := darlingtonoutputSetpin port.out port.p.config.port true }
            ).p.bistableRelaisState ^^^ 1 = port.p.bistableRelaisState
        else port.hasPin = port.isOn
  | .fallende =>
      if port.p.hasFeature powerportFeatureNachlauf = true then
        port.p.countDownTimer = port.p.config.delay
      else port.p.countDownTimer = 0 ∧ port.isOn = false

/-- A frame for a foreign group does nothing to the port. -/
def ForeignUntouched (port : Port) (event : PortEvent) : Prop :=
  ∀ frame, event.call = .frame frame → port.p.Foreign frame.data[2] →
    port.Untouched (port.step event)

/-- The port with the other delay. -/
def DeviceDataPowerport.withDelay (p : DeviceDataPowerport) (other : UInt8) : DeviceDataPowerport :=
  { p with config := { p.config with
    gruppe := ⟨#[p.config.gruppe[0], p.config.gruppe[1], p.config.gruppe[2], other], rfl⟩ } }

/-- Frames for foreign groups do nothing, and the port with the other delay reacts to the same
frames. -/
structure DelayHidden (other : UInt8) (port : Port) (event : PortEvent) : Prop where
  untouched : ForeignUntouched port event
  reacts : ∀ frame, event.call = .frame frame →
    powerportIsInGroup (port.p.withDelay other) frame.data[2] =
      powerportIsInGroup port.p frame.data[2]

/-- A switching command for a foreign group finds a delay that is not the group, AUTO_AUS, or a port
that it leaves as it is. -/
def ForeignFits (port : Port) (event : PortEvent) : Prop :=
  ∀ frame, event.call = .frame frame → port.p.Foreign frame.data[2] →
    port.p.DelayIsGroup frame.data[2] → ∀ flanke, port.flanke frame = some flanke →
      port.Settled (Port.sleep event.during) flanke

/-- Switching commands for foreign groups fit, and the group is the other delay exactly when it is
the delay. -/
structure HiddenFits (other : UInt8) (port : Port) (event : PortEvent) : Prop where
  untouched : ForeignFits port event
  reacts : ∀ frame, event.call = .frame frame → port.p.Foreign frame.data[2] →
    ((port.p.withDelay other).DelayIsGroup frame.data[2] ↔ port.p.DelayIsGroup frame.data[2])

section Foreign

variable {during : Port → Port} {port : Port}

theorem untouched_setOrTimer (slept : Port.KeepsConfig during)
    (stays : port.p.hasFeature powerportFeatureAutoAus = false) (flanke : Flanke) :
    port.Untouched (port.setOrTimer during flanke) ↔ port.Settled during flanke := by
  cases flanke with
  | steigende =>
      unfold Port.setOrTimer Port.Settled
      dsimp only
      rw [if_neg (Bool.not_eq_true _ ▸ stays)]
      by_cases delayed : port.p.hasFeature powerportFeatureVerzoegertEin = true
      · rw [if_pos delayed, if_pos delayed]
        exact ⟨fun same => same.timer.symm, fun loaded => ⟨rfl, rfl, loaded.symm⟩⟩
      rw [if_neg delayed, if_neg delayed]
      unfold Port.relaisOn
      by_cases bistable : port.p.hasFeature powerportFeatureBistableRelais = true
      · rw [if_pos bistable, if_pos bistable]
        dsimp only
        generalize waited : during { port with
          out := darlingtonoutputSetpin port.out port.p.config.port true } = later
        have pin : later.p.config.port = port.p.config.port := waited ▸ (slept _).1
        have off : (darlingtonoutputSetpin later.out port.p.config.port false).isOn
            later.p.config.port = false := by
          rw [pin]
          exact isOn_setpin_off later.out port.p.config.port
        exact ⟨fun same => ⟨same.timer.symm, same.isOn.symm.trans off, same.relais⟩,
          fun settled => ⟨off.trans settled.2.1.symm, settled.2.2, settled.1.symm⟩⟩
      · rw [if_neg bistable, if_neg bistable]
        have on := (port.isOn_set true).trans (Bool.true_and _)
        exact ⟨fun same => ⟨same.timer.symm, on.symm.trans same.isOn⟩,
          fun settled => ⟨on.trans settled.2, rfl, settled.1.symm⟩⟩
  | fallende =>
      unfold Port.setOrTimer Port.Settled
      dsimp only
      by_cases runOn : port.p.hasFeature powerportFeatureNachlauf = true
      · rw [if_pos runOn, if_pos runOn]
        exact ⟨fun same => same.timer.symm, fun loaded => ⟨rfl, rfl, loaded.symm⟩⟩
      · rw [if_neg runOn, if_neg runOn]
        have off := (port.isOn_set false).trans (Bool.false_and _)
        exact ⟨fun same => ⟨same.timer.symm, same.isOn.symm.trans off⟩,
          fun settled => ⟨off.trans settled.2.symm, rfl, settled.1.symm⟩⟩

theorem foreignUntouched_iff (event : PortEvent) :
    ForeignUntouched port event ↔ ForeignFits port event := by
  refine forall_congr' fun frame => imp_congr_right fun call => imp_congr_right fun foreign => ?_
  have plain : frame.data[1] = hcanHesWeckerSet → port.p.config.gruppe[0] ≠ frame.data[2] :=
    fun _ => foreign.1
  have handled : port.step event =
      (port.flanke frame).elim port (port.setOrTimer (Port.sleep event.during)) := by
    rw [← Port.canCallback_flanke plain, Port.step, call]
    rfl
  rw [handled]
  cases asked : port.flanke frame with
  | none =>
      exact ⟨fun _ _ _ some_ => absurd some_ (Option.some_ne_none _).symm,
        fun _ => ⟨rfl, rfl, rfl⟩⟩
  | some flanke =>
      have inGroup : powerportIsInGroup port.p frame.data[2] = true := by
        have switching : (port.flanke frame).isSome = port.p.switches (.frame frame) :=
          Port.flanke_isSome frame
        rw [asked] at switching
        exact (Bool.and_eq_true_iff.mp switching.symm).1
      have delay := (isInGroup_foreign foreign).mp inGroup
      change port.Untouched (port.setOrTimer _ flanke) ↔ _
      rw [untouched_setOrTimer (Port.keepsConfig_sleep _) delay.2.1]
      exact ⟨fun settled _ other same => Option.some_inj.mp same ▸ settled,
        fun fits => fits delay flanke rfl⟩

theorem foreign_withDelay (p : DeviceDataPowerport) (other group : UInt8) :
    (p.withDelay other).Foreign group ↔ p.Foreign group :=
  Iff.rfl

/-- Both ports react to the frames for the group exactly when it is both delays or none. -/
theorem isInGroup_withDelay (p : DeviceDataPowerport) (other group : UInt8) :
    powerportIsInGroup (p.withDelay other) group = powerportIsInGroup p group ↔
      (p.Foreign group → ((p.withDelay other).DelayIsGroup group ↔ p.DelayIsGroup group)) := by
  rw [Bool.eq_iff_iff]
  by_cases foreign : p.Foreign group
  · rw [isInGroup_foreign foreign,
      isInGroup_foreign ((foreign_withDelay p other group).mpr foreign), imp_iff_right foreign]
  · refine iff_of_true ?_ fun now => absurd now foreign
    rw [isInGroup_own foreign, isInGroup_own fun now =>
      foreign ((foreign_withDelay p other group).mp now)]

theorem delayHidden_iff (other : UInt8) (event : PortEvent) :
    DelayHidden other port event ↔ HiddenFits other port event := by
  constructor
  · intro hidden
    exact ⟨(foreignUntouched_iff event).mp hidden.untouched, fun frame call =>
      (isInGroup_withDelay port.p other frame.data[2]).mp (hidden.reacts frame call)⟩
  · intro fits
    exact ⟨(foreignUntouched_iff event).mpr fits.untouched, fun frame call =>
      (isInGroup_withDelay port.p other frame.data[2]).mpr (fits.reacts frame call)⟩

end Foreign

/-- In a run the delay is never taken for a group exactly when every frame fits. -/
theorem delay_hidden_iff (start : Port) (other : UInt8) (events : List PortEvent) :
    AlwaysFits Port.step (DelayHidden other) start events ↔
      AlwaysFits Port.step (HiddenFits other) start events :=
  alwaysFits_congr fun _ event => delayHidden_iff other event

/-- A power on for the group 5. -/
def fiveOn : PortEvent :=
  ⟨.frame (Hauselektrik.hesFrame 5 hcanMulticastControl 3 hcanHesPowerGroupOn 5 0 0 0 0 0), []⟩

/-- A port with NACHLAUF and a delay of five minutes is switched by the group 5; with six minutes it
is not. -/
theorem runOn_takenForGroup :
    ¬ AlwaysFits Port.step ForeignUntouched (Port.init (timedConfig 8 5) 0 0 0 0 0) [fiveOn] ∧
      ¬ AlwaysFits Port.step (DelayHidden 6) (Port.init (timedConfig 8 5) 0 0 0 0 0) [fiveOn] := by
  have foreign : (Port.init (timedConfig 8 5) 0 0 0 0 0).p.Foreign 5 :=
    ⟨by decide, by decide, by decide⟩
  constructor
  · intro untouched
    have on := (untouched [] fiveOn List.prefix_rfl _ rfl foreign).isOn
    revert on
    decide +kernel
  · intro hidden
    have reacts := (hidden [] fiveOn List.prefix_rfl).reacts _ rfl
    revert reacts
    decide +kernel

end Hcan.Hauselektrik
