import Hcan.Hauselektrik.PowerTimer
import Hcan.Library.TimedValue
import Mathlib.Data.List.Induction

/-!
# Where a timed power port comes to rest

A power port without a bistable relay and without a wake-up is a timed value: the start of
the timer and its end test the features in different orders.  The pin comes to rest where the last
switching command and the features lead it.
-/

namespace Hcan.Hauselektrik

open Hcan.Canix Hcan.Eds Hcan.Controller Hcan.Library

/-- A port without a bistable relay and without a wake-up. -/
structure DeviceDataPowerport.Timed (p : DeviceDataPowerport) : Prop where
  monostable : p.hasFeature powerportFeatureBistableRelais = false
  notWoken : p.hasFeature powerportFeatureWeckVerzoegertEin = false
  notWaking : p.hasFeature powerportFeatureWeckAutoAus = false

/-- The call is a switching command for the port. -/
def DeviceDataPowerport.switches (p : DeviceDataPowerport) : DeviceCall → Bool
  | .frame message => powerportIsInGroup p message.data[2] &&
      (message.data[1] == hcanHesTasterDown || message.data[1] == hcanHesPowerGroupOn ||
        message.data[1] == hcanHesPowerGroupOff)
  | .tick => false

/-- A call that sets no wake-up. -/
def DeviceCall.Plain : DeviceCall → Prop
  | .frame message => message.data[1] ≠ hcanHesWeckerSet
  | .tick => True

instance DeviceCall.decidablePlain : DecidablePred DeviceCall.Plain
  | .frame message => inferInstanceAs (Decidable (message.data[1] ≠ hcanHesWeckerSet))
  | .tick => .isTrue trivial

namespace Port

/-- The port has a pin. -/
def hasPin (port : Port) : Bool := port.out.hasPin port.p.config.port

/-- What the end of the timer makes of the pin. -/
def expire (port : Port) (on : Bool) : Bool :=
  if port.p.hasFeature powerportFeatureVerzoegertEin then port.hasPin
  else if port.p.hasFeature powerportFeatureAutoAus || port.p.hasFeature powerportFeatureNachlauf
  then false
  else on

/-- The pin with its timer. -/
def timedPin (port : Port) : TimedValue Bool := ⟨port.isOn, port.p.countDownTimer.toNat⟩

/-- Where the pin comes to rest. -/
def rest (port : Port) : Bool := port.timedPin.rest port.expire

/-- The flank that a frame asks for. -/
def flanke (port : Port) (frame : CanixFrame) : Option Flanke :=
  if powerportIsInGroup port.p frame.data[2] then
    if frame.data[1] = hcanHesTasterDown then
      some (if port.isOn = true then .fallende else .steigende)
    else if frame.data[1] = hcanHesPowerGroupOn then some .steigende
    else if frame.data[1] = hcanHesPowerGroupOff then some .fallende
    else none
  else none

/-- The port after the calls; without a bistable relay nothing is handled below them. -/
def after (start : Port) (calls : List DeviceCall) : Port := runAll (handle id) start calls

/-- The port after as many seconds without a frame. -/
def quiet (port : Port) (seconds : ℕ) : Port := port.after (List.replicate seconds .tick)

section Steps

variable {during : Port → Port} {port : Port}

theorem canCallback_flanke {frame : CanixFrame}
    (plain : frame.data[1] = hcanHesWeckerSet → port.p.config.gruppe[0] ≠ frame.data[2]) :
    port.canCallback during frame = (port.flanke frame).elim port (port.setOrTimer during) := by
  unfold canCallback flanke toggle
  by_cases inGroup : powerportIsInGroup port.p frame.data[2] = true
  · rw [if_pos inGroup, if_pos inGroup]
    by_cases down : frame.data[1] = hcanHesTasterDown
    · rw [if_pos down, if_pos down]
      split
      next => rfl
      next => rfl
    by_cases on : frame.data[1] = hcanHesPowerGroupOn
    · rw [if_neg down, if_pos on, if_neg down, if_pos on]
      rfl
    by_cases off : frame.data[1] = hcanHesPowerGroupOff
    · rw [if_neg down, if_neg on, if_pos off, if_neg down, if_neg on, if_pos off]
      rfl
    rw [if_neg down, if_neg on, if_neg off, if_neg down, if_neg on, if_neg off]
    by_cases wecker : frame.data[1] = hcanHesWeckerSet
    · rw [if_pos wecker, if_neg (plain wecker), ite_self]
      rfl
    · rw [if_neg wecker, ite_self]
      rfl
  · rw [if_neg inGroup, if_neg inGroup]
    rfl

theorem relaisOn_timed (timed : port.p.Timed) :
    port.relaisOn during =
      { port with out := darlingtonoutputSetpin port.out port.p.config.port true } := by
  unfold relaisOn
  rw [if_neg (Bool.not_eq_true _ ▸ timed.monostable)]

theorem isOn_set (port : Port) (state : Bool) :
    (darlingtonoutputSetpin port.out port.p.config.port state).isOn port.p.config.port =
      (state && port.hasPin) := by
  rw [isOn_setpin, isOn_or_hasPin]
  rfl

variable (during) in
theorem timedPin_steigende (timed : port.p.Timed) :
    (port.setOrTimer during .steigende).timedPin =
      if port.p.hasFeature powerportFeatureAutoAus then ⟨port.hasPin, port.p.config.delay.toNat⟩
      else if port.p.hasFeature powerportFeatureVerzoegertEin then
        ⟨port.isOn, port.p.config.delay.toNat⟩
      else ⟨port.hasPin, 0⟩ := by
  have on := (port.isOn_set true).trans (Bool.true_and _)
  unfold setOrTimer
  dsimp only
  rw [relaisOn_timed timed]
  split_ifs
  · exact congrArg (TimedValue.mk · _) on
  · rfl
  · exact congrArg (TimedValue.mk · 0) on

variable (during port) in
theorem timedPin_fallende :
    (port.setOrTimer during .fallende).timedPin =
      if port.p.hasFeature powerportFeatureNachlauf then
        ⟨port.isOn, port.p.config.delay.toNat⟩
      else ⟨false, 0⟩ := by
  have off := (port.isOn_set false).trans (Bool.false_and _)
  unfold setOrTimer
  dsimp only
  split_ifs
  · rfl
  · exact congrArg (TimedValue.mk · 0) off

variable (during) in
theorem runOut_timed (timed : port.p.Timed) :
    (port.runOut during).isOn = port.expire port.isOn ∧
      (port.runOut during).p = port.p := by
  unfold runOut expire
  rw [if_neg (Bool.not_eq_true _ ▸ timed.notWoken), if_neg (Bool.not_eq_true _ ▸ timed.notWaking),
    relaisOn_timed timed]
  split_ifs
  · exact ⟨(port.isOn_set true).trans (Bool.true_and _), rfl⟩
  · exact ⟨(port.isOn_set false).trans (Bool.false_and _), rfl⟩
  · exact ⟨rfl, rfl⟩

/-- A second of the port is a tick of the timed pin. -/
theorem timedPin_timerHandler (timed : port.p.Timed) :
    (port.timerHandler during).timedPin = port.timedPin.tick port.expire := by
  obtain ⟨on, record⟩ := runOut_timed during timed
  by_cases last : port.p.countDownTimer = 1
  · rw [timerHandler_of_one during last]
    unfold timedPin TimedValue.tick
    dsimp only
    rw [last]
    change TimedValue.mk (port.runOut during).isOn
      ((port.runOut during).p.countDownTimer - 1).toNat = _
    rw [on, record, last]
    rfl
  · have counted := timer_of_ne_one during last
    have same : (port.timerHandler during).isOn = port.isOn := by
      unfold timerHandler
      dsimp only
      rw [if_neg last]
      split
      next => rfl
      next => rfl
    have many : port.p.countDownTimer.toNat ≠ 1 := fun one => last (UInt16.toNat_inj.mp one)
    unfold timedPin TimedValue.tick
    rw [same, counted]
    dsimp only
    split
    next stopped => rw [stopped]
    next one => exact absurd one many
    next left more => rw [more]; rfl

/-- A change that keeps the configuration and the pin. -/
structure Kept (port next : Port) : Prop where
  config : next.p.config = port.p.config
  hasPin : next.hasPin = port.hasPin

theorem Kept.timed {next : Port} (kept : Kept port next) (timed : port.p.Timed) : next.p.Timed := by
  obtain ⟨monostable, notWoken, notWaking⟩ := timed
  refine ⟨?_, ?_, ?_⟩
  all_goals
    unfold DeviceDataPowerport.hasFeature
    rw [kept.config]
    assumption

theorem Kept.expire {next : Port} (kept : Kept port next) : next.expire = port.expire := by
  funext on
  unfold Port.expire DeviceDataPowerport.hasFeature
  rw [kept.config, kept.hasPin]

variable (during) in
theorem kept_setOrTimer (timed : port.p.Timed) (flanke : Flanke) :
    Kept port (port.setOrTimer during flanke) := by
  cases flanke with
  | steigende =>
      unfold setOrTimer
      dsimp only
      rw [relaisOn_timed timed]
      split_ifs
      · exact ⟨rfl, hasPin_setpin _ _ _ _⟩
      · exact ⟨rfl, rfl⟩
      · exact ⟨rfl, hasPin_setpin _ _ _ _⟩
  | fallende =>
      unfold setOrTimer
      dsimp only
      split_ifs
      · exact ⟨rfl, rfl⟩
      · exact ⟨rfl, hasPin_setpin _ _ _ _⟩

variable (during) in
theorem kept_handle (timed : port.p.Timed) {call : DeviceCall} (plain : call.Plain) :
    Kept port (port.handle during call) := by
  cases call with
  | frame frame =>
      change Kept port (port.canCallback during frame)
      rw [canCallback_flanke fun wecker => absurd wecker plain]
      cases port.flanke frame with
      | none => exact ⟨rfl, rfl⟩
      | some flanke => exact kept_setOrTimer during timed flanke
  | tick =>
      have runs : Kept port (port.runOut during) := by
        unfold runOut
        rw [if_neg (Bool.not_eq_true _ ▸ timed.notWoken),
          if_neg (Bool.not_eq_true _ ▸ timed.notWaking), relaisOn_timed timed]
        split_ifs
        · exact ⟨rfl, hasPin_setpin _ _ _ _⟩
        · exact ⟨rfl, hasPin_setpin _ _ _ _⟩
        · exact ⟨rfl, rfl⟩
      change Kept port (port.timerHandler during)
      unfold timerHandler
      split_ifs
      · exact ⟨runs.config, runs.hasPin⟩
      · exact ⟨rfl, rfl⟩
      · exact ⟨rfl, rfl⟩

/-- The port without a bistable relay does not sleep. -/
theorem handle_timed (timed : port.p.Timed) {call : DeviceCall} (plain : call.Plain) :
    port.handle during call = port.handle id call := by
  have on : port.relaisOn during = port.relaisOn id :=
    (relaisOn_timed timed).trans (relaisOn_timed timed).symm
  cases call with
  | frame frame =>
      change port.canCallback during frame = port.canCallback id frame
      rw [canCallback_flanke fun wecker => absurd wecker plain,
        canCallback_flanke fun wecker => absurd wecker plain]
      cases port.flanke frame with
      | none => rfl
      | some flanke =>
          change port.setOrTimer during flanke = port.setOrTimer id flanke
          unfold setOrTimer
          rw [on]
  | tick =>
      change port.timerHandler during = port.timerHandler id
      unfold timerHandler runOut
      rw [on]

theorem flanke_isSome (frame : CanixFrame) :
    (port.flanke frame).isSome = port.p.switches (.frame frame) := by
  unfold flanke DeviceDataPowerport.switches
  dsimp only
  by_cases inGroup : powerportIsInGroup port.p frame.data[2] = true
  · rw [if_pos inGroup, inGroup, Bool.true_and]
    by_cases down : frame.data[1] = hcanHesTasterDown
    · rw [if_pos down, beq_iff_eq.mpr down]
      rfl
    rw [if_neg down, beq_eq_false_iff_ne.mpr down]
    by_cases on : frame.data[1] = hcanHesPowerGroupOn
    · rw [if_pos on, beq_iff_eq.mpr on]
      rfl
    rw [if_neg on, beq_eq_false_iff_ne.mpr on]
    by_cases off : frame.data[1] = hcanHesPowerGroupOff
    · rw [if_pos off, beq_iff_eq.mpr off]
      rfl
    rw [if_neg off, beq_eq_false_iff_ne.mpr off]
    rfl
  · rw [if_neg inGroup, Bool.eq_false_iff.mpr inGroup]
    rfl

/-- A flank that leaves the pin off in the end. -/
def TurnsOff (port : Port) : Flanke → Prop
  | .fallende => port.p.hasFeature powerportFeatureNachlauf = true →
      if port.p.config.delay = 0 then port.isOn = false
      else port.p.hasFeature powerportFeatureVerzoegertEin = false
  | .steigende =>
      port.p.config.delay ≠ 0 ∧ port.p.hasFeature powerportFeatureVerzoegertEin = false

theorem isOn_eq_false_iff : port.isOn = false ↔ (port.hasPin = true → port.isOn = false) :=
  ⟨fun off _ => off, fun off => Bool.eq_false_iff.mpr fun on =>
    Bool.noConfusion (on.symm.trans (off (hasPin_of_isOn on)))⟩

theorem rest_of_timedPin {next : Port} (expire : next.expire = port.expire) {value : Bool}
    {left : ℕ} (timedPin : next.timedPin = ⟨value, left⟩) :
    next.rest = if left = 0 then value else port.expire value := by
  unfold rest
  rw [timedPin, expire]
  rfl

theorem rest_fallende (timed : port.p.Timed) :
    (port.setOrTimer during .fallende).rest = false ↔
      (port.hasPin = true → port.TurnsOff .fallende) := by
  have expire := (kept_setOrTimer during timed .fallende).expire
  have pin := timedPin_fallende during port
  have zero : port.p.config.delay.toNat = 0 ↔ port.p.config.delay = 0 := UInt16.toNat_inj (b := 0)
  unfold TurnsOff
  by_cases runOn : port.p.hasFeature powerportFeatureNachlauf = true
  · rw [if_pos runOn] at pin
    rw [rest_of_timedPin expire pin, imp_iff_right runOn]
    by_cases none : port.p.config.delay = 0
    · rw [if_pos (zero.mpr none), if_pos none]
      exact isOn_eq_false_iff
    · rw [if_neg fun eq => none (zero.mp eq), if_neg none, Port.expire, runOn, Bool.or_true]
      cases port.p.hasFeature powerportFeatureVerzoegertEin with
      | false => exact ⟨fun _ _ => rfl, fun _ => rfl⟩
      | true => exact ⟨fun off on => Bool.noConfusion (off.symm.trans on),
          fun off => Bool.eq_false_iff.mpr fun on => Bool.noConfusion (off on)⟩
  · rw [if_neg runOn] at pin
    rw [rest_of_timedPin expire pin]
    exact ⟨fun _ _ now => absurd now runOn, fun _ => rfl⟩

theorem rest_steigende (timed : port.p.Timed)
    (autoAus : port.p.hasFeature powerportFeatureAutoAus = true) :
    (port.setOrTimer during .steigende).rest = false ↔
      (port.hasPin = true → port.TurnsOff .steigende) := by
  have expire := (kept_setOrTimer during timed .steigende).expire
  have pin := timedPin_steigende during timed
  have zero : port.p.config.delay.toNat = 0 ↔ port.p.config.delay = 0 := UInt16.toNat_inj (b := 0)
  rw [if_pos autoAus] at pin
  rw [rest_of_timedPin expire pin]
  unfold TurnsOff
  by_cases none : port.p.config.delay = 0
  · rw [if_pos (zero.mpr none)]
    exact ⟨fun off on => Bool.noConfusion (off.symm.trans on),
      fun off => Bool.eq_false_iff.mpr fun on => (off on).1 none⟩
  · rw [if_neg fun eq => none (zero.mp eq), Port.expire, autoAus, Bool.true_or]
    cases port.p.hasFeature powerportFeatureVerzoegertEin with
    | false => exact ⟨fun _ _ => ⟨none, rfl⟩, fun _ => rfl⟩
    | true => exact ⟨fun off on => Bool.noConfusion (off.symm.trans on),
        fun off => Bool.eq_false_iff.mpr fun on => Bool.noConfusion (off on).2⟩

end Steps

/-! ## Runs without wake-ups -/

section Runs

variable {port : Port} {calls : List DeviceCall}

theorem kept_after (timed : port.p.Timed) (plain : ∀ call ∈ calls, call.Plain) :
    Kept port (port.after calls) := by
  induction calls generalizing port with
  | nil => exact ⟨rfl, rfl⟩
  | cons call calls ih =>
      have first := kept_handle id timed (plain call List.mem_cons_self)
      have rest := ih (first.timed timed) fun call inside => plain call (.tail _ inside)
      exact ⟨rest.config.trans first.config, rest.hasPin.trans first.hasPin⟩

/-- The run of the port is the run of the calls alone. -/
theorem runAll_step_timed (timed : port.p.Timed) {events : List PortEvent}
    (plain : ∀ event ∈ events, event.call.Plain) :
    runAll step port events = port.after (events.map PortEvent.call) := by
  induction events generalizing port with
  | nil => rfl
  | cons event events ih =>
      have first := plain event List.mem_cons_self
      have alone : port.step event = port.handle id event.call := handle_timed timed first
      rw [runAll_cons, alone, ih ((kept_handle id timed first).timed timed) fun event inside =>
        plain event (.tail _ inside)]
      rfl

theorem timedPin_quiet (timed : port.p.Timed) (seconds : ℕ) :
    (port.quiet seconds).timedPin = (TimedValue.tick port.expire)^[seconds] port.timedPin := by
  induction seconds generalizing port with
  | zero => rfl
  | succ seconds ih =>
      have first := kept_handle id timed (show DeviceCall.tick.Plain from trivial)
      have rest := ih (first.timed timed)
      rw [first.expire] at rest
      change ((port.handle id .tick).quiet seconds).timedPin = _
      rw [rest, Function.iterate_succ_apply]
      exact congrArg _ (timedPin_timerHandler timed)

/-- When the timer has run out the pin is at rest. -/
theorem isOn_quiet (timed : port.p.Timed) {seconds : ℕ}
    (enough : port.p.countDownTimer.toNat ≤ seconds) : (port.quiet seconds).isOn = port.rest := by
  change (port.quiet seconds).timedPin.value = _
  rw [timedPin_quiet timed]
  exact TimedValue.value_ticks enough

theorem Kept.switches {next : Port} (kept : Kept port next) :
    next.p.switches = port.p.switches := by
  funext call
  unfold DeviceDataPowerport.switches powerportIsInGroup DeviceDataPowerport.hasFeature
  rw [kept.config]

/-- Seconds and frames that are not for the port leave it where it comes to rest. -/
theorem rest_handle (timed : port.p.Timed) {call : DeviceCall} (plain : call.Plain)
    (other : port.p.switches call = false) : (port.handle id call).rest = port.rest := by
  cases call with
  | frame frame =>
      have none : port.flanke frame = none := by
        rw [← Option.not_isSome_iff_eq_none, flanke_isSome, other]
        exact Bool.false_ne_true
      change (port.canCallback id frame).rest = _
      rw [canCallback_flanke fun wecker => absurd wecker plain, none]
      rfl
  | tick =>
      have kept := kept_handle id timed plain
      unfold rest
      rw [kept.expire]
      change (port.timerHandler id).timedPin.rest _ = _
      rw [timedPin_timerHandler timed]
      exact TimedValue.rest_tick port.timedPin

theorem rest_after (timed : port.p.Timed) (plain : ∀ call ∈ calls, call.Plain)
    (others : ∀ call ∈ calls, port.p.switches call = false) :
    (port.after calls).rest = port.rest := by
  induction calls generalizing port with
  | nil => rfl
  | cons call calls ih =>
      have first := plain call List.mem_cons_self
      have kept := kept_handle id timed first
      have rest := ih (kept.timed timed) (fun call inside => plain call (.tail _ inside))
        fun call inside => (congrFun kept.switches call).trans (others call (.tail _ inside))
      exact rest.trans (rest_handle timed first (others call List.mem_cons_self))

/-- The timer of a port does not exceed the delay. -/
def WithinDelay (port : Port) : Prop :=
  port.p.countDownTimer.toNat ≤ port.p.config.delay.toNat

theorem withinDelay_handle (timed : port.p.Timed) {call : DeviceCall} (plain : call.Plain)
    (within : port.WithinDelay) : (port.handle id call).WithinDelay := by
  have kept := kept_handle id timed plain
  unfold WithinDelay at within ⊢
  rw [kept.config]
  cases call with
  | frame frame =>
      change (port.canCallback id frame).timedPin.left ≤ _
      rw [canCallback_flanke fun wecker => absurd wecker plain]
      cases port.flanke frame with
      | none => exact within
      | some flanke =>
          change (port.setOrTimer id flanke).timedPin.left ≤ _
          cases flanke with
          | steigende =>
              rw [timedPin_steigende id timed]
              split_ifs
              · exact Nat.le_refl _
              · exact Nat.le_refl _
              · exact Nat.zero_le _
          | fallende =>
              rw [timedPin_fallende]
              split_ifs
              · exact Nat.le_refl _
              · exact Nat.zero_le _
  | tick =>
      change (port.timerHandler id).timedPin.left ≤ _
      rw [timedPin_timerHandler timed, TimedValue.left_tick]
      exact (Nat.sub_le _ _).trans within

theorem withinDelay_after (timed : port.p.Timed) (plain : ∀ call ∈ calls, call.Plain)
    (within : port.WithinDelay) : (port.after calls).WithinDelay := by
  induction calls generalizing port with
  | nil => exact within
  | cons call calls ih =>
      have first := plain call List.mem_cons_self
      have kept := kept_handle id timed first
      exact ih (kept.timed timed) (fun call inside => plain call (.tail _ inside))
        (withinDelay_handle timed first within)

end Runs

end Port

/-! ## The last switching command -/

/-- The frame is the last switching command of the calls, the front is before it. -/
def LastCommand (p : DeviceDataPowerport) (calls front : List DeviceCall) (frame : CanixFrame) :
    Prop :=
  ∃ back, calls = front ++ .frame frame :: back ∧ p.switches (.frame frame) = true ∧
    ∀ call ∈ back, p.switches call = false

theorem lastCommand_or (p : DeviceDataPowerport) (calls : List DeviceCall) :
    (∃ front frame, LastCommand p calls front frame) ∨
      ∀ call ∈ calls, p.switches call = false := by
  induction calls using List.reverseRecOn with
  | nil => exact .inr fun call inside => absurd inside List.not_mem_nil
  | append_singleton calls call ih =>
      by_cases now : p.switches call = true
      · cases call with
        | frame frame =>
            exact .inl ⟨calls, frame, [], rfl, now, fun _ inside => absurd inside List.not_mem_nil⟩
        | tick => exact Bool.noConfusion now
      · have other := Bool.eq_false_iff.mpr now
        obtain ⟨front, frame, back, split, command, others⟩ | none := ih
        · refine .inl ⟨front, frame, back ++ [call], by rw [split, List.append_assoc]; rfl, command,
            ?_⟩
          intro later inside
          obtain earlier | last := List.mem_append.mp inside
          · exact others later earlier
          · rw [List.mem_singleton.mp last]
            exact other
        · refine .inr fun later inside => ?_
          obtain earlier | last := List.mem_append.mp inside
          · exact none later earlier
          · rw [List.mem_singleton.mp last]
            exact other

/-- After a power off the pin is off and stays off once the timer has run out; with AUTO_AUS it is
off once the delay has passed without a frame. -/
structure EndsOff (start : Port) (calls : List DeviceCall) : Prop where
  powerOff : ∀ front frame, LastCommand start.p calls front frame →
    frame.data[1] = hcanHesPowerGroupOff → ∀ seconds,
      (start.after calls).p.countDownTimer.toNat ≤ seconds →
        ((start.after calls).quiet seconds).isOn = false
  autoAus : start.p.hasFeature powerportFeatureAutoAus = true → ∀ seconds,
    start.p.config.delay.toNat ≤ seconds → ((start.after calls).quiet seconds).isOn = false

/-- The last switching command of a port with a pin is a flank that turns it off in the end. -/
structure LastFits (start : Port) (calls : List DeviceCall) : Prop where
  powerOff : start.hasPin = true → ∀ front frame, LastCommand start.p calls front frame →
    frame.data[1] = hcanHesPowerGroupOff → (start.after front).TurnsOff .fallende
  autoAus : start.hasPin = true → start.p.hasFeature powerportFeatureAutoAus = true →
    ∀ front frame, LastCommand start.p calls front frame →
      ∀ flanke, (start.after front).flanke frame = some flanke → (start.after front).TurnsOff flanke

section LastCommand

variable {start : Port} {calls front : List DeviceCall} {frame : CanixFrame}

/-- The port before the last switching command, and where the command leaves it. -/
theorem rest_lastCommand (timed : start.p.Timed) (plain : ∀ call ∈ calls, call.Plain)
    (command : LastCommand start.p calls front frame) :
    Port.Kept start (start.after front) ∧ ∃ flanke, (start.after front).flanke frame = some flanke ∧
      (start.after calls).rest = ((start.after front).setOrTimer id flanke).rest := by
  obtain ⟨back, rfl, switching, others⟩ := command
  have plainFront : ∀ call ∈ front, call.Plain :=
    fun call inside => plain call (List.mem_append_left _ inside)
  have plainFrame : (DeviceCall.frame frame).Plain :=
    plain _ (List.mem_append_right _ List.mem_cons_self)
  have plainBack : ∀ call ∈ back, call.Plain :=
    fun call inside => plain call (List.mem_append_right _ (.tail _ inside))
  have before := Port.kept_after timed plainFront
  have command := Port.kept_handle id (before.timed timed) plainFrame
  have some_ : ((start.after front).flanke frame).isSome = true := by
    rw [Port.flanke_isSome, before.switches, switching]
  obtain ⟨flanke, asked⟩ := Option.isSome_iff_exists.mp some_
  refine ⟨before, flanke, asked, ?_⟩
  have whole : start.after (front ++ .frame frame :: back) =
      ((start.after front).handle id (.frame frame)).after back := runAll_append front
  have switched : (start.after front).handle id (.frame frame) =
      (start.after front).setOrTimer id flanke := by
    change (start.after front).canCallback id frame = _
    rw [Port.canCallback_flanke fun wecker => absurd wecker plainFrame, asked]
    rfl
  rw [whole, Port.rest_after (command.timed (before.timed timed)) plainBack fun call inside =>
    (congrFun (command.switches.trans before.switches) call).trans (others call inside), switched]

theorem flanke_powerOff {port : Port} {flanke : Flanke} (asked : port.flanke frame = some flanke)
    (off : frame.data[1] = hcanHesPowerGroupOff) : flanke = .fallende := by
  have notDown : hcanHesPowerGroupOff ≠ hcanHesTasterDown := by decide
  have notOn : hcanHesPowerGroupOff ≠ hcanHesPowerGroupOn := by decide
  unfold Port.flanke at asked
  rw [off, if_neg notDown, if_neg notOn, if_pos rfl] at asked
  split at asked
  next => exact (Option.some_inj.mp asked).symm
  next => cases asked

/-- With AUTO_AUS a port that starts off rests off exactly when its last switching command turns
it off. -/
theorem rest_iff (off : start.rest = false) (timed : start.p.Timed)
    (plain : ∀ call ∈ calls, call.Plain)
    (autoAus : start.p.hasFeature powerportFeatureAutoAus = true) :
    (start.after calls).rest = false ↔
      (start.hasPin = true → ∀ front frame, LastCommand start.p calls front frame → ∀ flanke,
        (start.after front).flanke frame = some flanke → (start.after front).TurnsOff flanke) := by
  have turned : ∀ {port : Port}, Port.Kept start port → ∀ flanke,
      (port.setOrTimer id flanke).rest = false ↔ (start.hasPin = true → port.TurnsOff flanke) := by
    intro port kept flanke
    have feature : port.p.hasFeature powerportFeatureAutoAus = true := by
      unfold DeviceDataPowerport.hasFeature at autoAus ⊢
      rwa [kept.config]
    rw [← kept.hasPin]
    cases flanke with
    | steigende => exact Port.rest_steigende (kept.timed timed) feature
    | fallende => exact Port.rest_fallende (kept.timed timed)
  constructor
  · intro rests hasPin front frame command flanke asked
    obtain ⟨kept, same, sameAsked, rest⟩ := rest_lastCommand timed plain command
    obtain rfl := Option.some_inj.mp (sameAsked.symm.trans asked)
    exact (turned kept same).mp (rest.symm.trans rests) hasPin
  · intro fits
    obtain ⟨front, frame, command⟩ | none := lastCommand_or start.p calls
    · obtain ⟨kept, flanke, asked, rest⟩ := rest_lastCommand timed plain command
      exact rest.trans ((turned kept flanke).mpr fun hasPin =>
        fits hasPin front frame command flanke asked)
    · exact (Port.rest_after timed plain none).trans off

end LastCommand

/-- The port after power-on. -/
def Port.init (config : EdsPowerportBlock) (state : UInt8) (ddrD portD ddrB portB : BitVec 8) :
    Port where
  p := ⟨config, 0, state⟩
  out := darlingtonoutputInit (.reset ddrD portD ddrB portB)

/-- A timed port ends off exactly when its last switching command fits. -/
theorem endsOff_iff (config : EdsPowerportBlock) (state : UInt8) (ddrD portD ddrB portB : BitVec 8)
    (timed : (Port.init config state ddrD portD ddrB portB).p.Timed) (calls : List DeviceCall)
    (plain : ∀ call ∈ calls, call.Plain) :
    EndsOff (Port.init config state ddrD portD ddrB portB) calls ↔
      LastFits (Port.init config state ddrD portD ddrB portB) calls := by
  have within := Port.withinDelay_after timed plain (Nat.zero_le _)
  have off : (Port.init config state ddrD portD ddrB portB).rest = false :=
    isOn_init ddrD portD ddrB portB config.port
  have rests := rest_iff off timed plain
  generalize fresh : Port.init config state ddrD portD ddrB portB = start at *
  have kept := Port.kept_after timed plain
  have keptTimed := kept.timed timed
  have bound : (start.after calls).p.countDownTimer.toNat ≤ start.p.config.delay.toNat := by
    rw [← kept.config]
    exact within
  constructor
  · intro ends
    refine ⟨fun hasPin front frame command off => ?_, fun hasPin autoAus => ?_⟩
    · obtain ⟨before, flanke, asked, rest⟩ := rest_lastCommand timed plain command
      obtain rfl := flanke_powerOff asked off
      have last := ends.powerOff front frame command off _ (Nat.le_refl _)
      rw [Port.isOn_quiet keptTimed (Nat.le_refl _), rest] at last
      exact (Port.rest_fallende (before.timed timed)).mp last (before.hasPin.trans hasPin)
    · have last := ends.autoAus autoAus _ (Nat.le_refl _)
      rw [Port.isOn_quiet keptTimed bound] at last
      exact (rests autoAus).mp last hasPin
  · intro fits
    refine ⟨fun front frame command off seconds enough => ?_, fun autoAus seconds enough => ?_⟩
    · obtain ⟨before, flanke, asked, rest⟩ := rest_lastCommand timed plain command
      obtain rfl := flanke_powerOff asked off
      rw [Port.isOn_quiet keptTimed enough, rest]
      exact (Port.rest_fallende (before.timed timed)).mpr fun hasPin =>
        fits.powerOff (before.hasPin.symm.trans hasPin) front frame command off
    · rw [Port.isOn_quiet keptTimed (bound.trans enough)]
      exact (rests autoAus).mpr fun hasPin => fits.autoAus hasPin autoAus

/-- A port in the group 1 with the features and the delay. -/
def timedConfig (feature delay : UInt8) : EdsPowerportBlock :=
  ⟨1, feature, ⟨#[1, 255, 255, delay], rfl⟩⟩

def groupCommand (command : UInt8) : DeviceCall :=
  .frame (Hauselektrik.hesFrame 5 hcanMulticastControl 3 command 1 0 0 0 0 0)

theorem endsOff_iff_stairway :
    EndsOff (Port.init (timedConfig 4 0x83) 0 0 0 0 0) [groupCommand hcanHesTasterDown, .tick] ↔
      LastFits (Port.init (timedConfig 4 0x83) 0 0 0 0 0)
        [groupCommand hcanHesTasterDown, .tick] :=
  endsOff_iff (timedConfig 4 0x83) 0 0 0 0 0 ⟨by decide, by decide, by decide⟩
    [groupCommand hcanHesTasterDown, .tick] (by decide)

/-- With VERZOEGERT_EIN and NACHLAUF a power off switches on; with AUTO_AUS and the delay 0 the
pin stays on. -/
theorem powerOff_switchesOn :
    ¬ EndsOff (Port.init (timedConfig 10 0x81) 0 0 0 0 0) [groupCommand hcanHesPowerGroupOff] ∧
      ¬ EndsOff (Port.init (timedConfig 4 0) 0 0 0 0 0) [groupCommand hcanHesPowerGroupOn] := by
  constructor
  · intro ends
    have off := ends.powerOff [] _ ⟨[], rfl, by decide, by decide⟩ rfl 1 (by decide)
    revert off
    decide +kernel
  · intro ends
    have off := ends.autoAus (by decide) 0 (by decide)
    revert off
    decide +kernel

end Hcan.Hauselektrik
