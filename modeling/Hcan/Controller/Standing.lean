import Hcan.Controller.Board

/-!
# Standing shutters of a board

A standing shutter has both relays off, and after a load of the configuration its
relays stay off for six ticks, the safety wait of `rolladen_init`.  The code keeps
this in careful runs only: a reload rebuilds the records and not the pins, so it
must find the relays of the new table off, and the wait counter is not tested in
the state `stop`.
-/

namespace Hcan.Controller

open Hcan.Canix Hcan.Eds Hcan.Library

/-- The states that may hold the direction relay. -/
def RolladenState.HoldsDir : RolladenState → Prop
  | .abWait1 | .abWait2 | .ab | .stopWait2 | .dirChangeWait2 => True
  | _ => False

theorem transition_holdsDir {state next : RolladenState} {command : RolladenCommand}
    {wait nextWait : Nat} {action : RelayAction} {has on : Bool}
    (transition : Transition state command wait action next nextWait)
    (held : on = true → state.HoldsDir) (stillOn : action.dirThen has on = true) :
    next.HoldsDir := by
  cases transition with
  | waiting _ _ _ _ => exact held stillOn
  | staying _ _ _ _ _ => exact held stillOn
  | startAuf _ => exact held stillOn
  | startAb _ => trivial
  | runsAuf _ => exact held stillOn
  | stopAuf _ => exact held stillOn
  | turnAuf _ => exact held stillOn
  | stoppedAuf _ => exact held stillOn
  | powerAb _ => trivial
  | runsAb _ => trivial
  | stopAb _ => trivial
  | turnAb _ => trivial
  | dirOffStop _ => cases stillOn
  | stoppedAb _ => exact held stillOn
  | dirOn _ => trivial
  | dirOff _ => cases stillOn
  | powerAuf _ => exact held stillOn

/-- The power relay is on in moving states only, and the direction relay is held
by its own states, or by the power pin when both are the same pin. -/
structure RelaysFollow (p : DeviceDataRolladen) (out : Outputs) : Prop where
  power : out.isOn p.config.portPower = true → p.lowlevelState.Moves
  dir : out.isOn p.config.portDir = true →
    p.config.portPower = p.config.portDir ∨ p.lowlevelState.HoldsDir

/-- No relay of the configuration is switched on between the two outputs. -/
def NotSwitchedOn (config : EdsRolladenBlock) (out later : Outputs) : Prop :=
  ∀ n, n = config.portPower ∨ n = config.portDir → out.isOn n = false → later.isOn n = false

theorem NotSwitchedOn.refl (config : EdsRolladenBlock) (out : Outputs) :
    NotSwitchedOn config out out := fun _ _ off => off

theorem NotSwitchedOn.wasOn {config : EdsRolladenBlock} {out later : Outputs}
    (quiet : NotSwitchedOn config out later) {n : UInt8}
    (own : n = config.portPower ∨ n = config.portDir) (on : later.isOn n = true) :
    out.isOn n = true := by
  cases before : out.isOn n with
  | true => rfl
  | false =>
      rw [quiet n own before] at on
      cases on

theorem notSwitchedOn_setpin {config : EdsRolladenBlock} (out : Outputs) {n : UInt8} {state : Bool}
    (foreign : state = true → n ≠ config.portPower ∧ n ≠ config.portDir) :
    NotSwitchedOn config out (darlingtonoutputSetpin out n state) := by
  intro m own off
  cases state with
  | true =>
      have apart := foreign rfl
      have different : m ≠ n := by
        rcases own with rfl | rfl
        · exact apart.1.symm
        · exact apart.2.symm
      rw [isOn_setpin_of_ne out different]
      exact off
  | false =>
      cases on : (darlingtonoutputSetpin out n false).isOn m with
      | false => rfl
      | true =>
          rw [(isOn_setpin_false on).2] at off
          cases off

/-- The pins of two shutters are different. -/
def Apart (c d : EdsRolladenBlock) : Prop :=
  (c.portPower ≠ d.portPower ∧ c.portPower ≠ d.portDir) ∧
    c.portDir ≠ d.portPower ∧ c.portDir ≠ d.portDir

theorem notSwitchedOn_act {config other : EdsRolladenBlock} (apart : Apart config other)
    (out : Outputs) (action : RelayAction) : NotSwitchedOn config out (out.act other action) := by
  cases action with
  | rest => exact .refl config out
  | power state => exact notSwitchedOn_setpin out fun _ => ⟨apart.1.1.symm, apart.2.1.symm⟩
  | dir state => exact notSwitchedOn_setpin out fun _ => ⟨apart.1.2.symm, apart.2.2.symm⟩

namespace RelaysFollow

variable {p q : DeviceDataRolladen} {out later : Outputs}

/-- A standing shutter has both relays off. -/
theorem standing (follow : RelaysFollow p out) (stands : p.lowlevelState = .stop) :
    out.isOn p.config.portPower = false ∧ out.isOn p.config.portDir = false := by
  have power : out.isOn p.config.portPower = false := by
    cases on : out.isOn p.config.portPower with
    | false => rfl
    | true =>
        have moves := follow.power on
        rw [stands] at moves
        exact (moves.elim nofun nofun)
  refine ⟨power, ?_⟩
  cases on : out.isOn p.config.portDir with
  | false => rfl
  | true =>
      rcases follow.dir on with same | holds
      · rw [same, on] at power
        cases power
      · rw [stands] at holds
        exact holds.elim

theorem of_off (power : out.isOn p.config.portPower = false)
    (dir : out.isOn p.config.portDir = false) : RelaysFollow p out := by
  refine ⟨fun on => ?_, fun on => ?_⟩
  · rw [power] at on
    cases on
  · rw [dir] at on
    cases on

theorem mono (follow : RelaysFollow p out) (quiet : NotSwitchedOn p.config out later) :
    RelaysFollow p later :=
  ⟨fun on => follow.power (quiet.wasOn (.inl rfl) on),
    fun on => follow.dir (quiet.wasOn (.inr rfl) on)⟩

theorem placed (follow : RelaysFollow p out) (same : SameSkeleton p q) : RelaysFollow q out := by
  refine ⟨?_, ?_⟩
  · rw [same.config, same.state]
    exact follow.power
  · rw [same.config, same.state]
    exact follow.dir

theorem ticked {action : RelayAction} (follow : RelaysFollow p out)
    (transition : Transition p.lowlevelState p.lowlevelCommand (p.lowlevelWaitCounter - 1)
      action q.lowlevelState q.lowlevelWaitCounter)
    (config : q.config = p.config) : RelaysFollow q (out.act p.config action) := by
  refine ⟨?_, ?_⟩
  · rw [config]
    exact transition_moves transition follow.power
  · rw [config]
    intro on
    by_cases same : p.config.portPower = p.config.portDir
    · exact .inl same
    · rw [act_dir same action] at on
      exact .inr (transition_holdsDir transition
        (fun before => (follow.dir before).resolve_left same) on)

end RelaysFollow

/-- A standing shutter without a pending start stays where it is. -/
theorem transition_standing {command : RolladenCommand} {wait nextWait : Nat}
    {action : RelayAction} {next : RolladenState}
    (transition : Transition .stop command wait action next nextWait)
    (patient : command ≠ .auf ∧ command ≠ .ab) : next = .stop ∧ action = .rest := by
  cases transition with
  | waiting _ _ waits _ => cases waits
  | staying _ _ _ _ _ => exact ⟨rfl, rfl⟩
  | startAuf _ => exact absurd rfl patient.1
  | startAb _ => exact absurd rfl patient.2

/-! ## Careful runs -/

variable {mcu : Mcu}

/-- A board together with a history variable: the ticks of every record since the
configuration was loaded. -/
structure WatchedBoard (mcu : Mcu) where
  board : Board mcu
  ticks : Nat → Nat

def WatchedBoard.count (selfaddr : UInt16) (w : WatchedBoard mcu) : BoardEvent → Nat → Nat
  | .timer i => Function.update w.ticks i (w.ticks i + 1)
  | .frame frame => if reloads selfaddr frame then fun _ => 0 else w.ticks
  | _ => w.ticks

/-- The steps of a board. -/
structure BoardStep (byZero : Int → Int) (selfaddr : UInt16) (w : WatchedBoard mcu)
    (event : BoardEvent) (next : WatchedBoard mcu) : Prop where
  happens : w.board.after byZero selfaddr event = some next.board
  counted : next.ticks = w.count selfaddr event

/-- No two shutters of the table share a pin. -/
def PinsApart (b : Board mcu) : Prop :=
  ∀ i j p q, i ≠ j → b.HasRolladen i p → b.HasRolladen j q → Apart p.config q.config

/-- All shutters of the table have both relays off. -/
def RelaysOff (b : Board mcu) : Prop :=
  ∀ i p, b.HasRolladen i p →
    b.out.isOn p.config.portPower = false ∧ b.out.isOn p.config.portDir = false

/-- Steps that reload into a table of relays that are off, find no start pending
in the first six ticks, and switch on no pin of a shutter from elsewhere. -/
structure CarefulStep (byZero : Int → Int) (selfaddr : UInt16) (w : WatchedBoard mcu)
    (event : BoardEvent) (next : WatchedBoard mcu) : Prop
    extends BoardStep byZero selfaddr w event next where
  reload : ∀ frame, event = .frame frame → reloads selfaddr frame = true →
    PinsApart next.board ∧ RelaysOff next.board
  patient : ∀ i p, event = .timer i → w.board.HasRolladen i p → w.ticks i < 6 →
    p.lowlevelState = .stop → p.lowlevelCommand ≠ .auf ∧ p.lowlevelCommand ≠ .ab
  foreign : ∀ n i p, event = .other n true → w.board.HasRolladen i p →
    n ≠ p.config.portPower ∧ n ≠ p.config.portDir

/-- Every standing shutter has both relays off. -/
def StandsOff (b : Board mcu) : Prop :=
  ∀ i p, b.HasRolladen i p → p.lowlevelState = .stop →
    b.out.isOn p.config.portPower = false ∧ b.out.isOn p.config.portDir = false

/-- A step up to the sixth tick of a shutter switches on none of its relays. -/
def StartsLate (w next : WatchedBoard mcu) : Prop :=
  ∀ i p, w.board.HasRolladen i p → next.ticks i ≤ 6 →
    NotSwitchedOn p.config w.board.out next.board.out

structure Guarded (w : WatchedBoard mcu) : Prop where
  apart : PinsApart w.board
  follow : ∀ i p, w.board.HasRolladen i p → RelaysFollow p w.board.out
  waits : ∀ i p, w.board.HasRolladen i p → w.ticks i ≤ 6 → p.lowlevelState = .stop

/-- A load into relays that are off. -/
theorem guarded_loaded {b : Board mcu} (apart : PinsApart b) (off : RelaysOff b)
    (fresh : Initialised b.devices) (ticks : Nat → Nat) : Guarded ⟨b, ticks⟩ := by
  refine ⟨apart, fun i p here => ?_, fun i p here _ => ?_⟩
  · exact .of_off (off i p here).1 (off i p here).2
  · rw [fresh p (List.mem_of_getElem? here)]
    rfl

section Steps

variable {byZero : Int → Int} {self : UInt16} {w next : WatchedBoard mcu} {event : BoardEvent}

/-- The entry that a tick rewrites keeps its configuration. -/
theorem hasRolladen_set {b later : Board mcu} {i j : Nat} {p q r : DeviceDataRolladen}
    (here : b.HasRolladen i p) (devices : later.devices = b.devices.set i (.rolladen q))
    (there : later.HasRolladen j r) : (j = i ∧ r = q) ∨ (j ≠ i ∧ b.HasRolladen j r) := by
  unfold Board.HasRolladen at there here
  rw [devices] at there
  by_cases same : j = i
  · subst same
    have inside : j < b.devices.length := (List.getElem?_eq_some_iff.mp here).1
    rw [List.getElem?_set_self inside] at there
    cases there
    exact .inl ⟨rfl, rfl⟩
  · rw [List.getElem?_set_ne (Ne.symm same)] at there
    exact .inr ⟨same, there⟩

theorem pinsApart_of_same {b later : Board mcu} (apart : PinsApart b)
    (same : ∀ i q, later.HasRolladen i q → ∃ p, b.HasRolladen i p ∧ q.config = p.config) :
    PinsApart later := by
  intro i j p q different here there
  obtain ⟨p', before, config⟩ := same i p here
  obtain ⟨q', before', config'⟩ := same j q there
  rw [config, config']
  exact apart i j p' q' different before before'

/-- What a tick of the record `i` does to the pins of the record `j`. -/
theorem Guarded.tick_quiet (guarded : Guarded w) {i j : Nat} {p q : DeviceDataRolladen}
    {action : RelayAction} (here : w.board.HasRolladen i p) (there : w.board.HasRolladen j q)
    (different : j ≠ i) :
    NotSwitchedOn q.config w.board.out (w.board.out.act p.config action) :=
  notSwitchedOn_act (guarded.apart j i q p different there here) _ _

/-- Carefully set pins belong to no shutter. -/
theorem CarefulStep.set_quiet (careful : CarefulStep byZero self w event next) {n : UInt8}
    {state : Bool} (setting : event = .other n state) {i : Nat} {p : DeviceDataRolladen}
    (here : w.board.HasRolladen i p) :
    NotSwitchedOn p.config w.board.out (darlingtonoutputSetpin w.board.out n state) := by
  refine notSwitchedOn_setpin w.board.out fun on => ?_
  subst on
  exact careful.foreign n i p setting here

theorem CarefulStep.startsLate (careful : CarefulStep byZero self w event next)
    (guarded : Guarded w) : StartsLate w next := by
  intro j q there early
  have counted := careful.counted
  cases after_effect careful.happens with
  | @ticked i p q' action here transition config devices out =>
      rw [out]
      by_cases different : j = i
      · subst different
        cases here.symm.trans there
        rw [counted, WatchedBoard.count, Function.update_self] at early
        have stands := guarded.waits j q there (by omega)
        have patient := careful.patient j q rfl there (by omega) stands
        rw [stands] at transition
        rw [(transition_standing transition patient).2]
        exact .refl q.config w.board.out
      · exact guarded.tick_quiet here there different
  | placed _ _ _ out =>
      rw [out]
      exact .refl q.config w.board.out
  | set n state _ out =>
      rw [out]
      exact careful.set_quiet rfl there
  | loaded _ _ out =>
      rw [out]
      exact .refl q.config w.board.out

theorem CarefulStep.guarded (careful : CarefulStep byZero self w event next)
    (guarded : Guarded w) : Guarded next := by
  have counted := careful.counted
  cases after_effect careful.happens with
  | @ticked i p q action here transition config devices out =>
      have kept : ∀ j r, next.board.HasRolladen j r →
          ∃ before, w.board.HasRolladen j before ∧ r.config = before.config := by
        intro j r there
        rcases hasRolladen_set here devices there with ⟨rfl, rfl⟩ | ⟨-, before⟩
        · exact ⟨p, here, config⟩
        · exact ⟨r, before, rfl⟩
      refine ⟨pinsApart_of_same guarded.apart kept, fun j r there => ?_, fun j r there early => ?_⟩
      · rw [out]
        rcases hasRolladen_set here devices there with ⟨rfl, rfl⟩ | ⟨different, before⟩
        · exact (guarded.follow _ p here).ticked transition config
        · exact (guarded.follow j r before).mono (guarded.tick_quiet here before different)
      · rw [counted, WatchedBoard.count] at early
        rcases hasRolladen_set here devices there with ⟨rfl, rfl⟩ | ⟨different, before⟩
        · rw [Function.update_self] at early
          have stands := guarded.waits _ p here (by omega)
          have patient := careful.patient _ p rfl here (by omega) stands
          rw [stands] at transition
          exact (transition_standing transition patient).1
        · rw [Function.update_of_ne different] at early
          exact guarded.waits j r before early
  | placed same absent noReload out =>
      have kept : ∀ j r, next.board.HasRolladen j r →
          ∃ before, w.board.HasRolladen j before ∧ r.config = before.config := by
        intro j r there
        obtain ⟨p, before, skeleton⟩ := same j r there
        exact ⟨p, before, skeleton.config⟩
      refine ⟨pinsApart_of_same guarded.apart kept, fun j r there => ?_, fun j r there early => ?_⟩
      · obtain ⟨p, before, skeleton⟩ := same j r there
        rw [out]
        exact (guarded.follow j p before).placed skeleton
      · obtain ⟨p, before, skeleton⟩ := same j r there
        rw [skeleton.state]
        refine guarded.waits j p before ?_
        rw [counted] at early
        cases event with
        | timer i =>
            have different : j ≠ i := by
              rintro rfl
              exact absent j p rfl before
            rwa [WatchedBoard.count, Function.update_of_ne different] at early
        | frame frame => rwa [WatchedBoard.count, noReload frame rfl] at early
        | eds frame => exact early
        | other n state => exact early
  | set n state devices out =>
      have back : ∀ j r, next.board.HasRolladen j r → w.board.HasRolladen j r := by
        intro j r there
        unfold Board.HasRolladen at there
        rwa [devices] at there
      have kept : ∀ j r, next.board.HasRolladen j r →
          ∃ before, w.board.HasRolladen j before ∧ r.config = before.config :=
        fun j r there => ⟨r, back j r there, rfl⟩
      refine ⟨pinsApart_of_same guarded.apart kept, fun j r there => ?_, fun j r there early => ?_⟩
      · rw [out]
        exact (guarded.follow j r (back j r there)).mono (careful.set_quiet rfl (back j r there))
      · rw [counted] at early
        exact guarded.waits j r (back j r there) early
  | loaded reload fresh _ =>
      obtain ⟨apart, off⟩ := careful.reload _ rfl reload
      exact guarded_loaded apart off fresh next.ticks

end Steps

theorem mainInit_fresh {reset : Outputs} {ee : Eeprom mcu} {b : Board mcu}
    (started : mainInit reset ee = some b) :
    Initialised b.devices ∧ b.out = darlingtonoutputInit reset := by
  obtain ⟨inited, -, loading⟩ := Option.bind_eq_some_iff.mp started
  obtain ⟨table, load, built⟩ := Option.bind_eq_some_iff.mp loading
  cases built
  exact ⟨devicesLoadConfig_initialised load, rfl⟩

/-- In a careful run from the start of a board every standing shutter has both
relays off, and no relay of a shutter is switched on in the first six ticks after
the start or a reload. -/
theorem rolladen_stands_off (byZero : Int → Int) (self : UInt16) {ddrD portD ddrB portB : BitVec 8}
    {ee : Eeprom mcu} {b : Board mcu}
    (started : mainInit (.reset ddrD portD ddrB portB) ee = some b) (apart : PinsApart b)
    {events : List BoardEvent} {w : WatchedBoard mcu}
    (run : Run (CarefulStep byZero self) ⟨b, fun _ => 0⟩ events w) :
    StandsOff w.board ∧
      ∀ event next, CarefulStep byZero self w event next → StartsLate w next := by
  obtain ⟨fresh, outputs⟩ := mainInit_fresh started
  have off : RelaysOff b := by
    intro i p _
    rw [outputs]
    exact ⟨isOn_init _ _ _ _ _, isOn_init _ _ _ _ _⟩
  have guarded : Guarded w :=
    run.invariant Guarded (fun _ _ _ careful before => careful.guarded before)
      (guarded_loaded apart off fresh _)
  exact ⟨fun i p here stands => (guarded.follow i p here).standing stands,
    fun _ _ careful => careful.startsLate guarded⟩

/-! ## A board with one shutter -/

/-- The EDS bytes of a board with the kitchen shutter, from address 32 on;
empty blocks fill the rest of the area. -/
def kitchenEds : List UInt8 :=
  [0xe4, 0x7d, 12, 13, 0, 1, 9, 0, 0, 100, 0, 0x88, 0x13, 20, 21, 22, 23, 0, 255]

def kitchenEeprom (address : Nat) : UInt8 :=
  if address < 32 then 0
  else if address = 307 ∨ address = 564 then 255
  else if address = 821 then 202
  else kitchenEds.getD (address - 32) 0

def kitchenStart : Option (Board atmega32) :=
  mainInit (.reset 0 0 0 0) (.powerUp kitchenEeprom)

/-- An event with its history. -/
def WatchedBoard.after (w : WatchedBoard atmega32) (event : BoardEvent) :
    Option (WatchedBoard atmega32) :=
  (w.board.after (fun _ => 0) 7 event).map fun b => ⟨b, w.count 7 event⟩

def kitchenBoard (events : List BoardEvent) : Option (WatchedBoard atmega32) :=
  kitchenStart.bind fun b => events.foldlM WatchedBoard.after ⟨b, fun _ => 0⟩

theorem watchedStep {w next : WatchedBoard atmega32} {event : BoardEvent}
    (taken : w.after event = some next) : BoardStep (fun _ => 0) 7 w event next := by
  obtain ⟨b, happens, rfl⟩ := Option.map_eq_some_iff.mp taken
  exact ⟨happens, rfl⟩

theorem kitchenBoard_run {events : List BoardEvent} {w : WatchedBoard atmega32}
    (result : kitchenBoard events = some w) :
    ∃ b, kitchenStart = some b ∧ Run (BoardStep (fun _ => 0) 7) ⟨b, fun _ => 0⟩ events w := by
  obtain ⟨b, started, executed⟩ := Option.bind_eq_some_iff.mp result
  exact ⟨b, started, (Run.of_execute executed).mono fun _ _ _ taken => watchedStep taken⟩

/-- The push-button of the shutter, and the reload of the configuration. -/
def kitchenPress : BoardEvent := .frame (hesFrame hcanHesTasterDown 9 0)

def kitchenReload : BoardEvent := .frame (hesFrame hcanHesConfigReload 0 0)

/-- The shutter of record `i` stands with its power relay on. -/
def standsOn (b : Board atmega32) (i : Nat) : Bool :=
  match b.devices[i]? with
  | some (.rolladen p) => p.lowlevelState == .stop && b.out.isOn p.config.portPower
  | _ => false

theorem standsOn_contradicts {b : Board atmega32} {i : Nat} (stands : standsOn b i = true) :
    ¬ StandsOff b := by
  intro off
  unfold standsOn at stands
  split at stands
  case h_1 p here =>
    obtain ⟨stop, on⟩ := Bool.and_eq_true_iff.mp stands
    rw [(off i p here (beq_iff_eq.mp stop)).1] at on
    cases on
  case h_2 => cases stands

/-- The power relay of record `i` is switched on before its seventh tick. -/
def startsEarly (w next : WatchedBoard atmega32) (i : Nat) : Bool :=
  match w.board.devices[i]? with
  | some (.rolladen p) => decide (next.ticks i ≤ 6) && !w.board.out.isOn p.config.portPower &&
      next.board.out.isOn p.config.portPower
  | _ => false

theorem startsEarly_contradicts {w next : WatchedBoard atmega32} {i : Nat}
    (early : startsEarly w next i = true) : ¬ StartsLate w next := by
  intro late
  unfold startsEarly at early
  split at early
  case h_1 p here =>
    obtain ⟨before, on⟩ := Bool.and_eq_true_iff.mp early
    obtain ⟨ticks, off⟩ := Bool.and_eq_true_iff.mp before
    have quiet := late i p here (of_decide_eq_true ticks)
    rw [quiet p.config.portPower (.inl rfl) ((Bool.not_eq_true' _).mp off)] at on
    cases on
  case h_2 => cases early

/-- Started by its push-button and reloaded while it runs, the shutter stands with
the power relay on; and the first tick behind the start has switched it on. -/
theorem kitchen_reload_stands_on :
    (∃ b w, kitchenStart = some b ∧
      Run (BoardStep (fun _ => 0) 7) ⟨b, fun _ => 0⟩ [kitchenPress, .timer 0, kitchenReload] w ∧
      ¬ StandsOff w.board) ∧
    ∃ b w next, kitchenStart = some b ∧
      Run (BoardStep (fun _ => 0) 7) ⟨b, fun _ => 0⟩ [kitchenPress] w ∧
      BoardStep (fun _ => 0) 7 w (.timer 0) next ∧ ¬ StartsLate w next := by
  refine ⟨?_, ?_⟩
  · have stands : (kitchenBoard [kitchenPress, .timer 0, kitchenReload]).any
        (fun w => standsOn w.board 0) = true := by decide +kernel
    obtain ⟨w, result, on⟩ := (Option.any_eq_true _ _).mp stands
    obtain ⟨b, started, run⟩ := kitchenBoard_run result
    exact ⟨b, w, started, run, standsOn_contradicts on⟩
  · have starts : (kitchenBoard [kitchenPress]).any (fun w =>
        (w.after (.timer 0)).any fun next => startsEarly w next 0) = true := by decide +kernel
    obtain ⟨w, result, stepped⟩ := (Option.any_eq_true _ _).mp starts
    obtain ⟨next, taken, early⟩ := (Option.any_eq_true _ _).mp stepped
    obtain ⟨b, started, run⟩ := kitchenBoard_run result
    exact ⟨b, w, next, started, run, watchedStep taken, startsEarly_contradicts early⟩

/-- The event keeps the careful conditions; reloads and foreign starts are left out. -/
def kitchenCareful (w : WatchedBoard atmega32) : BoardEvent → Bool
  | .timer i =>
      match w.board.devices[i]? with
      | some (.rolladen p) => decide (w.ticks i < 6 → p.lowlevelState = .stop →
          p.lowlevelCommand ≠ .auf ∧ p.lowlevelCommand ≠ .ab)
      | _ => true
  | .frame frame => !reloads 7 frame
  | .eds _ => true
  | .other _ state => !state

def WatchedBoard.afterCareful (w : WatchedBoard atmega32) (event : BoardEvent) :
    Option (WatchedBoard atmega32) :=
  if kitchenCareful w event then w.after event else none

theorem carefulStep {w next : WatchedBoard atmega32} {event : BoardEvent}
    (taken : w.afterCareful event = some next) : CarefulStep (fun _ => 0) 7 w event next := by
  unfold WatchedBoard.afterCareful at taken
  split at taken
  case isTrue careful =>
    refine ⟨watchedStep taken, ?_, ?_, ?_⟩
    · rintro frame rfl reload
      rw [kitchenCareful, reload] at careful
      cases careful
    · rintro i p rfl here early stands
      rw [kitchenCareful, here] at careful
      exact of_decide_eq_true careful early stands
    · rintro n i p rfl _
      cases careful
  case isFalse => cases taken

/-- The table of the board holds the kitchen shutter and nothing else. -/
theorem kitchenStart_apart {b : Board atmega32} (started : kitchenStart = some b) :
    PinsApart b := by
  have table : kitchenStart.any
      (fun b => b.devices == [.rolladen (rolladenInit kitchenShutter)]) = true := by
    decide +kernel
  rw [started] at table
  have devices : b.devices = [.rolladen (rolladenInit kitchenShutter)] := beq_iff_eq.mp table
  have first : ∀ i p, b.HasRolladen i p → i = 0 := by
    intro i p here
    have inside := (List.getElem?_eq_some_iff.mp here).1
    rw [devices] at inside
    exact Nat.lt_one_iff.mp inside
  intro i j p q different here there
  exact absurd ((first i p here).trans (first j q there).symm) different

/-- Started after its sixth tick. -/
theorem rolladen_stands_off_kitchen :
    ∃ b w next, kitchenStart = some b ∧
      Run (CarefulStep (fun _ => 0) 7) ⟨b, fun _ => 0⟩
        [.timer 0, .timer 0, .timer 0, .timer 0, .timer 0, .timer 0, kitchenPress] w ∧
      CarefulStep (fun _ => 0) 7 w (.timer 0) next ∧ StandsOff w.board ∧ StartsLate w next := by
  have executes : (kitchenStart.bind fun b =>
      [.timer 0, .timer 0, .timer 0, .timer 0, .timer 0, .timer 0, kitchenPress].foldlM
        WatchedBoard.afterCareful ⟨b, fun _ => 0⟩).any
          (fun w => (w.afterCareful (.timer 0)).isSome) = true := by decide +kernel
  obtain ⟨w, result, starts⟩ := (Option.any_eq_true _ _).mp executes
  obtain ⟨b, started, executed⟩ := Option.bind_eq_some_iff.mp result
  obtain ⟨next, taken⟩ := Option.isSome_iff_exists.mp starts
  have run := (Run.of_execute executed).mono fun _ _ _ step => carefulStep step
  have proved := rolladen_stands_off (fun _ => 0) 7 started (kitchenStart_apart started) run
  exact ⟨b, w, next, started, run, carefulStep taken, proved.1, proved.2 _ next (carefulStep taken)⟩

end Hcan.Controller
