import Hcan.Controller.Rolladen
import Hcan.Library.Run

/-!
# The state machine of the shutter

`Transition` is the diagram of the low-level control: which state follows in a
tick, with which value of the wait counter and which relay switched.  The timer
handler refines it.  Frames leave the diagram where it is; they place commands.
-/

namespace Hcan.Controller

open Hcan.Canix Hcan.Library

/-- What a tick does to the two relays. -/
inductive RelayAction where
  | rest
  | power (state : Bool)
  | dir (state : Bool)

/-- The pins after the action. -/
def Outputs.act (out : Outputs) (config : EdsRolladenBlock) : RelayAction → Outputs
  | .rest => out
  | .power state => darlingtonoutputSetpin out config.portPower state
  | .dir state => darlingtonoutputSetpin out config.portDir state

/-- The power relay behind the action; a pin that does not exist stays off. -/
def RelayAction.powerThen (action : RelayAction) (exists_ on : Bool) : Bool :=
  match action with
  | .power state => state && (on || exists_)
  | _ => on

/-- The direction relay behind the action. -/
def RelayAction.dirThen (action : RelayAction) (exists_ on : Bool) : Bool :=
  match action with
  | .dir state => state && (on || exists_)
  | _ => on

/-- The states that wait for the counter. -/
def RolladenState.Waits : RolladenState → Prop
  | .stop | .auf | .ab => False
  | _ => True

/-- The command makes the state act in the next tick. -/
def RolladenState.Obeys : RolladenState → RolladenCommand → Prop
  | .stop, command => command = .auf ∨ command = .ab
  | .auf, command => command = .stop ∨ command = .dirChange
  | .ab, command => command = .stop ∨ command = .dirChange
  | _, _ => False

/-- `Transition state command wait action next nextWait`: a tick that finds
`state`, `command` and, after counting down, `wait`. -/
inductive Transition : RolladenState → RolladenCommand → Nat →
    RelayAction → RolladenState → Nat → Prop where
  | waiting (state command) {wait : Nat} (waits : state.Waits) (more : wait ≠ 0) :
      Transition state command wait .rest state wait
  | staying (state command wait) (ready : ¬ state.Waits) (idle : ¬ state.Obeys command) :
      Transition state command wait .rest state wait
  | startAuf (wait) : Transition .stop .auf wait (.power true) .aufWait 3
  | startAb (wait) : Transition .stop .ab wait (.dir true) .abWait1 2
  | runsAuf (command) : Transition .aufWait command 0 .rest .auf 0
  | stopAuf (wait) : Transition .auf .stop wait (.power false) .stopWait1 3
  | turnAuf (wait) : Transition .auf .dirChange wait (.power false) .dirChangeWait1 6
  | stoppedAuf (command) : Transition .stopWait1 command 0 .rest .stop 0
  | powerAb (command) : Transition .abWait1 command 0 (.power true) .abWait2 3
  | runsAb (command) : Transition .abWait2 command 0 .rest .ab 0
  | stopAb (wait) : Transition .ab .stop wait (.power false) .stopWait2 6
  | turnAb (wait) : Transition .ab .dirChange wait (.power false) .dirChangeWait2 6
  | dirOffStop (command) : Transition .stopWait2 command 0 (.dir false) .stopWait3 3
  | stoppedAb (command) : Transition .stopWait3 command 0 .rest .stop 0
  | dirOn (command) : Transition .dirChangeWait1 command 0 (.dir true) .abWait1 3
  | dirOff (command) : Transition .dirChangeWait2 command 0 (.dir false) .dirChangeWait3 3
  | powerAuf (command) : Transition .dirChangeWait3 command 0 (.power true) .aufWait 3

/-- The parts of the record that the diagram and the configuration speak of. -/
structure SameSkeleton (p next : DeviceDataRolladen) : Prop where
  config : next.config = p.config
  state : next.lowlevelState = p.lowlevelState
  wait : next.lowlevelWaitCounter = p.lowlevelWaitCounter

theorem SameSkeleton.refl (p : DeviceDataRolladen) : SameSkeleton p p := ⟨rfl, rfl, rfl⟩

theorem SameSkeleton.trans {p q r : DeviceDataRolladen} (first : SameSkeleton p q)
    (second : SameSkeleton q r) : SameSkeleton p r :=
  ⟨second.config.trans first.config, second.state.trans first.state, second.wait.trans first.wait⟩

theorem sollErreicht_skeleton (p : DeviceDataRolladen) (reached : Prop) [Decidable reached] :
    SameSkeleton p (rolladenSollErreicht p reached) := by
  unfold rolladenSollErreicht
  split <;> exact ⟨rfl, rfl, rfl⟩

theorem obereEndposition_skeleton (p : DeviceDataRolladen) :
    SameSkeleton p (rolladenObereEndposition p).1 := by
  unfold rolladenObereEndposition
  split <;> split <;> exact ⟨rfl, rfl, rfl⟩

theorem untereEndposition_skeleton (p : DeviceDataRolladen) :
    SameSkeleton p (rolladenUntereEndposition p).1 := by
  unfold rolladenUntereEndposition
  split <;> split <;> exact ⟨rfl, rfl, rfl⟩

theorem zaehleAuf_skeleton (p : DeviceDataRolladen) : SameSkeleton p (rolladenZaehleAuf p).1 := by
  have moved : SameSkeleton p
      { p with summeLaufzeit := p.summeLaufzeit + 1, laufzeit := p.laufzeit + 1 } := ⟨rfl, rfl, rfl⟩
  exact (moved.trans (sollErreicht_skeleton _ _)).trans (obereEndposition_skeleton _)

theorem zaehleAb_skeleton (p : DeviceDataRolladen) : SameSkeleton p (rolladenZaehleAb p).1 := by
  have moved : SameSkeleton p
      { p with summeLaufzeit := p.summeLaufzeit + 1, laufzeit := p.laufzeit - 1 } := ⟨rfl, rfl, rfl⟩
  exact (moved.trans (sollErreicht_skeleton _ _)).trans (untereEndposition_skeleton _)

theorem streckeZaehlen_skeleton (p : DeviceDataRolladen) :
    SameSkeleton p (rolladenStreckeZaehlen p).1 := by
  unfold rolladenStreckeZaehlen
  split
  · exact zaehleAuf_skeleton p
  · split
    · exact zaehleAb_skeleton p
    · exact .refl p

theorem hilevelCount_skeleton (p : DeviceDataRolladen) :
    SameSkeleton p (rolladenHilevelCount p) := by
  unfold rolladenHilevelCount
  dsimp only
  split
  · split <;> exact ⟨rfl, rfl, rfl⟩
  · exact .refl p

section Handler

variable (byZero : Int → Int) (self : UInt16)

theorem switch_transition (p : DeviceDataRolladen) (out : Outputs) :
    ∃ action, Transition p.lowlevelState p.lowlevelCommand p.lowlevelWaitCounter action
        (rolladenLowlevelSwitch byZero self p out).1.lowlevelState
        (rolladenLowlevelSwitch byZero self p out).1.lowlevelWaitCounter ∧
      (rolladenLowlevelSwitch byZero self p out).2.1 = out.act p.config action ∧
      (rolladenLowlevelSwitch byZero self p out).1.config = p.config := by
  obtain ⟨config, summe, laufzeit, soll, source, lastDir, state, command, wait, up⟩ := p
  cases state with
  | stop =>
      cases command with
      | auf => exact ⟨_, .startAuf wait, rfl, rfl⟩
      | ab => exact ⟨_, .startAb wait, rfl, rfl⟩
      | ready => exact ⟨_, .staying .stop .ready wait nofun nofun, rfl, rfl⟩
      | stop => exact ⟨_, .staying .stop .stop wait nofun nofun, rfl, rfl⟩
      | dirChange =>
          cases lastDir with
          | auf => exact ⟨_, .staying .stop .dirChange wait nofun nofun, rfl, rfl⟩
          | ab => exact ⟨_, .staying .stop .dirChange wait nofun nofun, rfl, rfl⟩
  | aufWait =>
      cases wait with
      | zero => exact ⟨_, .runsAuf command, rfl, rfl⟩
      | succ wait => exact ⟨_, .waiting .aufWait command trivial wait.succ_ne_zero, rfl, rfl⟩
  | auf =>
      cases command with
      | stop => exact ⟨_, .stopAuf wait, rfl, rfl⟩
      | dirChange => exact ⟨_, .turnAuf wait, rfl, rfl⟩
      | ready => exact ⟨_, .staying .auf .ready wait nofun nofun, rfl, rfl⟩
      | auf => exact ⟨_, .staying .auf .auf wait nofun nofun, rfl, rfl⟩
      | ab => exact ⟨_, .staying .auf .ab wait nofun nofun, rfl, rfl⟩
  | stopWait1 =>
      cases wait with
      | zero => exact ⟨_, .stoppedAuf command, rfl, rfl⟩
      | succ wait => exact ⟨_, .waiting .stopWait1 command trivial wait.succ_ne_zero, rfl, rfl⟩
  | abWait1 =>
      cases wait with
      | zero => exact ⟨_, .powerAb command, rfl, rfl⟩
      | succ wait => exact ⟨_, .waiting .abWait1 command trivial wait.succ_ne_zero, rfl, rfl⟩
  | abWait2 =>
      cases wait with
      | zero => exact ⟨_, .runsAb command, rfl, rfl⟩
      | succ wait => exact ⟨_, .waiting .abWait2 command trivial wait.succ_ne_zero, rfl, rfl⟩
  | ab =>
      cases command with
      | stop => exact ⟨_, .stopAb wait, rfl, rfl⟩
      | dirChange => exact ⟨_, .turnAb wait, rfl, rfl⟩
      | ready => exact ⟨_, .staying .ab .ready wait nofun nofun, rfl, rfl⟩
      | auf => exact ⟨_, .staying .ab .auf wait nofun nofun, rfl, rfl⟩
      | ab => exact ⟨_, .staying .ab .ab wait nofun nofun, rfl, rfl⟩
  | stopWait2 =>
      cases wait with
      | zero => exact ⟨_, .dirOffStop command, rfl, rfl⟩
      | succ wait => exact ⟨_, .waiting .stopWait2 command trivial wait.succ_ne_zero, rfl, rfl⟩
  | stopWait3 =>
      cases wait with
      | zero => exact ⟨_, .stoppedAb command, rfl, rfl⟩
      | succ wait => exact ⟨_, .waiting .stopWait3 command trivial wait.succ_ne_zero, rfl, rfl⟩
  | dirChangeWait1 =>
      cases wait with
      | zero => exact ⟨_, .dirOn command, rfl, rfl⟩
      | succ wait => exact ⟨_, .waiting .dirChangeWait1 command trivial wait.succ_ne_zero, rfl, rfl⟩
  | dirChangeWait2 =>
      cases wait with
      | zero => exact ⟨_, .dirOff command, rfl, rfl⟩
      | succ wait => exact ⟨_, .waiting .dirChangeWait2 command trivial wait.succ_ne_zero, rfl, rfl⟩
  | dirChangeWait3 =>
      cases wait with
      | zero => exact ⟨_, .powerAuf command, rfl, rfl⟩
      | succ wait => exact ⟨_, .waiting .dirChangeWait3 command trivial wait.succ_ne_zero, rfl, rfl⟩

/-- Counting the distance and the push-button leaves the diagram alone. -/
theorem timerHandler_skeleton (p : DeviceDataRolladen) (out : Outputs) :
    SameSkeleton (rolladenLowlevelSwitch byZero self (rolladenCountDown p) out).1
      (rolladenLowlevelTimerHandler byZero self p out).1 := by
  unfold rolladenLowlevelTimerHandler
  have counted := streckeZaehlen_skeleton
    (rolladenLowlevelSwitch byZero self (rolladenCountDown p) out).1
  dsimp only
  split
  · exact counted
  · exact counted.trans (hilevelCount_skeleton _)

/-- The timer handler refines the diagram. -/
theorem timerHandler_transition (p : DeviceDataRolladen) (out : Outputs) :
    ∃ action, Transition p.lowlevelState p.lowlevelCommand (p.lowlevelWaitCounter - 1) action
        (rolladenLowlevelTimerHandler byZero self p out).1.lowlevelState
        (rolladenLowlevelTimerHandler byZero self p out).1.lowlevelWaitCounter ∧
      (rolladenLowlevelTimerHandler byZero self p out).2.1 = out.act p.config action ∧
      (rolladenLowlevelTimerHandler byZero self p out).1.config = p.config := by
  obtain ⟨action, transition, acted, config⟩ :=
    switch_transition byZero self (rolladenCountDown p) out
  have same := timerHandler_skeleton byZero self p out
  refine ⟨action, ?_, acted, same.config.trans config⟩
  rw [same.state, same.wait]
  exact transition

/-- What a frame that is no position definition does: it may place a command,
a start when the shutter stands and a stop when it runs. -/
structure Commands (p next : DeviceDataRolladen) : Prop extends SameSkeleton p next where
  laufzeit : next.laufzeit = p.laufzeit
  lastDir : next.lowlevelLastDir = p.lowlevelLastDir
  command : next.lowlevelCommand = p.lowlevelCommand ∨
    (p.lowlevelState = .stop ∧ (next.lowlevelCommand = .auf ∨ next.lowlevelCommand = .ab)) ∨
    ((p.lowlevelState = .auf ∨ p.lowlevelState = .ab) ∧ next.lowlevelCommand = .stop)

theorem Commands.refl (p : DeviceDataRolladen) : Commands p p := ⟨.refl p, rfl, rfl, .inl rfl⟩

theorem tasterDown_commands (p : DeviceDataRolladen) : Commands p (rolladenTasterDown p) := by
  obtain ⟨config, summe, laufzeit, soll, source, lastDir, state, command, wait, up⟩ := p
  cases state with
  | stop =>
      cases lastDir with
      | auf => exact ⟨⟨rfl, rfl, rfl⟩, rfl, rfl, .inr (.inl ⟨rfl, .inr rfl⟩)⟩
      | ab => exact ⟨⟨rfl, rfl, rfl⟩, rfl, rfl, .inr (.inl ⟨rfl, .inl rfl⟩)⟩
  | auf => exact ⟨⟨rfl, rfl, rfl⟩, rfl, rfl, .inr (.inr ⟨.inl rfl, rfl⟩)⟩
  | ab => exact ⟨⟨rfl, rfl, rfl⟩, rfl, rfl, .inr (.inr ⟨.inr rfl, rfl⟩)⟩
  | _ => exact ⟨⟨rfl, rfl, rfl⟩, rfl, rfl, .inl rfl⟩

theorem setSollLaufzeit_eq (p : DeviceDataRolladen) (percent : Nat) :
    ∃ soll, rolladenSetSollLaufzeit p percent = { p with sollLaufzeit := soll } := by
  unfold rolladenSetSollLaufzeit
  split
  · exact ⟨_, rfl⟩
  · split <;> exact ⟨_, rfl⟩

theorem positionSet_commands (p : DeviceDataRolladen) (pos : UInt8) :
    Commands p (rolladenPositionSet byZero p pos) := by
  obtain ⟨soll, target⟩ := setSollLaufzeit_eq p (rolladenSollPos pos)
  unfold rolladenPositionSet
  rw [target]
  split
  case h_1 stands =>
    split
    · exact ⟨⟨rfl, rfl, rfl⟩, rfl, rfl, .inr (.inl ⟨stands, .inl rfl⟩)⟩
    · split
      · exact ⟨⟨rfl, rfl, rfl⟩, rfl, rfl, .inr (.inl ⟨stands, .inr rfl⟩)⟩
      · exact ⟨⟨rfl, rfl, rfl⟩, rfl, rfl, .inl rfl⟩
  case h_2 runs =>
    split
    · exact .refl p
    · exact ⟨⟨rfl, rfl, rfl⟩, rfl, rfl, .inr (.inr ⟨.inl runs, rfl⟩)⟩
  case h_3 runs =>
    split
    · exact .refl p
    · exact ⟨⟨rfl, rfl, rfl⟩, rfl, rfl, .inr (.inr ⟨.inr runs, rfl⟩)⟩
  case h_4 => exact .refl p

theorem canCallback_commands (p : DeviceDataRolladen) {frame : CanixFrame}
    (other : frame.data[1] ≠ hcanHesRolladenDefinePosition) :
    Commands p (rolladenCanCallback byZero self p frame).1 := by
  unfold rolladenCanCallback
  dsimp only
  split
  · split
    · exact tasterDown_commands p
    · exact .refl p
  · split
    · split
      · exact ⟨⟨rfl, rfl, rfl⟩, rfl, rfl, .inl rfl⟩
      · exact .refl p
    · split
      · split
        · exact positionSet_commands byZero p _
        · exact .refl p
      · split <;> exact .refl p

/-- A frame changes neither the state nor the wait counter nor the configuration. -/
theorem canCallback_skeleton (p : DeviceDataRolladen) (frame : CanixFrame) :
    SameSkeleton p (rolladenCanCallback byZero self p frame).1 := by
  by_cases define_ : frame.data[1] = hcanHesRolladenDefinePosition
  · unfold rolladenCanCallback
    rw [if_neg (by rw [define_]; decide), if_neg (by rw [define_]; decide),
      if_neg (by rw [define_]; decide), if_pos define_]
    dsimp only
    split <;> exact ⟨rfl, rfl, rfl⟩
  · exact (canCallback_commands byZero self p define_).toSameSkeleton

end Handler

/-! ## One shutter and the pins -/

/-- What can happen to a shutter: its 100 ms tick, a frame, or another device
that sets a pin. -/
inductive RolladenEvent where
  | tick
  | frame (frame : CanixFrame)
  | other (n : UInt8) (state : Bool)

/-- Ticks are counted in tenths of a second. -/
def tickCount : RolladenEvent → Nat
  | .tick => 1
  | _ => 0

structure RolladenSystem where
  device : DeviceDataRolladen
  out : Outputs

namespace RolladenSystem

def powerOn (s : RolladenSystem) : Bool := s.out.isOn s.device.config.portPower

def dirOn (s : RolladenSystem) : Bool := s.out.isOn s.device.config.portDir

/-- The system after an event. -/
def after (byZero : Int → Int) (self : UInt16) (s : RolladenSystem) : RolladenEvent → RolladenSystem
  | .tick =>
      let handled := rolladenLowlevelTimerHandler byZero self s.device s.out
      ⟨handled.1, handled.2.1⟩
  | .frame frame => ⟨(rolladenCanCallback byZero self s.device frame).1, s.out⟩
  | .other n state => ⟨s.device, darlingtonoutputSetpin s.out n state⟩

end RolladenSystem

/-- The event is no reload, which would build new records, and no other device
sets one of the pins of the shutter. -/
def Unshared (config : EdsRolladenBlock) : RolladenEvent → Prop
  | .tick => True
  | .frame frame => frame.data[1] ≠ hcanHesConfigReload
  | .other n _ => n ≠ config.portPower ∧ n ≠ config.portDir

instance (config : EdsRolladenBlock) : DecidablePred (Unshared config)
  | .tick => .isTrue trivial
  | .frame frame => inferInstanceAs (Decidable (frame.data[1] ≠ hcanHesConfigReload))
  | .other n _ => inferInstanceAs (Decidable (n ≠ config.portPower ∧ n ≠ config.portDir))

/-- The steps of a shutter with pins of its own. -/
structure RolladenStep (byZero : Int → Int) (selfaddr : UInt16) (s : RolladenSystem)
    (event : RolladenEvent) (next : RolladenSystem) : Prop where
  unshared : Unshared s.device.config event
  happens : s.after byZero selfaddr event = next

section Step

variable {byZero : Int → Int} {self : UInt16} {s next : RolladenSystem} {event : RolladenEvent}

/-- A step is a tick, which follows the diagram, or it leaves the diagram and
both relays where they are. -/
theorem rolladenStep_cases (taken : RolladenStep byZero self s event next) :
    next.device.config = s.device.config ∧
      ((tickCount event = 1 ∧ ∃ action, Transition s.device.lowlevelState s.device.lowlevelCommand
          (s.device.lowlevelWaitCounter - 1) action next.device.lowlevelState
          next.device.lowlevelWaitCounter ∧ next.out = s.out.act s.device.config action) ∨
        (tickCount event = 0 ∧ SameSkeleton s.device next.device ∧
          next.powerOn = s.powerOn ∧ next.dirOn = s.dirOn)) := by
  obtain ⟨unshared, rfl⟩ := taken
  cases event with
  | tick =>
      obtain ⟨action, transition, acted, config⟩ :=
        timerHandler_transition byZero self s.device s.out
      exact ⟨config, .inl ⟨rfl, action, transition, acted⟩⟩
  | frame frame =>
      have same := canCallback_skeleton byZero self s.device frame
      refine ⟨same.config, .inr ⟨rfl, same, ?_, ?_⟩⟩
      · exact congrArg s.out.isOn (congrArg EdsRolladenBlock.portPower same.config)
      · exact congrArg s.out.isOn (congrArg EdsRolladenBlock.portDir same.config)
  | other n state =>
      exact ⟨rfl, .inr ⟨rfl, .refl _, isOn_setpin_of_ne s.out (Ne.symm unshared.1) state,
        isOn_setpin_of_ne s.out (Ne.symm unshared.2) state⟩⟩

/-- Every list of such events is a run from every state. -/
theorem rolladenRun_total (byZero : Int → Int) (self : UInt16) (s : RolladenSystem)
    (events : List RolladenEvent) (unshared : ∀ event ∈ events, Unshared s.device.config event) :
    Run (RolladenStep byZero self) s events
      (events.foldl (fun s e => s.after byZero self e) s) := by
  induction events generalizing s with
  | nil => exact .nil s
  | cons event events ih =>
      have taken : RolladenStep byZero self s event (s.after byZero self event) :=
        ⟨unshared event List.mem_cons_self, rfl⟩
      refine .cons taken (ih _ fun later member => ?_)
      rw [(rolladenStep_cases taken).1]
      exact unshared later (List.mem_cons_of_mem _ member)

theorem rolladenRun_config {events : List RolladenEvent}
    (run : Run (RolladenStep byZero self) s events next) :
    next.device.config = s.device.config := by
  refine run.invariant (fun t => t.device.config = s.device.config) ?_ rfl
  intro t event t' taken same
  exact (rolladenStep_cases taken).1.trans same

end Step

/-- A shutter at pins 0 and 1 with a run time of ten seconds. -/
def kitchenShutter : EdsRolladenBlock where
  portPower := 0
  portDir := 1
  taster := 9
  laufzeit := 100
  maxRekalib := 5000
  gruppe0 := 20
  gruppe1 := 21
  gruppe2 := 22
  gruppe3 := 23

def hesFrame (command group value : UInt8) : CanixFrame where
  src := 2
  dst := hcanMulticastControl
  proto := hcanProtoSfp
  size := 4
  data := #v[hcanSrvHes, command, group, value, 0, 0, 0, 0]

/-- The push-button of the shutter. -/
def kitchenTaster : RolladenEvent := .frame (hesFrame hcanHesTasterDown 9 0)

def kitchenTasterUp : RolladenEvent := .frame (hesFrame hcanHesTasterUp 9 0)

/-- The shutter is sent to the bottom. -/
def kitchenDown : RolladenEvent := .frame (hesFrame hcanHesRolladenPositionSet 20 200)

/-- The pins behind the start of a board. -/
def bootOutputs : Outputs := darlingtonoutputInit (.reset 0 0 0 0)

def kitchenBoot : RolladenSystem := ⟨rolladenInit kitchenShutter, bootOutputs⟩

/-- The system after some events, on the board with address 7. -/
def kitchenAfter (s : RolladenSystem) (events : List RolladenEvent) : RolladenSystem :=
  events.foldl (fun s event => s.after (fun _ => 0) 7 event) s

theorem kitchenRun (s : RolladenSystem) {events : List RolladenEvent}
    (unshared : ∀ event ∈ events, Unshared s.device.config event) :
    Run (RolladenStep (fun _ => 0) 7) s events (kitchenAfter s events) :=
  rolladenRun_total _ _ s events unshared

theorem kitchenTick (s : RolladenSystem) :
    RolladenStep (fun _ => 0) 7 s .tick (kitchenAfter s [.tick]) := ⟨trivial, rfl⟩

theorem act_power {out : Outputs} {config : EdsRolladenBlock}
    (distinct : config.portPower ≠ config.portDir) (action : RelayAction) :
    (out.act config action).isOn config.portPower =
      action.powerThen (out.hasPin config.portPower) (out.isOn config.portPower) := by
  cases action with
  | rest => rfl
  | power state => exact isOn_setpin out config.portPower state
  | dir state => exact isOn_setpin_of_ne out distinct state

theorem act_dir {out : Outputs} {config : EdsRolladenBlock}
    (distinct : config.portPower ≠ config.portDir) (action : RelayAction) :
    (out.act config action).isOn config.portDir =
      action.dirThen (out.hasPin config.portDir) (out.isOn config.portDir) := by
  cases action with
  | rest => rfl
  | power state => exact isOn_setpin_of_ne out distinct.symm state
  | dir state => exact isOn_setpin out config.portDir state

/-- What a tick does, in terms of the diagram and the two relays. -/
def Ticked (s next : RolladenSystem) : Prop :=
  ∃ action hasPower hasDir,
    Transition s.device.lowlevelState s.device.lowlevelCommand (s.device.lowlevelWaitCounter - 1)
      action next.device.lowlevelState next.device.lowlevelWaitCounter ∧
    next.powerOn = action.powerThen hasPower s.powerOn ∧
    next.dirOn = action.dirThen hasDir s.dirOn

/-- What the other events leave unchanged. -/
structure Untouched (s next : RolladenSystem) : Prop where
  state : next.device.lowlevelState = s.device.lowlevelState
  wait : next.device.lowlevelWaitCounter = s.device.lowlevelWaitCounter
  power : next.powerOn = s.powerOn
  dir : next.dirOn = s.dirOn

theorem rolladenStep_relays {byZero : Int → Int} {self : UInt16} {s next : RolladenSystem}
    {event : RolladenEvent} (distinct : s.device.config.portPower ≠ s.device.config.portDir)
    (taken : RolladenStep byZero self s event next) :
    (tickCount event = 1 ∧ Ticked s next) ∨ (tickCount event = 0 ∧ Untouched s next) := by
  obtain ⟨config, ⟨tick, action, transition, acted⟩ | ⟨idle, same, power, dir⟩⟩ :=
    rolladenStep_cases taken
  · refine .inl ⟨tick, action, s.out.hasPin s.device.config.portPower,
      s.out.hasPin s.device.config.portDir, transition, ?_, ?_⟩
    · rw [RolladenSystem.powerOn, config, acted]
      exact act_power distinct action
    · rw [RolladenSystem.dirOn, config, acted]
      exact act_dir distinct action
  · exact .inr ⟨idle, same.state, same.wait, power, dir⟩

end Hcan.Controller
