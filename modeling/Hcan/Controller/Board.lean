import Hcan.Controller.Devices
import Hcan.Controller.Position

/-!
# The controller board

The device table on top of the EEPROM and the output pins: frames of the house
electrics service, the 100 ms handlers, the reload of the configuration and the
EDS service, which may change the EEPROM at any time.  A pass of the idle handler
is one timer event for each record in the order of the table.  What the other
device types do to the pins are events of their own.
-/

namespace Hcan.Controller

open Hcan.Canix Hcan.Eds Hcan.Library

structure Board (mcu : Mcu) where
  eeprom : Eeprom mcu
  devices : List Device
  ramUsage : Nat
  out : Outputs

variable {mcu : Mcu}

section Code

variable (byZero : Int → Int) (self : UInt16)

def Device.canCallback (frame : CanixFrame) : Device → Device × Option CanixFrame
  | .rolladen p =>
      let handled := rolladenCanCallback byZero self p frame
      (.rolladen handled.1, handled.2)
  | .other type => (.other type, none)

/-- The filter of `hauselektrik_callback`. -/
def hauselektrikAccepts (frame : CanixFrame) : Bool :=
  frame.data[0] == hcanSrvHes &&
    (frame.dst == self || frame.dst == hcanMulticastControl || frame.dst == hcanMulticastInfo)

def configRamUsageReplay (ramUsage : Nat) (frame : CanixFrame) : CanixFrame where
  src := self
  dst := frame.src
  proto := hcanProtoSfp
  size := 4
  data := #v[hcanSrvHes, hcanHesConfigRamUsageReplay, pointerHi ramUsage, pointerLo ramUsage,
    0, 0, 0, 0]

/-- A frame is handed to every record in the order of the table. -/
def Board.deliver (b : Board mcu) (frame : CanixFrame) : Board mcu × List CanixFrame :=
  let handled := b.devices.map (Device.canCallback byZero self frame)
  ({ b with devices := handled.map Prod.fst }, handled.filterMap Prod.snd)

/-- `hauselektrik_callback`: the board behind a frame and the frames sent. -/
def hauselektrikCallback (b : Board mcu) (frame : CanixFrame) :
    Option (Board mcu × List CanixFrame) :=
  if hauselektrikAccepts self frame then
    let delivered := b.deliver byZero self frame
    if frame.data[1] = hcanHesConfigReload then
      (devicesLoadConfig b.ramUsage b.eeprom).map fun table =>
        ({ delivered.1 with devices := table.1, ramUsage := table.2 }, delivered.2)
    else if frame.data[1] = hcanHesConfigRamUsageRequest then
      some (delivered.1, delivered.2 ++ [configRamUsageReplay self b.ramUsage frame])
    else some delivered
  else some (b, [])

/-- The 100 ms handler of one record, called by `idle_handler`. -/
def rolladenTimerHandler (b : Board mcu) (i : Nat) : Board mcu × Option CanixFrame :=
  match b.devices[i]? with
  | some (.rolladen p) =>
      let handled := rolladenLowlevelTimerHandler byZero self p b.out
      ({ b with devices := b.devices.set i (.rolladen handled.1), out := handled.2.1 },
        handled.2.2)
  | _ => (b, none)

/-- `main` up to the main loop, over the registers of a reset. -/
def mainInit (reset : Outputs) (ee : Eeprom mcu) : Option (Board mcu) := do
  let inited ← edsInit ee
  let table ← devicesLoadConfig 0 inited.1
  some ⟨inited.1, table.1, table.2, darlingtonoutputInit reset⟩

/-- What can happen to a board: the 100 ms tick of a record, a frame of the house
electrics or of the EDS service, and another device that sets a pin. -/
inductive BoardEvent where
  | timer (i : Nat)
  | frame (frame : CanixFrame)
  | eds (frame : CanixFrame)
  | other (n : UInt8) (state : Bool)

def Board.after (b : Board mcu) : BoardEvent → Option (Board mcu)
  | .timer i => some (rolladenTimerHandler byZero self b i).1
  | .frame frame => (hauselektrikCallback byZero self b frame).map Prod.fst
  | .eds frame => (edsCanCallback self b.eeprom frame).map fun handled =>
      { b with eeprom := handled.1 }
  | .other n state => some { b with out := darlingtonoutputSetpin b.out n state }

def reloads (frame : CanixFrame) : Bool :=
  hauselektrikAccepts self frame && frame.data[1] == hcanHesConfigReload

end Code

def Board.HasRolladen (b : Board mcu) (i : Nat) (p : DeviceDataRolladen) : Prop :=
  b.devices[i]? = some (.rolladen p)

/-! ## The effect of an event -/

/-- The effect of an event on the device table and the pins. -/
inductive BoardEffect (selfaddr : UInt16) (b next : Board mcu) : BoardEvent → Prop where
  | ticked {i : Nat} {p q : DeviceDataRolladen} {action : RelayAction}
      (here : b.HasRolladen i p)
      (transition : Transition p.lowlevelState p.lowlevelCommand (p.lowlevelWaitCounter - 1)
        action q.lowlevelState q.lowlevelWaitCounter)
      (config : q.config = p.config) (devices : next.devices = b.devices.set i (.rolladen q))
      (out : next.out = b.out.act p.config action) : BoardEffect selfaddr b next (.timer i)
  | placed {event : BoardEvent}
      (same : ∀ i q, next.HasRolladen i q → ∃ p, b.HasRolladen i p ∧ SameSkeleton p q)
      (absent : ∀ i p, event = .timer i → ¬ b.HasRolladen i p)
      (noReload : ∀ frame, event = .frame frame → reloads selfaddr frame = false)
      (out : next.out = b.out) : BoardEffect selfaddr b next event
  | set (n : UInt8) (state : Bool) (devices : next.devices = b.devices)
      (out : next.out = darlingtonoutputSetpin b.out n state) :
      BoardEffect selfaddr b next (.other n state)
  | loaded {frame : CanixFrame} (reload : reloads selfaddr frame = true)
      (fresh : Initialised next.devices) (out : next.out = b.out) :
      BoardEffect selfaddr b next (.frame frame)

section Effect

variable {byZero : Int → Int} {self : UInt16} {b next : Board mcu}

theorem same_refl (b : Board mcu) (i : Nat) (q : DeviceDataRolladen) (here : b.HasRolladen i q) :
    ∃ p, b.HasRolladen i p ∧ SameSkeleton p q := ⟨q, here, .refl q⟩

/-- A delivered frame keeps the skeleton of every shutter. -/
theorem deliver_same (byZero : Int → Int) (self : UInt16) (b : Board mcu) (frame : CanixFrame)
    (i : Nat) (q : DeviceDataRolladen)
    (here : (b.deliver byZero self frame).1.HasRolladen i q) :
    ∃ p, b.HasRolladen i p ∧ SameSkeleton p q := by
  unfold Board.HasRolladen Board.deliver at here
  rw [List.getElem?_map, List.getElem?_map] at here
  cases found : b.devices[i]? with
  | none =>
      rw [found] at here
      cases here
  | some device =>
      rw [found] at here
      cases device with
      | rolladen p =>
          cases here
          exact ⟨p, found, canCallback_skeleton byZero self p frame⟩
      | other type => cases here

theorem deliver_effect (byZero : Int → Int) (self : UInt16) (b : Board mcu) {frame : CanixFrame}
    (noReload : reloads self frame = false) :
    BoardEffect self b (b.deliver byZero self frame).1 (.frame frame) := by
  refine .placed (deliver_same byZero self b frame) (fun _ _ other => by cases other) ?_ rfl
  intro other same
  cases same
  exact noReload

theorem timer_effect (byZero : Int → Int) (self : UInt16) (b : Board mcu) (i : Nat) :
    BoardEffect self b (rolladenTimerHandler byZero self b i).1 (.timer i) := by
  unfold rolladenTimerHandler
  split
  case h_1 p here =>
    obtain ⟨action, transition, acted, config⟩ := timerHandler_transition byZero self p b.out
    exact .ticked here transition config rfl acted
  case h_2 other =>
    refine .placed (same_refl b) ?_ (fun _ other => by cases other) rfl
    intro j p same here
    cases same
    exact other p here

theorem frame_effect {frame : CanixFrame} {handled : Board mcu × List CanixFrame}
    (result : hauselektrikCallback byZero self b frame = some handled) :
    BoardEffect self b handled.1 (.frame frame) := by
  unfold hauselektrikCallback at result
  by_cases accepted : hauselektrikAccepts self frame = true
  · rw [if_pos accepted] at result
    by_cases reload : frame.data[1] = hcanHesConfigReload
    · rw [if_pos reload] at result
      obtain ⟨table, load, built⟩ := Option.map_eq_some_iff.mp result
      have isReload : reloads self frame = true :=
        Bool.and_eq_true_iff.mpr ⟨accepted, beq_iff_eq.mpr reload⟩
      subst built
      exact .loaded isReload (devicesLoadConfig_initialised load) rfl
    · rw [if_neg reload] at result
      have noReload : reloads self frame = false :=
        Bool.and_eq_false_iff.mpr (.inr (beq_eq_false_iff_ne.mpr reload))
      have effect := deliver_effect byZero self b noReload
      split at result
      · cases result
        exact effect
      · cases result
        exact effect
  · rw [if_neg accepted] at result
    cases result
    have noReload : reloads self frame = false :=
      Bool.and_eq_false_iff.mpr (.inl (Bool.eq_false_iff.mpr accepted))
    refine .placed (same_refl b) (fun _ _ other => by cases other) ?_ rfl
    intro other same
    cases same
    exact noReload

theorem after_effect {event : BoardEvent} (happens : b.after byZero self event = some next) :
    BoardEffect self b next event := by
  cases event with
  | timer i =>
      cases happens
      exact timer_effect byZero self b i
  | frame frame =>
      obtain ⟨handled, result, rfl⟩ := Option.map_eq_some_iff.mp happens
      exact frame_effect result
  | eds frame =>
      obtain ⟨handled, result, rfl⟩ := Option.map_eq_some_iff.mp happens
      exact .placed (same_refl b) (fun _ _ other => by cases other) (fun _ other => by cases other)
        rfl
  | other n state =>
      cases happens
      exact .set n state rfl rfl

end Effect

end Hcan.Controller
