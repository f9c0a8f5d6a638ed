import Hcan.Hauselektrik.Dispatch

/-!
# Extractor hood and window contacts

The timer handlers of the extractor hood and of the window contact, and the two contacts
of a hood together with it.  Every frame is delivered at once, and in each second each of
the three devices ticks once, in any order.
-/

namespace Hcan.Hauselektrik

open Hcan.Canix Hcan.Controller Hcan.Library

variable {mcu : Mcu}

/-- The record of the hood and the pins of its board. -/
structure Hood where
  p : DeviceDataDunstabzugport
  out : Outputs

namespace Hood

def ein (hood : Hood) (seconds : UInt16) : Hood where
  p := { hood.p with counter := seconds, stateDunst := true }
  out := darlingtonoutputSetpin hood.out hood.p.config.port true

def aus (hood : Hood) : Hood where
  p := { hood.p with counter := 0, stateDunst := false }
  out := darlingtonoutputSetpin hood.out hood.p.config.port false

/-- REEDKONTAKT_STATE_CHANGE for one contact; `other` is the state of the other one. -/
def stateChange (hood : Hood) (frame : CanixFrame) (reedGruppe : UInt8) (other : Bool) : Hood :=
  if reedGruppe = frame.data[2] then
    if frame.data[3] ≠ 0 then hood.ein 7
    else if other = false then hood.aus
    else hood
  else hood

/-- `dunstabzugport_can_callback`. -/
def canCallback (hood : Hood) (frame : CanixFrame) : Hood :=
  if frame.data[1] = hcanHesReedkontaktOffen then
    if hood.p.config.reedGruppe0 = frame.data[2] then
      { hood with p := { hood.p with stateReed0 := true } }.ein 7
    else if hood.p.config.reedGruppe1 = frame.data[2] then
      { hood with p := { hood.p with stateReed1 := true } }.ein 7
    else hood
  else if frame.data[1] = hcanHesReedkontaktStateChange then
    let first := hood.stateChange frame hood.p.config.reedGruppe0 hood.p.stateReed1
    first.stateChange frame hood.p.config.reedGruppe1 hood.p.stateReed0
  else if frame.data[1] = hcanHesTasterDown then
    if hood.p.config.freischaltTaster = frame.data[2] then
      hood.ein (UInt16.ofNat (hood.p.config.freischaltZeit.toNat * 60))
    else hood
  else hood

/-- `dunstabzugport_timer_handler`. -/
def timerHandler (hood : Hood) : Hood :=
  if hood.p.counter > 0 then
    if hood.p.counter - 1 = 0 then hood.aus
    else { hood with p := { hood.p with counter := hood.p.counter - 1 } }
  else hood

/-- `dunstabzugport_init`. -/
def init (config : EdsDunstabzugportBlock) (out : Outputs) : Hood where
  p := ⟨config, 0, false, false, false⟩
  out := darlingtonoutputSetpin out config.port false

end Hood

/-- A board with the record at index `i` and the pins replaced. -/
def Hood.onBoard (hood : Hood) (i : Nat) (b : Board mcu) : Board mcu :=
  { b with devices := b.devices.set i (.dunstabzugport hood.p), out := hood.out }

section OnBoard

variable {i : Nat} {p q : DeviceDataDunstabzugport} {b : Board mcu}

theorem onBoard_slot (slot : b.devices[i]? = some (.dunstabzugport q)) (hood : Hood) :
    (hood.onBoard i b).devices[i]? = some (.dunstabzugport hood.p) := by
  obtain ⟨bound, -⟩ := List.getElem?_eq_some_iff.mp slot
  exact List.getElem?_set_self bound

theorem onBoard_onBoard (first second : Hood) :
    second.onBoard i (first.onBoard i b) = second.onBoard i b := by
  unfold Hood.onBoard
  rw [List.set_set]

theorem onBoard_self (slot : b.devices[i]? = some (.dunstabzugport q)) :
    (Hood.mk q b.out).onBoard i b = b := by
  unfold Hood.onBoard
  rw [set_self slot]

theorem poke_onBoard (slot : b.devices[i]? = some (.dunstabzugport q))
    (f : DeviceDataDunstabzugport → DeviceDataDunstabzugport) :
    poke i f b = some ((), (Hood.mk (f q) b.out).onBoard i b) := by
  have record : b.devices.modify i (onRecord f) = b.devices.set i (.dunstabzugport (f q)) := by
    rw [List.modify_eq_set_getElem?, slot]
    rfl
  unfold Hood.onBoard
  rw [← record]
  rfl

theorem dunstabzugportEin_apply (slot : b.devices[i]? = some (.dunstabzugport q))
    (port : q.config.port = p.config.port) (seconds : UInt16) :
    dunstabzugportEin i p seconds b =
      some ((), ((Hood.mk q b.out).ein seconds).onBoard i b) := by
  unfold dunstabzugportEin
  rw [Nested.bind_apply, poke_onBoard slot, ← port]
  rfl

theorem dunstabzugportAus_apply (slot : b.devices[i]? = some (.dunstabzugport q))
    (port : q.config.port = p.config.port) :
    dunstabzugportAus i p b = some ((), (Hood.mk q b.out).aus.onBoard i b) := by
  unfold dunstabzugportAus
  rw [Nested.bind_apply, poke_onBoard slot, ← port]
  rfl

theorem dunstabzugportStateChange_apply (slot : b.devices[i]? = some (.dunstabzugport q))
    (port : q.config.port = p.config.port) (frame : CanixFrame) (reedGruppe : UInt8)
    (other : Bool) :
    dunstabzugportStateChange i p frame reedGruppe other b =
      some ((), ((Hood.mk q b.out).stateChange frame reedGruppe other).onBoard i b) := by
  unfold dunstabzugportStateChange Hood.stateChange
  split
  · split
    · exact dunstabzugportEin_apply slot port 7
    · split
      · exact dunstabzugportAus_apply slot port
      · rw [onBoard_self slot]
        rfl
  · rw [onBoard_self slot]
    rfl

theorem stateChange_config (hood : Hood) (frame : CanixFrame) (reedGruppe : UInt8)
    (other : Bool) : (hood.stateChange frame reedGruppe other).p.config = hood.p.config := by
  unfold Hood.stateChange
  split
  · split
    · rfl
    · split <;> rfl
  · rfl

/-- The callback at an index of a board is the callback of the hood with the pins of the
board. -/
theorem dunstabzugportCanCallback_apply (slot : b.devices[i]? = some (.dunstabzugport p))
    (frame : CanixFrame) :
    dunstabzugportCanCallback i p frame b =
      some ((), ((Hood.mk p b.out).canCallback frame).onBoard i b) := by
  unfold dunstabzugportCanCallback Hood.canCallback
  split
  · split
    · rw [Nested.bind_apply, poke_onBoard slot, Option.bind_some,
        dunstabzugportEin_apply (p := p) (onBoard_slot slot _) rfl, onBoard_onBoard]
      rfl
    · split
      · rw [Nested.bind_apply, poke_onBoard slot, Option.bind_some,
          dunstabzugportEin_apply (p := p) (onBoard_slot slot _) rfl, onBoard_onBoard]
        rfl
      · rw [onBoard_self slot]
        rfl
  · split
    · rw [Nested.bind_apply, dunstabzugportStateChange_apply slot rfl, Option.bind_some,
        dunstabzugportStateChange_apply (p := p) (onBoard_slot slot _)
          (congrArg EdsDunstabzugportBlock.port (stateChange_config ..)), onBoard_onBoard]
      rfl
    · split
      · split
        · exact dunstabzugportEin_apply slot rfl _
        · rw [onBoard_self slot]
          rfl
      · rw [onBoard_self slot]
        rfl

end OnBoard

/-- `reedkontakt_timer_handler` with what it reads from the input pin and the messages in the
order in which they are sent. -/
def reedkontaktTimerHandler (self : UInt16) (offen : Bool) (p : DeviceDataReedkontakt) :
    DeviceDataReedkontakt × List CanixFrame :=
  let changes := if offen ≠ p.lastState then
      [hesFrame self hcanMulticastInfo 4 hcanHesReedkontaktStateChange p.config.gruppe
        (if offen then 1 else 0) 0 0 0 0]
    else []
  let p := { p with lastState := offen }
  if p.config.modus ≠ 0 ∧ offen then
    if p.timerCounter = 0 then
      ({ p with timerCounter := 5 - 1 }, changes ++
        [hesFrame self hcanMulticastInfo 3 hcanHesReedkontaktOffen p.config.gruppe 0 0 0 0 0])
    else ({ p with timerCounter := p.timerCounter - 1 }, changes)
  else ({ p with timerCounter := 0 }, changes)

/-! ## The hood and its two contacts -/

inductive Reed where
  | reed0
  | reed1
  deriving DecidableEq, Repr

def Reed.other : Reed → Reed
  | .reed0 => .reed1
  | .reed1 => .reed0

def EdsDunstabzugportBlock.reedGruppe (config : EdsDunstabzugportBlock) : Reed → UInt8
  | .reed0 => config.reedGruppe0
  | .reed1 => config.reedGruppe1

def DeviceDataDunstabzugport.stateReed (p : DeviceDataDunstabzugport) : Reed → Bool
  | .reed0 => p.stateReed0
  | .reed1 => p.stateReed1

/-- A hood and two contacts with its groups that report that they are open. -/
structure Installation where
  hood : EdsDunstabzugportBlock
  contact : Reed → EdsReedkontaktBlock
  /-- The addresses of the boards of the contacts. -/
  self : Reed → UInt16
  /-- The pins of the board of the hood before it is initialised. -/
  out : Outputs
  gruppe : ∀ r, (contact r).gruppe = hood.reedGruppe r
  modus : ∀ r, (contact r).modus = 1

structure House where
  hood : Hood
  contact : Reed → DeviceDataReedkontakt
  /-- The window is open at the contact. -/
  offen : Reed → Bool
  /-- What the last tick of the contact has read. -/
  sampled : Reed → Option Bool
  /-- The contact has not ticked since it was initialised. -/
  fresh : Reed → Bool
  /-- The hood and the contacts that have ticked in this second. -/
  hoodTicked : Bool
  ticked : Reed → Bool

inductive HouseEvent where
  | tickHood
  | tick (r : Reed)
  | move (r : Reed) (offen : Bool)
  | frame (f : CanixFrame)
  /-- The board of the hood or of a contact loads its configuration again. -/
  | reloadHood
  | reload (r : Reed)
  deriving DecidableEq, Repr

namespace House

/-- A second is over when all three devices have ticked. -/
def endSecond (house : House) : House :=
  if house.hoodTicked ∧ house.ticked .reed0 ∧ house.ticked .reed1 then
    { house with hoodTicked := false, ticked := fun _ => false }
  else house

def tickContact (plan : Installation) (house : House) (r : Reed) : House :=
  let (p, frames) := reedkontaktTimerHandler (plan.self r) (house.offen r) (house.contact r)
  { house with
    hood := frames.foldl Hood.canCallback house.hood
    contact := Function.update house.contact r p
    sampled := Function.update house.sampled r (some (house.offen r))
    fresh := Function.update house.fresh r false
    ticked := Function.update house.ticked r true }

/-- A device that has ticked waits for the next second. -/
def step (plan : Installation) (house : House) : HouseEvent → House
  | .tickHood =>
      if house.hoodTicked then house
      else { house with hood := house.hood.timerHandler, hoodTicked := true }.endSecond
  | .tick r => if house.ticked r then house else (house.tickContact plan r).endSecond
  | .move r offen => { house with offen := Function.update house.offen r offen }
  | .frame f => { house with hood := house.hood.canCallback f }
  | .reloadHood => { house with hood := Hood.init plan.hood house.hood.out }
  | .reload r =>
      { house with
        contact := Function.update house.contact r
          (reedkontaktInit (fun _ => house.offen r) (plan.contact r))
        fresh := Function.update house.fresh r true }

def boot (plan : Installation) (offen : Reed → Bool) : House where
  hood := Hood.init plan.hood plan.out
  contact r := reedkontaktInit (fun _ => offen r) (plan.contact r)
  offen := offen
  sampled _ := none
  fresh _ := true
  hoodTicked := false
  ticked _ := false

def run (plan : Installation) (offen : Reed → Bool) (events : List HouseEvent) : House :=
  events.foldl (step plan) (boot plan offen)

end House

end Hcan.Hauselektrik
