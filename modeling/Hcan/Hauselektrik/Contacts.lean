import Hcan.Hauselektrik.Power

/-!
# The frame callbacks of the contacts and the shutters

Extractor hood, window contact, slit position, shutter, button with potentiometer and
dimmer.
-/

namespace Hcan.Hauselektrik

open Hcan.Canix Hcan.Eds Hcan.Controller Hcan.Library

variable {mcu : Mcu}

section Callbacks

variable (self : UInt16) (send : CanixFrame → OnBoard mcu Unit)

/-- The hood is switched on for some seconds. -/
def dunstabzugportEin (i : Nat) (p : DeviceDataDunstabzugport) (seconds : UInt16) :
    OnBoard mcu Unit := do
  poke i fun q : DeviceDataDunstabzugport => { q with counter := seconds, stateDunst := true }
  setpin p.config.port true

def dunstabzugportAus (i : Nat) (p : DeviceDataDunstabzugport) : OnBoard mcu Unit := do
  poke i fun q : DeviceDataDunstabzugport => { q with counter := 0, stateDunst := false }
  setpin p.config.port false

/-- REEDKONTAKT_STATE_CHANGE for one contact; `other` is the state of the other one. -/
def dunstabzugportStateChange (i : Nat) (p : DeviceDataDunstabzugport) (frame : CanixFrame)
    (reedGruppe : UInt8) (other : Bool) : OnBoard mcu Unit :=
  if reedGruppe = frame.data[2] then
    if frame.data[3] ≠ 0 then dunstabzugportEin i p 7
    else if other = false then dunstabzugportAus i p
    else pure ()
  else pure ()

def dunstabzugportCanCallback (i : Nat) (p : DeviceDataDunstabzugport) (frame : CanixFrame) :
    OnBoard mcu Unit :=
  if frame.data[1] = hcanHesReedkontaktOffen then
    if p.config.reedGruppe0 = frame.data[2] then do
      poke i fun q : DeviceDataDunstabzugport => { q with stateReed0 := true }
      dunstabzugportEin i p 7
    else if p.config.reedGruppe1 = frame.data[2] then do
      poke i fun q : DeviceDataDunstabzugport => { q with stateReed1 := true }
      dunstabzugportEin i p 7
    else pure ()
  else if frame.data[1] = hcanHesReedkontaktStateChange then do
    dunstabzugportStateChange i p frame p.config.reedGruppe0 p.stateReed1
    dunstabzugportStateChange i p frame p.config.reedGruppe1 p.stateReed0
  else if frame.data[1] = hcanHesTasterDown then
    if p.config.freischaltTaster = frame.data[2] then
      dunstabzugportEin i p (UInt16.ofNat (p.config.freischaltZeit.toNat * 60))
    else pure ()
  else pure ()

def reedkontaktCanCallback (p : DeviceDataReedkontakt) (frame : CanixFrame) :
    OnBoard mcu Unit :=
  if p.config.gruppe = frame.data[2] ∧ frame.data[1] = hcanHesReedkontaktStateQuery then do
    let offen ← Nested.read fun b => b.tasterport p.config.port
    send (hesFrame self frame.src 4 hcanHesReedkontaktStateReplay frame.data[2]
      (if offen then 1 else 0) 0 0 0 0)
  else pure ()

def schlitzPos : UInt8 := 17
def schlitzJobTimerLoad : UInt8 := 20

def sendRolladenPositionSet (p : DeviceDataRolladenSchlitzpos) (sollPosition : UInt8) :
    OnBoard mcu Unit :=
  send (hesFrame self hcanMulticastControl 4 hcanHesRolladenPositionSet p.config.rolladen
    sollPosition 0 0 0 0)

/-- The shutter goes to the slit position behind an open window, else down again. -/
def rolladenSchlitzposFahren (p : DeviceDataRolladenSchlitzpos) (offen : Bool) :
    OnBoard mcu Unit :=
  if offen then
    if p.rolladenIstposition < schlitzPos - 5 then sendRolladenPositionSet self send p schlitzPos
    else pure ()
  else if p.rolladenIstposition ≥ schlitzPos - 2 ∧ p.rolladenIstposition ≤ schlitzPos + 2 then
    sendRolladenPositionSet self send p 0
  else pure ()

def rolladenSchlitzposCanCallback (i : Nat) (p : DeviceDataRolladenSchlitzpos)
    (frame : CanixFrame) : OnBoard mcu Unit :=
  let own := p.config.reed0 = frame.data[2] ∨ p.config.reed1 = frame.data[2]
  if frame.data[1] = hcanHesReedkontaktStateChange then
    if own then
      poke i fun q : DeviceDataRolladenSchlitzpos =>
        { q with rolladenSchlitzJob := schlitzJobTimerLoad }
    else pure ()
  else if frame.data[1] = hcanHesRolladenPositionReplay then
    if p.config.rolladen = frame.data[2] then
      poke i fun q : DeviceDataRolladenSchlitzpos =>
        { q with rolladenIstposition := frame.data[3] }
    else pure ()
  else if frame.data[1] = hcanHesReedkontaktStateReplay then
    if own then
      if p.config.reed1 = 255 then rolladenSchlitzposFahren self send p (frame.data[3] != 0)
      else if p.state1stReedkontakt = 255 then
        -- only with the answer of the second contact it goes on
        poke i fun q : DeviceDataRolladenSchlitzpos =>
          { q with state1stReedkontakt := frame.data[3] }
      else do
        rolladenSchlitzposFahren self send p
          (frame.data[3] != 0 || p.state1stReedkontakt != 0)
        poke i fun q : DeviceDataRolladenSchlitzpos => { q with state1stReedkontakt := 255 }
    else pure ()
  else pure ()

/-- `rolladen_can_callback`, whose record is written before the answer is sent. -/
def rolladenCallback (byZero : Int → Int) (i : Nat) (p : DeviceDataRolladen)
    (frame : CanixFrame) : OnBoard mcu Unit := do
  let handled := rolladenCanCallback byZero self p frame
  poke i fun _ : DeviceDataRolladen => handled.1
  match handled.2 with
  | some answer => send answer
  | none => pure ()

/-- The first scale division that reaches the value; the products are 16 bits wide. -/
def multitasterCanCallback (i : Nat) (p : DeviceDataMultitaster) (frame : CanixFrame) :
    OnBoard mcu Unit :=
  if frame.data[1] = hcanHesPotiPosChanged ∧ frame.data[2] = p.config.potiGruppe then
    let adcValue := frameWord frame.data[3] frame.data[4]
    match (List.range 10).find? fun n => adcValue ≤ UInt16.ofNat n * p.oneScale with
    | some n =>
        poke i fun q : DeviceDataMultitaster => { q with lastPotiPos := UInt8.ofNat n - 1 }
    | none => pure ()
  else pure ()

def tastdimmerIsInGroup (p : DeviceDataTastdimmer) (group : UInt8) : Bool :=
  group != 255 && p.config.gruppe.toList.contains group

def tastdimmerCanCallback (p : DeviceDataTastdimmer) (frame : CanixFrame) : OnBoard mcu Unit :=
  if tastdimmerIsInGroup p frame.data[2] then
    if frame.data[1] = hcanHesTasterDown then setpin p.config.port true
    else if frame.data[1] = hcanHesTasterUp then setpin p.config.port false
    else pure ()
  else pure ()

end Callbacks

end Hcan.Hauselektrik
