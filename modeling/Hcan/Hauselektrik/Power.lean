import Hcan.Hauselektrik.Devices

/-!
# The frame callbacks of the switched devices

One callback for each device type, as `hauselektrik_callback` calls it with a record, its
index in the table and a frame: here for the automations, the light zones and the power
ports.  `send` is `canix_frame_send`, which also delivers the frame locally before it
returns; so a callback that reads its record behind a call reads it again.  Lines for the
syslog are left out: no callback is installed for their service.
-/

namespace Hcan.Hauselektrik

open Hcan.Canix Hcan.Eds Hcan.Controller Hcan.Library

variable {mcu : Mcu}

/-- `time_matches`. -/
def timeMatches (clock : RtcClock) (fromHour fromMinute toHour toMinute dayPattern : UInt8) :
    Bool :=
  let t1 := fromHour.toNat * 60 + fromMinute.toNat
  let t2 := toHour.toNat * 60 + toMinute.toNat
  let now := clock.hour.toNat * 60 + clock.minute.toNat
  let late := if t2 < t1 then t2 + 1440 else t2
  let now := if t2 < t1 ∧ now < t1 then now + 1440 else now
  dayPattern.toNat.testBit clock.dayOfWeek.toNat && decide (t1 ≤ now) && decide (now ≤ late)

/-- `zeitzone_matches`: the first zone of the table with this id decides. -/
def zeitzoneMatches (b : Board mcu) (id : UInt8) : Bool :=
  let zone (device : Device) : Option DeviceDataZeitzone :=
    match device with
    | .zeitzone p => if p.config.gruppe = id then some p else none
    | _ => none
  match b.devices.findSome? zone with
  | some p => timeMatches b.clock p.config.fromHour p.config.fromMinute p.config.toHour
      p.config.toMinute p.config.dayPattern
  | none => false

section Callbacks

variable (self : UInt16) (send : CanixFrame → OnBoard mcu Unit)

/-- `sendMessage` of the automatic power port. -/
def powerportAutomatSendMessage (p : DeviceDataPowerportAutomat) (active : UInt8) :
    OnBoard mcu Unit :=
  -- too bright: no power on
  if p.automatikEin = true ∧ active = hcanHesPowerGroupOn ∧ p.brightness ≠ 65535 ∧
      p.brightness > p.config.helligkeitsschwelle then pure ()
  else send (hesFrame self hcanMulticastControl 3 active p.config.powerportGruppe 0 0 0 0 0)

def powerportAutomatCanCallback (i : Nat) (p : DeviceDataPowerportAutomat) (frame : CanixFrame) :
    OnBoard mcu Unit :=
  if frame.data[1] = hcanHesPowerGroupOn then
    if frame.data[2] = p.config.automatikEinSchalterGruppe then
      poke i fun q : DeviceDataPowerportAutomat => { q with automatikEin := true }
    else if frame.data[2] = p.config.stellerGruppe then
      powerportAutomatSendMessage self send p hcanHesPowerGroupOn
    else pure ()
  else if frame.data[1] = hcanHesPowerGroupOff then
    if frame.data[2] = p.config.automatikEinSchalterGruppe then
      poke i fun q : DeviceDataPowerportAutomat => { q with automatikEin := false }
    else if frame.data[2] = p.config.stellerGruppe then
      powerportAutomatSendMessage self send p hcanHesPowerGroupOff
    else pure ()
  else if frame.data[1] = hcanHesHelligkeitsInfo then
    if p.config.helligkeitsGruppe ≠ 255 ∧ frame.data[2] = p.config.helligkeitsGruppe then
      poke i fun q : DeviceDataPowerportAutomat =>
        { q with brightness := frameWord frame.data[3] frame.data[4] }
    else pure ()
  else pure ()

def rolladenAutomatCanCallback (i : Nat) (p : DeviceDataRolladenAutomat) (frame : CanixFrame) :
    OnBoard mcu Unit :=
  if frame.data[1] = hcanHesPowerGroupOn then
    if frame.data[2] = p.config.automatikEinSchalterGruppe then
      poke i fun q : DeviceDataRolladenAutomat => { q with automatikEin := true }
    else pure ()
  else if frame.data[1] = hcanHesPowerGroupOff then
    if frame.data[2] = p.config.automatikEinSchalterGruppe then
      poke i fun q : DeviceDataRolladenAutomat => { q with automatikEin := false }
    else pure ()
  else if frame.data[1] = hcanHesHelligkeitsInfo then
    if p.config.helligkeitsGruppe ≠ 255 ∧ frame.data[2] = p.config.helligkeitsGruppe then
      poke i fun q : DeviceDataRolladenAutomat =>
        { q with brightness := frameWord frame.data[3] frame.data[4] }
    else pure ()
  else pure ()

def zeitschaltuhrCanCallback (i : Nat) (p : DeviceDataZeitschaltuhr) (frame : CanixFrame) :
    OnBoard mcu Unit :=
  if frame.data[1] = hcanHesPowerGroupOn then
    if frame.data[2] = p.config.automatikEinSchalterGruppe then
      poke i fun q : DeviceDataZeitschaltuhr => { q with automatikEin := true }
    else pure ()
  else if frame.data[1] = hcanHesPowerGroupOff then
    if frame.data[2] = p.config.automatikEinSchalterGruppe then
      poke i fun q : DeviceDataZeitschaltuhr => { q with automatikEin := false }
    else pure ()
  else pure ()

def lichtzoneExtSecCounterMax : UInt8 := 3
def lichtzoneExtTimerinit : UInt16 := 14400

/-- The timer value is in seconds when bit 7 of the delay is set, else in minutes. -/
def lichtzoneSetupTimer (p : DeviceDataLichtzone) : DeviceDataLichtzone :=
  { p with timerCounter :=
      if p.config.timerDelay &&& 0x80 ≠ 0 then (p.config.timerDelay &&& 0x7f).toUInt16
      else UInt16.ofNat (p.config.timerDelay.toNat * 60) }

/-- `inform_action_groups`; the state is read before each frame. -/
def informActionGroups (i : Nat) (p : DeviceDataLichtzone) : OnBoard mcu Unit :=
  p.config.actionGruppe.toList.forM fun group =>
    if group ≠ 255 then do
      let q ← deref i p
      send (hesFrame self hcanMulticastControl 3
        (if q.state ≠ .off then hcanHesPowerGroupOn else hcanHesPowerGroupOff) group 0 0 0 0 0)
    else pure ()

/-- The normal mode behind a toggle button. -/
def lichtzoneUmschalten (i : Nat) (p : DeviceDataLichtzone) : OnBoard mcu Unit :=
  if p.config.timerDelay ≠ 0 then
    match p.state with
    | .off => do
        poke i fun q => { lichtzoneSetupTimer q with state := .on }
        informActionGroups self send i p
    | .on => poke i lichtzoneSetupTimer
    | .onExt => do
        poke i fun q : DeviceDataLichtzone =>
          { q with
            state := .off
            extonSecCounter := 0
            extonTasterDownCounter := 0
            timerCounter := 0 }
        informActionGroups self send i p
  else do
    poke i fun q : DeviceDataLichtzone =>
      { q with state := if p.state = .off then .on else .off }
    informActionGroups self send i p

/-- The loop over the toggle groups; `true` when the callback returns from inside it. -/
def lichtzoneToggle (i : Nat) (p : DeviceDataLichtzone) (taster : UInt8) :
    List UInt8 → OnBoard mcu Bool
  | [] => pure false
  | group :: groups =>
      if taster = group then do
        let q ← deref i p
        if q.extonTasterDownCounter ≥ 3 ∧ q.extonSecCounter > 0 ∧
            q.extonSecCounter < lichtzoneExtSecCounterMax then do
          poke i fun q : DeviceDataLichtzone =>
            { q with
              extonSecCounter := 0
              extonTasterDownCounter := 0
              state := .onExt
              timerCounter := lichtzoneExtTimerinit }
          informActionGroups self send i p
          pure true
        else do
          lichtzoneUmschalten self send i q
          lichtzoneToggle i p taster groups
      else lichtzoneToggle i p taster groups

/-- A press counts for the extended mode whatever group it is for. -/
def lichtzonePressed (p : DeviceDataLichtzone) : DeviceDataLichtzone :=
  { p with
    extonSecCounter := if p.extonSecCounter = 0 then 1 else p.extonSecCounter
    extonTasterDownCounter := p.extonTasterDownCounter + 1 }

def lichtzoneTasterDown (i : Nat) (p : DeviceDataLichtzone) (taster : UInt8) :
    OnBoard mcu Unit := do
  poke i lichtzonePressed
  let returned ← lichtzoneToggle self send i p taster p.config.toggleGruppe.toList
  if returned then pure ()
  else do
    p.config.offGruppe.toList.forM fun group =>
      if taster = group then do
        poke i fun q : DeviceDataLichtzone => { q with state := .off, timerCounter := 0 }
        informActionGroups self send i p
      else pure ()
    p.config.onGruppe.toList.forM fun group =>
      if taster = group then do
        poke i fun q : DeviceDataLichtzone =>
          if q.config.timerDelay ≠ 0 then { lichtzoneSetupTimer q with state := .on }
          else { q with state := .on }
        informActionGroups self send i p
      else pure ()

/-- A power on for an action group only updates the state. -/
def lichtzonePowerGroupOn (group : UInt8) (p : DeviceDataLichtzone) : DeviceDataLichtzone :=
  if p.config.actionGruppe.toList.any (fun action => action != 255 && action == group) = true ∧
      p.state ≠ .onExt then
    if p.config.timerDelay ≠ 0 then { lichtzoneSetupTimer p with state := .on }
    else { p with state := .on }
  else p

def lichtzonePowerGroupOff (group : UInt8) (p : DeviceDataLichtzone) : DeviceDataLichtzone :=
  if p.config.actionGruppe.toList.any (fun action => action != 255 && action == group) = true then
    { p with state := .off, timerCounter := 0 }
  else p

def lichtzoneCanCallback (i : Nat) (p : DeviceDataLichtzone) (frame : CanixFrame) :
    OnBoard mcu Unit :=
  let group := frame.data[2]
  if frame.data[1] = hcanHesTasterDown then lichtzoneTasterDown self send i p group
  else if frame.data[1] = hcanHesPowerGroupOn then poke i (lichtzonePowerGroupOn group)
  else if frame.data[1] = hcanHesPowerGroupOff then poke i (lichtzonePowerGroupOff group)
  else if frame.data[1] = hcanHesPowerGroupTimerQuery then
    if group ∈ p.config.actionGruppe.toList then
      send (hesFrame self frame.src 5 hcanHesPowerGroupTimerReplay group (wordHi p.timerCounter)
        (wordLo p.timerCounter) 0 0 0)
    else pure ()
  else if frame.data[1] = hcanHesPowerGroupSetTimer then
    if group ∈ p.config.actionGruppe.toList then
      poke i fun q : DeviceDataLichtzone =>
        { q with timerCounter := frameWord frame.data[3] frame.data[4] }
    else pure ()
  else pure ()

/-! ## Power port -/

def powerportFeatureBistableRelais : Nat := 0
def powerportFeatureVerzoegertEin : Nat := 1
def powerportFeatureAutoAus : Nat := 2
def powerportFeatureNachlauf : Nat := 3
def powerportFeatureWeckVerzoegertEin : Nat := 4
def powerportFeatureWeckAutoAus : Nat := 5

def DeviceDataPowerport.hasFeature (p : DeviceDataPowerport) (bit : Nat) : Bool :=
  p.config.feature.toNat.testBit bit

inductive Flanke where
  | fallende
  | steigende
  deriving DecidableEq, Repr

def powerportSetupTimer (p : DeviceDataPowerport) : DeviceDataPowerport :=
  { p with countDownTimer :=
      if p.config.gruppe[3] &&& 0x80 ≠ 0 then (p.config.gruppe[3] &&& 0x7f).toUInt16
      else UInt16.ofNat (p.config.gruppe[3].toNat * 60) }

def powerportGet (out : Outputs) (p : DeviceDataPowerport) : Bool :=
  if p.hasFeature powerportFeatureBistableRelais then p.bistableRelaisState != 0
  else out.isOn p.config.port

def powerportSendStateInfo (i : Nat) (p : DeviceDataPowerport) : OnBoard mcu Unit := do
  let q ← deref i p
  let out ← Nested.read fun b => b.out
  send (hesFrame self hcanMulticastInfo 4 hcanHesPowerGroupStateInfo q.config.gruppe[0]
    (if powerportGet out q then 1 else 0) 0 0 0 0)

section Relais

-- `canix_sleep_100th`: what happens while a bistable relay switches
variable (sleep : OnBoard mcu Unit)

/-- The pulse of a bistable relay, or the pin of another one. -/
def relaisEinschalten (i : Nat) (p : DeviceDataPowerport) : OnBoard mcu Unit :=
  if p.hasFeature powerportFeatureBistableRelais then do
    setpin p.config.port true
    sleep
    setpin p.config.port false
    poke i fun q : DeviceDataPowerport =>
      { q with bistableRelaisState := q.bistableRelaisState ^^^ 1 }
  else setpin p.config.port true

def relaisOn (i : Nat) (p : DeviceDataPowerport) : OnBoard mcu Unit := do
  let q ← deref i p
  relaisEinschalten sleep i q
  powerportSendStateInfo self send i p

def relaisOff (i : Nat) (p : DeviceDataPowerport) : OnBoard mcu Unit := do
  setpin p.config.port false
  powerportSendStateInfo self send i p

def setPowerportOrTimer (i : Nat) (p : DeviceDataPowerport) : Flanke → OnBoard mcu Unit
  | .steigende =>
      if p.hasFeature powerportFeatureAutoAus then do
        relaisOn self send sleep i p
        poke i powerportSetupTimer
      else if p.hasFeature powerportFeatureVerzoegertEin then poke i powerportSetupTimer
      else do
        relaisOn self send sleep i p
        poke i fun q : DeviceDataPowerport => { q with countDownTimer := 0 }
  | .fallende =>
      if p.hasFeature powerportFeatureNachlauf then poke i powerportSetupTimer
      else do
        relaisOff self send i p
        poke i fun q : DeviceDataPowerport => { q with countDownTimer := 0 }

/-- The pin of a bistable relay reads as off. -/
def powerportToggle (i : Nat) (p : DeviceDataPowerport) : OnBoard mcu Unit := do
  let out ← Nested.read fun b => b.out
  if out.isOn p.config.port then setPowerportOrTimer self send sleep i p .fallende
  else setPowerportOrTimer self send sleep i p .steigende

/-- With the feature AUTO_AUS the last group holds the delay. -/
def powerportIsInGroup (p : DeviceDataPowerport) (group : UInt8) : Bool :=
  let maxPowerportGruppen := if p.hasFeature powerportFeatureAutoAus then 3 else 4
  group != 255 && (p.config.gruppe.toList.take maxPowerportGruppen).contains group

/-- `config.feature |= 1 << bit` on a byte. -/
def setFeature (feature bit : UInt8) : UInt8 :=
  if bit.toNat < 8 then feature ||| (1 <<< bit) else feature

def powerportCanCallback (i : Nat) (p : DeviceDataPowerport) (frame : CanixFrame) :
    OnBoard mcu Unit :=
  if powerportIsInGroup p frame.data[2] then
    if frame.data[1] = hcanHesTasterDown then powerportToggle self send sleep i p
    else if frame.data[1] = hcanHesPowerGroupOn then
      setPowerportOrTimer self send sleep i p .steigende
    else if frame.data[1] = hcanHesPowerGroupOff then
      setPowerportOrTimer self send sleep i p .fallende
    else if frame.data[1] = hcanHesPowerGroupStateQuery then do
      let out ← Nested.read fun b => b.out
      send (hesFrame self frame.src 4 hcanHesPowerGroupStateReplay frame.data[2]
        (if powerportGet out p then 1 else 0) 0 0 0 0)
    else if frame.data[1] = hcanHesWeckerSet then
      if p.config.gruppe[0] = frame.data[2] then do
        poke i fun q : DeviceDataPowerport =>
          { q with
            config := { q.config with feature := setFeature q.config.feature frame.data[3] }
            countDownTimer := frameWord frame.data[4] frame.data[5] }
        let q ← deref i p
        if q.hasFeature powerportFeatureWeckAutoAus then relaisOn self send sleep i p
        else pure ()
      else pure ()
    else if frame.data[1] = hcanHesWeckerDetailsRequest then
      if p.config.gruppe[0] = frame.data[2] then
        send (hesFrame self frame.src 5 hcanHesWeckerDetails p.config.gruppe[0]
          (wordHi p.countDownTimer) (wordLo p.countDownTimer) 0 0 0)
      else pure ()
    else pure ()
  else pure ()

end Relais

end Callbacks

end Hcan.Hauselektrik
