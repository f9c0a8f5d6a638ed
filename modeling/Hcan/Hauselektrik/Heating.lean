import Hcan.Hauselektrik.Power

/-!
# The frame callbacks of the heating

The heating, its time zones, its pump and the temperature sensors.  The heating and the
time zone also write their configuration to the EEPROM.
-/

namespace Hcan.Hauselektrik

open Hcan.Canix Hcan.Eds Hcan.Controller Hcan.Library

variable {mcu : Mcu}

def edsHeizungBlockId : UInt8 := 13
def edsZeitzoneBlockId : UInt8 := 18

section Callbacks

variable (self : UInt16) (send : CanixFrame → OnBoard mcu Unit)

/-- The line that `heizung_get_matching_zeitzone_index` finds. -/
def heizungMatchingLine (b : Board mcu) (p : DeviceDataHeizung) : Option SolltempLine :=
  p.config.solltempLine.toList.find? fun line => zeitzoneMatches b line.id

/-- The answer to HEIZUNG_DETAILS_REQUEST in each mode. -/
def heizungDetails (b : Board mcu) (p : DeviceDataHeizung) (frame : CanixFrame) : CanixFrame :=
  match p.mode with
  | .off => hesFrame self frame.src 3 hcanHesHeizungModeOffDetails p.config.id 0 0 0 0 0
  | .manual =>
      hesFrame self frame.src 6 hcanHesHeizungModeManualDetails p.config.id p.manualRate
        (wordHi p.durationCounter) (wordLo p.durationCounter) 0 0
  | .thermostat =>
      hesFrame self frame.src 7 hcanHesHeizungModeThermostatDetails p.config.id
        (wordHi p.thermostatTemp) (wordLo p.thermostatTemp) (wordHi p.durationCounter)
        (wordLo p.durationCounter) 0
  | .automatik =>
      match heizungMatchingLine b p with
      | some line =>
          hesFrame self frame.src 6 hcanHesHeizungModeAutomatikDetails frame.data[2]
            (wordHi line.temp) (wordLo line.temp) line.id 0 0
      | none => hesFrame self frame.src 6 hcanHesHeizungModeAutomatikDetails frame.data[2] 0 0 0 0 0

/-- The assignment to `solltemp_line[idx].temp`. -/
def EdsHeizungBlock.setTemp (config : EdsHeizungBlock) (idx : Fin 8) (temp : UInt16) :
    EdsHeizungBlock :=
  { config with solltempLine :=
      config.solltempLine.set idx { config.solltempLine[idx] with temp := temp } }

/-- HEIZUNG_SOLLTEMP_WRITE_LINE: the temperature goes to the record and, low byte first,
behind the header, the four first fields and the zone of the line in the EDS block.  The
zone itself is not written. -/
def heizungWriteLine (i : Nat) (p : DeviceDataHeizung) (frame : CanixFrame) (idx : Fin 8) :
    OnBoard mcu Unit := do
  let type ← Nested.read fun b => edsBlockType b.eeprom p.it
  if p.it ≠ 0 ∧ type = edsHeizungBlockId then do
    let temp := frameWord frame.data[4] frame.data[5]
    poke i fun q : DeviceDataHeizung => { q with config := q.config.setTemp idx temp }
    eepromWrite (ptrAdd p.it (6 + idx * 3 + 1)) (wordLo temp)
    eepromWrite (ptrAdd p.it (6 + idx * 3 + 1 + 1)) (wordHi temp)
    send (hesFrame self frame.src 4 hcanHesHeizungSolltempWriteLineAck p.config.id
      (UInt8.ofNat idx) 0 0 0 0)
  else pure ()

def heizungCanCallback (i : Nat) (p : DeviceDataHeizung) (frame : CanixFrame) :
    OnBoard mcu Unit :=
  let command := frame.data[1]
  if command = hcanHes1wireTemperature then
    if frame.data[2] = p.config.sensorId then
      poke i fun q : DeviceDataHeizung =>
        { q with
          measureValue := frameWord frame.data[3] frame.data[4]
          receivedIntervalCounter := 0 }
    else pure ()
  else if command = hcanHesReedkontaktOffen then
    if frame.data[2] ∈ p.config.reed.toList then
      poke i fun q : DeviceDataHeizung => { q with reedHeizStopCounter := 60 }
    else pure ()
  else if p.config.id = frame.data[2] then
    if command = hcanHesHeizungSetModeOff then
      poke i fun q : DeviceDataHeizung => { q with mode := .off }
    else if command = hcanHesHeizungSetModeManual then
      poke i fun q : DeviceDataHeizung =>
        { q with
          mode := .manual
          manualRate := frame.data[3]
          durationCounter := frameWord frame.data[4] frame.data[5] }
    else if command = hcanHesHeizungSetModeThermostatDetails then
      poke i fun q : DeviceDataHeizung =>
        { q with
          mode := .thermostat
          thermostatTemp := frameWord frame.data[3] frame.data[4]
          durationCounter := frameWord frame.data[5] frame.data[6] }
    else if command = hcanHesHeizungSetModeAutomatik then
      poke i fun q : DeviceDataHeizung => { q with mode := .automatik }
    else if command = hcanHesHeizungDetailsRequest then do
      let answer ← Nested.read fun b => heizungDetails self b p frame
      send answer
    else if command = hcanHesHeizungTistRequest then
      send (hesFrame self frame.src 5 hcanHesHeizungTistReplay p.config.id
        (wordHi p.measureValue) (wordLo p.measureValue) 0 0 0)
    else if command = hcanHesHeizungSolltempLineRequest then
      if index : frame.data[3].toNat < 8 then
        let line := p.config.solltempLine.get ⟨frame.data[3].toNat, index⟩
        send (hesFrame self frame.src 7 hcanHesHeizungSolltempLineReplay p.config.id
          frame.data[3] (wordHi line.temp) (wordLo line.temp) line.id 0)
      else pure ()
    else if command = hcanHesHeizungSolltempWriteLine then
      if index : frame.data[3].toNat < 8 then
        heizungWriteLine self send i p frame ⟨frame.data[3].toNat, index⟩
      else pure ()
    else pure ()
  else pure ()

/-- The payload behind the group. -/
def zeitzoneDetails (frame : CanixFrame) (config : EdsZeitzoneBlock) : EdsZeitzoneBlock :=
  { config with
    dayPattern := frame.data[3]
    fromHour := frame.data[4]
    fromMinute := frame.data[5]
    toHour := frame.data[6]
    toMinute := frame.data[7] }

/-- ZEITZONE_WRITE_DETAILS: five bytes behind the header and the group. -/
def zeitzoneWriteDetails (i : Nat) (p : DeviceDataZeitzone) (frame : CanixFrame) :
    OnBoard mcu Unit := do
  let type ← Nested.read fun b => edsBlockType b.eeprom p.it
  if p.it ≠ 0 ∧ type = edsZeitzoneBlockId then do
    poke i fun q : DeviceDataZeitzone => { q with config := zeitzoneDetails frame q.config }
    eepromWrite (ptrAdd p.it 3) frame.data[3]
    eepromWrite (ptrAdd p.it 4) frame.data[4]
    eepromWrite (ptrAdd p.it 5) frame.data[5]
    eepromWrite (ptrAdd p.it 6) frame.data[6]
    eepromWrite (ptrAdd p.it 7) frame.data[7]
    send (hesFrame self frame.src 3 hcanHesZeitzoneWriteDetailsAck p.config.gruppe 0 0 0 0 0)
  else pure ()

def zeitzoneCanCallback (i : Nat) (p : DeviceDataZeitzone) (frame : CanixFrame) :
    OnBoard mcu Unit :=
  if frame.data[2] = p.config.gruppe then
    if frame.data[1] = hcanHesZeitzoneDetailsRequest then
      send (hesFrame self frame.src 8 hcanHesZeitzoneDetailsReplay p.config.gruppe
        p.config.dayPattern p.config.fromHour p.config.fromMinute p.config.toHour
        p.config.toMinute)
    else if frame.data[1] = hcanHesZeitzoneWriteDetails then
      zeitzoneWriteDetails self send i p frame
    else if frame.data[1] = hcanHesZeitzoneTestMatchRequest then do
      let isMatch ← Nested.read fun b => zeitzoneMatches b p.config.gruppe
      send (hesFrame self frame.src 4 hcanHesZeitzoneTestMatchReplay p.config.gruppe
        (if isMatch then 1 else 0) 0 0 0 0)
    else pure ()
  else pure ()

/-! ## Pump and temperature sensor -/

def einschaltSchwelle : Nat := 10
def ausschaltSchwelle : Nat := einschaltSchwelle - 5

/-- `waermebedarfSpeichern`: the entry of the id, else the first empty one. -/
def waermebedarfSpeichern (id waermebedarf : UInt8) (heizung : List Waermebedarf) :
    List Waermebedarf :=
  match heizung.findIdx? fun entry => entry.id == id with
  | some n => heizung.set n ⟨id, waermebedarf⟩
  | none =>
      match heizung.findIdx? fun entry => entry.id == 255 with
      | some n => heizung.set n ⟨id, waermebedarf⟩
      | none => heizung

/-- `getMittlererWaermebedarf`; the cast of the sum to a byte binds before the division. -/
def getMittlererWaermebedarf (heizung : List Waermebedarf) : Nat :=
  let positive := heizung.filter fun entry => entry.waermebedarf > 0
  let gesamt := (positive.map fun entry => entry.waermebedarf.toNat).sum
  if gesamt = 0 then 0 else gesamt % 256 / positive.length

def zentralheizungspumpeSendMessage (p : DeviceDataZentralheizungspumpe) (active : Bool) :
    OnBoard mcu Unit :=
  send (hesFrame self hcanMulticastControl 3
    (if active then hcanHesPowerGroupOn else hcanHesPowerGroupOff) p.config.gruppe 0 0 0 0 0)

def zentralheizungspumpeCanCallback (i : Nat) (p : DeviceDataZentralheizungspumpe)
    (frame : CanixFrame) : OnBoard mcu Unit :=
  if frame.data[1] = hcanHesHeizungWaermebedarfInfo then do
    let heizung := waermebedarfSpeichern frame.data[2] frame.data[3] p.heizung
    poke i fun q : DeviceDataZentralheizungspumpe => { q with heizung := heizung }
    let mittlererWaermebedarf := getMittlererWaermebedarf heizung
    if mittlererWaermebedarf ≥ einschaltSchwelle then
      zentralheizungspumpeSendMessage self send p true
    else if mittlererWaermebedarf ≤ ausschaltSchwelle then
      zentralheizungspumpeSendMessage self send p false
    else pure ()
  else pure ()

def tempsensorCanCallback (p : DeviceDataTempsensor) (frame : CanixFrame) : OnBoard mcu Unit :=
  if frame.data[1] = hcanHes1wireTemperatureQuery ∧ frame.data[2] = p.config.gruppe then
    send (hesFrame self frame.src 5 hcanHes1wireTemperatureReplay p.config.gruppe
      (wordHi p.temperature) (wordLo p.temperature) 0 0 0)
  else pure ()

end Callbacks

end Hcan.Hauselektrik
