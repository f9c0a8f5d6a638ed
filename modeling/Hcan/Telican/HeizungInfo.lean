import Hcan.Hauselektrik.Dispatch
import Hcan.Telican.HeizungCommand
import Mathlib.Data.Rat.Lemmas
import Mathlib.Tactic.NormNum

/-!
# What telican reads of a heating

`heizung_command::get_details` and `get_ist_temp`, and the answers of the heating itself.
A temperature is put together from two bytes without its sign.  A reply carries only what
belongs to the mode; the other fields of the info are not initialised.
-/

namespace Hcan.Telican

open Hcan.Canix Hcan.Host Hcan.Library Hcan.Hauselektrik
open Hcan.Controller (hauselektrikAccepts)

variable {mcu : Mcu}

/-- `heizung_info_t`. -/
structure HeizungInfo where
  mode : Int
  dauer : Int
  dauerMin : Int
  dauerSec : Int
  dauerStr : Text
  sollTemp : ℚ
  istTemp : ℚ
  stellgrad : Int
  zzId : Int

/-- The assignments to `info.dauer…`. -/
def HeizungInfo.withDauer (info : HeizungInfo) (dauer : Int) : HeizungInfo :=
  { info with dauer := dauer, dauerMin := dauer / 60, dauerSec := dauer % 60 }

/-- `(hi << 8) | lo` as an `int`. -/
def twoBytes (hi lo : UInt8) : Int := hi.toNat * 256 + lo.toNat

def temperature (hi lo : UInt8) : ℚ := twoBytes hi lo / 16

def padLeft (width : Nat) (fill : UInt8) (number : Text) : Text :=
  List.replicate (width - number.length) fill ++ number

def signedDecimal (n : Int) : Text :=
  if n < 0 then text "-" ++ decimal n.natAbs else decimal n.natAbs

/-- `recv_frame`: frames to other receivers are skipped until the time is over. -/
def recvFrame (src : UInt16) : Option CanixFrame → Except TelicanError CanixFrame
  | some frame =>
      if frame.dst = src then .ok frame
      else .error (.transport (text "timeout while waiting for packet"))
  | none => .error (.transport (text "timeout while waiting for packet"))

/-- `recv_HEIZUNG_TIST_REPLAY` from any sender. -/
def recvTistReplay (src : UInt16) (answer : Option CanixFrame) :
    Except TelicanError CanixFrame := do
  let frame ← recvFrame src answer
  if frame.size ≠ 5 then .error (.transport (text "unexpected size in packet received"))
  else if frame.data[0] ≠ hcanSrvHes then
    .error (.transport (text "unexpected packet received: service id is wrong"))
  else if frame.data[1] ≠ hcanHesHeizungTistReplay then
    .error (.transport (text "unexpected packet received: commmand id is wrong"))
  else .ok frame

namespace HeizungCommand

variable (command : HeizungCommand) (answer : CanixFrame → Option CanixFrame)

def sendDetailsRequest (id : UInt8) : CanixFrame :=
  hesFrame command.src hcanMulticastControl 3 hcanHesHeizungDetailsRequest id 0 0 0 0 0

def sendTistRequest (id : UInt8) : CanixFrame :=
  hesFrame command.src hcanMulticastControl 3 hcanHesHeizungTistRequest id 0 0 0 0 0

def getIstTemp (id : UInt8) : Except TelicanError ℚ := do
  let frame ← recvTistReplay command.src (answer (command.sendTistRequest id))
  .ok (temperature frame.data[3] frame.data[4])

/-- The switch over the command of the reply. -/
def readDetails (info : HeizungInfo) (frame : CanixFrame) (id : UInt8) :
    Except TelicanError HeizungInfo :=
  if frame.data[1] = hcanHesHeizungModeOffDetails then .ok { info with mode := 0 }
  else if frame.data[1] = hcanHesHeizungModeManualDetails then
    .ok <| HeizungInfo.withDauer { info with mode := 1, stellgrad := frame.data[3].toNat }
      (twoBytes frame.data[4] frame.data[5])
  else if frame.data[1] = hcanHesHeizungModeThermostatDetails then do
    let istTemp ← command.getIstTemp answer id
    .ok <| HeizungInfo.withDauer
      { info with mode := 2, sollTemp := temperature frame.data[3] frame.data[4], istTemp := istTemp }
      (twoBytes frame.data[5] frame.data[6])
  else if frame.data[1] = hcanHesHeizungModeAutomatikDetails then
    .ok { info with
      mode := 3
      sollTemp := temperature frame.data[3] frame.data[4]
      zzId := frame.data[5].toNat }
  else .error .unknownMode

/-- `get_details` over an info with the given content of its memory; `answer` is what comes back
for a frame. -/
def getDetails (memory : HeizungInfo) (id : UInt8) : Except TelicanError HeizungInfo := do
  let frame ← recvFrame command.src (answer (command.sendDetailsRequest id))
  let info ← command.readDetails answer memory frame id
  let istTemp ← command.getIstTemp answer id
  .ok { info with
    istTemp := istTemp
    dauerStr := padLeft 3 32 (signedDecimal info.dauerMin) ++ text ":" ++
      padLeft 2 48 (signedDecimal info.dauerSec) ++ text "min" }

end HeizungCommand

/-- The first frame that the heating at index `i` sends when it gets a frame. -/
def heizungAnswer (env : Environment mcu) (i : Nat) (b : Board mcu) (frame : CanixFrame) :
    Option CanixFrame :=
  if hauselektrikAccepts env.self frame then
    (deviceCanCallback env (fun f => modify fun b => { b with sent := b.sent ++ [f] }) frame i
      { b with sent := [] }).bind fun result => result.2.sent.head?
  else none

/-- The temperature that the heating is set to in its mode. -/
def heizungSollTemp (b : Board mcu) (p : DeviceDataHeizung) : Option UInt16 :=
  match p.mode with
  | .thermostat => some p.thermostatTemp
  | .automatik => (heizungMatchingLine b p).map SolltempLine.temp
  | _ => none

/-- The signed fixed-point number with four bits behind the point. -/
def fixedPoint (word : UInt16) : ℚ := word.toInt16.toInt / 16

def modeNumber : HeizungMode → Int
  | .off => 0
  | .manual => 1
  | .thermostat => 2
  | .automatik => 3

/-- The remaining duration in the three fields of the info. -/
def HeizungInfo.HasDauer (info : HeizungInfo) (dauer : UInt16) : Prop :=
  info.dauer = dauer.toNat ∧ info.dauerMin = dauer.toNat / 60 ∧ info.dauerSec = dauer.toNat % 60

/-- The info agrees with the state of the heating. -/
structure Reports (b : Board mcu) (p : DeviceDataHeizung) (info : HeizungInfo) : Prop where
  mode : info.mode = modeNumber p.mode
  rate : info.stellgrad = p.manualRate.toNat
  dauer : info.HasDauer p.durationCounter
  istTemp : info.istTemp = fixedPoint p.measureValue
  sollTemp : ∀ soll, heizungSollTemp b p = some soll → info.sollTemp = fixedPoint soll

theorem twoBytes_word (word : UInt16) : twoBytes (wordHi word) (wordLo word) = word.toNat := by
  have bound := word.toNat_lt
  simp only [twoBytes, wordHi, wordLo, UInt8.toNat_ofNat', Nat.reducePow]
  omega

/-- Only a temperature that is not negative keeps its value. -/
theorem temperature_word_iff (word : UInt16) :
    temperature (wordHi word) (wordLo word) = fixedPoint word ↔ 0 ≤ word.toInt16.toInt := by
  have signed : word.toInt16.toInt =
      if 2 * word.toNat < 65536 then (word.toNat : Int) else word.toNat - 65536 :=
    BitVec.toInt_eq_toNat_cond _
  have bound := word.toNat_lt
  unfold temperature fixedPoint
  rw [twoBytes_word, div_left_inj' (by norm_num), Int.cast_inj]
  split at signed
  · omega
  · omega

theorem withDauer_hasDauer (info : HeizungInfo) (dauer : UInt16) :
    (info.withDauer (twoBytes (wordHi dauer) (wordLo dauer))).HasDauer dauer := by
  rw [twoBytes_word]
  exact ⟨rfl, rfl, rfl⟩

/-- The rate and the duration where the reply of the mode carries them; else they are what the
memory held. -/
structure Carried (b : Board mcu) (p : DeviceDataHeizung) (memory info : HeizungInfo) : Prop where
  mode : info.mode = modeNumber p.mode
  rate : match p.mode with
    | .manual => info.stellgrad = p.manualRate.toNat
    | _ => info.stellgrad = memory.stellgrad
  dauer : match p.mode with
    | .manual | .thermostat => info.HasDauer p.durationCounter
    | _ => info.dauer = memory.dauer ∧ info.dauerMin = memory.dauerMin ∧
        info.dauerSec = memory.dauerSec
  sollTemp : ∀ soll, heizungSollTemp b p = some soll →
    info.sollTemp = temperature (wordHi soll) (wordLo soll)

theorem recvFrame_own {src : UInt16} {frame : CanixFrame} (own : frame.dst = src) :
    recvFrame src (some frame) = .ok frame := if_pos own

section Exchange

variable {env : Environment mcu} {i : Nat} {b : Board mcu} {p : DeviceDataHeizung}
  {command : HeizungCommand} {id : UInt8}

/-- The heating gets every request of telican. -/
theorem heizungAnswer_eq (slot : b.devices[i]? = some (.heizung p)) (size request : UInt8) :
    heizungAnswer env i b (hesFrame command.src hcanMulticastControl size request id 0 0 0 0 0) =
      (heizungCanCallback env.self (fun f => modify fun b : Board mcu =>
          { b with sent := b.sent ++ [f] }) i p
        (hesFrame command.src hcanMulticastControl size request id 0 0 0 0 0)
        { b with sent := [] }).bind fun result => result.2.sent.head? := by
  have accepted : hauselektrikAccepts env.self
      (hesFrame command.src hcanMulticastControl size request id 0 0 0 0 0) = true := by
    change ((hcanSrvHes == hcanSrvHes) && (hcanMulticastControl == env.self ||
      hcanMulticastControl == hcanMulticastControl || _)) = true
    simp only [beq_self_eq_true, Bool.or_true, Bool.true_or, Bool.and_self]
  unfold heizungAnswer
  rw [if_pos accepted, deviceCanCallback, Nested.bind_apply]
  dsimp only [Nested.read, Option.bind_some]
  rw [slot]

theorem heizungAnswer_details (slot : b.devices[i]? = some (.heizung p))
    (addressed : p.config.id = id) :
    heizungAnswer env i b (command.sendDetailsRequest id) =
      some (heizungDetails env.self b p (command.sendDetailsRequest id)) := by
  have own : p.config.id = (command.sendDetailsRequest id).data[2] := addressed
  have asks : (command.sendDetailsRequest id).data[1] = hcanHesHeizungDetailsRequest := rfl
  refine (heizungAnswer_eq slot 3 hcanHesHeizungDetailsRequest).trans ?_
  change (heizungCanCallback env.self _ i p (command.sendDetailsRequest id) _).bind _ = _
  unfold heizungCanCallback
  dsimp only
  rw [if_pos own, asks, if_neg (by decide), if_neg (by decide), if_neg (by decide),
    if_neg (by decide), if_neg (by decide), if_neg (by decide), if_pos rfl]
  rfl

theorem heizungAnswer_tist (slot : b.devices[i]? = some (.heizung p))
    (addressed : p.config.id = id) :
    heizungAnswer env i b (command.sendTistRequest id) =
      some (hesFrame env.self command.src 5 hcanHesHeizungTistReplay id (wordHi p.measureValue)
        (wordLo p.measureValue) 0 0 0) := by
  have own : p.config.id = (command.sendTistRequest id).data[2] := addressed
  have asks : (command.sendTistRequest id).data[1] = hcanHesHeizungTistRequest := rfl
  refine (heizungAnswer_eq slot 3 hcanHesHeizungTistRequest).trans ?_
  change (heizungCanCallback env.self _ i p (command.sendTistRequest id) _).bind _ = _
  unfold heizungCanCallback
  dsimp only
  rw [if_pos own, asks, if_neg (by decide), if_neg (by decide), if_neg (by decide),
    if_neg (by decide), if_neg (by decide), if_neg (by decide), if_neg (by decide), if_pos rfl,
    addressed]
  rfl

theorem getIstTemp_own (slot : b.devices[i]? = some (.heizung p)) (addressed : p.config.id = id) :
    command.getIstTemp (heizungAnswer env i b) id =
      .ok (temperature (wordHi p.measureValue) (wordLo p.measureValue)) := by
  unfold HeizungCommand.getIstTemp recvTistReplay
  rw [heizungAnswer_tist slot addressed, recvFrame_own (by rfl)]
  rfl

theorem heizungDetails_dst (self : UInt16) (b : Board mcu) (p : DeviceDataHeizung)
    (frame : CanixFrame) : (heizungDetails self b p frame).dst = frame.src := by
  unfold heizungDetails
  cases p.mode with
  | off => rfl
  | manual => rfl
  | thermostat => rfl
  | automatik => cases heizungMatchingLine b p <;> rfl

/-- What the switch makes of the heating's own reply. -/
theorem readDetails_own (env : Environment mcu) (command : HeizungCommand)
    (slot : b.devices[i]? = some (.heizung p)) (addressed : p.config.id = id)
    (memory : HeizungInfo) :
    ∃ info, command.readDetails (heizungAnswer env i b) memory
        (heizungDetails env.self b p (command.sendDetailsRequest id)) id = .ok info ∧
      Carried b p memory info := by
  unfold heizungDetails HeizungCommand.readDetails
  cases mode : p.mode with
  | off =>
      have unset : heizungSollTemp b p = none := by rw [heizungSollTemp, mode]
      refine ⟨_, rfl, congrArg modeNumber mode.symm, ?_, ?_, fun soll set => ?_⟩
      · rw [mode]
      · rw [mode]
        exact ⟨rfl, rfl, rfl⟩
      · exact nomatch unset.symm.trans set
  | manual =>
      have unset : heizungSollTemp b p = none := by rw [heizungSollTemp, mode]
      refine ⟨_, rfl, congrArg modeNumber mode.symm, ?_, ?_, fun soll set => ?_⟩
      · rw [mode]
        rfl
      · rw [mode]
        exact withDauer_hasDauer ..
      · exact nomatch unset.symm.trans set
  | thermostat =>
      have target : heizungSollTemp b p = some p.thermostatTemp := by rw [heizungSollTemp, mode]
      refine ⟨HeizungInfo.withDauer { memory with
        mode := 2
        sollTemp := temperature (wordHi p.thermostatTemp) (wordLo p.thermostatTemp)
        istTemp := temperature (wordHi p.measureValue) (wordLo p.measureValue) }
        (twoBytes (wordHi p.durationCounter) (wordLo p.durationCounter)), ?_,
        congrArg modeNumber mode.symm, ?_, ?_, fun soll set => ?_⟩
      · change (command.getIstTemp (heizungAnswer env i b) id >>= fun istTemp => _) = _
        rw [getIstTemp_own slot addressed]
        rfl
      · rw [mode]
        rfl
      · rw [mode]
        exact withDauer_hasDauer ..
      · cases target.symm.trans set
        rfl
  | automatik =>
      cases found : heizungMatchingLine b p with
      | none =>
          have unset : heizungSollTemp b p = none := by rw [heizungSollTemp, mode, found]; rfl
          refine ⟨_, rfl, congrArg modeNumber mode.symm, ?_, ?_, fun soll set => ?_⟩
          · rw [mode]
          · rw [mode]
            exact ⟨rfl, rfl, rfl⟩
          · exact nomatch unset.symm.trans set
      | some line =>
          have target : heizungSollTemp b p = some line.temp := by
            rw [heizungSollTemp, mode, found]
            rfl
          refine ⟨_, rfl, congrArg modeNumber mode.symm, ?_, ?_, fun soll set => ?_⟩
          · rw [mode]
          · rw [mode]
            exact ⟨rfl, rfl, rfl⟩
          · cases target.symm.trans set
            rfl

/-- `get_details` with the heating's own replies. -/
theorem getDetails_own (env : Environment mcu) (command : HeizungCommand)
    (slot : b.devices[i]? = some (.heizung p)) (addressed : p.config.id = id)
    (memory : HeizungInfo) :
    ∃ info, command.getDetails (heizungAnswer env i b) memory id = .ok info ∧
      Carried b p memory info ∧
      info.istTemp = temperature (wordHi p.measureValue) (wordLo p.measureValue) := by
  obtain ⟨info, read, carried⟩ := readDetails_own env command slot addressed memory
  refine ⟨{ info with
    istTemp := temperature (wordHi p.measureValue) (wordLo p.measureValue)
    dauerStr := padLeft 3 32 (signedDecimal info.dauerMin) ++ text ":" ++
      padLeft 2 48 (signedDecimal info.dauerSec) ++ text "min" }, ?_, ?_, rfl⟩
  · have own : (heizungDetails env.self b p (command.sendDetailsRequest id)).dst = command.src :=
      heizungDetails_dst ..
    unfold HeizungCommand.getDetails
    rw [heizungAnswer_details slot addressed, recvFrame_own own]
    change (command.readDetails _ memory _ id >>= fun info => _) = _
    rw [read]
    change (command.getIstTemp (heizungAnswer env i b) id >>= fun istTemp => _) = _
    rw [getIstTemp_own slot addressed]
    rfl
  · exact ⟨carried.mode, carried.rate, carried.dauer, carried.sollTemp⟩

end Exchange

/-! ## When the report is right -/

/-- No temperature is negative, and what the reply of the mode does not carry happens to stand in
the memory of the info. -/
structure Reportable (b : Board mcu) (p : DeviceDataHeizung) (memory : HeizungInfo) : Prop where
  ist : 0 ≤ p.measureValue.toInt16.toInt
  soll : ∀ soll, heizungSollTemp b p = some soll → 0 ≤ soll.toInt16.toInt
  rate : p.mode = .manual ∨ memory.stellgrad = p.manualRate.toNat
  dauer : p.mode = .manual ∨ p.mode = .thermostat ∨ memory.HasDauer p.durationCounter

theorem Carried.reports_iff {b : Board mcu} {p : DeviceDataHeizung} {memory info : HeizungInfo}
    (carried : Carried b p memory info)
    (ist : info.istTemp = temperature (wordHi p.measureValue) (wordLo p.measureValue)) :
    Reports b p info ↔ Reportable b p memory := by
  have rate : info.stellgrad = p.manualRate.toNat ↔
      p.mode = .manual ∨ memory.stellgrad = p.manualRate.toNat := by
    have known := carried.rate
    cases mode : p.mode with
    | manual =>
        rw [mode] at known
        exact iff_of_true known (.inl rfl)
    | off | thermostat | automatik =>
        rw [mode] at known
        change info.stellgrad = memory.stellgrad at known
        rw [known]
        exact ⟨.inr, fun either => either.resolve_left HeizungMode.noConfusion⟩
  have dauer : info.HasDauer p.durationCounter ↔
      p.mode = .manual ∨ p.mode = .thermostat ∨ memory.HasDauer p.durationCounter := by
    have known := carried.dauer
    cases mode : p.mode with
    | manual =>
        rw [mode] at known
        exact iff_of_true known (.inl rfl)
    | thermostat =>
        rw [mode] at known
        exact iff_of_true known (.inr (.inl rfl))
    | off | automatik =>
        rw [mode] at known
        obtain ⟨whole, minutes, seconds⟩ := known
        unfold HeizungInfo.HasDauer
        rw [whole, minutes, seconds]
        exact ⟨fun held => .inr (.inr held), fun either =>
          (either.resolve_left HeizungMode.noConfusion).resolve_left HeizungMode.noConfusion⟩
  have measured : info.istTemp = fixedPoint p.measureValue ↔ 0 ≤ p.measureValue.toInt16.toInt := by
    rw [ist]
    exact temperature_word_iff _
  have target (soll : UInt16) (set : heizungSollTemp b p = some soll) :
      info.sollTemp = fixedPoint soll ↔ 0 ≤ soll.toInt16.toInt := by
    rw [carried.sollTemp soll set]
    exact temperature_word_iff _
  constructor
  · intro reports
    exact ⟨measured.mp reports.istTemp,
      fun soll set => (target soll set).mp (reports.sollTemp soll set), rate.mp reports.rate,
      dauer.mp reports.dauer⟩
  · intro reportable
    exact ⟨carried.mode, rate.mpr reportable.rate, dauer.mpr reportable.dauer,
      measured.mpr reportable.ist,
      fun soll set => (target soll set).mpr (reportable.soll soll set)⟩

/-- Every heating is reported as it is exactly when no temperature is negative and its reply
carries what is asked, or the memory holds it. -/
theorem details_reported_iff (env : Environment mcu) (command : HeizungCommand) {i : Nat}
    {b : Board mcu} {p : DeviceDataHeizung} (slot : b.devices[i]? = some (.heizung p))
    (memory : HeizungInfo) :
    (∃ info, command.getDetails (heizungAnswer env i b) memory p.config.id = .ok info ∧
      Reports b p info) ↔ Reportable b p memory := by
  obtain ⟨info, read, carried, ist⟩ := getDetails_own env command slot rfl memory
  rw [← carried.reports_iff ist]
  constructor
  · rintro ⟨other, again, reports⟩
    cases read.symm.trans again
    exact reports
  · exact fun reports => ⟨info, read, reports⟩

/-- A heating at the rate 30 without limit in a room at one degree below zero. -/
def coldHeizung : DeviceDataHeizung :=
  { heizungInit ⟨7, 3, 60, 1, Vector.replicate 8 ⟨255, 0⟩, 0, 8, Vector.replicate 8 255⟩ 34 with
    mode := .manual
    manualRate := 30
    measureValue := 65520 }

/-- The same heating at one degree above zero. -/
def coolHeizung : DeviceDataHeizung := { coldHeizung with measureValue := 16 }

/-- A board with one heating. -/
def roomBoard (p : DeviceDataHeizung) : Board atmega32 where
  devices := [.heizung p]
  ramUsage := 90
  out := Controller.Outputs.reset 0 0 0 0
  tasterport _ := false
  eeprom := .powerUp fun _ => 255
  clock := ⟨1, 12, 0, 0, 1, 1, 8⟩
  sent := []

def roomCommand : HeizungCommand where
  src := 1000
  heizungIdByName _ := some 7
  overflow _ := 0
  sixteenths _ := none

/-- A cleared stack. -/
def clearedInfo : HeizungInfo := ⟨0, 0, 0, 0, [], 0, 0, 0, 0⟩

theorem details_reported_iff_cool :
    (∃ info, roomCommand.getDetails (heizungAnswer quietEnvironment 0 (roomBoard coolHeizung))
        clearedInfo 7 = .ok info ∧ Reports (roomBoard coolHeizung) coolHeizung info) ↔
      Reportable (roomBoard coolHeizung) coolHeizung clearedInfo := by
  have slot : (roomBoard coolHeizung).devices[0]? = some (.heizung coolHeizung) := rfl
  exact details_reported_iff quietEnvironment roomCommand slot clearedInfo

/-- One degree below zero is read as 4095 degrees. -/
theorem coldHeizung_misread :
    (∃ info, roomCommand.getDetails (heizungAnswer quietEnvironment 0 (roomBoard coldHeizung))
        clearedInfo 7 = .ok info ∧ info.istTemp = 4095) ∧
      ¬∃ info, roomCommand.getDetails (heizungAnswer quietEnvironment 0 (roomBoard coldHeizung))
        clearedInfo 7 = .ok info ∧ Reports (roomBoard coldHeizung) coldHeizung info := by
  have slot : (roomBoard coldHeizung).devices[0]? = some (.heizung coldHeizung) := rfl
  obtain ⟨info, read, carried, ist⟩ :=
    getDetails_own quietEnvironment roomCommand slot rfl clearedInfo
  constructor
  · refine ⟨info, read, ist.trans ?_⟩
    unfold temperature
    rw [twoBytes_word]
    change ((65520 : Int) : ℚ) / 16 = 4095
    norm_num
  · rintro ⟨other, again, reports⟩
    cases read.symm.trans again
    have warm := ((carried.reports_iff ist).mp reports).ist
    exact absurd warm (by decide)

end Hcan.Telican
