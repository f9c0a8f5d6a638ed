import Hcan.Hauselektrik.TimedMode
import Hcan.Telican.HeizungCommand

/-!
# Timed heating commands

From the line of the user to the countdown in the controller.  The minutes become seconds
in 16 bits: a command for more than 1092 minutes is accepted, and the heating returns to
the time zones too early or never.
-/

namespace Hcan.Telican

open Hcan.Canix Hcan.Host Hcan.Library Hcan.Hauselektrik
open Hcan.Controller (hauselektrikAccepts)

variable {mcu : Mcu}

/-- Behind the frame the heating at index `i` is at the rate for as many ticks, and then in the
mode AUTOMATIK, in every run without another frame that sets its mode. -/
def TimedManual (undef : Undefined) (env : Environment mcu) (i : Nat) (id : UInt8)
    (frame : CanixFrame) (rate seconds : Nat) (first : Board mcu) : Prop :=
  ∀ started, HeizungStep undef env i first (.frame frame) started →
    ∀ events last, Run (UndisturbedStep undef env i id) started events last →
      AtSlot i (fun q => if ticks events < seconds then q.mode = .manual ∧ q.manualRate.toNat = rate
        else q.mode = .automatik) last

/-- The line asks for a rate below or at 100 for at least one minute. -/
structure AsksFor (line name : Text) (rate minutes : Nat) : Prop where
  found : ∃ first second, heizungManuell (line.takeWhile (· != 0)) = some (name, first, second) ∧
    digitsValue first = rate ∧ digitsValue second = minutes
  rate : rate ≤ 100
  minutes : 1 ≤ minutes

section Frame

variable {env : Environment mcu} {i : Nat} {b : Board mcu} {p : DeviceDataHeizung}
  {command : HeizungCommand} {id rate : UInt8} {dauer : UInt16}

theorem sendSetModeManual_accepted (command : HeizungCommand) (self : UInt16)
    (id rate hi lo : UInt8) :
    hauselektrikAccepts self (command.sendSetModeManual id rate hi lo) = true := by
  change ((hcanSrvHes == hcanSrvHes) && (hcanMulticastControl == self ||
    hcanMulticastControl == hcanMulticastControl || _)) = true
  simp only [beq_self_eq_true, Bool.or_true, Bool.true_or, Bool.and_self]

/-- The addressed heating takes over rate and duration. -/
theorem heizungCanCallback_setModeManual (send : CanixFrame → OnBoard mcu Unit)
    (addressed : p.config.id = id) :
    (heizungCanCallback env.self send i p
        (command.sendSetModeManual id rate (wordHi dauer) (wordLo dauer)) : OnBoard mcu Unit) =
      poke i fun q : DeviceDataHeizung =>
        { q with mode := .manual, manualRate := rate, durationCounter := dauer } := by
  have own : p.config.id =
      (command.sendSetModeManual id rate (wordHi dauer) (wordLo dauer)).data[2] := addressed
  have sets : (command.sendSetModeManual id rate (wordHi dauer) (wordLo dauer)).data[1] =
      hcanHesHeizungSetModeManual := rfl
  unfold heizungCanCallback
  dsimp only
  rw [if_pos own, sets, if_neg (by decide), if_neg (by decide), if_neg (by decide), if_pos rfl]
  change poke i (fun q : DeviceDataHeizung =>
    { q with mode := .manual, manualRate := rate,
             durationCounter := frameWord (wordHi dauer) (wordLo dauer) }) = _
  rw [frameWord_bytes]

/-- The frame reaches the addressed heating, and the countdown begins. -/
theorem frame_begins (undef : Undefined) (env : Environment mcu) (command : HeizungCommand)
    (rate : UInt8) (dauer : UInt16) (slot : b.devices[i]? = some (.heizung p))
    (addressed : p.config.id = id) :
    (∃ started, HeizungStep undef env i b
        (.frame (command.sendSetModeManual id rate (wordHi dauer) (wordLo dauer))) started) ∧
      ∀ started, HeizungStep undef env i b
        (.frame (command.sendSetModeManual id rate (wordHi dauer) (wordLo dauer))) started →
        AtSlot i (Elapsed id rate dauer.toNat 0) started := by
  let sets (q : DeviceDataHeizung) : DeviceDataHeizung :=
    { q with mode := .manual, manualRate := rate, durationCounter := dauer }
  have ran : (if hauselektrikAccepts env.self
        (command.sendSetModeManual id rate (wordHi dauer) (wordLo dauer)) = true then
      deviceCanCallback env (fun _ => pure ())
        (command.sendSetModeManual id rate (wordHi dauer) (wordLo dauer)) i
      else pure ()) b = some ((), { b with devices := b.devices.modify i (onRecord sets) }) := by
    rw [if_pos (sendSetModeManual_accepted ..), deviceCanCallback, Nested.bind_apply]
    dsimp only [Nested.read, Option.bind_some]
    rw [slot]
    change heizungCanCallback env.self _ i p _ b = _
    rw [heizungCanCallback_setModeManual _ addressed]
    rfl
  refine ⟨⟨_, .frame _ ran⟩, fun started step => ?_⟩
  cases step with
  | frame _ again =>
      cases ran.symm.trans again
      refine ⟨sets p, ?_, addressed, rfl, ?_, fun _ => rfl⟩
      · change (b.devices.modify i _)[i]? = _
        rw [List.getElem?_modify_eq, slot]
        rfl
      · exact (if_pos (Nat.eq_zero_or_pos _)).symm

end Frame

/-- The countdown ends in the right second exactly when the frame carries these seconds. -/
theorem timedManual_iff {undef : Undefined} {env : Environment mcu} {i : Nat} {first : Board mcu}
    {p : DeviceDataHeizung} {command : HeizungCommand} {id rate : UInt8} {dauer : UInt16}
    (slot : first.devices[i]? = some (.heizung p)) (addressed : p.config.id = id)
    {seconds : Nat} (limited : 0 < seconds) :
    TimedManual undef env i id
        (command.sendSetModeManual id rate (wordHi dauer) (wordLo dauer)) rate.toNat seconds first ↔
      dauer.toNat = seconds := by
  obtain ⟨⟨started, frame⟩, begins⟩ := frame_begins undef env command rate dauer slot addressed
  constructor
  · intro timed
    -- With `n` ticks alone the mode is what the carried and what the asked seconds say.
    have agree (n : Nat) : (dauer.toNat = 0 ∨ n < dauer.toNat) ↔ n < seconds := by
      obtain ⟨p, here, -⟩ := begins started frame
      obtain ⟨events, last, run, count⟩ := exists_run_ticks undef env here id n
      obtain ⟨q, found, elapsed⟩ := run_elapsed run (begins started frame)
      obtain ⟨q', found', asked⟩ := timed started frame events last run
      cases found.symm.trans found'
      have mode := elapsed.mode
      rw [count] at mode asked
      constructor
      · intro carried
        rw [if_pos carried] at mode
        by_contra past
        rw [if_neg past, mode] at asked
        cases asked
      · intro within
        rw [if_pos within] at asked
        by_contra past
        rw [if_neg past, asked.1] at mode
        cases mode
    have atEnd := agree seconds
    have before := agree (seconds - 1)
    omega
  · rintro rfl again sameFrame events last run
    obtain ⟨q, found, elapsed⟩ := run_elapsed run (begins again sameFrame)
    refine ⟨q, found, ?_⟩
    have mode := elapsed.mode
    split
    · next within =>
        rw [if_pos (.inr within)] at mode
        exact ⟨mode, congrArg UInt8.toNat (elapsed.rate mode)⟩
    · next past =>
        rw [if_neg (by omega)] at mode
        exact mode

/-- A line that is accepted for a rate and some minutes. -/
theorem timedCommand_iff {command : HeizungCommand} {undef : Undefined} {env : Environment mcu}
    {line name : Text} {rate minutes : Nat} {frame : CanixFrame}
    (asks : AsksFor line name rate minutes) (accepted : command.exec line = .ok (.send frame))
    {id : UInt8} (named : command.heizungIdByName name = some id)
    {i : Nat} {first : Board mcu} {p : DeviceDataHeizung}
    (slot : first.devices[i]? = some (.heizung p)) (addressed : p.config.id = id) :
    TimedManual undef env i id frame rate (minutes * 60) first ↔ minutes * 60 < 65536 := by
  obtain ⟨⟨firstDigits, secondDigits, found, isRate, isMinutes⟩, small, positive⟩ := asks
  rw [command.exec_manuell found] at accepted
  have sent := command.execManuell_send named accepted
  rw [isRate, isMinutes] at sent
  have asked : (UInt8.ofInt (rate : Int)).toNat = rate := by
    rw [uint8_ofInt_natCast, Nat.mod_eq_of_lt (by omega)]
  have limited : 0 < minutes * 60 := Nat.mul_pos positive (by decide)
  have carries : TimedManual undef env i id frame rate (minutes * 60) first ↔
      (command.dauer minutes).toNat = minutes * 60 := by
    rw [sent]
    nth_rewrite 2 [← asked]
    exact timedManual_iff slot addressed limited
  rw [carries]
  constructor
  · intro carried
    rw [← carried]
    exact (command.dauer minutes).toNat_lt
  · intro fits16
    exact command.dauer_toNat fits16

/-! ## A bathroom -/

/-- An installation with one heating. -/
def bathCommand : HeizungCommand where
  src := 1000
  heizungIdByName name := if name = text "bad" then some 7 else none
  overflow _ := 0
  sixteenths _ := none

/-- The heating of the bathroom before it is initialised. -/
def bathHeizung : DeviceDataHeizung :=
  heizungInit ⟨7, 3, 60, 1, Vector.replicate 8 ⟨255, 0⟩, 0, 8, Vector.replicate 8 255⟩ 34

def bathBoard : Board atmega32 where
  devices := [.heizung bathHeizung]
  ramUsage := 90
  out := Controller.Outputs.reset 0 0 0 0
  tasterport _ := false
  eeprom := .powerUp fun _ => 255
  clock := ⟨1, 12, 0, 0, 1, 1, 8⟩
  sent := []

def quietUndefined : Undefined := ⟨fun _ => 0, fun _ => 0⟩

theorem timedCommand_iff_bath :
    TimedManual quietUndefined quietEnvironment 0 7
      (bathCommand.sendSetModeManual 7 50 (wordHi 600) (wordLo 600)) 50 (10 * 60) bathBoard ↔
      10 * 60 < 65536 := by
  have asks : AsksFor (text "heizung bad manuell 50 10") (text "bad") 50 10 :=
    ⟨⟨text "50", text "10", rfl, rfl, rfl⟩, by decide, by decide⟩
  have accepted : bathCommand.exec (text "heizung bad manuell 50 10") =
      .ok (.send (bathCommand.sendSetModeManual 7 50 (wordHi 600) (wordLo 600))) := by
    decide +kernel
  have named : bathCommand.heizungIdByName (text "bad") = some 7 := rfl
  have slot : bathBoard.devices[0]? = some (.heizung bathHeizung) := rfl
  exact timedCommand_iff asks accepted named slot rfl

/-- 1093 minutes are accepted, and the heating returns to the time zones after 44 seconds. -/
theorem longCommand_returns_early :
    AsksFor (text "heizung bad manuell 50 1093") (text "bad") 50 1093 ∧
      bathCommand.exec (text "heizung bad manuell 50 1093") =
        .ok (.send (bathCommand.sendSetModeManual 7 50 (wordHi 44) (wordLo 44))) ∧
      ¬TimedManual quietUndefined quietEnvironment 0 7
        (bathCommand.sendSetModeManual 7 50 (wordHi 44) (wordLo 44)) 50 (1093 * 60) bathBoard := by
  have slot : bathBoard.devices[0]? = some (.heizung bathHeizung) := rfl
  have limited : 0 < 1093 * 60 := by decide
  refine ⟨⟨⟨text "50", text "1093", rfl, rfl, rfl⟩, by decide, by decide⟩, by decide +kernel, ?_⟩
  intro timed
  have carried := (timedManual_iff slot rfl limited).mp timed
  exact absurd carried (by decide)

end Hcan.Telican
