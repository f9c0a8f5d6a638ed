import Hcan.Hauselektrik.Dispatch
import Hcan.Library.Machine
import Hcan.Userpanel.EditRange

/-!
# The page for all heatings

`gesamt_heiz_page.c` keeps the edited mode, temperature and time itself and asks no heating for
them.  The end of an edit sends one frame to each heating of the page.  A frame of another page,
and a print of another page that goes on behind a sleep, reach this one only in its second line.
-/

namespace Hcan.Userpanel

open Hcan.Canix Hcan.Hauselektrik Hcan.Library
open Hcan.Controller (hauselektrikAccepts)

/-- `HEIZUNG_MODE_*` of `gesamt_heiz_page.h`. -/
inductive GesamtMode where
  | off
  | thermostatFrostschutz
  | thermostatFrostschutzKurz
  | thermostatX
  | automatikX
  deriving DecidableEq, Repr

def GesamtMode.isThermostat : GesamtMode → Bool
  | .thermostatFrostschutz | .thermostatFrostschutzKurz | .thermostatX => true
  | .off | .automatikX => false

/-- `gesamt_heiz_details_mode_edit++` below the last mode. -/
def GesamtMode.up : GesamtMode → GesamtMode
  | .off => .thermostatFrostschutz
  | .thermostatFrostschutz => .thermostatFrostschutzKurz
  | .thermostatFrostschutzKurz => .thermostatX
  | .thermostatX => .automatikX
  | .automatikX => .automatikX

def GesamtMode.down : GesamtMode → GesamtMode
  | .off => .off
  | .thermostatFrostschutz => .off
  | .thermostatFrostschutzKurz => .thermostatFrostschutz
  | .thermostatX => .thermostatFrostschutzKurz
  | .automatikX => .thermostatX

def vorgabeTemperaturFrostschutz : Int16 := 160
def vorgabeDauerFrostschutz : UInt16 := 64800
def vorgabeDauerFrostschutzKurz : UInt16 := 10800
def vorgabeTemperaturThermostat : Int16 := 288
def vorgabeDauerThermostat : UInt16 := 14400

/-- The globals of `gesamt_heiz_page.c`, one set for all pages of this type. -/
structure GesamtHeizPage where
  modeEdit : GesamtMode
  tsollEdit : Int16
  dauerEdit : UInt16
  subpage : ℕ
  state : PageState
  deriving DecidableEq, Repr

/-- What the page reads of `eds_gesamt_heiz_page_block_t`. -/
structure EdsGesamtHeizPageBlock where
  parentId : UInt8
  heizId : Vector UInt8 12
  deriving DecidableEq, Repr

/-- The second line of the display. -/
inductive GesamtLine where
  | mode (mode : GesamtMode)
  | dash
  | tsoll (t1 t2 : ℕ)
  | dauer (d1 d2 : ℕ)
  | blank
  deriving DecidableEq, Repr

/-- `active` is the page while it is the active one; `line` is what it has printed and no other
page has printed over. -/
structure GesamtPanel where
  page : GesamtHeizPage
  active : Option EdsGesamtHeizPageBlock
  line : Option GesamtLine
  deriving DecidableEq, Repr

/-- The values that the mode stands for, where none have been edited. -/
def GesamtHeizPage.presets (v : GesamtHeizPage) : GesamtHeizPage :=
  match v.modeEdit with
  | .thermostatFrostschutz =>
      { v with tsollEdit := vorgabeTemperaturFrostschutz, dauerEdit := vorgabeDauerFrostschutz }
  | .thermostatFrostschutzKurz =>
      { v with
        tsollEdit := vorgabeTemperaturFrostschutz
        dauerEdit := vorgabeDauerFrostschutzKurz }
  | .thermostatX =>
      { v with
        tsollEdit := if v.tsollEdit = 0 ∨ v.tsollEdit = vorgabeTemperaturFrostschutz then
          vorgabeTemperaturThermostat else v.tsollEdit
        dauerEdit := if v.dauerEdit = 0 ∨ v.dauerEdit = vorgabeDauerFrostschutz then
          vorgabeDauerThermostat else v.dauerEdit }
  | .off | .automatikX => v

/-- `t1.t2`. -/
def tsollLine (tsoll : Int16) : GesamtLine :=
  .tsoll (UInt8.ofInt (tsoll.toInt / 16)).toNat ((tsoll.toInt % 16).toNat * 10 / 16)

def dauerLine (dauer : UInt16) : GesamtLine :=
  .dauer (dauer.toNat / 3600) (dauer.toNat / 60 % 60)

def GesamtHeizPage.line (v : GesamtHeizPage) : GesamtLine :=
  match v.subpage with
  | 0 => .mode v.modeEdit
  | 1 => if v.modeEdit.isThermostat then tsollLine v.tsollEdit else .dash
  | 2 => if v.modeEdit.isThermostat then dauerLine v.dauerEdit else .dash
  | _ => .blank

/-- The line shows the values as they are before the view sets those of the mode. -/
def gesamtHeizPagePrintPage (s : GesamtPanel) : GesamtPanel :=
  { s with
    page := if s.page.state = .view then s.page.presets else s.page
    line := some s.page.line }

/-- The active page is printed; other pages are left out. -/
def gesamtPrintPage (s : GesamtPanel) : GesamtPanel :=
  if s.active.isSome then gesamtHeizPagePrintPage s else { s with line := none }

def gesamtGotoPage (s : GesamtPanel) (active : Option EdsGesamtHeizPageBlock) : GesamtPanel :=
  gesamtPrintPage { s with active := active }

section Keys

variable (self : UInt16) (pages : UInt8 → Option EdsGesamtHeizPageBlock)

/-- The frame behind the switch of `set_gesamt_heiz_edited_details` with the number of a heating;
`stack` is what `message` holds before. -/
def gesamtFrame (v : GesamtHeizPage) (stack : CanixFrame) (heizId : UInt8) : CanixFrame :=
  let thermostat (tsoll : Int16) (dauer : UInt16) :=
    hesFrame self hcanMulticastControl 7 hcanHesHeizungSetModeThermostatDetails heizId
      (wordHi tsoll.toUInt16) (wordLo tsoll.toUInt16) (wordHi dauer) (wordLo dauer) 0
  let unset : CanixFrame :=
    { src := self
      dst := hcanMulticastControl
      proto := hcanProtoSfp
      size := stack.size
      data := (stack.data.set 0 hcanSrvHes).set 2 heizId }
  match v.subpage with
  | 0 => match v.modeEdit with
    | .off => hesFrame self hcanMulticastControl 3 hcanHesHeizungSetModeOff heizId 0 0 0 0 0
    | .thermostatFrostschutz => thermostat vorgabeTemperaturFrostschutz vorgabeDauerFrostschutz
    | .thermostatFrostschutzKurz =>
        thermostat vorgabeTemperaturFrostschutz vorgabeDauerFrostschutzKurz
    | .thermostatX => thermostat vorgabeTemperaturThermostat vorgabeDauerThermostat
    | .automatikX =>
        hesFrame self hcanMulticastControl 3 hcanHesHeizungSetModeAutomatik heizId 0 0 0 0 0
  | 1 | 2 =>
      if v.modeEdit.isThermostat then thermostat v.tsollEdit v.dauerEdit else unset
  | _ => unset

/-- The heatings of the page. -/
def EdsGesamtHeizPageBlock.heizungen (p : EdsGesamtHeizPageBlock) : List UInt8 :=
  p.heizId.toList.filter (· ≠ 255)

def setGesamtHeizEditedDetails (v : GesamtHeizPage) (p : EdsGesamtHeizPageBlock)
    (stack : CanixFrame) : List CanixFrame :=
  p.heizungen.map (gesamtFrame self v stack)

/-- `KEY_UP` while editing. -/
def GesamtHeizPage.up (v : GesamtHeizPage) : GesamtHeizPage :=
  match v.subpage with
  | 0 => { v with modeEdit := v.modeEdit.up }
  | 1 =>
      if v.modeEdit.isThermostat ∧ v.tsollEdit < 480 then
        { v with tsollEdit := v.tsollEdit + 2 }
      else v
  | 2 =>
      if v.modeEdit.isThermostat ∧ v.dauerEdit < 43200 then
        { v with dauerEdit := v.dauerEdit / 900 * 900 + 900 }
      else v
  | _ => v

/-- `KEY_DOWN` while editing. -/
def GesamtHeizPage.down (v : GesamtHeizPage) : GesamtHeizPage :=
  match v.subpage with
  | 0 => { v with modeEdit := v.modeEdit.down }
  | 1 =>
      if v.modeEdit.isThermostat ∧ v.tsollEdit > 0 then
        { v with tsollEdit := v.tsollEdit - 2 }
      else v
  | 2 =>
      if v.modeEdit.isThermostat ∧ v.dauerEdit > 900 then
        { v with dauerEdit := v.dauerEdit / 900 * 900 - 900 }
      else v
  | _ => v

/-- `OBERE_GRENZE`. -/
def GesamtHeizPage.obereGrenze (v : GesamtHeizPage) : ℕ :=
  if v.modeEdit = .off ∨ v.modeEdit = .automatikX then 0 else 2

def gesamtHeizPageHandleKeyDownEvent (s : GesamtPanel) (p : EdsGesamtHeizPageBlock)
    (taste : Taste) (stack : CanixFrame) : GesamtPanel × List CanixFrame :=
  let v := s.page
  match taste, v.state with
  | .ok, .view =>
      let set := v.presets
      if set.subpage = 1 ∧ set.modeEdit = .automatikX then ({ s with page := set }, [])
      else (gesamtHeizPagePrintPage { s with page := { set with state := .edit } }, [])
  | .ok, .edit =>
      (gesamtHeizPagePrintPage { s with page := { v with state := .view } },
        setGesamtHeizEditedDetails self v p stack)
  | .esc, .view =>
      let up := { s with page := { v with subpage := 0 } }
      if p.parentId = 0 then (up, []) else (gesamtGotoPage up (pages p.parentId), [])
  | .esc, .edit => (gesamtHeizPagePrintPage { s with page := { v with state := .view } }, [])
  | .up, .view =>
      (gesamtHeizPagePrintPage { s with page := { v with subpage := v.subpage - 1 } }, [])
  | .up, .edit => (gesamtHeizPagePrintPage { s with page := v.up }, [])
  | .down, .view =>
      (gesamtHeizPagePrintPage { s with page := { v with
        subpage := if v.subpage < v.obereGrenze then v.subpage + 1 else v.subpage } }, [])
  | .down, .edit => (gesamtHeizPagePrintPage { s with page := v.down }, [])
  | .other, _ => (s, [])

/-- What happens to the panel.  A key carries what the stack holds under `message`; `goto` is a
page change from elsewhere, `refresh` a print, `overprint` a print of another page that goes on. -/
inductive GesamtEvent where
  | key (taste : Taste) (stack : CanixFrame)
  | goto (active : Option EdsGesamtHeizPageBlock)
  | refresh
  | overprint

/-- The panel behind an event and the frames sent. -/
def gesamtStep (s : GesamtPanel) : GesamtEvent → GesamtPanel × List CanixFrame
  | .key taste stack =>
      match s.active with
      | some p => gesamtHeizPageHandleKeyDownEvent self pages s p taste stack
      | none => (s, [])
  | .goto active => (gesamtGotoPage s active, [])
  | .refresh => (gesamtPrintPage s, [])
  | .overprint => ({ s with line := none }, [])

def gesamtAfter (s : GesamtPanel) (event : GesamtEvent) : GesamtPanel :=
  (gesamtStep self pages s event).1

end Keys

/-- The globals behind a reset, another page is active. -/
def gesamtInit : GesamtPanel := ⟨⟨.off, 0, 0, 0, .view⟩, none, none⟩

/-- A command for all heatings of a page. -/
inductive GesamtCommand where
  | off
  | thermostat (tsoll : Int16) (dauer : UInt16)
  | automatik
  deriving DecidableEq, Repr

namespace GesamtCommand

def frame (self : UInt16) : GesamtCommand → UInt8 → CanixFrame
  | .off, id => hesFrame self hcanMulticastControl 3 hcanHesHeizungSetModeOff id 0 0 0 0 0
  | .thermostat tsoll dauer, id =>
      hesFrame self hcanMulticastControl 7 hcanHesHeizungSetModeThermostatDetails id
        (wordHi tsoll.toUInt16) (wordLo tsoll.toUInt16) (wordHi dauer) (wordLo dauer) 0
  | .automatik, id =>
      hesFrame self hcanMulticastControl 3 hcanHesHeizungSetModeAutomatik id 0 0 0 0 0

/-- What the command asks of a heating. -/
def effect : GesamtCommand → DeviceDataHeizung → DeviceDataHeizung
  | .off, q => { q with mode := .off }
  | .thermostat tsoll dauer, q =>
      { q with
        mode := .thermostat
        thermostatTemp := tsoll.toUInt16
        durationCounter := dauer }
  | .automatik, q => { q with mode := .automatik }

/-- The heatings with these numbers. -/
def effectOn (command : GesamtCommand) (ids : List UInt8) (q : DeviceDataHeizung) :
    DeviceDataHeizung :=
  if q.config.id ∈ ids then command.effect q else q

/-- Up to 30 degrees in steps of an eighth, quarters of an hour from one to 72. -/
def Allowed : GesamtCommand → Prop
  | .thermostat tsoll dauer =>
      (0 ≤ tsoll.toInt ∧ tsoll.toInt ≤ 480 ∧ tsoll.toInt % 2 = 0) ∧
        900 ≤ dauer.toNat ∧ dauer.toNat ≤ 64800 ∧ dauer.toNat % 900 = 0
  | .off | .automatik => True

end GesamtCommand

/-- The command of a mode that has just been chosen. -/
def GesamtMode.command : GesamtMode → GesamtCommand
  | .off => .off
  | .thermostatFrostschutz => .thermostat vorgabeTemperaturFrostschutz vorgabeDauerFrostschutz
  | .thermostatFrostschutzKurz =>
      .thermostat vorgabeTemperaturFrostschutz vorgabeDauerFrostschutzKurz
  | .thermostatX => .thermostat vorgabeTemperaturThermostat vorgabeDauerThermostat
  | .automatikX => .automatik

/-- The line names the value of the command. -/
def GesamtLine.Names : GesamtLine → GesamtCommand → Prop
  | .mode chosen, command => command = chosen.command
  | .tsoll t1 t2, command => ∃ tsoll dauer, command = .thermostat tsoll dauer ∧
      tsoll.toInt = 16 * t1 + 2 * ((4 * t2 + 4) / 5 : ℕ)
  | .dauer d1 d2, command => ∃ tsoll dauer, command = .thermostat tsoll dauer ∧
      dauer.toNat = 3600 * d1 + 60 * d2
  | .dash, _ | .blank, _ => False

/-- The frames set all heatings with these numbers and no other: what they do at the index of a
heating of a board. -/
def SetsAll (frames : List CanixFrame) (ids : List UInt8) (command : GesamtCommand) : Prop :=
  ∀ {mcu : Mcu} (env : Environment mcu) (b : Board mcu) (i : ℕ) (q : DeviceDataHeizung),
    b.devices[i]? = some (.heizung q) →
    frames.forM (fun frame => if hauselektrikAccepts env.self frame = true then
        deviceCanCallback env (fun _ => pure ()) frame i
      else pure ()) b =
      some ((), { b with
        devices := b.devices.modify i (onRecord (command.effectOn ids)) })

/-- What goes out is a command for the heatings of the active page, and its line names it. -/
structure CommandsAll (self : UInt16) (s : GesamtPanel) (p : EdsGesamtHeizPageBlock)
    (frames : List CanixFrame) (command : GesamtCommand) : Prop where
  active : s.active = some p
  allowed : command.Allowed
  sent : frames = p.heizungen.map (command.frame self)
  sets : SetsAll frames p.heizungen command
  names : ∀ line, s.line = some line → line.Names command

/-- A step sends nothing, or it is the key OK that ends an edit and sends a command. -/
def SendsCommand (self : UInt16) (pages : UInt8 → Option EdsGesamtHeizPageBlock)
    (s : GesamtPanel) (event : GesamtEvent) : Prop :=
  (gesamtStep self pages s event).2 = [] ∨
    ∃ p stack command, event = .key .ok stack ∧ s.page.state = .edit ∧
      CommandsAll self s p (gesamtStep self pages s event).2 command

/-! ## The frames -/

section Frames

variable {self : UInt16} {v : GesamtHeizPage}

/-- The command of the page. -/
def GesamtHeizPage.command (v : GesamtHeizPage) : GesamtCommand :=
  if v.subpage = 0 then v.modeEdit.command else .thermostat v.tsollEdit v.dauerEdit

/-- Subpage and mode have a branch, so the frame does not depend on the stack. -/
theorem gesamtFrame_eq (small : v.subpage ≤ 2)
    (timed : v.subpage ≠ 0 → v.modeEdit.isThermostat = true) (stack : CanixFrame) :
    gesamtFrame self v stack = v.command.frame self := by
  funext heizId
  unfold gesamtFrame GesamtHeizPage.command
  match page : v.subpage with
  | 0 => cases v.modeEdit <;> rfl
  | 1 =>
      dsimp only
      rw [if_pos (timed (by rw [page]; decide)), if_neg (by decide)]
      rfl
  | 2 =>
      dsimp only
      rw [if_pos (timed (by rw [page]; decide)), if_neg (by decide)]
      rfl
  | other + 3 => omega

theorem command_accepts (self own : UInt16) (command : GesamtCommand) (id : UInt8) :
    hauselektrikAccepts own (command.frame self id) = true := by
  have control (own : UInt16) : ((hcanSrvHes == hcanSrvHes) && (hcanMulticastControl == own ||
      hcanMulticastControl == hcanMulticastControl ||
      hcanMulticastControl == hcanMulticastInfo)) = true := by
    simp only [beq_self_eq_true, Bool.or_true, Bool.true_or, Bool.and_self]
  cases command with
  | off => exact control own
  | thermostat tsoll dauer => exact control own
  | automatik => exact control own

/-- The callback of a heating does what the command asks where it is addressed. -/
theorem heizungCanCallback_command {mcu : Mcu} (own : UInt16)
    (send : CanixFrame → OnBoard mcu Unit) (i : ℕ) (q : DeviceDataHeizung)
    (command : GesamtCommand) (id : UInt8) :
    heizungCanCallback own send i q (command.frame self id) =
      if q.config.id = id then poke i command.effect else (pure () : OnBoard mcu Unit) := by
  have own (command : GesamtCommand) : (command.frame self id).data[2] = id := by
    cases command <;> rfl
  unfold heizungCanCallback
  dsimp only
  rw [own]
  cases command with
  | off =>
      have code : (GesamtCommand.off.frame self id).data[1] = hcanHesHeizungSetModeOff := rfl
      rw [code, if_neg (by decide), if_neg (by decide)]
      exact if_congr Iff.rfl (if_pos rfl) rfl
  | thermostat tsoll dauer =>
      have code : ((GesamtCommand.thermostat tsoll dauer).frame self id).data[1] =
          hcanHesHeizungSetModeThermostatDetails := rfl
      rw [code, if_neg (by decide), if_neg (by decide)]
      refine if_congr Iff.rfl ?_ rfl
      rw [if_neg (by decide), if_neg (by decide), if_pos rfl]
      change poke i (fun q : DeviceDataHeizung =>
        { q with
          mode := .thermostat
          thermostatTemp := frameWord (wordHi tsoll.toUInt16) (wordLo tsoll.toUInt16)
          durationCounter := frameWord (wordHi dauer) (wordLo dauer) }) = _
      rw [frameWord_bytes, frameWord_bytes]
      rfl
  | automatik =>
      have code : (GesamtCommand.automatik.frame self id).data[1] =
          hcanHesHeizungSetModeAutomatik := rfl
      rw [code, if_neg (by decide), if_neg (by decide)]
      refine if_congr Iff.rfl ?_ rfl
      rw [if_neg (by decide), if_neg (by decide), if_neg (by decide), if_pos rfl]
      rfl

/-- A command leaves the configuration, and a second one of its kind changes nothing more. -/
@[simp]
theorem effect_config (command : GesamtCommand) (q : DeviceDataHeizung) :
    (command.effect q).config = q.config := by
  cases command <;> rfl

@[simp]
theorem effect_effect (command : GesamtCommand) (q : DeviceDataHeizung) :
    command.effect (command.effect q) = command.effect q := by
  cases command <;> rfl

theorem effectOn_cons (command : GesamtCommand) (id : UInt8) (ids : List UInt8)
    (q : DeviceDataHeizung) :
    command.effectOn ids (command.effectOn [id] q) = command.effectOn (id :: ids) q := by
  unfold GesamtCommand.effectOn
  by_cases here : q.config.id = id
  · rw [if_pos (List.mem_singleton.mpr here), if_pos (List.mem_cons.mpr (.inl here)),
      effect_config, effect_effect, ite_self]
  · rw [if_neg fun inside => here (List.mem_singleton.mp inside)]
    refine if_congr ?_ rfl rfl
    exact ⟨List.mem_cons_of_mem id, fun inside => (List.mem_cons.mp inside).resolve_left here⟩

/-- A change of the heating at an index is a change of its record. -/
theorem modify_heizung {devices : List Device} {i : ℕ} {q : DeviceDataHeizung}
    (slot : devices[i]? = some (.heizung q)) {f g : DeviceDataHeizung → DeviceDataHeizung}
    (same : f q = g q) : devices.modify i (onRecord f) = devices.modify i (onRecord g) := by
  apply List.ext_getElem?
  intro j
  by_cases here : i = j
  · subst here
    rw [List.getElem?_modify_eq, List.getElem?_modify_eq, slot]
    exact congrArg (fun q => some (Device.heizung q)) same
  · rw [List.getElem?_modify_ne _ _ here, List.getElem?_modify_ne _ _ here]

theorem modify_heizung_id {devices : List Device} {i : ℕ} {q : DeviceDataHeizung}
    (slot : devices[i]? = some (.heizung q)) {f : DeviceDataHeizung → DeviceDataHeizung}
    (same : f q = q) : devices.modify i (onRecord f) = devices := by
  have unchanged (device : Device) : onRecord (fun q : DeviceDataHeizung => q) device = device := by
    cases device <;> rfl
  rw [modify_heizung slot (g := fun q => q) same, funext unchanged]
  exact List.modify_id i devices

/-- A command at the index of a heating. -/
theorem command_at {mcu : Mcu} (env : Environment mcu) (self : UInt16) (command : GesamtCommand)
    (id : UInt8) {b : Board mcu} {i : ℕ} {q : DeviceDataHeizung}
    (slot : b.devices[i]? = some (.heizung q)) :
    (if hauselektrikAccepts env.self (command.frame self id) = true then
        deviceCanCallback env (fun _ => pure ()) (command.frame self id) i
      else pure ()) b =
      some ((), { b with
        devices := b.devices.modify i (onRecord (command.effectOn [id])) }) := by
  rw [if_pos (command_accepts ..), deviceCanCallback, Nested.bind_apply]
  dsimp only [Nested.read, Option.bind_some]
  rw [slot]
  dsimp only
  rw [heizungCanCallback_command]
  by_cases addressed : q.config.id = id
  · rw [if_pos addressed]
    refine congrArg (fun devices => some ((), { b with devices := devices })) ?_
    exact modify_heizung slot (if_pos (List.mem_singleton.mpr addressed)).symm
  · rw [if_neg addressed]
    refine congrArg (fun devices => some ((), { b with devices := devices })) ?_
    have other : command.effectOn [id] q = q :=
      if_neg fun inside => addressed (List.mem_singleton.mp inside)
    exact (modify_heizung_id slot other).symm

/-- One command for each number sets the heatings with these numbers. -/
theorem command_setsAll (self : UInt16) (command : GesamtCommand) (ids : List UInt8) :
    SetsAll (ids.map (command.frame self)) ids command := by
  intro mcu env b i q slot
  induction ids generalizing b q with
  | nil =>
      refine congrArg (fun devices => some ((), { b with devices := devices })) ?_
      have other : command.effectOn [] q = q := if_neg List.not_mem_nil
      exact (modify_heizung_id slot other).symm
  | cons id ids ih =>
      rw [List.map_cons]
      change ((if hauselektrikAccepts env.self (command.frame self id) = true then
          deviceCanCallback env (fun _ => pure ()) (command.frame self id) i
        else pure ()) >>= fun _ => (ids.map (command.frame self)).forM _) b = _
      rw [Nested.bind_apply, command_at env self command id slot, Option.bind_some]
      dsimp only
      have next : (b.devices.modify i (onRecord (command.effectOn [id])))[i]? =
          some (.heizung (command.effectOn [id] q)) := by
        rw [List.getElem?_modify_eq, slot]
        rfl
      refine (ih { b with devices := b.devices.modify i (onRecord (command.effectOn [id])) } _
        next).trans ?_
      refine congrArg (fun devices => some ((), { b with devices := devices })) ?_
      have composed : onRecord (command.effectOn ids) ∘ onRecord (command.effectOn [id]) =
          onRecord (command.effectOn ids ∘ command.effectOn [id]) := by
        funext device
        cases device <;> rfl
      rw [List.modify_modify_eq, composed]
      exact modify_heizung slot (effectOn_cons command id ids q)

end Frames

/-! ## Runs -/

/-- Edited values that may be sent; behind a reset no time is set. -/
structure Ordered (v : GesamtHeizPage) : Prop where
  subpage : v.subpage ≤ 2
  mode : v.subpage ≠ 0 → v.modeEdit.isThermostat = true
  tsoll : 0 ≤ v.tsollEdit.toInt ∧ v.tsollEdit.toInt ≤ 480 ∧ v.tsollEdit.toInt % 2 = 0
  dauer : v.dauerEdit.toNat ≤ 64800 ∧ v.dauerEdit.toNat % 900 = 0
  limited : v.state = .edit → v.subpage ≠ 0 → v.dauerEdit ≠ 0

/-- While an edit is open, the line that the page has printed is the one of the edit. -/
structure GesamtShown (s : GesamtPanel) : Prop where
  page : Ordered s.page
  line : s.page.state = .edit → s.active.isSome → ∀ line, s.line = some line →
    line = s.page.line

section Runs

variable {self : UInt16} {pages : UInt8 → Option EdsGesamtHeizPageBlock} {v : GesamtHeizPage}
  {s : GesamtPanel}

/-- Outside an edit the time may be unset. -/
theorem Ordered.view (ordered : Ordered v) : Ordered { v with state := .view } where
  subpage := ordered.subpage
  mode := ordered.mode
  tsoll := ordered.tsoll
  dauer := ordered.dauer
  limited editing := PageState.noConfusion editing

/-- The values of a mode may be sent. -/
theorem Ordered.presets (ordered : Ordered v) (state : PageState) :
    Ordered { v.presets with state := state } := by
  have cold : 0 ≤ vorgabeTemperaturFrostschutz.toInt ∧ vorgabeTemperaturFrostschutz.toInt ≤ 480 ∧
      vorgabeTemperaturFrostschutz.toInt % 2 = 0 := by decide
  obtain ⟨mode, tsoll, dauer, subpage, before⟩ := v
  have timed := ordered.mode
  cases mode with
  | off =>
      exact ⟨ordered.subpage, timed, ordered.tsoll, ordered.dauer,
        fun _ deep => Bool.noConfusion (timed deep)⟩
  | automatikX =>
      exact ⟨ordered.subpage, timed, ordered.tsoll, ordered.dauer,
        fun _ deep => Bool.noConfusion (timed deep)⟩
  | thermostatFrostschutz =>
      have long : vorgabeDauerFrostschutz.toNat ≤ 64800 ∧
          vorgabeDauerFrostschutz.toNat % 900 = 0 := by decide
      have limited : vorgabeDauerFrostschutz ≠ 0 := by decide
      exact ⟨ordered.subpage, timed, cold, long, fun _ _ => limited⟩
  | thermostatFrostschutzKurz =>
      have short : vorgabeDauerFrostschutzKurz.toNat ≤ 64800 ∧
          vorgabeDauerFrostschutzKurz.toNat % 900 = 0 := by decide
      have limited : vorgabeDauerFrostschutzKurz ≠ 0 := by decide
      exact ⟨ordered.subpage, timed, cold, short, fun _ _ => limited⟩
  | thermostatX =>
      refine ⟨ordered.subpage, timed, ?_, ?_, fun _ _ => ?_⟩
      · dsimp only [GesamtHeizPage.presets]
        split
        · decide
        · exact ordered.tsoll
      · dsimp only [GesamtHeizPage.presets]
        split
        · decide
        · exact ordered.dauer
      · dsimp only [GesamtHeizPage.presets]
        split
        · decide
        · next other => exact fun unset => other (.inl unset)

/-- A subpage that the keys reach has a mode with values. -/
theorem Ordered.turn (ordered : Ordered v) (view : v.state = .view) {subpage : ℕ}
    (small : subpage ≤ 2) (timed : subpage ≠ 0 → v.modeEdit.isThermostat = true) :
    Ordered { v with subpage := subpage } where
  subpage := small
  mode := timed
  tsoll := ordered.tsoll
  dauer := ordered.dauer
  limited editing := PageState.noConfusion (view.symm.trans editing)

theorem mode_thermostat (mode : GesamtMode) :
    ¬ (mode = .off ∨ mode = .automatikX) ↔ mode.isThermostat = true := by
  cases mode <;> decide

theorem Ordered.tsollEdit (ordered : Ordered v) {tsoll : Int16}
    (legal : 0 ≤ tsoll.toInt ∧ tsoll.toInt ≤ 480 ∧ tsoll.toInt % 2 = 0) :
    Ordered { v with tsollEdit := tsoll } :=
  ⟨ordered.subpage, ordered.mode, legal, ordered.dauer, ordered.limited⟩

theorem Ordered.dauerEdit (ordered : Ordered v) {dauer : UInt16}
    (legal : dauer.toNat ≤ 64800 ∧ dauer.toNat % 900 = 0) (limited : 0 < dauer.toNat) :
    Ordered { v with dauerEdit := dauer } :=
  ⟨ordered.subpage, ordered.mode, ordered.tsoll, legal, fun _ _ unset =>
    absurd (congrArg UInt16.toNat unset) (Nat.ne_of_gt limited)⟩

theorem Ordered.modeEdit (ordered : Ordered v) (first : v.subpage = 0) (mode : GesamtMode) :
    Ordered { v with modeEdit := mode } :=
  ⟨ordered.subpage, fun deep => absurd first deep, ordered.tsoll, ordered.dauer,
    fun _ deep => absurd first deep⟩

/-- KEY_UP keeps the values on their grids. -/
theorem Ordered.up (ordered : Ordered v) : Ordered v.up := by
  obtain ⟨mode, tsoll, dauer, subpage, state⟩ := v
  obtain ⟨least, most, even⟩ : 0 ≤ tsoll.toInt ∧ tsoll.toInt ≤ 480 ∧ tsoll.toInt % 2 = 0 :=
    ordered.tsoll
  obtain ⟨day, quarters⟩ : dauer.toNat ≤ 64800 ∧ dauer.toNat % 900 = 0 := ordered.dauer
  match subpage with
  | 0 => exact ordered.modeEdit rfl mode.up
  | 1 =>
      change Ordered (if mode.isThermostat ∧ tsoll < 480 then ⟨mode, tsoll + 2, dauer, 1, state⟩
        else ⟨mode, tsoll, dauer, 1, state⟩)
      split
      · next small =>
          have below : tsoll.toInt < 480 := Int16.lt_iff_toInt_lt.mp small.2
          have value := tsoll_up most least
          exact ordered.tsollEdit (by rw [value]; omega)
      · exact ordered
  | 2 =>
      change Ordered (if mode.isThermostat ∧ dauer < 43200 then
          ⟨mode, tsoll, dauer / 900 * 900 + 900, 2, state⟩
        else ⟨mode, tsoll, dauer, 2, state⟩)
      split
      · next small =>
          have below : dauer.toNat < 43200 := UInt16.lt_iff_toNat_lt.mp small.2
          have value := dauer_up below
          exact ordered.dauerEdit (by omega) (by omega)
      · exact ordered
  | other + 3 => exact absurd ordered.subpage (by simp)

/-- KEY_DOWN keeps the values on their grids. -/
theorem Ordered.down (ordered : Ordered v) : Ordered v.down := by
  obtain ⟨mode, tsoll, dauer, subpage, state⟩ := v
  obtain ⟨least, most, even⟩ : 0 ≤ tsoll.toInt ∧ tsoll.toInt ≤ 480 ∧ tsoll.toInt % 2 = 0 :=
    ordered.tsoll
  obtain ⟨day, quarters⟩ : dauer.toNat ≤ 64800 ∧ dauer.toNat % 900 = 0 := ordered.dauer
  match subpage with
  | 0 => exact ordered.modeEdit rfl mode.down
  | 1 =>
      change Ordered (if mode.isThermostat ∧ tsoll > 0 then ⟨mode, tsoll - 2, dauer, 1, state⟩
        else ⟨mode, tsoll, dauer, 1, state⟩)
      split
      · next large =>
          have above : 0 < tsoll.toInt := Int16.lt_iff_toInt_lt.mp large.2
          have value := tsoll_down most least
          exact ordered.tsollEdit (by rw [value]; omega)
      · exact ordered
  | 2 =>
      change Ordered (if mode.isThermostat ∧ dauer > 900 then
          ⟨mode, tsoll, dauer / 900 * 900 - 900, 2, state⟩
        else ⟨mode, tsoll, dauer, 2, state⟩)
      split
      · next large =>
          have above : 900 < dauer.toNat := UInt16.lt_iff_toNat_lt.mp large.2
          have value := dauer_down above
          exact ordered.dauerEdit (by omega) (by omega)
      · exact ordered
  | other + 3 => exact absurd ordered.subpage (by simp)

theorem presets_state (v : GesamtHeizPage) : v.presets.state = v.state := by
  unfold GesamtHeizPage.presets
  split <;> rfl

/-- A print shows the page as it is. -/
theorem shown_print (ordered : Ordered s.page) : GesamtShown (gesamtHeizPagePrintPage s) := by
  unfold gesamtHeizPagePrintPage
  cases state : s.page.state with
  | view =>
      rw [if_pos rfl]
      have kept := ordered.presets s.page.presets.state
      have viewing := (presets_state s.page).trans state
      exact ⟨kept, fun editing => PageState.noConfusion (viewing.symm.trans editing)⟩
  | edit =>
      rw [if_neg (by decide)]
      exact ⟨ordered, fun _ _ _ same => (Option.some.inj same).symm⟩

theorem shown_printPage (ordered : Ordered s.page) : GesamtShown (gesamtPrintPage s) := by
  unfold gesamtPrintPage
  split
  · exact shown_print ordered
  · exact ⟨ordered, fun _ _ _ printed => by cases printed⟩

theorem shown_key (shown : GesamtShown s) (p : EdsGesamtHeizPageBlock) (taste : Taste)
    (stack : CanixFrame) :
    GesamtShown (gesamtHeizPageHandleKeyDownEvent self pages s p taste stack).1 := by
  obtain ⟨⟨mode, tsoll, dauer, subpage, state⟩, active, line⟩ := s
  have ordered : Ordered ⟨mode, tsoll, dauer, subpage, state⟩ := shown.page
  cases state with
  | view =>
      cases taste with
      | ok =>
          dsimp only [gesamtHeizPageHandleKeyDownEvent]
          split
          · have viewing := presets_state ⟨mode, tsoll, dauer, subpage, .view⟩
            exact ⟨ordered.presets _, fun editing => PageState.noConfusion
              (viewing.symm.trans editing)⟩
          · exact shown_print (ordered.presets .edit)
      | esc =>
          have first : Ordered ⟨mode, tsoll, dauer, 0, .view⟩ :=
            ordered.turn rfl (Nat.zero_le 2) fun deep => absurd rfl deep
          dsimp only [gesamtHeizPageHandleKeyDownEvent]
          split
          · exact ⟨first, fun editing => PageState.noConfusion editing⟩
          · exact shown_printPage first
      | up =>
          have turned := ordered.turn rfl ((Nat.sub_le subpage 1).trans ordered.subpage)
            fun deep => ordered.mode fun first => deep (by rw [show subpage = 0 from first])
          exact shown_print turned
      | down =>
          refine shown_print ?_
          by_cases plain : mode = .off ∨ mode = .automatikX
          · have limit : GesamtHeizPage.obereGrenze ⟨mode, tsoll, dauer, subpage, .view⟩ = 0 :=
              if_pos plain
            rw [limit, if_neg (Nat.not_lt_zero subpage)]
            exact ordered
          · have limit : GesamtHeizPage.obereGrenze ⟨mode, tsoll, dauer, subpage, .view⟩ = 2 :=
              if_neg plain
            rw [limit]
            refine ordered.turn rfl ?_ fun _ => (mode_thermostat mode).mp plain
            have small : subpage ≤ 2 := ordered.subpage
            split
            · omega
            · exact small
      | other => exact shown
  | edit =>
      cases taste with
      | ok => exact shown_print ordered.view
      | esc => exact shown_print ordered.view
      | up => exact shown_print ordered.up
      | down => exact shown_print ordered.down
      | other => exact shown

theorem shown_step (shown : GesamtShown s) (event : GesamtEvent) :
    GesamtShown (gesamtAfter self pages s event) := by
  cases event with
  | key taste stack =>
      unfold gesamtAfter gesamtStep
      cases active : s.active with
      | none => exact shown
      | some p => exact shown_key shown p taste stack
  | goto active => exact shown_printPage shown.page
  | refresh => exact shown_printPage shown.page
  | overprint => exact ⟨shown.page, fun _ _ _ printed => by cases printed⟩

theorem shown_init : GesamtShown gesamtInit where
  page := ⟨by decide, by decide, by decide, by decide, by decide⟩
  line editing := PageState.noConfusion editing

/-- The shown tenth names the eighth. -/
theorem eighths_shown {eighths : ℕ} (small : eighths < 8) :
    (4 * (2 * eighths * 10 / 16) + 4) / 5 = eighths := by
  decide +revert

/-- The line on the display names the command. -/
theorem line_names (ordered : Ordered v) : v.line.Names v.command := by
  obtain ⟨mode, tsoll, dauer, subpage, state⟩ := v
  obtain ⟨least, most, even⟩ : 0 ≤ tsoll.toInt ∧ tsoll.toInt ≤ 480 ∧ tsoll.toInt % 2 = 0 :=
    ordered.tsoll
  obtain ⟨day, quarters⟩ : dauer.toNat ≤ 64800 ∧ dauer.toNat % 900 = 0 := ordered.dauer
  match subpage with
  | 0 => rfl
  | 1 =>
      have timed : mode.isThermostat = true := ordered.mode Nat.one_ne_zero
      have line : GesamtHeizPage.line ⟨mode, tsoll, dauer, 1, state⟩ = tsollLine tsoll :=
        if_pos timed
      rw [line]
      refine ⟨tsoll, dauer, rfl, ?_⟩
      -- The temperature in whole degrees and eighths.
      obtain ⟨degrees, eighths, small, value⟩ :
          ∃ degrees eighths : ℕ, eighths < 8 ∧ tsoll.toInt = (16 * degrees + 2 * eighths : ℕ) :=
        ⟨tsoll.toInt.toNat / 16, tsoll.toInt.toNat % 16 / 2, by omega, by omega⟩
      have whole : tsoll.toInt / 16 = degrees := by omega
      have rest : (tsoll.toInt % 16).toNat = 2 * eighths := by omega
      rw [whole, rest, uint8_ofInt_natCast, eighths_shown small, value]
      omega
  | 2 =>
      have timed : mode.isThermostat = true := ordered.mode (Nat.succ_ne_zero 1)
      have line : GesamtHeizPage.line ⟨mode, tsoll, dauer, 2, state⟩ = dauerLine dauer :=
        if_pos timed
      rw [line]
      refine ⟨tsoll, dauer, rfl, ?_⟩
      omega
  | other + 3 => exact absurd ordered.subpage (by simp)

/-- What an open edit sends may be sent. -/
theorem command_allowed (ordered : Ordered v) (editing : v.state = .edit) :
    v.command.Allowed := by
  unfold GesamtHeizPage.command
  by_cases first : v.subpage = 0
  · rw [if_pos first]
    cases v.modeEdit with
    | off => trivial
    | thermostatFrostschutz => exact ⟨by decide, by decide⟩
    | thermostatFrostschutzKurz => exact ⟨by decide, by decide⟩
    | thermostatX => exact ⟨by decide, by decide⟩
    | automatikX => trivial
  · rw [if_neg first]
    have limited := ordered.limited editing first
    have positive : v.dauerEdit.toNat ≠ 0 := fun zero => limited (UInt16.toNat_inj.mp zero)
    obtain ⟨day, quarters⟩ := ordered.dauer
    exact ⟨ordered.tsoll, by omega, day, quarters⟩

/-- The keys of the page send commands. -/
theorem sends_key (self : UInt16) (pages : UInt8 → Option EdsGesamtHeizPageBlock)
    (shown : GesamtShown s) {p : EdsGesamtHeizPageBlock} (active : s.active = some p)
    (taste : Taste) (stack : CanixFrame) :
    (gesamtHeizPageHandleKeyDownEvent self pages s p taste stack).2 = [] ∨
      taste = .ok ∧ s.page.state = .edit ∧
        CommandsAll self s p (gesamtHeizPageHandleKeyDownEvent self pages s p taste stack).2
          s.page.command := by
  obtain ⟨⟨mode, tsoll, dauer, subpage, state⟩, here, line⟩ := s
  cases state with
  | view =>
      left
      cases taste with
      | ok =>
          dsimp only [gesamtHeizPageHandleKeyDownEvent]
          split <;> rfl
      | esc =>
          dsimp only [gesamtHeizPageHandleKeyDownEvent]
          split <;> rfl
      | up => rfl
      | down => rfl
      | other => rfl
  | edit =>
      cases taste with
      | ok =>
          have ordered : Ordered ⟨mode, tsoll, dauer, subpage, .edit⟩ := shown.page
          have sent : setGesamtHeizEditedDetails self ⟨mode, tsoll, dauer, subpage, .edit⟩ p stack =
              p.heizungen.map ((GesamtHeizPage.command ⟨mode, tsoll, dauer, subpage, .edit⟩).frame
                self) := by
            unfold setGesamtHeizEditedDetails
            rw [gesamtFrame_eq ordered.subpage ordered.mode]
          refine .inr ⟨rfl, rfl, ?_⟩
          dsimp only [gesamtHeizPageHandleKeyDownEvent]
          rw [sent]
          refine ⟨active, command_allowed ordered rfl, rfl,
            fun {_} => command_setsAll self _ p.heizungen, fun line printed => ?_⟩
          have shows : here.isSome = true := Option.isSome_of_eq_some active
          rw [shown.line rfl shows line printed]
          exact line_names ordered
      | esc => exact .inl rfl
      | up => exact .inl rfl
      | down => exact .inl rfl
      | other => exact .inl rfl

theorem sends_step (shown : GesamtShown s) (event : GesamtEvent) :
    SendsCommand self pages s event := by
  cases event with
  | key taste stack =>
      unfold SendsCommand gesamtStep
      cases active : s.active with
      | none => exact .inl rfl
      | some p =>
          rcases sends_key self pages shown active taste stack with
            quiet | ⟨ok, editing, commanded⟩
          · exact .inl quiet
          · exact .inr ⟨p, stack, s.page.command, by rw [ok], editing, commanded⟩
  | goto active => exact .inl rfl
  | refresh => exact .inl rfl
  | overprint => exact .inl rfl

end Runs

/-- In every run the page sends nothing but commands for its heatings: each of them is addressed
once, the values may be set, and the line on the display names them. -/
theorem gesamtHeiz_commands (self : UInt16) (pages : UInt8 → Option EdsGesamtHeizPageBlock)
    (events : List GesamtEvent) :
    AlwaysFits (gesamtAfter self pages) (SendsCommand self pages) gesamtInit events :=
  alwaysFits_of_holds GesamtShown shown_init (fun _ event shown => shown_step shown event)
    fun _ event shown => sends_step shown event

end Hcan.Userpanel
