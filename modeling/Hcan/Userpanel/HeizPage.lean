import Hcan.Controller.Board
import Hcan.Hauselektrik.Devices

/-!
# The heating page of the user panel

`heiz_page.c` under the state machine of the display.  While `get_heiz_details` sleeps for its
two replies the idle handler goes on: frames, keys and page changes are handled inside the call,
and a sleep inside a sleep returns at once.  What is printed, the other pages and the lines for
the syslog are left out.
-/

namespace Hcan.Userpanel

open Hcan.Canix Hcan.Hauselektrik
open Hcan.Controller (hauselektrikAccepts)

/-- `STATE_VIEW` and `STATE_EDIT`. -/
inductive PageState where
  | view
  | edit
  deriving DecidableEq, Repr

/-- The replies, collected in `heiz_details_*`. -/
structure HeizDetails where
  mode : HeizungMode
  rate : UInt8
  tsoll : Int16
  tist : Int16
  dauer : UInt16
  deriving DecidableEq, Repr

/-- The variables `heiz_details_*_edit`. -/
structure HeizEdit where
  mode : HeizungMode
  rate : UInt8
  tsoll : Int16
  dauer : UInt16
  deriving DecidableEq, Repr

/-- The globals of `heiz_page.c`, one set for all pages of this type. -/
structure HeizPage where
  expected : UInt8
  heizId : UInt8
  details : HeizDetails
  edit : HeizEdit
  subpage : Nat
  state : PageState
  deriving DecidableEq, Repr

/-- What the heating page reads of `lcdpage_t`. -/
structure LcdPage where
  blockType : UInt8
  parentId : UInt8
  heizId : UInt8
  deriving DecidableEq, Repr

def edsHeizPageBlockId : UInt8 := 102

def LcdPage.isHeizPage (page : LcdPage) : Bool := page.blockType == edsHeizPageBlockId

/-- Who called `get_heiz_details`. -/
inductive Zweck where
  | edit
  | print
  deriving DecidableEq, Repr

/-- The call that `canix_sleep_100th` is running for. -/
inductive Sleeping where
  | awake
  | other
  | details (zweck : Zweck) (heiz : UInt8) (second : Bool)
  deriving DecidableEq, Repr

structure Panel where
  heizPage : HeizPage
  activePage : LcdPage
  sleeping : Sleeping
  deriving DecidableEq, Repr

/-- `(hi << 8) | lo`. -/
def word (hi lo : UInt8) : UInt16 := hi.toUInt16 <<< 8 ||| lo.toUInt16

def detailsReplies : List UInt8 :=
  [hcanHesHeizungModeOffDetails, hcanHesHeizungModeManualDetails,
    hcanHesHeizungModeThermostatDetails, hcanHesHeizungModeAutomatikDetails]

/-- The inner switch of the details replies. -/
def HeizDetails.take (details : HeizDetails) (frame : CanixFrame) : HeizDetails :=
  if frame.data[1] = hcanHesHeizungModeOffDetails then
    { details with mode := .off, tsoll := 0, dauer := 0 }
  else if frame.data[1] = hcanHesHeizungModeManualDetails then
    { details with
      mode := .manual
      rate := frame.data[3]
      dauer := word frame.data[4] frame.data[5] }
  else if frame.data[1] = hcanHesHeizungModeThermostatDetails then
    { details with
      mode := .thermostat
      tsoll := (word frame.data[3] frame.data[4]).toInt16
      dauer := word frame.data[5] frame.data[6] }
  else if frame.data[1] = hcanHesHeizungModeAutomatikDetails then
    { details with
      mode := .automatik
      tsoll := (word frame.data[3] frame.data[4]).toInt16
      dauer := 0 }
  else details

/-- The reply is a details reply that is waited for. -/
def HeizPage.Expects (v : HeizPage) (frame : CanixFrame) : Prop :=
  frame.data[1] ∈ detailsReplies ∧ v.expected ≠ 0 ∧ frame.data[2] = v.heizId

instance (v : HeizPage) : DecidablePred v.Expects := fun frame =>
  inferInstanceAs (Decidable (frame.data[1] ∈ detailsReplies ∧ v.expected ≠ 0 ∧
    frame.data[2] = v.heizId))

def heizPageCanCallback (v : HeizPage) (frame : CanixFrame) : HeizPage :=
  if v.Expects frame then
    { v with expected := v.expected &&& ~~~1, details := v.details.take frame }
  else if frame.data[1] = hcanHesHeizungTistReplay ∧ frame.data[2] = v.heizId then
    { v with
      expected := v.expected &&& ~~~2
      details := { v.details with tist := (word frame.data[3] frame.data[4]).toInt16 } }
  else v

def lcdstatemachineCanCallback (s : Panel) (frame : CanixFrame) : Panel :=
  if s.activePage.isHeizPage then { s with heizPage := heizPageCanCallback s.heizPage frame }
  else s

section Panel

variable (self : UInt16) (pages : UInt8 → LcdPage)

def canixDeliverFrame (s : Panel) (frame : CanixFrame) : Panel :=
  if frame.proto = hcanProtoSfp ∧ hauselektrikAccepts self frame = true then
    lcdstatemachineCanCallback s frame
  else s

/-- A sent frame is delivered locally, too. -/
def canixFrameSend (s : Panel) (frame : CanixFrame) : Panel × List CanixFrame :=
  (canixDeliverFrame self s frame, [frame])

def heizRequest (command heiz : UInt8) : CanixFrame where
  src := self
  dst := hcanMulticastControl
  proto := hcanProtoSfp
  size := 3
  data := #v[hcanSrvHes, command, heiz, 0, 0, 0, 0, 0]

/-- `get_heiz_details` up to its first sleep. -/
def getHeizDetailsFirst (s : Panel) (heiz : UInt8) : Panel × List CanixFrame :=
  let asking := { s with heizPage := { s.heizPage with
    heizId := heiz
    details := { s.heizPage.details with tsoll := 0 } } }
  let sent := canixFrameSend self asking (heizRequest self hcanHesHeizungDetailsRequest heiz)
  ({ sent.1 with heizPage := { sent.1.heizPage with expected := 1 } }, sent.2)

/-- From the first sleep to the second one. -/
def getHeizDetailsSecond (s : Panel) (heiz : UInt8) : Panel × List CanixFrame :=
  let sent := canixFrameSend self s (heizRequest self hcanHesHeizungTistRequest heiz)
  ({ sent.1 with heizPage := { sent.1.heizPage with expected := 2 } }, sent.2)

/-- From the second sleep to the return; no value is returned behind a timeout. -/
def getHeizDetailsEnd (v : HeizPage) : HeizPage × Option HeizDetails :=
  if v.expected = 0 then ({ v with heizId := 0 }, some v.details) else (v, none)

/-- What the caller does behind `get_heiz_details`: the key handler does not look at what the
call returns. -/
def heizDetailsReturned (v : HeizPage) : Zweck → HeizPage
  | .print => (getHeizDetailsEnd v).1
  | .edit =>
      let loaded := match getHeizDetailsEnd v with
        | (ended, some details) =>
            { ended with edit := ⟨details.mode, details.rate, details.tsoll, details.dauer⟩ }
        | (ended, none) => ended
      if loaded.subpage = 1 ∧ loaded.edit.mode = .automatik then loaded
      else { loaded with state := .edit }

/-- `get_heiz_details` with what follows it.  A sleep that is running already returns at once. -/
def getHeizDetails (s : Panel) (zweck : Zweck) (heiz : UInt8) : Panel × List CanixFrame :=
  let first := getHeizDetailsFirst self s heiz
  if s.sleeping = .awake then
    ({ first.1 with sleeping := .details zweck heiz false }, first.2)
  else
    let second := getHeizDetailsSecond self first.1 heiz
    ({ second.1 with heizPage := heizDetailsReturned second.1.heizPage zweck },
      first.2 ++ second.2)

def heizPagePrintPage (s : Panel) (heiz : UInt8) : Panel × List CanixFrame :=
  match s.heizPage.state with
  | .view => getHeizDetails self s .print heiz
  | .edit => (s, [])

def printPage (s : Panel) : Panel × List CanixFrame :=
  if s.activePage.isHeizPage then heizPagePrintPage self s s.activePage.heizId else (s, [])

def loadPage (s : Panel) (page : UInt8) : Panel := { s with activePage := pages page }

def gotoPageUp (s : Panel) : Panel × List CanixFrame :=
  if s.activePage.parentId = 0 then (s, [])
  else printPage self (loadPage pages s s.activePage.parentId)

/-- The size and the bytes that the switch of `set_heiz_edited_details` assigns; none where it
assigns none. -/
def editedData (v : HeizPage) (heiz : UInt8) : Option (UInt8 × Vector UInt8 8) :=
  match v.subpage with
  | 0 => match v.edit.mode with
    | .off => some (3, #v[hcanSrvHes, hcanHesHeizungSetModeOff, heiz, 0, 0, 0, 0, 0])
    | .manual => some (6, #v[hcanSrvHes, hcanHesHeizungSetModeManual, heiz, 0, 84, 96, 0, 0])
    | .thermostat =>
        some (7, #v[hcanSrvHes, hcanHesHeizungSetModeThermostatDetails, heiz, 1, 64, 84, 96, 0])
    | .automatik => some (3, #v[hcanSrvHes, hcanHesHeizungSetModeAutomatik, heiz, 0, 0, 0, 0, 0])
  | 1 | 2 => match v.edit.mode with
    | .manual =>
        some (6, #v[hcanSrvHes, hcanHesHeizungSetModeManual, heiz, v.edit.rate,
          (v.edit.dauer >>> 8).toUInt8, v.edit.dauer.toUInt8, 0, 0])
    | .thermostat =>
        some (7, #v[hcanSrvHes, hcanHesHeizungSetModeThermostatDetails, heiz,
          (v.edit.tsoll.toUInt16 >>> 8).toUInt8, v.edit.tsoll.toUInt16.toUInt8,
          (v.edit.dauer >>> 8).toUInt8, v.edit.dauer.toUInt8, 0])
    | _ => none
  | _ => none

/-- The frame of `set_heiz_edited_details`; `stack` is what `message` holds before. -/
def setHeizEditedDetails (v : HeizPage) (heiz : UInt8) (stack : CanixFrame) : CanixFrame :=
  match editedData v heiz with
  | some (size, data) =>
      { src := self
        dst := hcanMulticastControl
        proto := hcanProtoSfp
        size := size
        data := data }
  | none =>
      { src := self
        dst := hcanMulticastControl
        proto := hcanProtoSfp
        size := stack.size
        data := stack.data.setIfInBounds 0 hcanSrvHes }

/-- The keys of the heating page and all the others. -/
inductive Taste where
  | ok | esc | up | down | other
  deriving DecidableEq, Repr

def modeUp : HeizungMode → HeizungMode
  | .off => .manual
  | .manual => .thermostat
  | .thermostat => .automatik
  | .automatik => .automatik

def modeDown : HeizungMode → HeizungMode
  | .off => .off
  | .manual => .off
  | .thermostat => .manual
  | .automatik => .thermostat

/-- `KEY_UP` while editing. -/
def HeizEdit.up (edit : HeizEdit) : Nat → HeizEdit
  | 0 => { edit with mode := modeUp edit.mode }
  | 1 => match edit.mode with
    | .manual => if edit.rate < 100 then { edit with rate := edit.rate + 10 } else edit
    | .thermostat => if edit.tsoll < 480 then { edit with tsoll := edit.tsoll + 2 } else edit
    | _ => edit
  | 2 =>
      if (edit.mode = .manual ∨ edit.mode = .thermostat) ∧ edit.dauer < 43200 then
        { edit with dauer := edit.dauer / 900 * 900 + 900 }
      else edit
  | _ => edit

/-- `KEY_DOWN` while editing. -/
def HeizEdit.down (edit : HeizEdit) : Nat → HeizEdit
  | 0 => { edit with mode := modeDown edit.mode }
  | 1 => match edit.mode with
    | .manual => if edit.rate > 0 then { edit with rate := edit.rate - 10 } else edit
    | .thermostat => if edit.tsoll > 0 then { edit with tsoll := edit.tsoll - 2 } else edit
    | _ => edit
  | 2 =>
      if (edit.mode = .manual ∨ edit.mode = .thermostat) ∧ edit.dauer > 900 then
        { edit with dauer := edit.dauer / 900 * 900 - 900 }
      else edit
  | _ => edit

/-- The last subpage that `KEY_DOWN` reaches: the edited mode of the edit before decides. -/
def obereGrenze (edit : HeizEdit) : Nat :=
  if edit.mode = .off ∨ edit.mode = .automatik then 0 else 2

def heizPageHandleKeyDownEvent (s : Panel) (heiz : UInt8) (taste : Taste) (stack : CanixFrame) :
    Panel × List CanixFrame :=
  let v := s.heizPage
  match taste, v.state with
  | .ok, .view => getHeizDetails self s .edit heiz
  | .ok, .edit =>
      let sent := canixFrameSend self { s with heizPage := { v with state := .view } }
        (setHeizEditedDetails self v heiz stack)
      let printed := heizPagePrintPage self sent.1 heiz
      (printed.1, sent.2 ++ printed.2)
  | .esc, .view => gotoPageUp self pages { s with heizPage := { v with subpage := 0 } }
  | .esc, .edit => heizPagePrintPage self { s with heizPage := { v with state := .view } } heiz
  | .up, .view =>
      heizPagePrintPage self { s with heizPage := { v with subpage := v.subpage - 1 } } heiz
  | .up, .edit =>
      heizPagePrintPage self { s with heizPage := { v with edit := v.edit.up v.subpage } } heiz
  | .down, .view =>
      heizPagePrintPage self { s with heizPage := { v with
        subpage := if v.subpage < obereGrenze v.edit then v.subpage + 1 else v.subpage } } heiz
  | .down, .edit =>
      heizPagePrintPage self { s with heizPage := { v with edit := v.edit.down v.subpage } } heiz
  | .other, _ => (s, [])

/-! ## Events -/

/-- What happens to the panel.  A key carries what the stack holds under `message`.  `load` and
`refresh` are the halves of a page change by another key, the timer or another page; `sleep` and
`wake` begin and end a running sleep. -/
inductive PanelEvent where
  | frame (frame : CanixFrame)
  | key (taste : Taste) (stack : CanixFrame)
  | load (page : UInt8)
  | refresh
  | sleep
  | wake

/-- The end of the running sleep. -/
def wakePanel (s : Panel) : Panel × List CanixFrame :=
  match s.sleeping with
  | .awake => (s, [])
  | .other => ({ s with sleeping := .awake }, [])
  | .details zweck heiz false =>
      let second := getHeizDetailsSecond self s heiz
      ({ second.1 with sleeping := .details zweck heiz true }, second.2)
  | .details zweck _ true =>
      ({ s with heizPage := heizDetailsReturned s.heizPage zweck, sleeping := .awake }, [])

/-- The panel behind an event and the frames sent. -/
def panelStep (s : Panel) : PanelEvent → Panel × List CanixFrame
  | .frame frame => (canixDeliverFrame self s frame, [])
  | .key taste stack =>
      if s.activePage.isHeizPage then
        heizPageHandleKeyDownEvent self pages s s.activePage.heizId taste stack
      else (s, [])
  | .load page => (loadPage pages s page, [])
  | .refresh => printPage self s
  | .sleep => ({ s with sleeping := if s.sleeping = .awake then .other else s.sleeping }, [])
  | .wake => wakePanel self s

/-- The globals behind a reset. -/
def initialHeizPage : HeizPage where
  expected := 0
  heizId := 0
  details := ⟨.off, 0, 0, 0, 0⟩
  edit := ⟨.off, 0, 0, 0⟩
  subpage := 0
  state := .view

/-- `lcdstatemachine_init`: page 1 is loaded and printed. -/
def lcdstatemachineInit : Panel × List CanixFrame :=
  printPage self ⟨initialHeizPage, pages 1, .awake⟩

end Panel

end Hcan.Userpanel
