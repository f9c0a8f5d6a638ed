import Hcan.Userpanel.HeizPage
import Hcan.Library.Run

/-!
# What an edit knows

Beside the panel a history records which details replies the waiting call has taken and, for the
edit that is open, the heating and the replies of the call that opened it and what the user
changed.  An edit is honest when the frame that ends it carries, but for the changes, what one of
these replies reported.
-/

namespace Hcan.Userpanel

open Hcan.Canix Hcan.Hauselektrik Hcan.Library
open Hcan.Controller (hauselektrikAccepts)

/-- The open edit. -/
structure Edit where
  heiz : UInt8
  replies : List CanixFrame
  rate : Bool
  tsoll : Bool
  dauer : Bool
  deriving DecidableEq

structure History where
  /-- The details replies taken by the waiting call, the last one first. -/
  replies : List CanixFrame
  edit : Edit
  deriving DecidableEq

structure PanelSystem where
  panel : Panel
  history : History
  deriving DecidableEq

/-- An edit that a call for `heiz` opens. -/
def Edit.opened (heiz : UInt8) (replies : List CanixFrame) : Edit :=
  ⟨heiz, replies, false, false, false⟩

/-- The edit behind a key that changes the parameters from `old` to `new`. -/
def Edit.changed (edit : Edit) (old new : HeizEdit) : Edit :=
  { edit with
    rate := edit.rate || old.rate != new.rate
    tsoll := edit.tsoll || old.tsoll != new.tsoll
    dauer := edit.dauer || old.dauer != new.dauer }

section Panel

variable (self : UInt16) (pages : UInt8 → LcdPage)

/-- The panel takes the frame as a details reply. -/
def Panel.Takes (s : Panel) (frame : CanixFrame) : Prop :=
  frame.proto = hcanProtoSfp ∧ hauselektrikAccepts self frame = true ∧
    s.activePage.isHeizPage = true ∧ s.heizPage.Expects frame

instance (s : Panel) : DecidablePred (s.Takes self) := fun frame =>
  inferInstanceAs (Decidable (frame.proto = hcanProtoSfp ∧ hauselektrikAccepts self frame = true ∧
    s.activePage.isHeizPage = true ∧ s.heizPage.Expects frame))

/-- No call waits while the panel is awake. -/
def repliesAfter (s : Panel) (event : PanelEvent) (replies : List CanixFrame) : List CanixFrame :=
  if s.sleeping = .awake then []
  else match event with
    | .frame frame => if s.Takes self frame then frame :: replies else replies
    | _ => replies

/-- A call within a sleep opens its edit at once, without a reply. -/
def editAfter (s : Panel) (event : PanelEvent) (history : History) : Edit :=
  match event with
  | .wake => match s.sleeping with
    | .details .edit heiz true => .opened heiz history.replies
    | _ => history.edit
  | .key .ok _ =>
      if s.activePage.isHeizPage = true ∧ s.heizPage.state = .view ∧ s.sleeping ≠ .awake then
        .opened s.activePage.heizId []
      else history.edit
  | .key .up _ =>
      if s.activePage.isHeizPage = true ∧ s.heizPage.state = .edit then
        history.edit.changed s.heizPage.edit (s.heizPage.edit.up s.heizPage.subpage)
      else history.edit
  | .key .down _ =>
      if s.activePage.isHeizPage = true ∧ s.heizPage.state = .edit then
        history.edit.changed s.heizPage.edit (s.heizPage.edit.down s.heizPage.subpage)
      else history.edit
  | _ => history.edit

/-- The panel and its history behind an event. -/
def PanelSystem.after (s : PanelSystem) (event : PanelEvent) : PanelSystem where
  panel := (panelStep self pages s.panel event).1
  history := ⟨repliesAfter self s.panel event s.history.replies,
    editAfter s.panel event s.history⟩

def PanelSystem.initial : PanelSystem where
  panel := (lcdstatemachineInit self pages).1
  history := ⟨[], .opened 0 []⟩

/-- The frame `sent` carries what a reply of the call reported, but for what was changed. -/
def OnlyRead (edit : Edit) (sent : CanixFrame) : Prop :=
  (sent.data[1] = hcanHesHeizungSetModeManual →
    ∃ reply ∈ edit.replies, reply.data[1] = hcanHesHeizungModeManualDetails ∧
      reply.data[2] = sent.data[2] ∧
      (edit.rate = false → sent.data[3] = reply.data[3]) ∧
      (edit.dauer = false → sent.data[4] = reply.data[4] ∧ sent.data[5] = reply.data[5])) ∧
  (sent.data[1] = hcanHesHeizungSetModeThermostatDetails →
    ∃ reply ∈ edit.replies, reply.data[1] = hcanHesHeizungModeThermostatDetails ∧
      reply.data[2] = sent.data[2] ∧
      (edit.tsoll = false → sent.data[3] = reply.data[3] ∧ sent.data[4] = reply.data[4]) ∧
      (edit.dauer = false → sent.data[5] = reply.data[5] ∧ sent.data[6] = reply.data[6]))

/-- The event ends an edit on subpage 1 or 2 with the frame `sent`. -/
def PanelSystem.Ends (s : PanelSystem) (event : PanelEvent) (sent : CanixFrame) : Prop :=
  ∃ stack, event = .key .ok stack ∧ s.panel.activePage.isHeizPage = true ∧
    s.panel.heizPage.state = .edit ∧
    (s.panel.heizPage.subpage = 1 ∨ s.panel.heizPage.subpage = 2) ∧
    sent = setHeizEditedDetails self s.panel.heizPage s.panel.activePage.heizId stack

def PanelStep (s : PanelSystem) (event : PanelEvent) (t : PanelSystem) : Prop :=
  s.after self pages event = t

/-! ## When edits are honest -/

/-- The heating whose details a key asks for on a heating page. -/
def Panel.asksKey (s : Panel) (taste : Taste) : Option UInt8 :=
  match taste, s.heizPage.state with
  | .esc, .view =>
      if s.activePage.parentId ≠ 0 ∧ (pages s.activePage.parentId).isHeizPage then
        some (pages s.activePage.parentId).heizId
      else none
  | .up, .edit => none
  | .down, .edit => none
  | .other, _ => none
  | _, _ => some s.activePage.heizId

/-- The heating whose details the event asks for. -/
def Panel.asks (s : Panel) : PanelEvent → Option UInt8
  | .key taste _ => if s.activePage.isHeizPage then s.asksKey pages taste else none
  | .refresh =>
      if s.activePage.isHeizPage ∧ s.heizPage.state = .view then some s.activePage.heizId else none
  | _ => none

/-- The heating of a waiting call that opens an edit. -/
def Sleeping.editing : Sleeping → Option UInt8
  | .details .edit heiz _ => some heiz
  | _ => none

/-- The call of the key handler returns when the sleep ends. -/
def Sleeping.returning : Sleeping → Bool
  | .details .edit _ true => true
  | _ => false

/-- While a call of the key handler waits, details are asked for its heating only, and before a
reply was taken. -/
def AsksInTime (s : PanelSystem) (event : PanelEvent) : Prop :=
  ∀ heiz ∈ s.panel.sleeping.editing, ∀ other ∈ s.panel.asks pages event,
    s.history.replies = [] ∧ other = heiz

instance (s : PanelSystem) (event : PanelEvent) : Decidable (AsksInTime pages s event) :=
  inferInstanceAs (Decidable (∀ heiz ∈ s.panel.sleeping.editing,
    ∀ other ∈ s.panel.asks pages event, s.history.replies = [] ∧ other = heiz))

/-- A call that opens an edit on subpage 1 or 2 took a details reply and was answered. -/
def OpensAnswered (s : PanelSystem) : PanelEvent → Prop
  | .key .ok _ =>
      s.panel.activePage.isHeizPage = true → s.panel.heizPage.state = .view →
        s.panel.sleeping ≠ .awake → s.panel.heizPage.subpage = 0
  | .wake =>
      s.panel.sleeping.returning = true → s.panel.heizPage.subpage ≠ 0 →
        s.panel.heizPage.expected = 0 ∧ s.history.replies ≠ []
  | _ => True

instance (s : PanelSystem) : ∀ event, Decidable (OpensAnswered s event)
  | .key .ok _ => inferInstanceAs (Decidable (_ → _ → _ ≠ _ → _))
  | .wake => inferInstanceAs (Decidable (_ → _ ≠ _ → _ ∧ _ ≠ _))
  | .key .esc _ | .key .up _ | .key .down _ | .key .other _ => .isTrue trivial
  | .frame _ | .load _ | .refresh | .sleep => .isTrue trivial

/-- The edit is ended on a page of its heating, and where nothing is assigned to the frame the
stack holds no command that the panel or a heating understands. -/
def EndsOwn (s : PanelSystem) : PanelEvent → Prop
  | .key .ok stack =>
      s.panel.activePage.isHeizPage = true → s.panel.heizPage.state = .edit →
        (editedData s.panel.heizPage s.panel.activePage.heizId = none →
          stack.data[1] ∉ hcanHesHeizungSetModeManual :: hcanHesHeizungSetModeThermostatDetails ::
            detailsReplies) ∧
        (s.panel.heizPage.subpage ≠ 0 → s.panel.activePage.heizId = s.history.edit.heiz)
  | _ => True

instance (s : PanelSystem) : ∀ event, Decidable (EndsOwn s event)
  | .key .ok _ => inferInstanceAs (Decidable (_ → _ → (_ = none → _ ∉ _) ∧ (_ ≠ _ → _ = _)))
  | .key .esc _ | .key .up _ | .key .down _ | .key .other _ => .isTrue trivial
  | .frame _ | .load _ | .refresh | .sleep | .wake => .isTrue trivial

/-- The steps in which the panel edits what it read. -/
structure CarefulStep (s : PanelSystem) (event : PanelEvent) (t : PanelSystem) : Prop where
  happens : PanelStep self pages s event t
  asks : AsksInTime pages s event
  opens : OpensAnswered s event
  ends : EndsOwn s event

end Panel

section Runs

variable (self : UInt16) (pages : UInt8 → LcdPage)

/-- The panel and its history behind some events. -/
def PanelSystem.behind (s : PanelSystem) (events : List PanelEvent) : PanelSystem :=
  events.foldl (fun s event => s.after self pages event) s

theorem panelRun (s : PanelSystem) (events : List PanelEvent) :
    Run (PanelStep self pages) s events (s.behind self pages events) := by
  induction events generalizing s with
  | nil => exact .nil s
  | cons event events ih => exact .cons rfl (ih (s.after self pages event))

/-- Every one of the events is a careful step. -/
def AllCareful : PanelSystem → List PanelEvent → Prop
  | _, [] => True
  | s, event :: events =>
      (AsksInTime pages s event ∧ OpensAnswered s event ∧ EndsOwn s event) ∧
        AllCareful (s.after self pages event) events

instance decidableAllCareful : ∀ s events, Decidable (AllCareful self pages s events)
  | _, [] => .isTrue trivial
  | s, event :: events =>
      have : Decidable (AllCareful self pages (s.after self pages event) events) :=
        decidableAllCareful _ events
      inferInstanceAs (Decidable ((AsksInTime pages s event ∧ OpensAnswered s event ∧
        EndsOwn s event) ∧ AllCareful self pages (s.after self pages event) events))

theorem carefulRun {s : PanelSystem} {events : List PanelEvent}
    (careful : AllCareful self pages s events) :
    Run (CarefulStep self pages) s events (s.behind self pages events) := by
  induction events generalizing s with
  | nil => exact .nil s
  | cons event events ih =>
      obtain ⟨⟨asks, opens, ends⟩, rest⟩ := careful
      exact .cons ⟨rfl, asks, opens, ends⟩ (ih rest)

end Runs

end Hcan.Userpanel
