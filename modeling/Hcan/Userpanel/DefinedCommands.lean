import Hcan.Library.Machine
import Hcan.Userpanel.Edits

/-!
# The commands of the user panel

The end of an edit sends what the branch of its subpage and mode assigns.  On the subpages 1 and 2
two of the four modes have no branch, and the frame goes out as the stack holds it.
-/

namespace Hcan.Userpanel

open Hcan.Canix Hcan.Hauselektrik Hcan.Library

section Commands

variable (self : UInt16) (pages : UInt8 → LcdPage)

/-- The panel behind an event. -/
def panelAfter (s : Panel) (event : PanelEvent) : Panel := (panelStep self pages s event).1

/-- The panel behind `lcdstatemachine_init`. -/
def panelInit : Panel := (lcdstatemachineInit self pages).1

/-- What a key sends does not depend on what the stack held. -/
def SendsDefined (s : Panel) : PanelEvent → Prop
  | .key taste stack => ∀ other,
      (panelStep self pages s (.key taste other)).2 = (panelStep self pages s (.key taste stack)).2
  | _ => True

/-- The subpage and the mode of the edit have a branch. -/
def HasBranch (v : HeizPage) : Prop :=
  v.subpage = 0 ∨ v.subpage ≤ 2 ∧ (v.edit.mode = .manual ∨ v.edit.mode = .thermostat)

/-- A key OK that ends an edit finds a branch. -/
def EndsBranched (s : Panel) : PanelEvent → Prop
  | .key .ok _ => s.activePage.isHeizPage = true → s.heizPage.state = .edit → HasBranch s.heizPage
  | _ => True

/-- The mode that a call of `get_heiz_details` leaves in the edit: the one of the replies or, behind
a timeout, the one before. -/
def HeizPage.loadedMode (v : HeizPage) : HeizungMode :=
  if v.expected = 0 then v.details.mode else v.edit.mode

/-- A call that returns has a branch for what it opens.  On the subpage 1 the mode AUTOMATIK opens
nothing. -/
def Opens (v : HeizPage) : Prop :=
  v.subpage = 0 ∨ v.loadedMode = .manual ∨ v.loadedMode = .thermostat ∨
    v.subpage = 1 ∧ v.loadedMode = .automatik ∧ v.state = .view

/-- The step begins no edit without a branch. -/
def OpensBranched (s : Panel) : PanelEvent → Prop
  | .wake => ∀ heiz, s.sleeping = .details .edit heiz true → Opens s.heizPage
  | .key .ok _ => s.activePage.isHeizPage = true → s.heizPage.state = .view →
      s.sleeping ≠ .awake → Opens { s.heizPage with expected := 2 }
  | _ => True

end Commands

section Frame

variable {self : UInt16} {v : HeizPage} {heiz : UInt8}

theorem editedData_isSome : (editedData v heiz).isSome = true ↔ HasBranch v := by
  unfold editedData HasBranch
  match page : v.subpage with
  | 0 =>
      refine iff_of_true ?_ (.inl rfl)
      cases v.edit.mode <;> rfl
  | 1 => cases v.edit.mode <;> simp
  | 2 => cases v.edit.mode <;> simp
  | other + 3 => exact iff_of_false Bool.false_ne_true (by omega)

/-- With a branch the frame is the same for every stack. -/
theorem edited_defined {data : UInt8 × Vector UInt8 8} (assigned : editedData v heiz = some data)
    (stack other : CanixFrame) :
    setHeizEditedDetails self v heiz other = setHeizEditedDetails self v heiz stack := by
  unfold setHeizEditedDetails
  rw [assigned]

/-- Without a branch the size is the one of the stack. -/
theorem edited_size (unset : editedData v heiz = none) (stack : CanixFrame) :
    (setHeizEditedDetails self v heiz stack).size = stack.size := by
  unfold setHeizEditedDetails
  rw [unset]

end Frame

section Steps

variable {self : UInt16} {pages : UInt8 → LcdPage} {s : Panel}

/-- The frames that the key OK sends in an edit. -/
theorem sent_ok (shown : s.activePage.isHeizPage = true) (editing : s.heizPage.state = .edit)
    (stack : CanixFrame) : ∃ panel printed, panel = (canixDeliverFrame self
        { s with heizPage := { s.heizPage with state := .view } }
        (setHeizEditedDetails self s.heizPage s.activePage.heizId stack)) ∧
      printed = (heizPagePrintPage self panel s.activePage.heizId) ∧
      panelStep self pages s (.key .ok stack) = (printed.1,
        setHeizEditedDetails self s.heizPage s.activePage.heizId stack :: printed.2) := by
  refine ⟨_, _, rfl, rfl, ?_⟩
  rw [panelStep, if_pos shown]
  unfold heizPageHandleKeyDownEvent
  simp only [editing]
  rfl

/-- A key that ends no edit does not read the stack. -/
theorem sendsDefined_other {taste : Taste} (stack : CanixFrame)
    (ends : ¬ (s.activePage.isHeizPage = true ∧ taste = .ok ∧ s.heizPage.state = .edit)) :
    SendsDefined self pages s (.key taste stack) := by
  intro other
  dsimp only [panelStep]
  by_cases shown : s.activePage.isHeizPage = true
  · rw [if_pos shown, if_pos shown]
    unfold heizPageHandleKeyDownEvent
    cases state : s.heizPage.state with
    | view => cases taste <;> simp only [state]
    | edit =>
        cases taste with
        | ok => exact absurd ⟨shown, rfl, state⟩ ends
        | esc => simp only [state]
        | up => simp only [state]
        | down => simp only [state]
        | other => rfl
  · rw [if_neg shown, if_neg shown]

/-- The end of an edit is defined exactly when it has a branch. -/
theorem sendsDefined_ok (shown : s.activePage.isHeizPage = true)
    (editing : s.heizPage.state = .edit) (stack : CanixFrame) :
    SendsDefined self pages s (.key .ok stack) ↔
      (editedData s.heizPage s.activePage.heizId).isSome = true := by
  cases assigned : editedData s.heizPage s.activePage.heizId with
  | some data =>
      refine iff_of_true (fun other => ?_) rfl
      have same := @edited_defined self _ _ _ assigned stack other
      obtain ⟨panel, printed, rfl, rfl, sent⟩ := @sent_ok self pages s shown
        editing stack
      obtain ⟨panel, printed, rfl, rfl, sentOther⟩ := @sent_ok self pages s shown
        editing other
      rw [sent, sentOther, same]
  | none =>
      refine iff_of_false (fun same => ?_) Bool.false_ne_true
      obtain ⟨_, _, _, _, sent⟩ := @sent_ok self pages s shown editing stack
      obtain ⟨_, _, _, _, sentOther⟩ := @sent_ok self pages s shown editing
        { stack with size := stack.size + 1 }
      have heads := same { stack with size := stack.size + 1 }
      rw [sent, sentOther] at heads
      have sizes := congrArg CanixFrame.size (List.cons.inj heads).1
      rw [edited_size assigned, edited_size assigned] at sizes
      have apart := congrArg UInt8.toNat sizes
      rw [UInt8.toNat_add] at apart
      change (stack.size.toNat + 1) % 256 = stack.size.toNat at apart
      omega

theorem sendsDefined_iff (event : PanelEvent) :
    SendsDefined self pages s event ↔ EndsBranched s event := by
  cases event with
  | key taste stack =>
      by_cases ends : s.activePage.isHeizPage = true ∧ taste = .ok ∧ s.heizPage.state = .edit
      · obtain ⟨shown, rfl, editing⟩ := ends
        rw [sendsDefined_ok shown editing, editedData_isSome]
        exact ⟨fun branch _ _ => branch, fun branched => branched shown editing⟩
      · refine iff_of_true (sendsDefined_other stack ends) ?_
        cases taste with
        | ok => exact fun shown editing => absurd ⟨shown, rfl, editing⟩ ends
        | esc => trivial
        | up => trivial
        | down => trivial
        | other => trivial
  | frame frame => exact Iff.rfl
  | load page => exact Iff.rfl
  | refresh => exact Iff.rfl
  | sleep => exact Iff.rfl
  | wake => exact Iff.rfl

end Steps

/-! ## Edits with a branch -/

/-- The subpage is one of the three, and an open edit has a branch. -/
structure Branched (v : HeizPage) : Prop where
  small : v.subpage ≤ 2
  branch : v.state = .edit → HasBranch v

theorem branched_view {v : HeizPage} (small : v.subpage ≤ 2) (view : v.state = .view) :
    Branched v := by
  refine ⟨small, fun editing => ?_⟩
  rw [view] at editing
  exact PageState.noConfusion editing

theorem Branched.of_same {v next : HeizPage} (branched : Branched v) (edit : next.edit = v.edit)
    (subpage : next.subpage = v.subpage) (state : next.state = v.state) : Branched next := by
  refine ⟨by rw [subpage]; exact branched.small, fun editing => ?_⟩
  unfold HasBranch
  rw [edit, subpage]
  exact branched.branch (state.symm.trans editing)

theorem Branched.printed {s t : Panel} {asked : Option UInt8} (branched : Branched s.heizPage)
    (printed : Printed s t asked) : Branched t.heizPage :=
  branched.of_same printed.edit printed.subpage printed.state

/-- A frame leaves the edit, the subpage and the state. -/
theorem branched_deliver (self : UInt16) {s : Panel} (branched : Branched s.heizPage)
    (frame : CanixFrame) : Branched (canixDeliverFrame self s frame).heizPage := by
  by_cases takes : s.Takes self frame
  · rw [deliver_takes self takes]
    exact branched.of_same rfl rfl rfl
  · obtain ⟨-, -, only⟩ := deliver_other self takes
    exact branched.of_same only.edit only.subpage only.state

theorem returned_mode (v : HeizPage) :
    (heizDetailsReturned v .edit).edit.mode = v.loadedMode := by
  unfold HeizPage.loadedMode
  by_cases answered : v.expected = 0
  · rw [if_pos answered, returned_answered v answered]
  · rw [if_neg answered]
    rcases returned_timeout v answered with same | opened
    · rw [same]
    · rw [opened]

/-- The mode AUTOMATIK has no edit on the subpage 1. -/
theorem returned_state {v : HeizPage} (second : v.subpage = 1)
    (automatik : v.loadedMode = .automatik) : (heizDetailsReturned v .edit).state = v.state := by
  unfold HeizPage.loadedMode at automatik
  unfold heizDetailsReturned getHeizDetailsEnd
  by_cases answered : v.expected = 0
  · rw [if_pos answered] at automatik ⊢
    dsimp only
    rw [if_pos ⟨second, automatik⟩]
  · rw [if_neg answered] at automatik ⊢
    dsimp only
    rw [if_pos ⟨second, automatik⟩]

/-- A call that returns opens an edit with the mode it loaded. -/
theorem branched_returned {v : HeizPage} (small : v.subpage ≤ 2) (opens : Opens v) :
    Branched (heizDetailsReturned v .edit) := by
  have subpage := returned_subpage v
  refine ⟨by rw [subpage]; exact small, fun editing => ?_⟩
  unfold HasBranch
  rw [subpage, returned_mode v]
  rcases opens with first | manual | thermostat | ⟨second, automatik, view⟩
  · exact .inl first
  · exact .inr ⟨small, .inl manual⟩
  · exact .inr ⟨small, .inr thermostat⟩
  · rw [returned_state second automatik, view] at editing
    exact PageState.noConfusion editing

/-- The keys UP and DOWN keep the mode but on the first subpage. -/
theorem branched_edit {v : HeizPage} (branched : Branched v) {edit : HeizEdit}
    (kept : v.subpage ≠ 0 → edit.mode = v.edit.mode) : Branched { v with edit := edit } := by
  refine ⟨branched.small, fun editing => ?_⟩
  by_cases first : v.subpage = 0
  · exact .inl first
  · rcases branched.branch editing with zero | timed
    · exact absurd zero first
    · refine .inr ⟨branched.small, ?_⟩
      change edit.mode = .manual ∨ edit.mode = .thermostat
      rw [kept first]
      exact timed.2

theorem obereGrenze_le (edit : HeizEdit) : obereGrenze edit ≤ 2 := by
  unfold obereGrenze
  split
  · decide
  · decide

section Run

variable {self : UInt16} {pages : UInt8 → LcdPage} {s : Panel}

theorem branched_key (branched : Branched s.heizPage) {taste : Taste} (stack : CanixFrame)
    (shown : s.activePage.isHeizPage = true) (opens : OpensBranched s (.key taste stack)) :
    Branched (heizPageHandleKeyDownEvent self pages s s.activePage.heizId taste
      stack).1.heizPage := by
  have small := branched.small
  generalize next : (heizPageHandleKeyDownEvent self pages s s.activePage.heizId taste
    stack).1 = t
  cases state : s.heizPage.state with
  | view =>
      cases taste with
      | ok =>
          unfold heizPageHandleKeyDownEvent at next
          simp only [state] at next
          rw [← next]
          by_cases awake : s.sleeping = .awake
          · rw [getHeizDetails_awake self _ .edit awake]
            exact branched_view small state
          · rw [getHeizDetails_nested self _ .edit awake]
            exact branched_returned (v := s.heizPage.asked s.activePage.heizId 2) small
              (opens shown state awake)
      | esc =>
          unfold heizPageHandleKeyDownEvent at next
          simp only [state] at next
          obtain ⟨mid, printed, same, -⟩ := gotoPageUp_printed self pages { s with
            heizPage := { s.heizPage with subpage := 0, state := .view } } rfl
          rw [next] at printed
          refine Branched.printed ?_ printed
          rw [same]
          exact branched_view (Nat.zero_le 2) rfl
      | up =>
          unfold heizPageHandleKeyDownEvent at next
          simp only [state] at next
          refine Branched.printed ?_ (printed_view next.symm rfl)
          exact branched_view (Nat.le_trans (Nat.sub_le s.heizPage.subpage 1) small) rfl
      | down =>
          unfold heizPageHandleKeyDownEvent at next
          simp only [state] at next
          refine Branched.printed ?_ (printed_view next.symm rfl)
          refine branched_view ?_ rfl
          have limit := obereGrenze_le s.heizPage.edit
          change (if s.heizPage.subpage < obereGrenze s.heizPage.edit then s.heizPage.subpage + 1
            else s.heizPage.subpage) ≤ 2
          split
          · omega
          · exact small
      | other =>
          rw [← next]
          exact branched
  | edit =>
      cases taste with
      | ok =>
          unfold heizPageHandleKeyDownEvent at next
          simp only [state] at next
          have viewing := branched_deliver self (s := { s with
            heizPage := { s.heizPage with state := .view } }) (branched_view small rfl)
            (setHeizEditedDetails self s.heizPage s.activePage.heizId stack)
          exact Branched.printed viewing (next ▸ heizPagePrintPage_printed self _ _)
      | esc =>
          unfold heizPageHandleKeyDownEvent at next
          simp only [state] at next
          refine Branched.printed ?_ (printed_view next.symm rfl)
          exact branched_view small rfl
      | up =>
          unfold heizPageHandleKeyDownEvent at next
          simp only [state] at next
          have kept := branched_edit branched (up_mode s.heizPage.edit)
          refine Branched.printed ?_ (next ▸ heizPagePrintPage_printed self _ _)
          rw [← state]
          exact kept
      | down =>
          unfold heizPageHandleKeyDownEvent at next
          simp only [state] at next
          have kept := branched_edit branched (down_mode s.heizPage.edit)
          refine Branched.printed ?_ (next ▸ heizPagePrintPage_printed self _ _)
          rw [← state]
          exact kept
      | other =>
          rw [← next]
          exact branched

theorem branched_wake (branched : Branched s.heizPage) (opens : OpensBranched s .wake) :
    Branched (wakePanel self s).1.heizPage := by
  unfold wakePanel
  cases sleeping : s.sleeping with
  | awake => exact branched
  | other => exact branched
  | details zweck heiz second =>
      cases second with
      | false =>
          dsimp only
          rw [getHeizDetailsSecond_eq]
          exact branched.of_same rfl rfl rfl
      | true =>
          cases zweck with
          | edit => exact branched_returned branched.small (opens heiz sleeping)
          | print =>
              obtain ⟨edit, subpage, state⟩ := returned_print s.heizPage
              exact branched.of_same edit subpage state

/-- A step that opens no edit without a branch keeps every edit with one. -/
theorem branched_step (branched : Branched s.heizPage) (event : PanelEvent)
    (opens : OpensBranched s event) : Branched (panelAfter self pages s event).heizPage := by
  cases event with
  | frame frame => exact branched_deliver self branched frame
  | key taste stack =>
      unfold panelAfter
      by_cases shown : s.activePage.isHeizPage = true
      · dsimp only [panelStep]
        rw [if_pos shown]
        exact branched_key branched stack shown opens
      · dsimp only [panelStep]
        rw [if_neg shown]
        exact branched
  | load page => exact branched
  | refresh => exact branched.printed (printPage_printed self s)
  | sleep => exact branched
  | wake => exact branched_wake branched opens

theorem branched_init (self : UInt16) (pages : UInt8 → LcdPage) :
    Branched (panelInit self pages).heizPage :=
  (branched_view (Nat.zero_le 2) rfl).printed
    (printPage_printed self ⟨initialHeizPage, pages 1, .awake⟩)

end Run

/-- The frames of the panel are defined where every key OK that ends an edit finds a branch, and
this is so where every edit begins with one. -/
theorem commands_defined_iff (self : UInt16) (pages : UInt8 → LcdPage)
    (events : List PanelEvent) :
    (AlwaysFits (panelAfter self pages) (SendsDefined self pages) (panelInit self pages) events ↔
        AlwaysFits (panelAfter self pages) EndsBranched (panelInit self pages) events) ∧
      (AlwaysFits (panelAfter self pages) OpensBranched (panelInit self pages) events →
        AlwaysFits (panelAfter self pages) EndsBranched (panelInit self pages) events) := by
  refine ⟨alwaysFits_congr fun s event => sendsDefined_iff event, ?_⟩
  refine alwaysFits_of_fits (fun s => Branched s.heizPage) (branched_init self pages)
    (fun _ event branched opens => branched_step branched event opens) ?_
  intro s event branched opens
  cases event with
  | key taste stack =>
      cases taste with
      | ok => exact fun _ editing => branched.branch editing
      | esc => trivial
      | up => trivial
      | down => trivial
      | other => trivial
  | frame frame => trivial
  | load page => trivial
  | refresh => trivial
  | sleep => trivial
  | wake => trivial

/-- Heating 3 reports that it is switched off. -/
def switchedOff : PanelEvent :=
  reply 3 (Vector.ofFn fun i => [hcanSrvHes, hcanHesHeizungModeOffDetails, 3].getD i.val 0)

/-- Heating 3 is switched off from elsewhere while the panel shows its temperature, and then an
edit begins. -/
def editOff : List PanelEvent :=
  lookAtThree ++ [pressed .ok, switchedOff, .wake, tist3, .wake]

/-- The key OK sends the frame as the stack holds it. -/
theorem commands_defined_fails :
    ¬ AlwaysFits (panelAfter 7 twoHeatings) (SendsDefined 7 twoHeatings)
      (panelInit 7 twoHeatings) (editOff ++ [pressed .ok]) := by
  intro defined
  have ends := (sendsDefined_iff _).mp (defined editOff (pressed .ok) (List.prefix_refl _))
  have branch : HasBranch (runAll (panelAfter 7 twoHeatings) (panelInit 7 twoHeatings)
      editOff).heizPage := ends (by decide +kernel) (by decide +kernel)
  have first : (runAll (panelAfter 7 twoHeatings) (panelInit 7 twoHeatings)
      editOff).heizPage.subpage = 1 := by decide +kernel
  have off : (runAll (panelAfter 7 twoHeatings) (panelInit 7 twoHeatings)
      editOff).heizPage.edit.mode = .off := by decide +kernel
  unfold HasBranch at branch
  rw [first, off] at branch
  exact absurd branch (by decide)

end Hcan.Userpanel
