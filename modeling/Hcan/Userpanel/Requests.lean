import Hcan.Userpanel.History

/-!
# Replies and requests

What a received frame and a call of `get_heiz_details` leave in the globals of the heating page.
The frames that the panel sends are delivered to its own handler, which ignores them.
-/

namespace Hcan.Userpanel

open Hcan.Canix Hcan.Hauselektrik Hcan.Library
open Hcan.Controller (hauselektrikAccepts)

/-- The collected details are those of the reply. -/
structure Reported (details : HeizDetails) (reply : CanixFrame) : Prop where
  manual : details.mode = .manual → reply.data[1] = hcanHesHeizungModeManualDetails ∧
    details.rate = reply.data[3] ∧ details.dauer = word reply.data[4] reply.data[5]
  thermostat : details.mode = .thermostat →
    reply.data[1] = hcanHesHeizungModeThermostatDetails ∧
      details.tsoll = (word reply.data[3] reply.data[4]).toInt16 ∧
      details.dauer = word reply.data[5] reply.data[6]

theorem take_reported (details : HeizDetails) {frame : CanixFrame}
    (reply : frame.data[1] ∈ detailsReplies) : Reported (details.take frame) frame := by
  unfold HeizDetails.take
  split
  · exact ⟨HeizungMode.noConfusion, HeizungMode.noConfusion⟩
  · split
    next manual => exact ⟨fun _ => ⟨manual, rfl, rfl⟩, HeizungMode.noConfusion⟩
    next =>
      split
      next thermostat => exact ⟨HeizungMode.noConfusion, fun _ => ⟨thermostat, rfl, rfl⟩⟩
      next =>
        split
        · exact ⟨HeizungMode.noConfusion, HeizungMode.noConfusion⟩
        · simp_all [detailsReplies]

theorem Reported.tist {details : HeizDetails} {reply : CanixFrame}
    (reported : Reported details reply) (tist : Int16) :
    Reported { details with tist := tist } reply := ⟨reported.manual, reported.thermostat⟩

/-- What a frame that is no expected details reply changes. -/
structure OnlyTist (v next : HeizPage) : Prop where
  heizId : next.heizId = v.heizId
  details : ∃ tist, next.details = { v.details with tist := tist }
  edit : next.edit = v.edit
  subpage : next.subpage = v.subpage
  state : next.state = v.state

theorem OnlyTist.refl (v : HeizPage) : OnlyTist v v := ⟨rfl, ⟨v.details.tist, rfl⟩, rfl, rfl, rfl⟩

theorem callback_onlyTist {v : HeizPage} {frame : CanixFrame} (other : ¬ v.Expects frame) :
    OnlyTist v (heizPageCanCallback v frame) := by
  rw [heizPageCanCallback, if_neg other]
  split
  · exact ⟨rfl, ⟨_, rfl⟩, rfl, rfl, rfl⟩
  · exact .refl v

section Deliver

variable (self : UInt16) {s : Panel} {frame : CanixFrame}

theorem deliver_takes (takes : s.Takes self frame) :
    canixDeliverFrame self s frame = { s with heizPage := { s.heizPage with
      expected := s.heizPage.expected &&& ~~~1
      details := s.heizPage.details.take frame } } := by
  obtain ⟨proto, accepted, shown, expects⟩ := takes
  rw [canixDeliverFrame, if_pos ⟨proto, accepted⟩, lcdstatemachineCanCallback, if_pos shown,
    heizPageCanCallback, if_pos expects]

theorem deliver_other (other : ¬ s.Takes self frame) :
    (canixDeliverFrame self s frame).activePage = s.activePage ∧
      (canixDeliverFrame self s frame).sleeping = s.sleeping ∧
      OnlyTist s.heizPage (canixDeliverFrame self s frame).heizPage := by
  unfold canixDeliverFrame
  split
  next accepted =>
    unfold lcdstatemachineCanCallback
    split
    next shown =>
      exact ⟨rfl, rfl, callback_onlyTist fun expects =>
        other ⟨accepted.1, accepted.2, shown, expects⟩⟩
    next => exact ⟨rfl, rfl, .refl _⟩
  next => exact ⟨rfl, rfl, .refl _⟩

/-- The frames of the panel that are no replies are ignored by its own handler. -/
theorem deliver_ignored (details : frame.data[1] ∉ detailsReplies)
    (tist : frame.data[1] ≠ hcanHesHeizungTistReplay) : canixDeliverFrame self s frame = s := by
  have ignored : heizPageCanCallback s.heizPage frame = s.heizPage := by
    rw [heizPageCanCallback, if_neg fun expects => details expects.1,
      if_neg fun both => tist both.1]
  unfold canixDeliverFrame lcdstatemachineCanCallback
  rw [ignored]
  split
  · split <;> rfl
  · rfl

end Deliver

/-- The globals behind a request. -/
def HeizPage.asked (v : HeizPage) (heiz expected : UInt8) : HeizPage :=
  { v with expected := expected, heizId := heiz, details := { v.details with tsoll := 0 } }

section Requests

variable (self : UInt16) (s : Panel) (heiz : UInt8)

variable {self s heiz} in
theorem request_ignored {command : UInt8} (details : command ∉ detailsReplies)
    (tist : command ≠ hcanHesHeizungTistReplay) :
    canixDeliverFrame self s (heizRequest self command heiz) = s :=
  deliver_ignored self details tist

theorem getHeizDetailsFirst_eq : (getHeizDetailsFirst self s heiz).1 =
    { s with heizPage := s.heizPage.asked heiz 1 } := by
  unfold getHeizDetailsFirst canixFrameSend
  dsimp only
  rw [request_ignored (by decide) (by decide)]
  rfl

theorem getHeizDetailsSecond_eq : (getHeizDetailsSecond self s heiz).1 =
    { s with heizPage := { s.heizPage with expected := 2 } } := by
  unfold getHeizDetailsSecond canixFrameSend
  dsimp only
  rw [request_ignored (by decide) (by decide)]

variable {s}

theorem getHeizDetails_awake (zweck : Zweck) (awake : s.sleeping = .awake) :
    (getHeizDetails self s zweck heiz).1 =
      { s with
        heizPage := s.heizPage.asked heiz 1
        sleeping := .details zweck heiz false } := by
  unfold getHeizDetails
  dsimp only
  rw [if_pos awake, getHeizDetailsFirst_eq]

/-- A call inside a sleep returns without a reply. -/
theorem getHeizDetails_nested (zweck : Zweck) (asleep : s.sleeping ≠ .awake) :
    (getHeizDetails self s zweck heiz).1 =
      { s with heizPage := heizDetailsReturned (s.heizPage.asked heiz 2) zweck } := by
  unfold getHeizDetails
  dsimp only
  rw [if_neg asleep, getHeizDetailsSecond_eq, getHeizDetailsFirst_eq]
  rfl

end Requests

/-- A panel that asked for the details of `asked` at most, without beginning a call that opens
an edit. -/
structure Asked (s t : Panel) (asked : Option UInt8) : Prop where
  asleep : s.sleeping ≠ .awake → t.sleeping = s.sleeping
  awake : s.sleeping = .awake → ∀ heiz second, t.sleeping ≠ .details .edit heiz second
  silent : asked = none → t.heizPage.heizId = s.heizPage.heizId ∧
    t.heizPage.details = s.heizPage.details
  asks : ∀ heiz ∈ asked, t.heizPage.heizId = heiz

/-- A panel that printed its page. -/
structure Printed (s t : Panel) (asked : Option UInt8) : Prop extends Asked s t asked where
  edit : t.heizPage.edit = s.heizPage.edit
  subpage : t.heizPage.subpage = s.heizPage.subpage
  state : t.heizPage.state = s.heizPage.state

theorem Asked.silently {s t : Panel} (sleeping : t.sleeping = s.sleeping)
    (heizId : t.heizPage.heizId = s.heizPage.heizId)
    (details : t.heizPage.details = s.heizPage.details) : Asked s t none where
  asleep := fun _ => sleeping
  awake := fun awake heiz second waits => by
    rw [sleeping, awake] at waits
    cases waits
  silent := fun _ => ⟨heizId, details⟩
  asks := nofun

theorem Printed.unchanged (s : Panel) : Printed s s none := ⟨.silently rfl rfl rfl, rfl, rfl, rfl⟩

theorem getHeizDetails_printed (self : UInt16) (s : Panel) (heiz : UInt8) :
    Printed s (getHeizDetails self s .print heiz).1 (some heiz) := by
  by_cases awake : s.sleeping = .awake
  · rw [getHeizDetails_awake self heiz .print awake]
    exact ⟨⟨fun asleep => absurd awake asleep, fun _ _ _ => nofun, nofun,
      fun _ same => Option.some.inj same⟩, rfl, rfl, rfl⟩
  · rw [getHeizDetails_nested self heiz .print awake]
    exact ⟨⟨fun _ => rfl, fun other => absurd other awake, nofun,
      fun _ same => Option.some.inj same⟩, rfl, rfl, rfl⟩

theorem heizPagePrintPage_printed (self : UInt16) (s : Panel) (heiz : UInt8) :
    Printed s (heizPagePrintPage self s heiz).1
      (if s.heizPage.state = .view then some heiz else none) := by
  unfold heizPagePrintPage
  cases shown : s.heizPage.state with
  | view => exact getHeizDetails_printed self s heiz
  | edit => exact .unchanged s

theorem printed_view {self : UInt16} {mid t : Panel} {heiz : UInt8}
    (next : t = (heizPagePrintPage self mid heiz).1) (view : mid.heizPage.state = .view) :
    Printed mid t (some heiz) := by
  have printed := heizPagePrintPage_printed self mid heiz
  rw [if_pos view] at printed
  rw [next]
  exact printed

theorem printPage_printed (self : UInt16) (s : Panel) :
    Printed s (printPage self s).1
      (if s.activePage.isHeizPage = true ∧ s.heizPage.state = .view then some s.activePage.heizId
      else none) := by
  unfold printPage
  by_cases page : s.activePage.isHeizPage = true
  · rw [if_pos page]
    simpa only [page, true_and] using heizPagePrintPage_printed self s s.activePage.heizId
  · rw [if_neg page, if_neg fun both => page both.1]
    exact .unchanged s

/-- The page above is printed; what the heating page keeps does not depend on the page shown. -/
theorem gotoPageUp_printed (self : UInt16) (pages : UInt8 → LcdPage) (s : Panel)
    (view : s.heizPage.state = .view) :
    ∃ mid : Panel, Printed mid (gotoPageUp self pages s).1
        (if s.activePage.parentId ≠ 0 ∧ (pages s.activePage.parentId).isHeizPage = true then
          some (pages s.activePage.parentId).heizId
        else none) ∧
      mid.heizPage = s.heizPage ∧ mid.sleeping = s.sleeping := by
  unfold gotoPageUp
  by_cases top : s.activePage.parentId = 0
  · rw [if_pos top, if_neg fun both => both.1 top]
    exact ⟨s, .unchanged s, rfl, rfl⟩
  · rw [if_neg top]
    have printed := printPage_printed self (loadPage pages s s.activePage.parentId)
    refine ⟨loadPage pages s s.activePage.parentId, ?_, rfl, rfl⟩
    simpa only [top, view, loadPage, ne_eq, not_false_eq_true, true_and, and_true] using printed

end Hcan.Userpanel
