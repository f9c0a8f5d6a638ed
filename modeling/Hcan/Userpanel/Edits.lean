import Hcan.Userpanel.Requests
import Hcan.Library.Bits

/-!
# Edits of the user panel

An open edit holds what a reply of its heating reported, but for what was changed, as long as the
call that opened it was answered and nothing else was asked for behind the reply.
-/

namespace Hcan.Userpanel

open Hcan.Canix Hcan.Hauselektrik Hcan.Library
open Hcan.Controller (hauselektrikAccepts)

/-- The edited parameters are reported by a reply, but for what was changed. -/
def EditHolds (parameters : HeizEdit) (edit : Edit) : Prop :=
  ∃ reply ∈ edit.replies, reply.data[2] = edit.heiz ∧
    (parameters.mode = .manual → reply.data[1] = hcanHesHeizungModeManualDetails ∧
      (edit.rate = false → parameters.rate = reply.data[3]) ∧
      (edit.dauer = false → parameters.dauer = word reply.data[4] reply.data[5])) ∧
    (parameters.mode = .thermostat → reply.data[1] = hcanHesHeizungModeThermostatDetails ∧
      (edit.tsoll = false → parameters.tsoll = (word reply.data[3] reply.data[4]).toInt16) ∧
      (edit.dauer = false → parameters.dauer = word reply.data[5] reply.data[6]))

/-- An open edit on subpage 1 or 2. -/
def Opened (v : HeizPage) (edit : Edit) : Prop :=
  v.state = .edit → v.subpage ≠ 0 → EditHolds v.edit edit

/-- A waiting call that opens an edit has the details of its last reply. -/
def Listens (sleeping : Sleeping) (v : HeizPage) (replies : List CanixFrame) : Prop :=
  ∀ heiz second, sleeping = .details .edit heiz second →
    v.heizId = heiz ∧ ∀ reply ∈ replies.head?, reply.data[2] = heiz ∧ Reported v.details reply

structure PanelSystem.Invariant (s : PanelSystem) : Prop where
  opened : Opened s.panel.heizPage s.history.edit
  listens : Listens s.panel.sleeping s.panel.heizPage s.history.replies

/-- A call that returns with a reply opens an edit with its parameters. -/
theorem opened_holds {details : HeizDetails} {reply : CanixFrame} {heiz : UInt8}
    {replies : List CanixFrame} (member : reply ∈ replies) (own : reply.data[2] = heiz)
    (reported : Reported details reply) :
    EditHolds ⟨details.mode, details.rate, details.tsoll, details.dauer⟩
      (.opened heiz replies) := by
  refine ⟨reply, member, own, fun manual => ?_, fun thermostat => ?_⟩
  · obtain ⟨command, rate, dauer⟩ := reported.manual manual
    exact ⟨command, fun _ => rate, fun _ => dauer⟩
  · obtain ⟨command, tsoll, dauer⟩ := reported.thermostat thermostat
    exact ⟨command, fun _ => tsoll, fun _ => dauer⟩

theorem unflagged {α : Type} [DecidableEq α] {flag : Bool} {old new : α}
    (unchanged : (flag || old != new) = false) : flag = false ∧ new = old := by
  obtain ⟨before, same⟩ := Bool.or_eq_false_iff.mp unchanged
  exact ⟨before, (bne_eq_false_iff_eq.mp same).symm⟩

/-- A key that does not change the mode leaves the unchanged parameters as reported. -/
theorem EditHolds.changed {old new : HeizEdit} {edit : Edit} (holds : EditHolds old edit)
    (mode : new.mode = old.mode) : EditHolds new (edit.changed old new) := by
  obtain ⟨reply, member, own, manual, thermostat⟩ := holds
  refine ⟨reply, member, own, fun isManual => ?_, fun isThermostat => ?_⟩
  · obtain ⟨command, rateRead, dauerRead⟩ := manual (mode ▸ isManual)
    refine ⟨command, fun unchanged => ?_, fun unchanged => ?_⟩
    · rw [(unflagged unchanged).2]
      exact rateRead (unflagged unchanged).1
    · rw [(unflagged unchanged).2]
      exact dauerRead (unflagged unchanged).1
  · obtain ⟨command, tsollRead, dauerRead⟩ := thermostat (mode ▸ isThermostat)
    refine ⟨command, fun unchanged => ?_, fun unchanged => ?_⟩
    · rw [(unflagged unchanged).2]
      exact tsollRead (unflagged unchanged).1
    · rw [(unflagged unchanged).2]
      exact dauerRead (unflagged unchanged).1

theorem up_mode (edit : HeizEdit) {subpage : Nat} (inner : subpage ≠ 0) :
    (edit.up subpage).mode = edit.mode := by
  match subpage with
  | 0 => exact absurd rfl inner
  | 1 =>
      obtain ⟨mode, rate, tsoll, dauer⟩ := edit
      cases mode with
      | off => rfl
      | manual => exact (apply_ite HeizEdit.mode _ _ _).trans (ite_self _)
      | thermostat => exact (apply_ite HeizEdit.mode _ _ _).trans (ite_self _)
      | automatik => rfl
  | 2 => exact (apply_ite HeizEdit.mode _ _ _).trans (ite_self _)
  | _ + 3 => rfl

theorem down_mode (edit : HeizEdit) {subpage : Nat} (inner : subpage ≠ 0) :
    (edit.down subpage).mode = edit.mode := by
  match subpage with
  | 0 => exact absurd rfl inner
  | 1 =>
      obtain ⟨mode, rate, tsoll, dauer⟩ := edit
      cases mode with
      | off => rfl
      | manual => exact (apply_ite HeizEdit.mode _ _ _).trans (ite_self _)
      | thermostat => exact (apply_ite HeizEdit.mode _ _ _).trans (ite_self _)
      | automatik => rfl
  | 2 => exact (apply_ite HeizEdit.mode _ _ _).trans (ite_self _)
  | _ + 3 => rfl

theorem Opened.printed {s t : Panel} {asked : Option UInt8} {edit : Edit}
    (opened : Opened s.heizPage edit) (printed : Printed s t asked) : Opened t.heizPage edit := by
  unfold Opened
  rw [printed.edit, printed.subpage, printed.state]
  exact opened

theorem opened_view {v : HeizPage} {edit : Edit} (view : v.state = .view) : Opened v edit := by
  intro editing
  rw [view] at editing
  cases editing

/-- A call goes on listening when what is asked in between is asked in time. -/
theorem Listens.asked {s t : Panel} {asked : Option UInt8} {replies : List CanixFrame}
    (listens : Listens s.sleeping s.heizPage replies) (asks : Asked s t asked)
    (inTime : ∀ heiz second, s.sleeping = .details .edit heiz second →
      ∀ other ∈ asked, replies = [] ∧ other = heiz) :
    Listens t.sleeping t.heizPage (if s.sleeping = .awake then [] else replies) := by
  intro heiz second waits
  by_cases awake : s.sleeping = .awake
  · exact absurd waits (asks.awake awake heiz second)
  · have before : s.sleeping = .details .edit heiz second := (asks.asleep awake).symm.trans waits
    obtain ⟨heizId, last⟩ := listens heiz second before
    rw [if_neg awake]
    cases asked with
    | none =>
        obtain ⟨sameId, sameDetails⟩ := asks.silent rfl
        rw [sameId, sameDetails]
        exact ⟨heizId, last⟩
    | some other =>
        obtain ⟨none, own⟩ := inTime heiz second before other rfl
        subst none own
        exact ⟨asks.asks other rfl, nofun⟩

/-! ## One step -/

section Step

variable {self : UInt16} {pages : UInt8 → LcdPage} {s : PanelSystem} {event : PanelEvent}

variable (self) in
theorem repliesAfter_key (p : Panel) (replies : List CanixFrame)
    (other : ∀ frame, event ≠ .frame frame) :
    repliesAfter self p event replies = if p.sleeping = .awake then [] else replies := by
  unfold repliesAfter
  cases event with
  | frame frame => exact absurd rfl (other frame)
  | _ => rfl

/-- A received frame. -/
theorem invariant_frame (inv : s.Invariant) (frame : CanixFrame) :
    (s.after self pages (.frame frame)).Invariant := by
  obtain ⟨opened, listens⟩ := inv
  by_cases takes : s.panel.Takes self frame
  · have next : (s.after self pages (.frame frame)).panel = _ := deliver_takes self takes
    refine ⟨?_, ?_⟩
    · rw [next]
      exact opened
    · rw [next]
      intro heiz second waits
      have asleep : s.panel.sleeping ≠ .awake := fun awake => by
        rw [awake] at waits
        cases waits
      obtain ⟨heizId, -⟩ := listens heiz second waits
      refine ⟨heizId, fun reply last => ?_⟩
      have first : (s.after self pages (.frame frame)).history.replies =
          frame :: s.history.replies := by
        change repliesAfter self s.panel (.frame frame) s.history.replies = _
        rw [repliesAfter, if_neg asleep]
        exact if_pos takes
      rw [first] at last
      cases last
      obtain ⟨-, -, -, command, -, own⟩ := takes
      exact ⟨own.trans heizId, take_reported _ command⟩
  · obtain ⟨-, sleeping, only⟩ := deliver_other self takes
    obtain ⟨heizId, ⟨tist, details⟩, edit, subpage, state⟩ := only
    refine ⟨?_, ?_⟩
    · intro editing inner
      exact edit.symm ▸ opened (state.symm.trans editing) (subpage ▸ inner)
    · intro heiz second waits
      have before : s.panel.sleeping = .details .edit heiz second := sleeping.symm.trans waits
      have asleep : s.panel.sleeping ≠ .awake := fun awake => by
        rw [awake] at before
        cases before
      obtain ⟨listened, reported⟩ := listens heiz second before
      refine ⟨heizId.trans listened, fun reply last => ?_⟩
      have same : (s.after self pages (.frame frame)).history.replies = s.history.replies := by
        change repliesAfter self s.panel (.frame frame) s.history.replies = _
        rw [repliesAfter, if_neg asleep]
        exact if_neg takes
      rw [same] at last
      obtain ⟨own, shown⟩ := reported reply last
      exact ⟨own, details.symm ▸ shown.tist tist⟩

/-- An event that asks for details in time. -/
theorem invariant_asked (inv : s.Invariant) (other : ∀ frame, event ≠ .frame frame)
    (inTime : AsksInTime pages s event)
    (asks : Asked s.panel (s.after self pages event).panel (s.panel.asks pages event))
    (opened : Opened (s.after self pages event).panel.heizPage
      (s.after self pages event).history.edit) : (s.after self pages event).Invariant := by
  refine ⟨opened, ?_⟩
  change Listens _ _ (repliesAfter self s.panel event s.history.replies)
  rw [repliesAfter_key self s.panel s.history.replies other]
  refine inv.listens.asked asks fun heiz second waits => inTime heiz ?_
  rw [waits]
  rfl

/-- What is asked does not depend on the key's other effects. -/
theorem Asked.of_same {p mid t : Panel} {asked : Option UInt8} (asks : Asked mid t asked)
    (sleeping : mid.sleeping = p.sleeping)
    (same : asked = none → mid.heizPage.heizId = p.heizPage.heizId ∧
      mid.heizPage.details = p.heizPage.details) : Asked p t asked where
  asleep := fun asleep => (asks.asleep (sleeping ▸ asleep)).trans sleeping
  awake := fun awake => asks.awake (sleeping.trans awake)
  silent := fun none => ⟨(asks.silent none).1.trans (same none).1,
    (asks.silent none).2.trans (same none).2⟩
  asks := asks.asks

theorem after_key {taste : Taste} (stack : CanixFrame)
    (shown : s.panel.activePage.isHeizPage = true) :
    (s.after self pages (.key taste stack)).panel = (heizPageHandleKeyDownEvent self pages s.panel
      s.panel.activePage.heizId taste stack).1 := by
  change (panelStep self pages s.panel (.key taste stack)).1 = _
  rw [panelStep, if_pos shown]

theorem asks_key {p : Panel} {taste : Taste} (stack : CanixFrame)
    (shown : p.activePage.isHeizPage = true) :
    p.asks pages (.key taste stack) = p.asksKey pages taste := if_pos shown

/-- A call without a reply opens an edit, or it leaves everything where it is. -/
theorem returned_timeout (v : HeizPage) (timeout : v.expected ≠ 0) :
    heizDetailsReturned v .edit = v ∨ heizDetailsReturned v .edit = { v with state := .edit } := by
  unfold heizDetailsReturned getHeizDetailsEnd
  rw [if_neg timeout]
  dsimp only
  split
  · exact .inl rfl
  · exact .inr rfl

theorem returned_subpage (v : HeizPage) : (heizDetailsReturned v .edit).subpage = v.subpage := by
  unfold heizDetailsReturned getHeizDetailsEnd
  by_cases answered : v.expected = 0
  · rw [if_pos answered]
    exact (apply_ite HeizPage.subpage _ _ _).trans (ite_self _)
  · rw [if_neg answered]
    exact (apply_ite HeizPage.subpage _ _ _).trans (ite_self _)

/-- An answered call loads what was collected. -/
theorem returned_answered (v : HeizPage) (answered : v.expected = 0) :
    (heizDetailsReturned v .edit).edit =
      ⟨v.details.mode, v.details.rate, v.details.tsoll, v.details.dauer⟩ := by
  unfold heizDetailsReturned getHeizDetailsEnd
  rw [if_pos answered]
  exact (apply_ite HeizPage.edit _ _ _).trans (ite_self _)

theorem returned_print (v : HeizPage) : (heizDetailsReturned v .print).edit = v.edit ∧
    (heizDetailsReturned v .print).subpage = v.subpage ∧
    (heizDetailsReturned v .print).state = v.state := by
  unfold heizDetailsReturned getHeizDetailsEnd
  dsimp only
  split <;> exact ⟨rfl, rfl, rfl⟩

/-- The key OK on a heating page in the state VIEW begins an edit. -/
theorem invariant_okView (inv : s.Invariant) (stack : CanixFrame)
    (shown : s.panel.activePage.isHeizPage = true) (view : s.panel.heizPage.state = .view)
    (inTime : AsksInTime pages s (.key .ok stack)) (answered : OpensAnswered s (.key .ok stack)) :
    (s.after self pages (.key .ok stack)).Invariant := by
  have next : (s.after self pages (.key .ok stack)).panel =
      (getHeizDetails self s.panel .edit s.panel.activePage.heizId).1 := by
    rw [after_key stack shown]
    unfold heizPageHandleKeyDownEvent
    simp only [view]
  by_cases awake : s.panel.sleeping = .awake
  · rw [getHeizDetails_awake self _ .edit awake] at next
    refine ⟨?_, ?_⟩
    · rw [next]
      exact opened_view view
    · rw [next]
      change Listens _ _ (repliesAfter self s.panel (.key .ok stack) s.history.replies)
      rw [repliesAfter_key self s.panel s.history.replies (fun _ => PanelEvent.noConfusion),
        if_pos awake]
      intro heiz second waits
      cases waits
      exact ⟨rfl, fun _ last => by cases last⟩
  · rw [getHeizDetails_nested self _ .edit awake] at next
    have first : s.panel.heizPage.subpage = 0 := answered shown view awake
    have asked : s.panel.asks pages (.key .ok stack) = some s.panel.activePage.heizId := by
      rw [asks_key stack shown]
      simp only [Panel.asksKey]
    generalize made : s.panel.heizPage.asked s.panel.activePage.heizId 2 = v at next
    have stays : v.heizId = s.panel.activePage.heizId ∧ v.subpage = 0 := by
      rw [← made]
      exact ⟨rfl, first⟩
    have timeout : v.expected ≠ 0 := by
      rw [← made]
      change (2 : UInt8) ≠ 0
      decide
    have ends : (heizDetailsReturned v .edit).heizId = v.heizId ∧
        (heizDetailsReturned v .edit).subpage = v.subpage := by
      rcases returned_timeout v timeout with same | opens
      · rw [same]
        exact ⟨rfl, rfl⟩
      · rw [opens]
        exact ⟨rfl, rfl⟩
    refine invariant_asked inv nofun inTime ?_ ?_
    · rw [next, asked]
      exact ⟨fun _ => rfl, fun other => absurd other awake, nofun,
        fun heiz same => (ends.1.trans stays.1).trans (Option.some.inj same)⟩
    · rw [next]
      exact fun _ inner => absurd (ends.2.trans stays.2) inner

theorem editedData_command {v : HeizPage} {heiz : UInt8} {data : UInt8 × Vector UInt8 8}
    (assigned : editedData v heiz = some data) :
    data.2[1] ∈ [hcanHesHeizungSetModeOff, hcanHesHeizungSetModeManual,
      hcanHesHeizungSetModeThermostatDetails, hcanHesHeizungSetModeAutomatik] := by
  unfold editedData at assigned
  split at assigned
  · split at assigned <;> cases assigned <;> simp
  · split at assigned <;> cases assigned <;> simp
  · split at assigned <;> cases assigned <;> simp
  · cases assigned

/-- The frame that ends an edit is no reply that the panel would take. -/
theorem edited_noReply (self : UInt16) {v : HeizPage} {heiz : UInt8} {stack : CanixFrame}
    (unset : editedData v heiz = none → stack.data[1] ∉ detailsReplies) :
    (setHeizEditedDetails self v heiz stack).data[1] ∉ detailsReplies := by
  unfold setHeizEditedDetails
  cases assigned : editedData v heiz with
  | none =>
      have kept : (stack.data.setIfInBounds 0 hcanSrvHes)[1] = stack.data[1] :=
        byte_set_ne (by decide) (by decide)
      dsimp only
      rw [kept]
      exact unset assigned
  | some data =>
      have commands := editedData_command assigned
      have apart : ∀ command ∈ [hcanHesHeizungSetModeOff, hcanHesHeizungSetModeManual,
          hcanHesHeizungSetModeThermostatDetails, hcanHesHeizungSetModeAutomatik],
          command ∉ detailsReplies := by decide +kernel
      exact apart _ commands

/-- A key that ends an edit or drops it: the page is printed in the state VIEW. -/
theorem invariant_view (inv : s.Invariant) (other : ∀ frame, event ≠ .frame frame)
    (inTime : AsksInTime pages s event) {mid : Panel} {asked : Option UInt8}
    (asks : s.panel.asks pages event = asked)
    (printed : Printed mid (s.after self pages event).panel asked)
    (view : mid.heizPage.state = .view) (sleeping : mid.sleeping = s.panel.sleeping)
    (same : asked = none → mid.heizPage.heizId = s.panel.heizPage.heizId ∧
      mid.heizPage.details = s.panel.heizPage.details) : (s.after self pages event).Invariant := by
  refine invariant_asked inv other inTime ?_ (opened_view (printed.state.trans view))
  rw [asks]
  exact printed.toAsked.of_same sleeping same

/-- An event that leaves the panel asleep or awake and the details where they are. -/
theorem invariant_silent (inv : s.Invariant) (other : ∀ frame, event ≠ .frame frame)
    (inTime : AsksInTime pages s event) (asks : s.panel.asks pages event = none)
    (sleeping : (s.after self pages event).panel.sleeping = s.panel.sleeping)
    (heizId : (s.after self pages event).panel.heizPage.heizId = s.panel.heizPage.heizId)
    (details : (s.after self pages event).panel.heizPage.details = s.panel.heizPage.details)
    (opened : Opened (s.after self pages event).panel.heizPage
      (s.after self pages event).history.edit) : (s.after self pages event).Invariant := by
  refine invariant_asked inv other inTime ?_ opened
  rw [asks]
  exact .silently sleeping heizId details

/-- A key that changes nothing. -/
theorem invariant_same (inv : s.Invariant) (other : ∀ frame, event ≠ .frame frame)
    (inTime : AsksInTime pages s event) (asks : s.panel.asks pages event = none)
    (panel : (s.after self pages event).panel = s.panel)
    (edit : (s.after self pages event).history.edit = s.history.edit) :
    (s.after self pages event).Invariant := by
  refine invariant_silent inv other inTime asks ?_ ?_ ?_ ?_
  · rw [panel]
  · rw [panel]
  · rw [panel]
  · rw [panel, edit]
    exact inv.opened

theorem invariant_key (inv : s.Invariant) (taste : Taste) (stack : CanixFrame)
    (inTime : AsksInTime pages s (.key taste stack)) (answered : OpensAnswered s (.key taste stack))
    (own : EndsOwn s (.key taste stack)) : (s.after self pages (.key taste stack)).Invariant := by
  have noFrame : ∀ frame, PanelEvent.key taste stack ≠ .frame frame :=
    fun _ => PanelEvent.noConfusion
  by_cases shown : s.panel.activePage.isHeizPage = true
  · have asks : s.panel.asks pages (.key taste stack) = _ := asks_key stack shown
    unfold Panel.asksKey at asks
    have next : (s.after self pages (.key taste stack)).panel = _ := after_key stack shown
    generalize heiz : s.panel.activePage.heizId = heizId at asks next
    cases state : s.panel.heizPage.state with
    | view =>
        cases taste with
        | ok => exact invariant_okView inv stack shown state inTime answered
        | esc =>
            unfold heizPageHandleKeyDownEvent at next
            simp only [state] at next
            simp only [state] at asks
            obtain ⟨mid, printed, same, sleeping⟩ := gotoPageUp_printed self pages { s.panel with
              heizPage := { s.panel.heizPage with subpage := 0, state := .view } } rfl
            rw [← next] at printed
            refine invariant_view inv noFrame inTime asks printed ?_ sleeping fun _ => ?_
            · rw [same]
            · rw [same]
              exact ⟨rfl, rfl⟩
        | up =>
            unfold heizPageHandleKeyDownEvent at next
            simp only [state] at next
            simp only [state] at asks
            exact invariant_view inv noFrame inTime asks (printed_view next rfl) rfl rfl nofun
        | down =>
            unfold heizPageHandleKeyDownEvent at next
            simp only [state] at next
            simp only [state] at asks
            exact invariant_view inv noFrame inTime asks (printed_view next rfl) rfl rfl nofun
        | other =>
            exact invariant_same inv noFrame inTime asks next rfl
    | edit =>
        cases taste with
        | ok =>
            unfold heizPageHandleKeyDownEvent at next
            simp only [state] at next
            obtain ⟨unset, -⟩ := own shown state
            have noReply := edited_noReply self fun none member =>
              unset none (List.mem_cons_of_mem _ (List.mem_cons_of_mem _ member))
            obtain ⟨-, sleeping, only⟩ := deliver_other self (s := { s.panel with
              heizPage := { s.panel.heizPage with state := .view } })
              fun takes => noReply takes.2.2.2.1
            rw [heiz] at sleeping only
            exact invariant_view inv noFrame inTime asks (printed_view next only.state) only.state
              sleeping nofun
        | esc =>
            unfold heizPageHandleKeyDownEvent at next
            simp only [state] at next
            simp only [state] at asks
            exact invariant_view inv noFrame inTime asks (printed_view next rfl) rfl rfl nofun
        | up =>
            unfold heizPageHandleKeyDownEvent at next
            simp only [state] at next
            have panel : (s.after self pages (.key .up stack)).panel = { s.panel with
                heizPage := { s.panel.heizPage with
                  edit := s.panel.heizPage.edit.up s.panel.heizPage.subpage
                  state := .edit } } := next
            have edit : (s.after self pages (.key .up stack)).history.edit =
                s.history.edit.changed s.panel.heizPage.edit
                  (s.panel.heizPage.edit.up s.panel.heizPage.subpage) := if_pos ⟨shown, state⟩
            simp only [state] at asks
            refine invariant_silent inv noFrame inTime asks ?_ ?_ ?_ ?_
            · rw [panel]
            · rw [panel]
            · rw [panel]
            · rw [panel, edit]
              exact fun _ inner => (inv.opened state inner).changed (up_mode _ inner)
        | down =>
            unfold heizPageHandleKeyDownEvent at next
            simp only [state] at next
            have panel : (s.after self pages (.key .down stack)).panel = { s.panel with
                heizPage := { s.panel.heizPage with
                  edit := s.panel.heizPage.edit.down s.panel.heizPage.subpage
                  state := .edit } } := next
            have edit : (s.after self pages (.key .down stack)).history.edit =
                s.history.edit.changed s.panel.heizPage.edit
                  (s.panel.heizPage.edit.down s.panel.heizPage.subpage) := if_pos ⟨shown, state⟩
            simp only [state] at asks
            refine invariant_silent inv noFrame inTime asks ?_ ?_ ?_ ?_
            · rw [panel]
            · rw [panel]
            · rw [panel]
            · rw [panel, edit]
              exact fun _ inner => (inv.opened state inner).changed (down_mode _ inner)
        | other => exact invariant_same inv noFrame inTime asks next rfl
  · have asks : s.panel.asks pages (.key taste stack) = none := if_neg shown
    have panel : (s.after self pages (.key taste stack)).panel = s.panel := by
      change (panelStep self pages s.panel (.key taste stack)).1 = _
      rw [panelStep, if_neg shown]
    refine invariant_same inv noFrame inTime asks panel ?_
    cases taste with
    | ok => exact if_neg fun all => shown all.1
    | up => exact if_neg fun all => shown all.1
    | down => exact if_neg fun all => shown all.1
    | _ => rfl

/-- The end of a sleep: the second request, or the return of the call. -/
theorem invariant_wake (inv : s.Invariant) (answered : OpensAnswered s .wake) :
    (s.after self pages .wake).Invariant := by
  have next : (s.after self pages .wake).panel = (wakePanel self s.panel).1 := rfl
  unfold wakePanel at next
  obtain ⟨opened, listens⟩ := inv
  have edit : (s.after self pages .wake).history.edit = editAfter s.panel .wake s.history := rfl
  unfold editAfter at edit
  have noFrame : ∀ frame, PanelEvent.wake ≠ .frame frame := fun _ => PanelEvent.noConfusion
  have replies : (s.after self pages .wake).history.replies =
      if s.panel.sleeping = .awake then [] else s.history.replies :=
    repliesAfter_key self s.panel s.history.replies noFrame
  cases sleeping : s.panel.sleeping with
  | awake =>
      simp only [sleeping] at next edit
      refine ⟨?_, ?_⟩
      · rw [next, edit]
        exact opened
      · rw [next, sleeping]
        exact fun _ _ => nofun
  | other =>
      simp only [sleeping] at next edit
      refine ⟨?_, ?_⟩
      · rw [next, edit]
        exact opened
      · rw [next]
        exact fun _ _ => nofun
  | details zweck heiz second =>
      have asleep : s.panel.sleeping ≠ .awake := by
        rw [sleeping]
        exact nofun
      rw [if_neg asleep] at replies
      cases second with
      | false =>
          simp only [sleeping, getHeizDetailsSecond_eq] at next edit
          refine ⟨?_, ?_⟩
          · rw [next, edit]
            exact opened
          · rw [next, replies]
            intro other second waits
            cases waits
            exact listens heiz false sleeping
      | true =>
          simp only [sleeping] at next edit
          refine ⟨?_, ?_⟩
          · cases zweck with
            | print =>
                obtain ⟨sameEdit, subpage, state⟩ := returned_print s.panel.heizPage
                rw [next, edit]
                unfold Opened
                rw [sameEdit, subpage, state]
                exact opened
            | edit =>
                rw [next, edit]
                intro _ inner
                dsimp only at inner
                rw [returned_subpage] at inner
                obtain ⟨zero, some⟩ := answered (by rw [sleeping]; rfl) inner
                obtain ⟨-, last⟩ := listens heiz true sleeping
                obtain ⟨reply, rest, taken⟩ := List.exists_cons_of_ne_nil some
                obtain ⟨own, reported⟩ := last reply (by rw [taken]; rfl)
                rw [returned_answered _ zero]
                exact opened_holds (taken ▸ List.mem_cons_self) own reported
          · rw [next]
            exact fun _ _ => nofun

/-- What a careful step keeps. -/
theorem PanelSystem.Invariant.step {t : PanelSystem} (inv : s.Invariant)
    (taken : CarefulStep self pages s event t) : t.Invariant := by
  obtain ⟨happens, inTime, answered, own⟩ := taken
  subst happens
  cases event with
  | frame frame => exact invariant_frame inv frame
  | key taste stack => exact invariant_key inv taste stack inTime answered own
  | load page => exact invariant_silent inv nofun inTime rfl rfl rfl rfl inv.opened
  | refresh =>
      have printed := printPage_printed self s.panel
      exact invariant_asked inv nofun inTime printed.toAsked (inv.opened.printed printed)
  | sleep =>
      refine invariant_asked inv nofun inTime ⟨fun asleep => if_neg asleep, ?_, ?_, nofun⟩
        inv.opened
      · intro awake heiz second waits
        have begun : (s.after self pages .sleep).panel.sleeping = .other := if_pos awake
        rw [begun] at waits
        cases waits
      · exact fun _ => ⟨rfl, rfl⟩
  | wake => exact invariant_wake inv answered

end Step

/-! ## Edits are honest -/

section Honest

variable (self : UInt16) {pages : UInt8 → LcdPage} {s t : PanelSystem} {event : PanelEvent}
  {events : List PanelEvent} {sent : CanixFrame}

section Frame

variable {v : HeizPage} {heiz : UInt8} {stack : CanixFrame}

theorem edited_manual (inner : v.subpage = 1 ∨ v.subpage = 2) (mode : v.edit.mode = .manual) :
    (setHeizEditedDetails self v heiz stack).data = #v[hcanSrvHes, hcanHesHeizungSetModeManual,
      heiz, v.edit.rate, (v.edit.dauer >>> 8).toUInt8, v.edit.dauer.toUInt8, 0, 0] := by
  unfold setHeizEditedDetails editedData
  rcases inner with inner | inner
  · simp only [inner, mode]
  · simp only [inner, mode]

theorem edited_thermostat (inner : v.subpage = 1 ∨ v.subpage = 2)
    (mode : v.edit.mode = .thermostat) :
    (setHeizEditedDetails self v heiz stack).data =
      #v[hcanSrvHes, hcanHesHeizungSetModeThermostatDetails, heiz,
        (v.edit.tsoll.toUInt16 >>> 8).toUInt8, v.edit.tsoll.toUInt16.toUInt8,
        (v.edit.dauer >>> 8).toUInt8, v.edit.dauer.toUInt8, 0] := by
  unfold setHeizEditedDetails editedData
  rcases inner with inner | inner
  · simp only [inner, mode]
  · simp only [inner, mode]

/-- Nothing is assigned in the other modes. -/
theorem edited_unset (inner : v.subpage = 1 ∨ v.subpage = 2) (manual : v.edit.mode ≠ .manual)
    (thermostat : v.edit.mode ≠ .thermostat) : editedData v heiz = none := by
  unfold editedData
  cases mode : v.edit.mode with
  | manual => exact absurd mode manual
  | thermostat => exact absurd mode thermostat
  | off => rcases inner with inner | inner <;> simp only [inner]
  | automatik => rcases inner with inner | inner <;> simp only [inner]

theorem edited_stack (unset : editedData v heiz = none) :
    (setHeizEditedDetails self v heiz stack).data[1] = stack.data[1] := by
  unfold setHeizEditedDetails
  rw [unset]
  exact byte_set_ne (by decide) (by decide)

/-- The frame carries the parameters of the edit. -/
theorem edited_onlyRead {edit : Edit} (holds : EditHolds v.edit edit)
    (inner : v.subpage = 1 ∨ v.subpage = 2) (own : heiz = edit.heiz)
    (unset : editedData v heiz = none → stack.data[1] ≠ hcanHesHeizungSetModeManual ∧
      stack.data[1] ≠ hcanHesHeizungSetModeThermostatDetails) :
    OnlyRead edit (setHeizEditedDetails self v heiz stack) := by
  obtain ⟨reply, member, ofHeiz, manual, thermostat⟩ := holds
  by_cases isManual : v.edit.mode = .manual
  · obtain ⟨command, rate, dauer⟩ := manual isManual
    unfold OnlyRead
    rw [edited_manual self inner isManual]
    have apart : hcanHesHeizungSetModeManual ≠ hcanHesHeizungSetModeThermostatDetails := by decide
    refine ⟨fun _ => ⟨reply, member, command, ofHeiz.trans own.symm, rate, fun unchanged => ?_⟩,
      fun other => absurd other apart⟩
    rw [dauer unchanged]
    exact ⟨joined_high _ _, joined_low _ _⟩
  · by_cases isThermostat : v.edit.mode = .thermostat
    · obtain ⟨command, tsoll, dauer⟩ := thermostat isThermostat
      unfold OnlyRead
      rw [edited_thermostat self inner isThermostat]
      have apart : hcanHesHeizungSetModeThermostatDetails ≠ hcanHesHeizungSetModeManual := by
        decide
      refine ⟨fun other => absurd other apart,
        fun _ => ⟨reply, member, command, ofHeiz.trans own.symm, fun unchanged => ?_,
          fun unchanged => ?_⟩⟩
      · rw [tsoll unchanged, UInt16.toUInt16_toInt16]
        exact ⟨joined_high _ _, joined_low _ _⟩
      · rw [dauer unchanged]
        exact ⟨joined_high _ _, joined_low _ _⟩
    · have nothing : editedData v heiz = none := edited_unset inner isManual isThermostat
      obtain ⟨notManual, notThermostat⟩ := unset nothing
      have command : (setHeizEditedDetails self v heiz stack).data[1] = stack.data[1] :=
        edited_stack self nothing
      exact ⟨fun same => absurd (command.symm.trans same) notManual,
        fun same => absurd (command.symm.trans same) notThermostat⟩

end Frame

/-- The start-up prints page 1. -/
theorem PanelSystem.Invariant.initial : (PanelSystem.initial self pages).Invariant := by
  have printed := printPage_printed self ⟨initialHeizPage, pages 1, .awake⟩
  refine ⟨opened_view printed.state, fun heiz second waits => ?_⟩
  exact absurd waits (printed.awake rfl heiz second)

theorem ends_sent (ends : s.Ends self event sent) :
    sent ∈ (panelStep self pages s.panel event).2 := by
  obtain ⟨stack, rfl, shown, editing, -, rfl⟩ := ends
  rw [panelStep, if_pos shown]
  unfold heizPageHandleKeyDownEvent
  simp only [editing]
  exact List.mem_append_left _ List.mem_cons_self

end Honest

/-- The page of heating 3, and on the other page numbers that of heating 4. -/
def twoHeatings (page : UInt8) : LcdPage :=
  if page = 1 then ⟨edsHeizPageBlockId, 0, 3⟩ else ⟨edsHeizPageBlockId, 0, 4⟩

def emptyStack : CanixFrame := ⟨0, 0, 0, 0, #v[0, 0, 0, 0, 0, 0, 0, 0]⟩

def pressed (taste : Taste) : PanelEvent := .key taste emptyStack

/-- A reply of the board with address 9. -/
def reply (size : UInt8) (data : Vector UInt8 8) : PanelEvent :=
  .frame ⟨9, hcanMulticastInfo, hcanProtoSfp, size, data⟩

/-- Heating 3 reports 20 degrees for another hour, and its temperature. -/
def thermostat20 : PanelEvent :=
  reply 7 #v[hcanSrvHes, hcanHesHeizungModeThermostatDetails, 3, 1, 64, 14, 16, 0]

def tist3 : PanelEvent := reply 5 #v[hcanSrvHes, hcanHesHeizungTistReplay, 3, 1, 50, 0, 0, 0]

/-- An edit of heating 3 that is dropped, and a step to subpage 1. -/
def lookAtThree : List PanelEvent :=
  [.wake, .wake, pressed .ok, thermostat20, .wake, tist3, .wake, pressed .esc, .wake, .wake,
    pressed .down, .wake, .wake]

/-- On the page of heating 4 an edit begins whose requests are not answered. -/
def editFour : List PanelEvent :=
  lookAtThree ++ [.load 2, .refresh, .wake, .wake, pressed .ok, .wake, .wake]

/-- An answered edit of the target temperature. -/
def editThree : List PanelEvent :=
  lookAtThree ++ [pressed .ok, thermostat20, .wake, tist3, .wake, pressed .up]

/-- The user panel edits what it read: in a run of careful steps a frame that ends an edit on
subpage 1 or 2 carries what its heating reported to the call that opened the edit. -/
theorem edits_onlyRead (self : UInt16) {pages : UInt8 → LcdPage} {s t : PanelSystem}
    {event : PanelEvent} {events : List PanelEvent} {sent : CanixFrame}
    (run : Run (CarefulStep self pages) (.initial self pages) events s)
    (next : CarefulStep self pages s event t) (ends : s.Ends self event sent) :
    sent ∈ (panelStep self pages s.panel event).2 ∧ OnlyRead s.history.edit sent := by
  have inv : s.Invariant :=
    run.invariant PanelSystem.Invariant (fun _ _ _ taken before => before.step taken)
      (.initial self)
  refine ⟨ends_sent self ends, ?_⟩
  obtain ⟨stack, rfl, shown, editing, inner, rfl⟩ := ends
  obtain ⟨-, -, -, endsOwn⟩ := next
  obtain ⟨unset, own⟩ := endsOwn shown editing
  have beyond : s.panel.heizPage.subpage ≠ 0 := by omega
  refine edited_onlyRead self (inv.opened editing beyond) inner (own beyond) fun none => ?_
  have unknown := unset none
  simp only [List.mem_cons, not_or] at unknown
  exact ⟨unknown.1, unknown.2.1⟩

/-- The edited temperature goes to heating 3, with the time that it reported. -/
theorem edits_onlyRead_three :
    let s := (PanelSystem.initial 7 twoHeatings).behind 7 twoHeatings editThree
    let sent := setHeizEditedDetails 7 s.panel.heizPage s.panel.activePage.heizId emptyStack
    sent.data = #v[hcanSrvHes, hcanHesHeizungSetModeThermostatDetails, 3, 1, 66, 14, 16, 0] ∧
      sent ∈ (panelStep 7 twoHeatings s.panel (pressed .ok)).2 ∧ OnlyRead s.history.edit sent := by
  intro s sent
  have run := carefulRun 7 twoHeatings (by decide +kernel :
    AllCareful 7 twoHeatings (.initial 7 twoHeatings) editThree)
  have next : CarefulStep 7 twoHeatings s (pressed .ok) (s.after 7 twoHeatings (pressed .ok)) :=
    ⟨rfl, by decide +kernel, by decide +kernel, by decide +kernel⟩
  exact ⟨by decide +kernel, edits_onlyRead 7 run next
    ⟨emptyStack, rfl, by decide +kernel, by decide +kernel, by decide +kernel, rfl⟩⟩

/-- The target temperature of heating 3 is sent to heating 4, of which nothing was read. -/
theorem otherHeating_sent :
    ¬ ∀ (self : UInt16) (pages : UInt8 → LcdPage) (events : List PanelEvent)
      (s t : PanelSystem) (event : PanelEvent) (sent : CanixFrame),
      Run (PanelStep self pages) (.initial self pages) events s →
      PanelStep self pages s event t → s.Ends self event sent → OnlyRead s.history.edit sent := by
  intro claimed
  have only := claimed 7 twoHeatings editFour _ _ (pressed .ok) _
    (panelRun 7 twoHeatings _ editFour) rfl
    ⟨emptyStack, rfl, by decide +kernel, by decide +kernel, by decide +kernel, rfl⟩
  obtain ⟨reply, member, -⟩ := only.2 (by decide +kernel)
  have nothing : ((PanelSystem.initial 7 twoHeatings).behind 7 twoHeatings
      editFour).history.edit.replies = [] := by decide +kernel
  rw [nothing] at member
  cases member

end Hcan.Userpanel
