import Hcan.Hauselektrik.Hood
import Hcan.Hauselektrik.ExtendedOff

/-!
# The slit position of a shutter

Behind two closed contacts the shutter leaves its slit position.  The answers of the contacts are
paired as they arrive: the second one of a pair may come from the same contact or be older than a
later report, so that the shutter also closes while a window is open.
-/

namespace Hcan.Hauselektrik

open Hcan.Canix Hcan.Controller Hcan.Library Hcan.Library.Nested

variable {mcu : Mcu}

def schlitzJobAbgemeldet : UInt8 := 255

def EdsRolladenSchlitzposBlock.reed (config : EdsRolladenSchlitzposBlock) : Reed → UInt8
  | .reed0 => config.reed0
  | .reed1 => config.reed1

namespace DeviceDataRolladenSchlitzpos

section Handlers

variable (self : UInt16) (p : DeviceDataRolladenSchlitzpos)

/-- The message of `send_rolladen_position_set`. -/
def positionSet (sollPosition : UInt8) : CanixFrame :=
  hesFrame self hcanMulticastControl 4 hcanHesRolladenPositionSet p.config.rolladen sollPosition
    0 0 0 0

/-- The message that asks a device of the group. -/
def request (command gruppe : UInt8) : CanixFrame :=
  hesFrame self hcanMulticastControl 3 command gruppe 0 0 0 0 0

/-- `rolladenSchlitzpos_timer_handler` with the messages that it sends. -/
def timerHandler : DeviceDataRolladenSchlitzpos × List CanixFrame :=
  if p.rolladenSchlitzJob < schlitzJobAbgemeldet then
    if p.rolladenSchlitzJob - 1 = 0 then
      ({ p with rolladenSchlitzJob := schlitzJobAbgemeldet },
        [request self hcanHesRolladenPositionRequest p.config.rolladen,
          request self hcanHesReedkontaktStateQuery p.config.reed0] ++
        if p.config.reed1 ≠ 255 then [request self hcanHesReedkontaktStateQuery p.config.reed1]
        else [])
    else ({ p with rolladenSchlitzJob := p.rolladenSchlitzJob - 1 }, [])
  else (p, [])

/-- The messages behind an answer. -/
def fahren (offen : Bool) : List CanixFrame :=
  if offen then
    if p.rolladenIstposition < schlitzPos - 5 then [p.positionSet self schlitzPos] else []
  else if p.rolladenIstposition ≥ schlitzPos - 2 ∧ p.rolladenIstposition ≤ schlitzPos + 2 then
    [p.positionSet self 0]
  else []

/-- `rolladenSchlitzpos_can_callback` with the messages that it sends. -/
def canCallback (frame : CanixFrame) : DeviceDataRolladenSchlitzpos × List CanixFrame :=
  let own := p.config.reed0 = frame.data[2] ∨ p.config.reed1 = frame.data[2]
  if frame.data[1] = hcanHesReedkontaktStateChange then
    if own then ({ p with rolladenSchlitzJob := schlitzJobTimerLoad }, []) else (p, [])
  else if frame.data[1] = hcanHesRolladenPositionReplay then
    if p.config.rolladen = frame.data[2] then
      ({ p with rolladenIstposition := frame.data[3] }, [])
    else (p, [])
  else if frame.data[1] = hcanHesReedkontaktStateReplay then
    if own then
      if p.config.reed1 = 255 then (p, p.fahren self (frame.data[3] != 0))
      else if p.state1stReedkontakt = 255 then
        ({ p with state1stReedkontakt := frame.data[3] }, [])
      else
        ({ p with state1stReedkontakt := 255 },
          p.fahren self (frame.data[3] != 0 || p.state1stReedkontakt != 0))
    else (p, [])
  else (p, [])

end Handlers

end DeviceDataRolladenSchlitzpos

section OnBoard

variable {self : UInt16} {send : CanixFrame → OnBoard mcu Unit} {i : Nat} {b next : Board mcu}
  {p : DeviceDataRolladenSchlitzpos} {frame : CanixFrame}

/-- The board has the record at the index. -/
def ShowsSlit (i : Nat) (p : DeviceDataRolladenSchlitzpos) (b : Board mcu) : Prop :=
  b.devices[i]? = some (.rolladenSchlitzpos p)

/-- The messages for the shutter do not reach the record. -/
def Leaves (send : CanixFrame → OnBoard mcu Unit) (i : Nat) : Prop :=
  ∀ (message : CanixFrame) (p : DeviceDataRolladenSchlitzpos) (b next : Board mcu),
    message.data[1] = hcanHesRolladenPositionSet → ShowsSlit i p b →
      send message b = some ((), next) → ShowsSlit i p next

theorem ShowsSlit.poke (change : DeviceDataRolladenSchlitzpos → DeviceDataRolladenSchlitzpos)
    (shows_ : ShowsSlit i p b) (ran : (poke i change : OnBoard mcu Unit) b = some ((), next)) :
    ShowsSlit i (change p) next ∧ b.sent = next.sent := by
  rw [poke_apply shows_ rfl] at ran
  cases ran
  exact ⟨slot_set shows_ _, rfl⟩

theorem fahren_simulated (records : Records send) (leaves : Leaves send i) {offen : Bool}
    (shows_ : ShowsSlit i p b)
    (ran : rolladenSchlitzposFahren self send p offen b = some ((), next)) :
    ShowsSlit i p next ∧ p.fahren self offen ⊆ next.sent := by
  unfold rolladenSchlitzposFahren at ran
  unfold DeviceDataRolladenSchlitzpos.fahren
  have sent {sollPosition : UInt8}
      (ran : sendRolladenPositionSet self send p sollPosition b = some ((), next)) :
      ShowsSlit i p next ∧ [p.positionSet self sollPosition] ⊆ next.sent :=
    ⟨leaves _ p b next rfl shows_ ran,
      List.cons_subset.mpr ⟨(records _ _ _ ran).1, List.nil_subset _⟩⟩
  split_ifs at ran ⊢
  · exact sent ran
  · cases ran
    exact ⟨shows_, List.nil_subset _⟩
  · exact sent ran
  · cases ran
    exact ⟨shows_, List.nil_subset _⟩

/-- The callback on a board does to the record what the callback of the device says. -/
theorem rolladenSchlitzposCanCallback_simulated (records : Records send)
    (leaves : Leaves send i) (shows_ : ShowsSlit i p b)
    (ran : rolladenSchlitzposCanCallback self send i p frame b = some ((), next)) :
    ShowsSlit i (p.canCallback self frame).1 next ∧
      (p.canCallback self frame).2 ⊆ next.sent := by
  unfold rolladenSchlitzposCanCallback at ran
  unfold DeviceDataRolladenSchlitzpos.canCallback
  dsimp only at ran ⊢
  have idle (ran : (pure () : OnBoard mcu Unit) b = some ((), next)) :
      ShowsSlit i p next ∧ [] ⊆ next.sent := by
    cases ran
    exact ⟨shows_, List.nil_subset _⟩
  split_ifs at ran ⊢
  · exact ⟨(ShowsSlit.poke _ shows_ ran).1, List.nil_subset _⟩
  · exact idle ran
  · exact ⟨(ShowsSlit.poke _ shows_ ran).1, List.nil_subset _⟩
  · exact idle ran
  · exact fahren_simulated records leaves shows_ ran
  · exact ⟨(ShowsSlit.poke _ shows_ ran).1, List.nil_subset _⟩
  · obtain ⟨_, middle, moved, reset⟩ := ran_bind ran
    obtain ⟨before, sent⟩ := fahren_simulated records leaves shows_ moved
    obtain ⟨after, same⟩ := ShowsSlit.poke _ before reset
    exact ⟨after, same ▸ sent⟩
  · exact idle ran
  · exact idle ran

end OnBoard

/-! ## Runs -/

/-- The device with the last reports of the contacts and what it has sent in the last call. -/
structure SlitRun where
  p : DeviceDataRolladenSchlitzpos
  report : Reed → Option UInt8
  sent : List CanixFrame

/-- A report of a contact about its state. -/
def contactReports (frame : CanixFrame) : Prop :=
  frame.data[1] = hcanHesReedkontaktStateChange ∨ frame.data[1] = hcanHesReedkontaktStateReplay

instance decidableContactReports (frame : CanixFrame) : Decidable (contactReports frame) := by
  unfold contactReports
  infer_instance

namespace SlitRun

/-- The position of the shutter is not initialised. -/
def init (config : EdsRolladenSchlitzposBlock) (position : UInt8) : SlitRun where
  p := { rolladenSchlitzposInit config with rolladenIstposition := position }
  report _ := none
  sent := []

/-- A step of the device with its own messages delivered to it as well. -/
def settle (self : UInt16) (s : SlitRun) (called : DeviceDataRolladenSchlitzpos × List CanixFrame) :
    SlitRun :=
  { s with
    p := called.2.foldl (fun p message => (p.canCallback self message).1) called.1
    sent := called.2 }

def step (self : UInt16) (s : SlitRun) : DeviceCall → SlitRun
  | .tick => s.settle self (s.p.timerHandler self)
  | .frame frame =>
      { s with
        report := fun r =>
          if contactReports frame ∧ s.p.config.reed r = frame.data[2] then some frame.data[3]
          else s.report r }.settle self (s.p.canCallback self frame)

/-- The shutter is closed only behind closed reports of both contacts. -/
def ClosesOnClosed (s : SlitRun) : Prop :=
  (∃ message ∈ s.sent,
    message.data[1] = hcanHesRolladenPositionSet ∧ message.data[3] = 0) →
      ∀ r, s.report r = some 0

/-- A closing answer behind a closed one, with the shutter in its slit position, finds the last
report of the other contact closed. -/
def Fits (s : SlitRun) : DeviceCall → Prop
  | .tick => True
  | .frame frame =>
      frame.data[1] = hcanHesReedkontaktStateReplay → frame.data[3] = 0 →
        (∃ r, s.p.config.reed r = frame.data[2]) → s.p.state1stReedkontakt = 0 →
          schlitzPos - 2 ≤ s.p.rolladenIstposition ∧ s.p.rolladenIstposition ≤ schlitzPos + 2 →
            ∀ r, s.p.config.reed r ≠ frame.data[2] → s.report r = some 0

/-- A message that closes the shutter. -/
def Closes (message : CanixFrame) : Prop :=
  message.data[1] = hcanHesRolladenPositionSet ∧ message.data[3] = 0

section Steps

variable {self : UInt16} {p : DeviceDataRolladenSchlitzpos} {frame : CanixFrame} {s : SlitRun}

/-- The shutter is in its slit position. -/
def InSlit (p : DeviceDataRolladenSchlitzpos) : Prop :=
  schlitzPos - 2 ≤ p.rolladenIstposition ∧ p.rolladenIstposition ≤ schlitzPos + 2

theorem exists_reed {config : EdsRolladenSchlitzposBlock} {gruppe : UInt8} :
    (∃ r, config.reed r = gruppe) ↔ config.reed0 = gruppe ∨ config.reed1 = gruppe := by
  constructor
  · rintro ⟨r, own⟩
    cases r with
    | reed0 => exact .inl own
    | reed1 => exact .inr own
  · exact fun own => own.elim (fun own => ⟨.reed0, own⟩) fun own => ⟨.reed1, own⟩

theorem fahren_closes {offen : Bool} :
    (∃ message ∈ p.fahren self offen, Closes message) ↔ offen = false ∧ InSlit p := by
  have none : ¬ ∃ message ∈ ([] : List CanixFrame), Closes message := by
    rintro ⟨message, member, -⟩
    exact List.not_mem_nil member
  unfold DeviceDataRolladenSchlitzpos.fahren InSlit
  cases offen with
  | true =>
      rw [if_pos rfl]
      refine iff_of_false ?_ fun both => Bool.true_eq_false.mp both.1
      split_ifs
      · rintro ⟨message, member, -, closed⟩
        obtain rfl := List.mem_singleton.mp member
        exact absurd (show schlitzPos = 0 from closed) (by decide)
      · exact none
  | false =>
      rw [if_neg Bool.false_ne_true]
      split_ifs with inside
      · exact iff_of_true ⟨_, List.mem_singleton_self _, rfl, rfl⟩ ⟨rfl, inside⟩
      · exact iff_of_false none fun both => inside both.2

/-- A frame makes the device close the shutter exactly as the second closing answer of a pair. -/
theorem canCallback_closes (two : p.config.reed1 ≠ 255) :
    (∃ message ∈ (p.canCallback self frame).2, Closes message) ↔
      frame.data[1] = hcanHesReedkontaktStateReplay ∧ frame.data[3] = 0 ∧
        (∃ r, p.config.reed r = frame.data[2]) ∧ p.state1stReedkontakt = 0 ∧ InSlit p := by
  have none : ¬ ∃ message ∈ ([] : List CanixFrame), Closes message := by
    rintro ⟨message, member, -⟩
    exact List.not_mem_nil member
  rw [exists_reed]
  unfold DeviceDataRolladenSchlitzpos.canCallback
  dsimp only
  by_cases replay : frame.data[1] = hcanHesReedkontaktStateReplay
  · rw [if_neg (by rw [replay]; decide), if_neg (by rw [replay]; decide), if_pos replay]
    split_ifs with own first
    · refine iff_of_false none fun all => ?_
      rw [all.2.2.2.1] at first
      exact absurd first (by decide)
    · rw [fahren_closes, Bool.or_eq_false_iff, bne_eq_false_iff_eq, bne_eq_false_iff_eq]
      constructor
      · rintro ⟨⟨closed, before⟩, inside⟩
        exact ⟨replay, closed, own, before, inside⟩
      · rintro ⟨-, closed, -, before, inside⟩
        exact ⟨⟨closed, before⟩, inside⟩
    · exact iff_of_false none fun all => own all.2.2.1
  · refine iff_of_false ?_ fun all => replay all.1
    rw [if_neg replay]
    split_ifs <;> exact none

/-- The timer only asks. -/
theorem timerHandler_asks {message : CanixFrame} (sent : message ∈ (p.timerHandler self).2) :
    message.data[1] = hcanHesRolladenPositionRequest ∨
      message.data[1] = hcanHesReedkontaktStateQuery := by
  unfold DeviceDataRolladenSchlitzpos.timerHandler at sent
  split_ifs at sent
  · simp only [List.cons_append, List.nil_append, List.mem_cons, List.not_mem_nil,
      or_false] at sent
    obtain rfl | rfl | rfl := sent
    · exact .inl rfl
    · exact .inr rfl
    · exact .inr rfl
  · simp only [List.append_nil, List.mem_cons, List.not_mem_nil, or_false] at sent
    obtain rfl | rfl := sent
    · exact .inl rfl
    · exact .inr rfl
  · exact absurd sent List.not_mem_nil
  · exact absurd sent List.not_mem_nil

theorem timerHandler_closes :
    ¬ ∃ message ∈ (p.timerHandler self).2, Closes message := by
  rintro ⟨message, sent, closes, -⟩
  cases timerHandler_asks sent with
  | inl asks => exact absurd (asks.symm.trans closes) (by decide)
  | inr asks => exact absurd (asks.symm.trans closes) (by decide)

theorem closesOnClosed_step_iff (two : s.p.config.reed1 ≠ 255) (call : DeviceCall) :
    (s.step self call).ClosesOnClosed ↔ s.Fits call := by
  cases call with
  | tick => exact iff_of_true (fun closes => absurd closes timerHandler_closes) trivial
  | frame frame =>
      change ((∃ message ∈ (s.p.canCallback self frame).2, Closes message) →
        ∀ r, (if contactReports frame ∧ s.p.config.reed r = frame.data[2] then some frame.data[3]
          else s.report r) = some 0) ↔ _
      rw [canCallback_closes two]
      constructor
      · intro always replay closed own before inside r other
        have here := always ⟨replay, closed, own, before, inside⟩ r
        rwa [if_neg fun both => other both.2] at here
      · rintro fits ⟨replay, closed, own, before, inside⟩ r
        by_cases here : s.p.config.reed r = frame.data[2]
        · rw [if_pos ⟨.inr replay, here⟩, closed]
        · rw [if_neg fun both => here both.2]
          exact fits replay closed own before inside r here

theorem canCallback_config : (p.canCallback self frame).1.config = p.config := by
  unfold DeviceDataRolladenSchlitzpos.canCallback
  dsimp only
  split_ifs <;> rfl

theorem timerHandler_config : (p.timerHandler self).1.config = p.config := by
  unfold DeviceDataRolladenSchlitzpos.timerHandler
  split_ifs <;> rfl

theorem settle_config (called : DeviceDataRolladenSchlitzpos × List CanixFrame) :
    (s.settle self called).p.config = called.1.config :=
  runAll_invariant (fun p : DeviceDataRolladenSchlitzpos => p.config = called.1.config) rfl
    fun _ _ same => canCallback_config.trans same

theorem step_config (call : DeviceCall) : (s.step self call).p.config = s.p.config := by
  cases call with
  | tick => exact (settle_config _).trans timerHandler_config
  | frame frame => exact (settle_config _).trans canCallback_config

/-- While it closes on closed contacts only, a run keeps its configuration. -/
theorem alwaysCloses_iff {config : EdsRolladenSchlitzposBlock} {position : UInt8}
    (two : config.reed1 ≠ 255) {calls : List DeviceCall} :
    AlwaysHolds (step self) ClosesOnClosed (.init config position) calls ↔
      AlwaysFits (step self) Fits (.init config position) calls := by
  refine alwaysHolds_part_iff (fun s => s.p.config = config ∧ s.ClosesOnClosed)
    ⟨rfl, fun closes => ?_⟩ (fun _ => And.right) (fun s call here => ?_)
    fun s call here fits => ?_
  · obtain ⟨message, member, -⟩ := closes
    exact absurd member List.not_mem_nil
  · exact closesOnClosed_step_iff (here.1 ▸ two) call
  · exact ⟨(step_config call).trans here.1, (closesOnClosed_step_iff (here.1 ▸ two) call).mpr fits⟩

end Steps

/-- An answer of one of the contacts. -/
def IsAnswer (config : EdsRolladenSchlitzposBlock) (frame : CanixFrame) : Prop :=
  frame.data[1] = hcanHesReedkontaktStateReplay ∧
    (config.reed0 = frame.data[2] ∨ config.reed1 = frame.data[2])

instance decidableIsAnswer (config : EdsRolladenSchlitzposBlock) (frame : CanixFrame) :
    Decidable (IsAnswer config frame) := by
  unfold IsAnswer
  infer_instance

/-- The messages behind the first answer of a pair, or behind a whole pair: the two answers of a
pair come from different contacts, and the contact that has answered first reports no change
before the other one answers. -/
def Paired (config : EdsRolladenSchlitzposBlock) : Option CanixFrame → List DeviceCall → Prop
  | _, [] => True
  | waiting, .tick :: calls => Paired config waiting calls
  | none, .frame frame :: calls =>
      if IsAnswer config frame then frame.data[3] ≠ 255 ∧ Paired config (some frame) calls
      else Paired config none calls
  | some first, .frame frame :: calls =>
      if IsAnswer config frame then
        frame.data[2] ≠ first.data[2] ∧ Paired config none calls
      else
        (frame.data[1] = hcanHesReedkontaktStateChange → frame.data[2] ≠ first.data[2]) ∧
          Paired config (some first) calls

section Order

variable {self : UInt16} {config : EdsRolladenSchlitzposBlock} {p : DeviceDataRolladenSchlitzpos}
  {frame : CanixFrame} {s : SlitRun} {waiting : Option CanixFrame} {calls : List DeviceCall}

/-- What the device knows of the answer that waits for its partner. -/
def Waits (s : SlitRun) : Option CanixFrame → Prop
  | none => s.p.state1stReedkontakt = 255
  | some first =>
      first.data[3] ≠ 255 ∧ s.p.state1stReedkontakt = first.data[3] ∧
        (∃ r, s.p.config.reed r = first.data[2]) ∧
          ∀ r, s.p.config.reed r = first.data[2] → s.report r = some first.data[3]

theorem canCallback_state (no : ¬ IsAnswer p.config frame) :
    (p.canCallback self frame).1.state1stReedkontakt = p.state1stReedkontakt := by
  unfold DeviceDataRolladenSchlitzpos.canCallback
  dsimp only
  split_ifs with _ _ _ _ replay own
  all_goals first | rfl | exact absurd ⟨replay, own⟩ no

theorem canCallback_first (answer : IsAnswer p.config frame) (two : p.config.reed1 ≠ 255)
    (unpaired : p.state1stReedkontakt = 255) :
    p.canCallback self frame = ({ p with state1stReedkontakt := frame.data[3] }, []) := by
  unfold DeviceDataRolladenSchlitzpos.canCallback
  dsimp only
  rw [if_neg (by rw [answer.1]; decide), if_neg (by rw [answer.1]; decide), if_pos answer.1,
    if_pos answer.2, if_neg two, if_pos unpaired]

theorem canCallback_second (answer : IsAnswer p.config frame) (two : p.config.reed1 ≠ 255)
    (paired : p.state1stReedkontakt ≠ 255) :
    (p.canCallback self frame).1.state1stReedkontakt = 255 := by
  unfold DeviceDataRolladenSchlitzpos.canCallback
  dsimp only
  rw [if_neg (by rw [answer.1]; decide), if_neg (by rw [answer.1]; decide), if_pos answer.1,
    if_pos answer.2, if_neg two, if_neg paired]

theorem fahren_asks {offen : Bool} {message : CanixFrame} (sent : message ∈ p.fahren self offen) :
    message.data[1] = hcanHesRolladenPositionSet := by
  unfold DeviceDataRolladenSchlitzpos.fahren at sent
  split_ifs at sent
  all_goals first
    | exact absurd sent List.not_mem_nil
    | exact List.mem_singleton.mp sent ▸ rfl

/-- What the device sends is no answer of a contact. -/
theorem canCallback_noAnswer {message : CanixFrame}
    (sent : message ∈ (p.canCallback self frame).2) : ¬ IsAnswer config message := by
  unfold DeviceDataRolladenSchlitzpos.canCallback at sent
  dsimp only at sent
  split_ifs at sent
  all_goals first
    | exact absurd sent List.not_mem_nil
    | exact fun answer => absurd ((fahren_asks sent).symm.trans answer.1) (by decide)

theorem timerHandler_noAnswer {message : CanixFrame}
    (sent : message ∈ (p.timerHandler self).2) : ¬ IsAnswer config message := by
  intro answer
  cases timerHandler_asks sent with
  | inl asks => exact absurd (asks.symm.trans answer.1) (by decide)
  | inr asks => exact absurd (asks.symm.trans answer.1) (by decide)

theorem timerHandler_state :
    (p.timerHandler self).1.state1stReedkontakt = p.state1stReedkontakt := by
  unfold DeviceDataRolladenSchlitzpos.timerHandler
  split_ifs <;> rfl

theorem settle_state {called : DeviceDataRolladenSchlitzpos × List CanixFrame}
    (asks : ∀ message ∈ called.2, ¬ IsAnswer called.1.config message) :
    (s.settle self called).p.state1stReedkontakt = called.1.state1stReedkontakt := by
  obtain ⟨p, sent⟩ := called
  change (sent.foldl (fun p message => (p.canCallback self message).1) p).state1stReedkontakt = _
  induction sent generalizing p with
  | nil => rfl
  | cons message sent ih =>
      rw [List.foldl_cons, ih _ fun other inside => ?_]
      · exact canCallback_state (asks message List.mem_cons_self)
      · rw [canCallback_config]
        exact asks other (List.mem_cons_of_mem message inside)

theorem frame_state :
    (s.step self (.frame frame)).p.state1stReedkontakt =
      (s.p.canCallback self frame).1.state1stReedkontakt :=
  settle_state fun _ sent => canCallback_noAnswer sent

/-- An answer without its partner is remembered with the report of its contact. -/
theorem waits_first (answer : IsAnswer s.p.config frame) (two : s.p.config.reed1 ≠ 255)
    (known : frame.data[3] ≠ 255) (waits : s.Waits none) :
    (s.step self (.frame frame)).Waits (some frame) := by
  refine ⟨known, ?_, ?_, fun r own => if_pos ⟨.inr answer.1, ?_⟩⟩
  · rw [frame_state, canCallback_first answer two waits]
  · rw [step_config]
    exact exists_reed.mpr answer.2
  · exact (congrArg (EdsRolladenSchlitzposBlock.reed · r) (step_config _)).symm.trans own

/-- Another frame leaves the answer that waits. -/
theorem waits_between (no : ¬ IsAnswer s.p.config frame) {first : CanixFrame}
    (calm : frame.data[1] = hcanHesReedkontaktStateChange → frame.data[2] ≠ first.data[2])
    (waits : s.Waits (some first)) : (s.step self (.frame frame)).Waits (some first) := by
  obtain ⟨known, same, own, reported⟩ := waits
  refine ⟨known, frame_state.trans ((canCallback_state no).trans same), ?_, fun r here => ?_⟩
  · rwa [step_config]
  · rw [step_config] at here
    refine (if_neg ?_).trans (reported r here)
    rintro ⟨changed | answered, own⟩
    · exact calm changed (own.symm.trans here)
    · exact no ⟨answered, exists_reed.mp ⟨r, own⟩⟩

/-- The second answer of a pair finds the report of the other contact. -/
theorem fits_second {first : CanixFrame} (other : frame.data[2] ≠ first.data[2])
    (waits : s.Waits (some first)) : s.Fits (.frame frame) := by
  rintro - - ⟨r, own⟩ closed - q differs
  obtain ⟨-, same, ⟨p, its⟩, reported⟩ := waits
  have here : s.p.config.reed q = first.data[2] := by
    cases p <;> cases q <;> cases r <;> first
      | exact its
      | exact absurd own differs
      | exact absurd (own.symm.trans its) other
  rw [reported q here, ← same, closed]

/-- In a run with paired answers every closing answer that completes a pair finds the other
contact closed. -/
theorem alwaysFits_of_paired (two : s.p.config.reed1 ≠ 255) (waits : s.Waits waiting)
    (paired : Paired s.p.config waiting calls) : AlwaysFits (step self) Fits s calls := by
  induction calls generalizing s waiting with
  | nil => exact alwaysFits_nil
  | cons call calls ih =>
      have two_next : (s.step self call).p.config.reed1 ≠ 255 := by rwa [step_config]
      have later (next : Option CanixFrame) (waits_next : (s.step self call).Waits next)
          (paired_next : Paired s.p.config next calls) :
          AlwaysFits (step self) Fits (s.step self call) calls :=
        ih two_next waits_next (by rwa [step_config])
      refine alwaysFits_cons.mpr ?_
      cases call with
      | tick =>
          have same : (s.step self .tick).p.state1stReedkontakt = s.p.state1stReedkontakt :=
            (settle_state fun _ sent => timerHandler_noAnswer sent).trans timerHandler_state
          refine ⟨trivial, later waiting ?_ ?_⟩
          · cases waiting with
            | none => exact same.trans waits
            | some first =>
                refine ⟨waits.1, same.trans waits.2.1, ?_⟩
                rw [step_config]
                exact waits.2.2
          · cases waiting with
            | none => exact paired
            | some first => exact paired
      | frame frame =>
          by_cases answer : IsAnswer s.p.config frame
          · cases waiting with
            | none =>
                obtain ⟨known, rest⟩ := (if_pos answer).mp paired
                refine ⟨fun _ _ _ closed => ?_, later _ (waits_first answer two known waits) rest⟩
                exact absurd (closed.symm.trans waits) (by decide)
            | some first =>
                obtain ⟨other, rest⟩ := (if_pos answer).mp paired
                refine ⟨fits_second other waits, later none ?_ rest⟩
                exact frame_state.trans
                  (canCallback_second answer two (waits.2.1 ▸ waits.1))
          · have fits : s.Fits (.frame frame) := fun replay _ own =>
              absurd ⟨replay, exists_reed.mp own⟩ answer
            cases waiting with
            | none =>
                refine ⟨fits, later none ?_ ((if_neg answer).mp paired)⟩
                exact frame_state.trans ((canCallback_state answer).trans waits)
            | some first =>
                obtain ⟨calm, rest⟩ := (if_neg answer).mp paired
                exact ⟨fits, later _ (waits_between answer calm waits) rest⟩

end Order

end SlitRun

/-- In a run from the initialisation the shutter is closed only behind closed reports of both
contacts exactly when every closing answer that completes a pair finds the other contact closed. -/
theorem slit_closesOnClosed_iff (self : UInt16) (config : EdsRolladenSchlitzposBlock)
    (position : UInt8) (two : config.reed1 ≠ 255) (calls : List DeviceCall) :
    AlwaysHolds (SlitRun.step self) SlitRun.ClosesOnClosed (.init config position) calls ↔
      AlwaysFits (SlitRun.step self) SlitRun.Fits (.init config position) calls :=
  SlitRun.alwaysCloses_iff two

/-- A shutter between two windows. -/
def balcony : EdsRolladenSchlitzposBlock := ⟨1, 2, 30⟩

/-- An answer of a contact, or the position of the shutter. -/
def balconyFrame (command gruppe value : UInt8) : DeviceCall :=
  .frame (hesFrame 7 5 4 command gruppe value 0 0 0 0)

/-- Two closed answers of one contact close the shutter in front of the other, open window. -/
theorem balcony_closesOnOpen :
    balcony.reed1 ≠ 255 ∧
      ¬ AlwaysHolds (SlitRun.step 5) SlitRun.ClosesOnClosed (.init balcony 0)
        [balconyFrame hcanHesRolladenPositionReplay 30 17,
          balconyFrame hcanHesReedkontaktStateChange 2 1,
          balconyFrame hcanHesReedkontaktStateReplay 1 0,
          balconyFrame hcanHesReedkontaktStateReplay 1 0] := by
  refine ⟨by decide, fun always => ?_⟩
  have closed := always _ List.prefix_rfl
    ⟨_, List.mem_singleton_self _, rfl, rfl⟩ .reed1
  revert closed
  decide +kernel

/-- Closed answers of both contacts close the shutter. -/
theorem balcony_closes :
    AlwaysHolds (SlitRun.step 5) SlitRun.ClosesOnClosed (.init balcony 17)
      [balconyFrame hcanHesReedkontaktStateReplay 1 0,
        balconyFrame hcanHesReedkontaktStateReplay 2 0] := by
  refine (slit_closesOnClosed_iff 5 balcony 17 (by decide) _).mpr ?_
  refine alwaysFits_cons.mpr ⟨fun _ _ _ first => ?_, alwaysFits_cons.mpr
    ⟨fun _ _ _ _ _ r other => ?_, alwaysFits_nil⟩⟩
  · exact absurd first (by decide)
  · cases r with
    | reed0 => decide +kernel
    | reed1 => exact absurd rfl other

/-- Where the answers come in pairs, one from each contact, the shutter is closed only behind
closed reports of both. -/
theorem slit_closesOnClosed_of_paired (self : UInt16) (config : EdsRolladenSchlitzposBlock)
    (position : UInt8) (two : config.reed1 ≠ 255) {calls : List DeviceCall}
    (paired : SlitRun.Paired config none calls) :
    AlwaysHolds (SlitRun.step self) SlitRun.ClosesOnClosed (.init config position) calls :=
  (SlitRun.alwaysCloses_iff two).mpr
    (SlitRun.alwaysFits_of_paired two (show SlitRun.Waits _ none from rfl) paired)

end Hcan.Hauselektrik
