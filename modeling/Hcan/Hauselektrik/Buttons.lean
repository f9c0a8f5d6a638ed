import Hcan.Hauselektrik.Dispatch
import Hcan.Library.Keyed

/-!
# The buttons

The 10 ms handlers of a button and of a button with a potentiometer count how long the input has
been pressed.  One counter decides about both events: the down event comes when it reaches the
debouncing time, the up event when it has passed 3 at the release.  The two events alternate
exactly when no press ends between these numbers.
-/

namespace Hcan.Hauselektrik

open Hcan.Canix Hcan.Controller Hcan.Library

variable {mcu : Mcu}

def featureTasterEntprell1s : Nat := 0
def featureTasterRolladenAuf : Nat := 1
def featureTasterRolladenZu : Nat := 2

structure EdsTasterBlock where
  port : UInt8
  feature : UInt8
  gruppe : UInt8
  deriving DecidableEq, Repr

structure DeviceDataTaster where
  config : EdsTasterBlock
  pressed : UInt8
  deriving DecidableEq, Repr

def DeviceDataTaster.init (config : EdsTasterBlock) : DeviceDataTaster := ⟨config, 0⟩

/-- `pressed` behind a sample. -/
def countPressed (pressed : UInt8) (status : Bool) : UInt8 :=
  if status = true then
    if pressed < 255 then pressed + 1 else pressed
  else 0

/-- `time`: 1 s or 30 ms. -/
def tasterTime (feature : UInt8) : UInt8 :=
  if feature.toNat.testBit featureTasterEntprell1s then 100 else 3

def isRolladentaster (feature : UInt8) : Bool :=
  feature.toNat.testBit featureTasterRolladenZu || feature.toNat.testBit featureTasterRolladenAuf

/-- The messages of the two handlers, by the counter before the sample. -/
def tasterMessages (self : UInt16) (port feature gruppe pressed : UInt8) (status : Bool) :
    List CanixFrame :=
  let message (command value : UInt8) :=
    hesFrame self hcanMulticastControl 4 command gruppe value 0 0 0 0
  let up :=
    if status = false ∧ 3 < pressed ∧ isRolladentaster feature = false then
      [message hcanHesTasterUp port]
    else []
  let down :=
    if countPressed pressed status = tasterTime feature then
      if feature.toNat.testBit featureTasterRolladenZu then
        [message hcanHesRolladenPositionSet 200]
      else if feature.toNat.testBit featureTasterRolladenAuf then
        [message hcanHesRolladenPositionSet 201]
      else [message hcanHesTasterDown port]
    else []
  up ++ down

/-- `taster_timer_handler`: the pin of a pressed button is low. -/
def tasterTimerHandler (self : UInt16) (tasterport : UInt8 → Bool) (p : DeviceDataTaster) :
    DeviceDataTaster × List CanixFrame :=
  let status := !tasterport p.config.port
  ({ p with pressed := countPressed p.pressed status },
    tasterMessages self p.config.port p.config.feature p.config.gruppe p.pressed status)

/-- `getGroup`. -/
def getGroup (p : DeviceDataMultitaster) : UInt8 :=
  if p.lastPotiPos < 10 then p.config.gruppe[p.lastPotiPos.toNat] else 255

/-- `multitaster_timer_handler`. -/
def multitasterTimerHandler (self : UInt16) (tasterport : UInt8 → Bool)
    (p : DeviceDataMultitaster) : DeviceDataMultitaster × List CanixFrame :=
  let status := !tasterport p.config.tasterPort
  ({ p with pressed := countPressed p.pressed status },
    tasterMessages self p.config.tasterPort p.config.feature (getGroup p) p.pressed status)

/-- The first scale division that reaches the value. -/
def potiPos (oneScale adcValue : UInt16) : Option Nat :=
  (List.range 10).find? fun n => adcValue ≤ UInt16.ofNat n * oneScale

/-- The record behind a frame. -/
def multitasterReceive (p : DeviceDataMultitaster) (frame : CanixFrame) : DeviceDataMultitaster :=
  if frame.data[1] = hcanHesPotiPosChanged ∧ frame.data[2] = p.config.potiGruppe then
    match potiPos p.oneScale (frameWord frame.data[3] frame.data[4]) with
    | some n => { p with lastPotiPos := UInt8.ofNat n - 1 }
    | none => p
  else p

/-- The callback on a board stores that record. -/
theorem multitasterCanCallback_eq {b : Board mcu} {i : Nat} {p : DeviceDataMultitaster}
    (slot : b.devices[i]? = some (.multitaster p)) (frame : CanixFrame) :
    multitasterCanCallback i p frame b =
      (poke i fun _ : DeviceDataMultitaster => multitasterReceive p frame :
        OnBoard mcu Unit) b := by
  have kept : some ((), b) =
      (poke i (fun _ : DeviceDataMultitaster => p) : OnBoard mcu Unit) b := by
    change some ((), b) = some ((), { b with devices := _ })
    rw [modify_congr (onRecord fun _ : DeviceDataMultitaster => p) id slot rfl, List.modify_id]
  unfold multitasterCanCallback multitasterReceive potiPos
  dsimp only
  by_cases poti : frame.data[1] = hcanHesPotiPosChanged ∧ frame.data[2] = p.config.potiGruppe
  · rw [if_pos poti, if_pos poti]
    cases List.find? (fun n => frameWord frame.data[3] frame.data[4] ≤ UInt16.ofNat n * p.oneScale)
        (List.range 10) with
    | some n =>
        exact congrArg (fun devices => some ((), { b with devices := devices }))
          (modify_congr
            (onRecord fun q : DeviceDataMultitaster => { q with lastPotiPos := UInt8.ofNat n - 1 })
            (onRecord fun _ : DeviceDataMultitaster => { p with lastPotiPos := UInt8.ofNat n - 1 })
            slot rfl)
    | none => exact kept
  · rw [if_neg poti, if_neg poti]
    exact kept

/-- What a multitaster is exposed to: the sample of its input and the frames on the bus. -/
inductive ButtonEvent where
  | sample (pressed : Bool)
  | frame (frame : CanixFrame)
  deriving DecidableEq

/-- The samples of a taster with the commands it sends at each of them. -/
def tasterTrace (self : UInt16) : DeviceDataTaster → List Bool → List (Bool × List UInt8)
  | _, [] => []
  | p, pressed :: samples =>
      let handled := tasterTimerHandler self (fun _ => !pressed) p
      (pressed, handled.2.map fun frame => frame.data[1]) :: tasterTrace self handled.1 samples

/-- The samples of a multitaster with the commands it sends at each of them. -/
def multitasterTrace (self : UInt16) :
    DeviceDataMultitaster → List ButtonEvent → List (Bool × List UInt8)
  | _, [] => []
  | p, .sample pressed :: events =>
      let handled := multitasterTimerHandler self (fun _ => !pressed) p
      (pressed, handled.2.map fun frame => frame.data[1]) ::
        multitasterTrace self handled.1 events
  | p, .frame frame :: events => multitasterTrace self (multitasterReceive p frame) events

/-- The samples among the events. -/
def samplesOf (events : List ButtonEvent) : List Bool :=
  events.filterMap fun event =>
    match event with
    | .sample pressed => some pressed
    | .frame _ => none

/-- Down events and up events alternate: a down event comes at a pressed sample while none is
open, and an open one is closed by one up event at the first released sample. -/
def Alternates : Bool → List (Bool × List UInt8) → Prop
  | _, [] => True
  | opened, (true, sent) :: trace =>
      (sent = [] ∧ Alternates opened trace) ∨
        (opened = false ∧ sent = [hcanHesTasterDown] ∧ Alternates true trace)
  | opened, (false, sent) :: trace =>
      sent = (if opened = true then [hcanHesTasterUp] else []) ∧ Alternates false trace

instance alternatesDecidable : ∀ opened trace, Decidable (Alternates opened trace)
  | _, [] => .isTrue trivial
  | opened, (true, sent) :: trace =>
      have : Decidable (Alternates opened trace) := alternatesDecidable opened trace
      have : Decidable (Alternates true trace) := alternatesDecidable true trace
      inferInstanceAs (Decidable
        ((sent = [] ∧ Alternates opened trace) ∨
          (opened = false ∧ sent = [hcanHesTasterDown] ∧ Alternates true trace)))
  | opened, (false, sent) :: trace =>
      have : Decidable (Alternates false trace) := alternatesDecidable false trace
      inferInstanceAs (Decidable
        (sent = (if opened = true then [hcanHesTasterUp] else []) ∧ Alternates false trace))

/-- The lengths of the presses that end, when one of some length is running at the beginning;
a release behind a release ends a press of length 0. -/
def endedPresses : Nat → List Bool → List Nat
  | _, [] => []
  | length, true :: samples => endedPresses (length + 1) samples
  | length, false :: samples => length :: endedPresses 0 samples

/-- A press of this length causes both events or none. -/
def PressFits (feature : UInt8) (length : Nat) : Prop :=
  if feature.toNat.testBit featureTasterEntprell1s then length ≤ 3 ∨ 100 ≤ length
  else length ≠ 3

section Press

variable (self : UInt16) (port feature gruppe : UInt8)

theorem countPressed_released (pressed : UInt8) : countPressed pressed false = 0 := rfl

/-- The counter is the length of the press, up to 255. -/
theorem countPressed_toNat {pressed : UInt8} {length : Nat}
    (counted : pressed.toNat = min length 255) :
    (countPressed pressed true).toNat = min (length + 1) 255 := by
  have limit : (255 : UInt8).toNat = 255 := rfl
  have one : (1 : UInt8).toNat = 1 := rfl
  unfold countPressed
  rw [if_pos rfl]
  split
  next below =>
    have bound : pressed.toNat < 255 := below
    rw [UInt8.toNat_add]
    omega
  next full =>
    rw [UInt8.lt_iff_toNat_lt] at full
    omega

theorem tasterTime_toNat : (tasterTime feature).toNat = 3 ∨ (tasterTime feature).toNat = 100 := by
  unfold tasterTime
  split
  next => exact Or.inr rfl
  next => exact Or.inl rfl

/-- A press fits when the release sees it exactly when the down event was sent. -/
theorem pressFits_iff (length : Nat) :
    PressFits feature length ↔ (3 < length ↔ (tasterTime feature).toNat ≤ length) := by
  unfold PressFits tasterTime
  split
  next =>
    change _ ↔ (3 < length ↔ 100 ≤ length)
    omega
  next =>
    change _ ↔ (3 < length ↔ 3 ≤ length)
    omega

/-- The command at a sample of a press that goes on. -/
theorem tasterMessages_pressed {pressed : UInt8} {length : Nat}
    (plain : isRolladentaster feature = false) (counted : pressed.toNat = min length 255) :
    (tasterMessages self port feature gruppe pressed true).map (fun frame => frame.data[1]) =
      if length + 1 = (tasterTime feature).toNat then [hcanHesTasterDown] else [] := by
  have count := countPressed_toNat counted
  have reached : countPressed pressed true = tasterTime feature ↔
      length + 1 = (tasterTime feature).toNat := by
    rw [← UInt8.toNat_inj, count]
    have time := tasterTime_toNat feature
    omega
  obtain ⟨zu, auf⟩ := Bool.or_eq_false_iff.mp plain
  unfold tasterMessages
  dsimp only
  rw [if_neg (by simp), zu, auf]
  by_cases arrived : length + 1 = (tasterTime feature).toNat
  · rw [if_pos arrived, if_pos (reached.mpr arrived)]
    rfl
  · rw [if_neg arrived, if_neg (mt reached.mp arrived)]
    rfl

/-- The command at a released sample. -/
theorem tasterMessages_released {pressed : UInt8} {length : Nat}
    (plain : isRolladentaster feature = false) (counted : pressed.toNat = min length 255) :
    (tasterMessages self port feature gruppe pressed false).map (fun frame => frame.data[1]) =
      if 3 < length then [hcanHesTasterUp] else [] := by
  have three : (3 : UInt8).toNat = 3 := rfl
  have long : 3 < pressed ↔ 3 < length := by
    rw [UInt8.lt_iff_toNat_lt]
    omega
  have notReached : ¬ countPressed pressed false = tasterTime feature := by
    rw [countPressed_released, ← UInt8.toNat_inj]
    have zero : (0 : UInt8).toNat = 0 := rfl
    have time := tasterTime_toNat feature
    omega
  unfold tasterMessages
  dsimp only
  rw [if_neg notReached, List.append_nil, plain]
  by_cases held : 3 < length
  · rw [if_pos held, if_pos ⟨rfl, long.mpr held, rfl⟩]
    rfl
  · rw [if_neg held, if_neg fun all => held (long.mp all.2.1)]
    rfl

end Press

/-! ## All presses -/

/-- The commands of a button with a feature, by the length of the press that is running. -/
def commandTrace (feature : UInt8) : Nat → List Bool → List (Bool × List UInt8)
  | _, [] => []
  | length, true :: samples =>
      (true, if length + 1 = (tasterTime feature).toNat then [hcanHesTasterDown] else []) ::
        commandTrace feature (length + 1) samples
  | length, false :: samples =>
      (false, if 3 < length then [hcanHesTasterUp] else []) :: commandTrace feature 0 samples

theorem commandTrace_alternates_iff (feature : UInt8) (length : Nat) (samples : List Bool) :
    Alternates (decide ((tasterTime feature).toNat ≤ length))
        (commandTrace feature length samples) ↔
      ∀ ended ∈ endedPresses length samples, PressFits feature ended := by
  have time := tasterTime_toNat feature
  induction samples generalizing length with
  | nil => exact iff_of_true trivial fun _ inside => absurd inside List.not_mem_nil
  | cons pressed samples ih =>
      cases pressed with
      | true =>
          refine Iff.trans ?_ (ih (length + 1))
          rw [commandTrace, Alternates]
          by_cases now : length + 1 = (tasterTime feature).toNat
          · rw [if_pos now, decide_eq_false (by omega), decide_eq_true (by omega)]
            simp
          · have same : decide ((tasterTime feature).toNat ≤ length + 1) =
                decide ((tasterTime feature).toNat ≤ length) := by
              rw [decide_eq_decide]
              omega
            rw [if_neg now, same]
            simp
      | false =>
          have closed : decide ((tasterTime feature).toNat ≤ 0) = false := by
            rw [decide_eq_false_iff_not]
            omega
          have later := ih 0
          rw [closed] at later
          rw [commandTrace, Alternates, endedPresses, List.forall_mem_cons, pressFits_iff]
          refine and_congr ?_ later
          by_cases opened : (tasterTime feature).toNat ≤ length
          · by_cases long : 3 < length
            · simp [long, opened]
            · simp [long, opened]
          · by_cases long : 3 < length
            · simp [long, opened]
            · simp [long, opened]

section Traces

variable (self : UInt16)

theorem released_toNat (pressed : UInt8) :
    (countPressed pressed false).toNat = min 0 255 := rfl

/-- What a button counts and sends in one sample is what the trace of its samples says. -/
theorem commandTrace_sample {port feature gruppe counter : UInt8} {length : Nat}
    (plain : isRolladentaster feature = false) (counted : counter.toNat = min length 255)
    (pressed : Bool) : ∃ next, (countPressed counter pressed).toNat = min next 255 ∧
      ∀ samples, commandTrace feature length (pressed :: samples) =
        (pressed, (tasterMessages self port feature gruppe counter pressed).map
          fun frame => frame.data[1]) :: commandTrace feature next samples := by
  cases pressed with
  | true =>
      refine ⟨length + 1, countPressed_toNat counted, fun samples => ?_⟩
      rw [tasterMessages_pressed self _ _ _ plain counted, commandTrace]
  | false =>
      refine ⟨0, released_toNat counter, fun samples => ?_⟩
      rw [tasterMessages_released self _ _ _ plain counted, commandTrace]

theorem tasterTrace_eq {p : DeviceDataTaster} (plain : isRolladentaster p.config.feature = false)
    (samples : List Bool) {length : Nat} (counted : p.pressed.toNat = min length 255) :
    tasterTrace self p samples = commandTrace p.config.feature length samples := by
  induction samples generalizing p length with
  | nil => rfl
  | cons pressed samples ih =>
      obtain ⟨next, count, trace⟩ := commandTrace_sample self plain counted pressed
      unfold tasterTrace tasterTimerHandler
      dsimp only
      rw [Bool.not_not, trace]
      exact congrArg _ (ih (p := { p with pressed := countPressed p.pressed pressed }) plain count)

theorem multitasterReceive_config (p : DeviceDataMultitaster) (frame : CanixFrame) :
    (multitasterReceive p frame).config = p.config ∧
      (multitasterReceive p frame).pressed = p.pressed := by
  unfold multitasterReceive
  split
  next =>
    cases potiPos p.oneScale (frameWord frame.data[3] frame.data[4]) with
    | some n => exact ⟨rfl, rfl⟩
    | none => exact ⟨rfl, rfl⟩
  next => exact ⟨rfl, rfl⟩

theorem multitasterTrace_eq {p : DeviceDataMultitaster}
    (plain : isRolladentaster p.config.feature = false) (events : List ButtonEvent) {length : Nat}
    (counted : p.pressed.toNat = min length 255) :
    multitasterTrace self p events =
      commandTrace p.config.feature length (samplesOf events) := by
  induction events generalizing p length with
  | nil => rfl
  | cons event events ih =>
      cases event with
      | frame frame =>
          obtain ⟨config, pressed⟩ := multitasterReceive_config p frame
          rw [multitasterTrace, ih (by rw [config]; exact plain) (by rw [pressed]; exact counted),
            config]
          rfl
      | sample pressed =>
          change _ = commandTrace p.config.feature length (pressed :: samplesOf events)
          obtain ⟨next, count, trace⟩ := commandTrace_sample self plain counted pressed
          unfold multitasterTrace multitasterTimerHandler
          dsimp only
          rw [Bool.not_not, trace]
          exact congrArg _
            (ih (p := { p with pressed := countPressed p.pressed pressed }) plain count)

end Traces

/-- The button events of a taster and of a multitaster alternate exactly when every press that
ends fits. -/
theorem buttons_alternate_iff (self : UInt16) :
    (∀ (p : DeviceDataTaster) (samples : List Bool),
      isRolladentaster p.config.feature = false → p.pressed = 0 →
      (Alternates false (tasterTrace self p samples) ↔
        ∀ length ∈ endedPresses 0 samples, PressFits p.config.feature length)) ∧
    ∀ (p : DeviceDataMultitaster) (events : List ButtonEvent),
      isRolladentaster p.config.feature = false → p.pressed = 0 →
      (Alternates false (multitasterTrace self p events) ↔
        ∀ length ∈ endedPresses 0 (samplesOf events), PressFits p.config.feature length) := by
  have closed (feature : UInt8) : false = decide ((tasterTime feature).toNat ≤ 0) := by
    have time := tasterTime_toNat feature
    rw [eq_comm, decide_eq_false_iff_not]
    omega
  constructor
  · intro p samples plain released
    have start : p.pressed.toNat = min 0 255 := by rw [released]; rfl
    rw [tasterTrace_eq self plain samples start, closed p.config.feature]
    exact commandTrace_alternates_iff p.config.feature 0 samples
  · intro p events plain released
    have start : p.pressed.toNat = min 0 255 := by rw [released]; rfl
    rw [multitasterTrace_eq self plain events start, closed p.config.feature]
    exact commandTrace_alternates_iff p.config.feature 0 (samplesOf events)

/-- A press of three samples sends a down event and no up event. -/
theorem thirdSample_unclosed :
    ¬ Alternates false (tasterTrace 5 (.init ⟨4, 0, 1⟩) [true, true, true, false]) := by
  decide

theorem buttons_alternate_iff_fourSamples :
    Alternates false (tasterTrace 5 (.init ⟨4, 0, 1⟩) [true, true, true, true, false]) ↔
      ∀ length ∈ endedPresses 0 [true, true, true, true, false], PressFits 0 length :=
  (buttons_alternate_iff 5).1 (.init ⟨4, 0, 1⟩) _ (by decide) rfl

end Hcan.Hauselektrik
