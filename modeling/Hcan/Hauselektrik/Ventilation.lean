import Hcan.Hauselektrik.Hood
import Hcan.Library.Bits

/-!
# The hood runs while a window is open

A contact that reads open repeats its message every five seconds, and the hood stays on
for seven.  The hood remembers for ever that a contact has been open, so that the other
one does not switch it off.  Both need the message in the first second in which the
contact reads open.
-/

namespace Hcan.Hauselektrik

open Hcan.Canix Hcan.Controller Hcan.Library

/-- The report that the contact of a group has been closed. -/
def ReportsClosed (frame : CanixFrame) (gruppe : UInt8) : Prop :=
  frame.data[1] = hcanHesReedkontaktStateChange ∧ frame.data[2] = gruppe ∧ frame.data[3] = 0

def Hood.isOn (hood : Hood) : Bool := hood.out.isOn hood.p.config.port

/-- The hood knows of an open contact and stays on for `ticks` of its own ticks. -/
structure Hood.Runs (hood : Hood) (r : Reed) (ticks : Nat) : Prop where
  known : hood.p.stateReed r = true
  on : hood.isOn = true
  counter : hood.p.counter = 0 ∨ ticks ≤ hood.p.counter.toNat

section Hood

variable {hood : Hood} {frame : CanixFrame} {r : Reed} {ticks : Nat}

theorem ein_isOn (pin : hood.out.hasPin hood.p.config.port = true) (seconds : UInt16) :
    (hood.ein seconds).isOn = true := by
  change (darlingtonoutputSetpin hood.out hood.p.config.port true).isOn hood.p.config.port = true
  rw [isOn_setpin, pin, Bool.or_true, Bool.true_and]

theorem ein_runs (pin : hood.out.hasPin hood.p.config.port = true)
    (known : hood.p.stateReed r = true) {seconds : UInt16}
    (enough : seconds = 0 ∨ ticks ≤ seconds.toNat) : (hood.ein seconds).Runs r ticks :=
  ⟨by cases r <;> exact known, ein_isOn pin seconds, enough⟩

theorem stateChange_out (hood : Hood) (frame : CanixFrame) (reedGruppe : UInt8) (other : Bool)
    (n : UInt8) : (hood.stateChange frame reedGruppe other).out.hasPin n = hood.out.hasPin n := by
  unfold Hood.stateChange
  split
  · split
    · exact hasPin_setpin ..
    · split
      · exact hasPin_setpin ..
      · rfl
  · rfl

theorem canCallback_config (hood : Hood) (frame : CanixFrame) :
    (hood.canCallback frame).p.config = hood.p.config := by
  unfold Hood.canCallback
  split
  · split
    · rfl
    · split <;> rfl
  · split
    · exact (stateChange_config ..).trans (stateChange_config ..)
    · split
      · split <;> rfl
      · rfl

theorem canCallback_hasPin (hood : Hood) (frame : CanixFrame) (n : UInt8) :
    (hood.canCallback frame).out.hasPin n = hood.out.hasPin n := by
  unfold Hood.canCallback
  split
  · split
    · exact hasPin_setpin ..
    · split
      · exact hasPin_setpin ..
      · rfl
  · split
    · exact (stateChange_out ..).trans (stateChange_out ..)
    · split
      · split
        · exact hasPin_setpin ..
        · rfl
      · rfl

/-- The report of one contact, unless it switches the hood off. -/
theorem stateChange_runs (runs : hood.Runs r ticks) (few : ticks ≤ 7)
    (pin : hood.out.hasPin hood.p.config.port = true) {reedGruppe : UInt8} {other : Bool}
    (stays : reedGruppe = frame.data[2] → frame.data[3] = 0 → other = true) :
    (hood.stateChange frame reedGruppe other).Runs r ticks := by
  unfold Hood.stateChange
  split
  · next own =>
      split
      · exact ein_runs pin runs.known (.inr few)
      · next closed =>
          rw [if_neg (by rw [stays own (not_not.mp closed)]; exact Bool.noConfusion)]
          exact runs
  · exact runs

/-- A frame keeps the hood on unless it reports a contact closed whose other one is not known
to have been open. -/
theorem canCallback_runs (runs : hood.Runs r ticks) (few : ticks ≤ 7)
    (pin : hood.out.hasPin hood.p.config.port = true)
    (stays : ∀ q, ReportsClosed frame (hood.p.config.reedGruppe q) →
      hood.p.stateReed q.other = true) : (hood.canCallback frame).Runs r ticks := by
  unfold Hood.canCallback
  split
  · split
    · refine ein_runs ?_ ?_ (.inr few)
      · exact pin
      · cases r with
        | reed0 => rfl
        | reed1 => exact runs.known
    · split
      · refine ein_runs ?_ ?_ (.inr few)
        · exact pin
        · cases r with
          | reed0 => exact runs.known
          | reed1 => rfl
      · exact runs
  · split
    · next change =>
        have first : (hood.stateChange frame hood.p.config.reedGruppe0
            hood.p.stateReed1).Runs r ticks :=
          stateChange_runs runs few pin fun own closed => stays .reed0 ⟨change, own.symm, closed⟩
        refine stateChange_runs first few ?_ fun own closed =>
          stays .reed1 ⟨change, own.symm, closed⟩
        rw [stateChange_config, stateChange_out]
        exact pin
    · split
      · split
        · apply ein_runs pin runs.known
          rcases Nat.eq_zero_or_pos hood.p.config.freischaltZeit.toNat with zero | positive
          · rw [zero]
            exact .inl rfl
          · right
            have small := hood.p.config.freischaltZeit.toNat_lt
            have fits : hood.p.config.freischaltZeit.toNat * 60 < UInt16.size := by
              change _ < 65536
              omega
            rw [UInt16.toNat_ofNat_of_lt' fits]
            omega
        · exact runs
      · exact runs

/-- The message of an open contact starts the seven seconds again. -/
theorem canCallback_offen (pin : hood.out.hasPin hood.p.config.port = true)
    (apart : hood.p.config.reedGruppe0 ≠ hood.p.config.reedGruppe1)
    (command : frame.data[1] = hcanHesReedkontaktOffen)
    (own : frame.data[2] = hood.p.config.reedGruppe r) : (hood.canCallback frame).Runs r 7 := by
  unfold Hood.canCallback
  rw [if_pos command, own]
  cases r with
  | reed0 =>
      rw [if_pos (by rfl)]
      refine ein_runs ?_ ?_ (.inr (Nat.le_refl _))
      · exact pin
      · rfl
  | reed1 =>
      have differs : ¬hood.p.config.reedGruppe0 = hood.p.config.reedGruppe .reed1 := apart
      rw [if_neg differs, if_pos (by rfl)]
      refine ein_runs ?_ ?_ (.inr (Nat.le_refl _))
      · exact pin
      · rfl

theorem timerHandler_config (hood : Hood) : hood.timerHandler.p.config = hood.p.config := by
  unfold Hood.timerHandler
  split
  · split <;> rfl
  · rfl

theorem timerHandler_hasPin (hood : Hood) (n : UInt8) :
    hood.timerHandler.out.hasPin n = hood.out.hasPin n := by
  unfold Hood.timerHandler
  split
  · split
    · exact hasPin_setpin ..
    · rfl
  · rfl

/-- A tick of the hood that is not its last one. -/
theorem timerHandler_runs (runs : hood.Runs r (ticks + 1)) (left : 0 < ticks) :
    hood.timerHandler.Runs r ticks := by
  unfold Hood.timerHandler
  rcases runs.counter with off | enough
  · rw [off, if_neg (by decide)]
    exact ⟨runs.known, runs.on, .inl off⟩
  · have positive : hood.p.counter > 0 := by
      rw [gt_iff_lt, UInt16.lt_iff_toNat_lt]
      exact Nat.lt_of_lt_of_le (Nat.succ_pos _) enough
    have less : (hood.p.counter - 1).toNat = hood.p.counter.toNat - 1 :=
      uint16_toNat_pred (UInt16.pos_iff_ne_zero.mp positive)
    have more : hood.p.counter - 1 ≠ 0 := by
      intro zero
      rw [zero] at less
      change 0 = _ at less
      omega
    rw [if_pos positive, if_neg more]
    refine ⟨?_, runs.on, .inr ?_⟩
    · cases r <;> exact runs.known
    · change ticks ≤ (hood.p.counter - 1).toNat
      omega

theorem canCallbacks_config (hood : Hood) (frames : List CanixFrame) :
    (frames.foldl Hood.canCallback hood).p.config = hood.p.config := by
  induction frames generalizing hood with
  | nil => rfl
  | cons frame frames ih => exact (ih _).trans (canCallback_config ..)

theorem canCallbacks_hasPin (hood : Hood) (frames : List CanixFrame) (n : UInt8) :
    (frames.foldl Hood.canCallback hood).out.hasPin n = hood.out.hasPin n := by
  induction frames generalizing hood with
  | nil => rfl
  | cons frame frames ih => exact (ih _).trans (canCallback_hasPin ..)

/-- Frames that report nothing closed keep the hood on. -/
theorem canCallbacks_runs {frames : List CanixFrame} (runs : hood.Runs r ticks)
    (few : ticks ≤ 7) (pin : hood.out.hasPin hood.p.config.port = true)
    (silent : ∀ frame ∈ frames, ∀ gruppe, ¬ReportsClosed frame gruppe) :
    (frames.foldl Hood.canCallback hood).Runs r ticks := by
  induction frames generalizing hood with
  | nil => exact runs
  | cons frame frames ih =>
      have first := canCallback_runs runs few pin fun q report =>
        absurd report (silent frame List.mem_cons_self _)
      refine ih first ?_ fun later member => silent later (List.mem_cons_of_mem _ member)
      rw [canCallback_config, canCallback_hasPin]
      exact pin

end Hood

section Contact

variable {self : UInt16} {p : DeviceDataReedkontakt}

theorem reedkontaktTimerHandler_config (self : UInt16) (offen : Bool)
    (p : DeviceDataReedkontakt) :
    (reedkontaktTimerHandler self offen p).1.config = p.config ∧
      (reedkontaktTimerHandler self offen p).1.lastState = offen := by
  unfold reedkontaktTimerHandler
  dsimp only
  split
  · split <;> exact ⟨rfl, rfl⟩
  · exact ⟨rfl, rfl⟩

/-- An open contact reports nothing closed, and it sends its message when its counter is 0. -/
theorem reedkontaktTimerHandler_open (self : UInt16) (modus : p.config.modus = 1) :
    (∀ frame ∈ (reedkontaktTimerHandler self true p).2, ∀ gruppe,
      ¬ReportsClosed frame gruppe) ∧
    if p.timerCounter = 0 then
      (reedkontaktTimerHandler self true p).1.timerCounter = 4 ∧
        ∃ front last, (reedkontaktTimerHandler self true p).2 = front ++ [last] ∧
          last.data[1] = hcanHesReedkontaktOffen ∧ last.data[2] = p.config.gruppe
    else (reedkontaktTimerHandler self true p).1.timerCounter = p.timerCounter - 1 := by
  have active : p.config.modus ≠ 0 ∧ true = true := by
    rw [modus]
    exact ⟨by decide, rfl⟩
  have change : ∀ frame ∈ (if true ≠ p.lastState then
      [hesFrame self hcanMulticastInfo 4 hcanHesReedkontaktStateChange p.config.gruppe
        (if true then 1 else 0) 0 0 0 0] else []), ∀ gruppe, ¬ReportsClosed frame gruppe := by
    intro frame member gruppe report
    split at member
    · rw [List.mem_singleton.mp member] at report
      have one : (1 : UInt8) = 0 := report.2.2
      exact absurd one (by decide)
    · exact nomatch member
  unfold reedkontaktTimerHandler
  dsimp only
  rw [if_pos active]
  by_cases zero : p.timerCounter = 0
  · rw [if_pos zero, if_pos zero]
    refine ⟨fun frame member gruppe report => ?_, rfl, _, _, rfl, rfl, rfl⟩
    rcases List.mem_append.mp member with first | second
    · exact change frame first gruppe report
    · rw [List.mem_singleton.mp second] at report
      have command : hcanHesReedkontaktOffen = hcanHesReedkontaktStateChange := report.1
      exact absurd command (by decide)
  · rw [if_neg zero, if_neg zero]
    exact ⟨change, rfl⟩

/-- A closed contact sends at most the report that it has been closed. -/
theorem reedkontaktTimerHandler_closed (self : UInt16) (p : DeviceDataReedkontakt) :
    (reedkontaktTimerHandler self false p).1.timerCounter = 0 ∧
      ((reedkontaktTimerHandler self false p).2 = [] ∨
        ∃ frame, (reedkontaktTimerHandler self false p).2 = [frame] ∧
          frame.data[2] = p.config.gruppe) := by
  have inactive : ¬(p.config.modus ≠ 0 ∧ false = true) := fun both => nomatch both.2
  unfold reedkontaktTimerHandler
  dsimp only
  rw [if_neg inactive]
  refine ⟨rfl, ?_⟩
  split
  · exact .inr ⟨_, rfl, rfl⟩
  · exact .inl rfl

end Contact

/-! ## The house -/

namespace House

variable {plan : Installation} {house : House}

/-- What the defects of the source ask of the rest of the run: a contact that is open in its
first tick begins without an offset, nobody else reports a contact closed that is open while
the other one has not been open before, and the board of the hood does not load its
configuration while a contact is open. -/
def Calm (house : House) : HouseEvent → Prop
  | .tick r => house.fresh r = true → house.offen r = true →
      (house.contact r).config.gruppe &&& 7 = 0
  | .frame f => ∀ r, ReportsClosed f (house.hood.p.config.reedGruppe r) →
      house.hood.p.stateReed r.other = false → house.sampled r ≠ some true
  | .reloadHood => ∀ r, house.sampled r ≠ some true
  | _ => True

/-- The hood is on while the last tick of a contact has read it open. -/
def Ventilates (house : House) : Prop :=
  ∀ r, house.sampled r = some true → house.hood.isOn = true

/-- The ticks of a contact before its next message. -/
def wait (fresh : Bool) (timerCounter : UInt8) : Nat := if fresh then 0 else timerCounter.toNat

/-- The ticks of the hood that may come before the next message of an open contact, and one
more. -/
def need (house : House) (r : Reed) : Nat :=
  wait (house.fresh r) (house.contact r).timerCounter + 2 + (house.ticked r).toNat -
    house.hoodTicked.toNat

/-- What holds in every state of a calm run. -/
structure Invariant (plan : Installation) (house : House) : Prop where
  hoodConfig : house.hood.p.config = plan.hood
  hasPin : house.hood.out.hasPin plan.hood.port = true
  config : ∀ r, (house.contact r).config = plan.contact r
  /-- A contact begins with the offset of its group and stays below five. -/
  offset : ∀ r, house.fresh r = true → (house.contact r).timerCounter = plan.hood.reedGruppe r &&& 7
  low : ∀ r, house.fresh r = false → (house.contact r).timerCounter.toNat ≤ 4
  last : ∀ r, house.fresh r = false → house.sampled r = some (house.contact r).lastState
  closed : ∀ r, house.fresh r = false → (house.contact r).lastState = false →
    (house.contact r).timerCounter = 0
  runs : ∀ r, house.sampled r = some true → house.hood.Runs r (house.need r)

theorem need_le (inv : Invariant plan house) (r : Reed) : house.need r ≤ 7 := by
  have ticked := Bool.toNat_le (house.ticked r)
  have counter : wait (house.fresh r) (house.contact r).timerCounter ≤ 4 := by
    cases fresh : house.fresh r with
    | true => exact Nat.zero_le 4
    | false => exact inv.low r fresh
  unfold need
  omega

theorem need_pos (r : Reed) : 0 < house.need r := by
  have hood := Bool.toNat_le house.hoodTicked
  unfold need
  omega

theorem stale_update {fresh : Reed → Bool} {q r : Reed}
    (stale : Function.update fresh r true q = false) : q ≠ r ∧ fresh q = false := by
  by_cases same : q = r
  · subst same
    rw [Function.update_self] at stale
    exact nomatch stale
  · rw [Function.update_of_ne same] at stale
    exact ⟨same, stale⟩

theorem invariant_boot (plan : Installation) (pin : plan.out.hasPin plan.hood.port = true)
    (offen : Reed → Bool) : Invariant plan (boot plan offen) where
  hoodConfig := rfl
  hasPin := (hasPin_setpin ..).trans pin
  config _ := rfl
  offset r _ := congrArg (· &&& 7) (plan.gruppe r)
  low _ stale := nomatch stale
  last _ stale := nomatch stale
  closed _ stale := nomatch stale
  runs _ sampled := nomatch sampled

/-- The end of a second changes nobody's needs. -/
theorem endSecond_cases (house : House) :
    (house.endSecond = house) ∨
      house.hoodTicked = true ∧ (∀ r, house.ticked r = true) ∧
        house.endSecond = { house with hoodTicked := false, ticked := fun _ => false } := by
  unfold endSecond
  split
  · next all =>
      refine .inr ⟨all.1, fun r => ?_, rfl⟩
      cases r with
      | reed0 => exact all.2.1
      | reed1 => exact all.2.2
  · exact .inl rfl

theorem invariant_endSecond (inv : Invariant plan house) : Invariant plan house.endSecond := by
  rcases endSecond_cases house with same | ⟨hood, contacts, reset⟩
  · rwa [same]
  · rw [reset]
    refine ⟨inv.hoodConfig, inv.hasPin, inv.config, inv.offset, inv.low, inv.last, inv.closed, ?_⟩
    intro r sampled
    have before := inv.runs r sampled
    unfold need at before
    rw [hood, contacts r] at before
    exact before

theorem invariant_tickHood (inv : Invariant plan house) (due : house.hoodTicked = false) :
    Invariant plan { house with hood := house.hood.timerHandler, hoodTicked := true } where
  hoodConfig := (timerHandler_config _).trans inv.hoodConfig
  hasPin := (timerHandler_hasPin ..).trans inv.hasPin
  config := inv.config
  offset := inv.offset
  low := inv.low
  last := inv.last
  closed := inv.closed
  runs r sampled := by
    have before := inv.runs r sampled
    have later : house.need r =
        need { house with hood := house.hood.timerHandler, hoodTicked := true } r + 1 := by
      unfold need
      rw [due, Bool.toNat_false, Bool.toNat_true]
      dsimp only
      omega
    rw [later] at before
    exact timerHandler_runs before (need_pos r)

theorem invariant_frame (inv : Invariant plan house) {f : CanixFrame}
    (calm : house.Calm (.frame f)) :
    Invariant plan { house with hood := house.hood.canCallback f } where
  hoodConfig := (canCallback_config ..).trans inv.hoodConfig
  hasPin := (canCallback_hasPin ..).trans inv.hasPin
  config := inv.config
  offset := inv.offset
  low := inv.low
  last := inv.last
  closed := inv.closed
  runs r sampled := by
    have before := inv.runs r sampled
    refine canCallback_runs before (need_le inv r) (by rw [inv.hoodConfig]; exact inv.hasPin) ?_
    intro q report
    by_contra unknown
    have notOpen := calm q report (Bool.eq_false_iff.mpr unknown)
    -- the open contact is the other one, which the hood knows to have been open
    cases q with
    | reed0 =>
        cases r with
        | reed0 => exact notOpen sampled
        | reed1 => exact unknown before.known
    | reed1 =>
        cases r with
        | reed0 => exact unknown before.known
        | reed1 => exact notOpen sampled

theorem invariant_reloadHood (inv : Invariant plan house) (calm : house.Calm .reloadHood) :
    Invariant plan { house with hood := Hood.init plan.hood house.hood.out } where
  hoodConfig := rfl
  hasPin := (hasPin_setpin ..).trans inv.hasPin
  config := inv.config
  offset := inv.offset
  low := inv.low
  last := inv.last
  closed := inv.closed
  runs r sampled := absurd sampled (calm r)

/-- A contact that is initialised again begins with an offset, but it ticks in each second. -/
theorem invariant_reload (inv : Invariant plan house) (r : Reed) :
    Invariant plan { house with
      contact := Function.update house.contact r
        (reedkontaktInit (fun _ => house.offen r) (plan.contact r))
      fresh := Function.update house.fresh r true } := by
  refine ⟨inv.hoodConfig, inv.hasPin, ?_, ?_, ?_, ?_, ?_, ?_⟩
  · intro q
    by_cases same : q = r
    · subst same
      dsimp only
      rw [Function.update_self]
      rfl
    · dsimp only
      rw [Function.update_of_ne same]
      exact inv.config q
  · intro q fresh
    by_cases same : q = r
    · subst same
      dsimp only
      rw [Function.update_self]
      exact congrArg (· &&& 7) (plan.gruppe q)
    · dsimp only at fresh ⊢
      rw [Function.update_of_ne same] at fresh ⊢
      exact inv.offset q fresh
  · intro q stale
    obtain ⟨same, stale⟩ := stale_update stale
    dsimp only
    rw [Function.update_of_ne same]
    exact inv.low q stale
  · intro q stale
    obtain ⟨same, stale⟩ := stale_update stale
    dsimp only
    rw [Function.update_of_ne same]
    exact inv.last q stale
  · intro q stale
    obtain ⟨same, stale⟩ := stale_update stale
    dsimp only
    rw [Function.update_of_ne same]
    exact inv.closed q stale
  · intro q sampled
    have before := inv.runs q sampled
    refine ⟨before.known, before.on, before.counter.imp_right (Nat.le_trans ?_)⟩
    unfold need
    dsimp only
    by_cases same : q = r
    · subst same
      rw [Function.update_self, show wait true _ = 0 from rfl]
      omega
    · rw [Function.update_of_ne same, Function.update_of_ne same]

theorem reed_eq {q r : Reed} (apart : plan.hood.reedGruppe0 ≠ plan.hood.reedGruppe1)
    (same : plan.hood.reedGruppe q = plan.hood.reedGruppe r) : q = r := by
  cases q with
  | reed0 =>
      cases r with
      | reed0 => rfl
      | reed1 => exact absurd same apart
  | reed1 =>
      cases r with
      | reed0 => exact absurd same.symm apart
      | reed1 => rfl

theorem other_eq {q r : Reed} (differs : q ≠ r) : r.other = q := by
  cases q with
  | reed0 =>
      cases r with
      | reed0 => exact absurd rfl differs
      | reed1 => rfl
  | reed1 =>
      cases r with
      | reed0 => rfl
      | reed1 => exact absurd rfl differs

theorem contact_gruppe (inv : Invariant plan house) (r : Reed) :
    (house.contact r).config.gruppe = plan.hood.reedGruppe r := by
  rw [inv.config, plan.gruppe]

theorem contact_modus (inv : Invariant plan house) (r : Reed) :
    (house.contact r).config.modus = 1 := by rw [inv.config, plan.modus]

/-- The messages of one contact keep the hood on for the other one. -/
theorem tick_other (inv : Invariant plan house)
    (apart : plan.hood.reedGruppe0 ≠ plan.hood.reedGruppe1) {q r : Reed} (differs : q ≠ r)
    {ticks : Nat} (few : ticks ≤ 7) (runs : house.hood.Runs q ticks) :
    ((reedkontaktTimerHandler (plan.self r) (house.offen r) (house.contact r)).2.foldl
      Hood.canCallback house.hood).Runs q ticks := by
  have pin : house.hood.out.hasPin house.hood.p.config.port = true := by
    rw [inv.hoodConfig]
    exact inv.hasPin
  cases offen : house.offen r with
  | true =>
      exact canCallbacks_runs runs few pin
        (reedkontaktTimerHandler_open (plan.self r) (contact_modus inv r)).1
  | false =>
      rcases (reedkontaktTimerHandler_closed (plan.self r) (house.contact r)).2 with
        none_ | ⟨frame, one, own⟩
      · rw [none_]
        exact runs
      · rw [one]
        refine canCallback_runs runs few pin fun reported report => ?_
        have same : plan.hood.reedGruppe reported = plan.hood.reedGruppe r := by
          rw [← contact_gruppe inv r, ← own, report.2.1, inv.hoodConfig]
        rw [reed_eq apart same, other_eq differs]
        exact runs.known

/-- A contact that begins without an offset sends its message in the first tick that reads it
open, and then in every fifth one. -/
theorem tick_own (inv : Invariant plan house)
    (apart : plan.hood.reedGruppe0 ≠ plan.hood.reedGruppe1) {r : Reed}
    (due : house.ticked r = false) (calm : house.Calm (.tick r)) (offen : house.offen r = true) :
    (house.tickContact plan r).hood.Runs r ((house.tickContact plan r).need r) ∧
      ((house.tickContact plan r).contact r).timerCounter.toNat ≤ 4 := by
  have pin : house.hood.out.hasPin house.hood.p.config.port = true := by
    rw [inv.hoodConfig]
    exact inv.hasPin
  obtain ⟨silent, sends⟩ := reedkontaktTimerHandler_open (plan.self r) (contact_modus inv r)
  have need : (house.tickContact plan r).need r =
      (reedkontaktTimerHandler (plan.self r) true (house.contact r)).1.timerCounter.toNat + 3 -
        house.hoodTicked.toNat := by
    unfold House.need tickContact
    dsimp only
    rw [Function.update_self, Function.update_self, Function.update_self, offen]
    rfl
  have contact : (house.tickContact plan r).contact r =
      (reedkontaktTimerHandler (plan.self r) true (house.contact r)).1 := by
    unfold tickContact
    rw [offen]
    exact Function.update_self ..
  have hood : (house.tickContact plan r).hood =
      (reedkontaktTimerHandler (plan.self r) true (house.contact r)).2.foldl Hood.canCallback
        house.hood := by
    unfold tickContact
    rw [offen]
  rw [need, hood, contact]
  by_cases zero : (house.contact r).timerCounter = 0
  · rw [if_pos zero] at sends
    obtain ⟨counter, front, message, order, command, own⟩ := sends
    rw [counter, order, List.foldl_concat]
    refine ⟨?_, Nat.le_refl 4⟩
    have config := canCallbacks_config house.hood front
    have sent : ((front.foldl Hood.canCallback house.hood).canCallback message).Runs r 7 := by
      apply canCallback_offen
      · rw [config, canCallbacks_hasPin]
        exact pin
      · rw [config, inv.hoodConfig]
        exact apart
      · exact command
      · rw [config, own, contact_gruppe inv, inv.hoodConfig]
    exact ⟨sent.known, sent.on, sent.counter.imp_right (Nat.le_trans (Nat.sub_le 7 _))⟩
  · rw [if_neg zero] at sends
    have stale : house.fresh r = false := by
      by_contra fresh
      have fresh := Bool.not_eq_false _ |>.mp fresh
      have start := inv.offset r fresh
      rw [← contact_gruppe inv r, calm fresh offen] at start
      exact zero start
    have less : ((house.contact r).timerCounter - 1).toNat =
        (house.contact r).timerCounter.toNat - 1 := uint8_toNat_pred zero
    have positive : (house.contact r).timerCounter.toNat ≠ 0 :=
      fun none_ => zero (UInt8.toNat_inj.mp none_)
    have open_ : house.sampled r = some true := by
      rw [inv.last r stale]
      by_contra closed
      have closed : (house.contact r).lastState = false := by
        simpa using closed
      exact zero (inv.closed r stale closed)
    have before := inv.runs r open_
    have needed : house.need r =
        (house.contact r).timerCounter.toNat + 2 - house.hoodTicked.toNat := by
      unfold House.need
      rw [stale, due]
      rfl
    rw [needed] at before
    have few : (house.contact r).timerCounter.toNat + 2 - house.hoodTicked.toNat ≤ 7 := by
      have low := inv.low r stale
      omega
    have kept := canCallbacks_runs before few pin silent
    rw [sends, less]
    have low := inv.low r stale
    exact ⟨⟨kept.known, kept.on, kept.counter.imp_right (Nat.le_trans (by omega))⟩, by omega⟩

theorem invariant_tickContact (inv : Invariant plan house)
    (apart : plan.hood.reedGruppe0 ≠ plan.hood.reedGruppe1) {r : Reed}
    (due : house.ticked r = false) (calm : house.Calm (.tick r)) :
    Invariant plan (house.tickContact plan r) := by
  obtain ⟨config, lastState⟩ :=
    reedkontaktTimerHandler_config (plan.self r) (house.offen r) (house.contact r)
  have other : ∀ q, q ≠ r → (house.tickContact plan r).contact q = house.contact q ∧
      (house.tickContact plan r).fresh q = house.fresh q ∧
      (house.tickContact plan r).sampled q = house.sampled q ∧
      (house.tickContact plan r).ticked q = house.ticked q := fun q differs =>
    ⟨Function.update_of_ne differs .., Function.update_of_ne differs ..,
      Function.update_of_ne differs .., Function.update_of_ne differs ..⟩
  have own : (house.tickContact plan r).contact r =
      (reedkontaktTimerHandler (plan.self r) (house.offen r) (house.contact r)).1 ∧
      (house.tickContact plan r).fresh r = false ∧
      (house.tickContact plan r).sampled r = some (house.offen r) :=
    ⟨Function.update_self .., Function.update_self .., Function.update_self ..⟩
  have shut : house.offen r = false →
      ((house.tickContact plan r).contact r).timerCounter = 0 := by
    intro offen
    rw [own.1, offen]
    exact (reedkontaktTimerHandler_closed (plan.self r) (house.contact r)).1
  refine ⟨?_, ?_, fun q => ?_, fun q fresh => ?_, fun q stale => ?_, fun q stale => ?_,
    fun q stale closed => ?_, fun q sampled => ?_⟩
  · exact (canCallbacks_config ..).trans inv.hoodConfig
  · exact (canCallbacks_hasPin ..).trans inv.hasPin
  · by_cases same : q = r
    · subst same
      rw [own.1, config, inv.config]
    · rw [(other q same).1, inv.config]
  · by_cases same : q = r
    · subst same
      rw [own.2.1] at fresh
      exact nomatch fresh
    · rw [(other q same).2.1] at fresh
      rw [(other q same).1, inv.offset q fresh]
  · by_cases same : q = r
    · subst same
      cases offen : house.offen q with
      | true => exact (tick_own inv apart due calm offen).2
      | false =>
          rw [shut offen]
          exact Nat.zero_le 4
    · rw [(other q same).2.1] at stale
      rw [(other q same).1]
      exact inv.low q stale
  · by_cases same : q = r
    · subst same
      rw [own.1, own.2.2, lastState]
    · rw [(other q same).2.1] at stale
      rw [(other q same).1, (other q same).2.2.1]
      exact inv.last q stale
  · by_cases same : q = r
    · subst same
      rw [own.1, lastState] at closed
      exact shut closed
    · rw [(other q same).2.1] at stale
      rw [(other q same).1] at closed ⊢
      exact inv.closed q stale closed
  · by_cases same : q = r
    · subst same
      rw [own.2.2] at sampled
      exact (tick_own inv apart due calm (Option.some.inj sampled)).1
    · obtain ⟨contact, fresh, before, ticked⟩ := other q same
      rw [before] at sampled
      have need : (house.tickContact plan r).need q = house.need q := by
        unfold House.need
        rw [contact, fresh, ticked]
        rfl
      rw [need]
      exact tick_other inv apart same (need_le inv q) (inv.runs q sampled)

/-! ## Runs -/

/-- A run whose every event is calm in the state that it meets. -/
def CalmRun (plan : Installation) : House → List HouseEvent → Prop
  | _, [] => True
  | house, event :: events => house.Calm event ∧ CalmRun plan (house.step plan event) events

theorem invariant_step (inv : Invariant plan house)
    (apart : plan.hood.reedGruppe0 ≠ plan.hood.reedGruppe1) {event : HouseEvent}
    (calm : house.Calm event) : Invariant plan (house.step plan event) := by
  unfold step
  cases event with
  | tickHood =>
      dsimp only
      split
      · exact inv
      · next due => exact invariant_endSecond (invariant_tickHood inv (Bool.eq_false_iff.mpr due))
  | tick r =>
      dsimp only
      split
      · exact inv
      · next due =>
          exact invariant_endSecond
            (invariant_tickContact inv apart (Bool.eq_false_iff.mpr due) calm)
  | move r offen =>
      exact ⟨inv.hoodConfig, inv.hasPin, inv.config, inv.offset, inv.low, inv.last, inv.closed,
        inv.runs⟩
  | frame f => exact invariant_frame inv calm
  | reloadHood => exact invariant_reloadHood inv calm
  | reload r => exact invariant_reload inv r

theorem invariant_run (apart : plan.hood.reedGruppe0 ≠ plan.hood.reedGruppe1)
    (inv : Invariant plan house) {events : List HouseEvent}
    (calm : CalmRun plan house events) : Invariant plan (events.foldl (step plan) house) := by
  induction events generalizing house with
  | nil => exact inv
  | cons event events ih => exact ih (invariant_step inv apart calm.1) calm.2

/-- What no event changes at all. -/
theorem step_hasPin (plan : Installation) (house : House) (event : HouseEvent)
    (config : house.hood.p.config = plan.hood) (n : UInt8) :
    (house.step plan event).hood.p.config = plan.hood ∧
      (house.step plan event).hood.out.hasPin n = house.hood.out.hasPin n := by
  have second : ∀ h : House, h.endSecond.hood = h.hood := by
    intro h
    unfold endSecond
    split <;> rfl
  unfold step
  cases event with
  | tickHood =>
      dsimp only
      split
      · exact ⟨config, rfl⟩
      · rw [second]
        exact ⟨(timerHandler_config _).trans config, timerHandler_hasPin ..⟩
  | tick r =>
      dsimp only
      split
      · exact ⟨config, rfl⟩
      · rw [second]
        exact ⟨(canCallbacks_config ..).trans config, canCallbacks_hasPin ..⟩
  | move r offen => exact ⟨config, rfl⟩
  | frame f => exact ⟨(canCallback_config ..).trans config, canCallback_hasPin ..⟩
  | reloadHood => exact ⟨rfl, hasPin_setpin ..⟩
  | reload r => exact ⟨config, rfl⟩

theorem run_hasPin (plan : Installation) (offen : Reed → Bool) (events : List HouseEvent)
    (n : UInt8) : (run plan offen events).hood.p.config = plan.hood ∧
      (run plan offen events).hood.out.hasPin n = plan.out.hasPin n := by
  induction events using List.reverseRecOn with
  | nil => exact ⟨rfl, hasPin_setpin ..⟩
  | append_singleton events event ih =>
      unfold run at ih ⊢
      rw [List.foldl_concat]
      obtain ⟨config, pin⟩ := step_hasPin plan _ event ih.1 n
      exact ⟨config, pin.trans ih.2⟩

/-- Both contacts are opened after their first tick and one is closed again. -/
def closeOne : List HouseEvent :=
  [.tick .reed0, .tickHood, .tick .reed1, .move .reed0 true, .move .reed1 true, .tick .reed0,
    .tick .reed1, .tickHood, .move .reed1 false, .tick .reed1]

theorem closeOne_calm (plan : Installation) :
    CalmRun plan (boot plan fun _ => false) closeOne := by
  simp [closeOne, CalmRun, Calm, step, boot, tickContact, endSecond]

theorem closeOne_sampled (plan : Installation) :
    (run plan (fun _ => false) closeOne).sampled .reed0 = some true := by
  simp [run, closeOne, step, boot, tickContact, endSecond]

/-- Of two contacts with one group the hood only knows the first. -/
theorem closeOne_off (same : plan.hood.reedGruppe0 = plan.hood.reedGruppe1) :
    (run plan (fun _ => false) closeOne).hood.isOn = false := by
  simp [run, closeOne, step, boot, tickContact, endSecond, reedkontaktTimerHandler,
    reedkontaktInit, plan.modus, plan.gruppe, EdsDunstabzugportBlock.reedGruppe, same, hesFrame,
    hcanHesReedkontaktOffen, hcanHesReedkontaktStateChange, Hood.canCallback, Hood.init,
    Hood.timerHandler, Hood.stateChange, Hood.ein, Hood.aus, Hood.isOn, isOn_setpin_off]

/-- In every calm run the hood is on while a contact has last read open, exactly when the
contacts have different groups and the pin of the hood exists. -/
theorem ventilates_iff (plan : Installation) :
    (∀ offen events, CalmRun plan (boot plan offen) events →
      (run plan offen events).Ventilates) ↔
    plan.hood.reedGruppe0 ≠ plan.hood.reedGruppe1 ∧ plan.out.hasPin plan.hood.port = true := by
  constructor
  · intro all
    have on := all (fun _ => false) closeOne (closeOne_calm plan) .reed0 (closeOne_sampled plan)
    refine ⟨fun same => ?_, ?_⟩
    · rw [closeOne_off same] at on
      exact nomatch on
    · obtain ⟨config, pin⟩ := run_hasPin plan (fun _ => false) closeOne plan.hood.port
      rw [← pin, ← config]
      exact hasPin_of_isOn on
  · rintro ⟨apart, pin⟩ offen events calm r sampled
    exact ((invariant_run apart (invariant_boot plan pin offen) calm).runs r sampled).on

/-- A hood at pin 0 with the groups 1 and 2. -/
def oddGroups : Installation where
  hood := ⟨0, 1, 255, 10, 2⟩
  contact
    | .reed0 => ⟨8, 1, 1, 0⟩
    | .reed1 => ⟨9, 2, 1, 0⟩
  self _ := 5
  out := darlingtonoutputInit (.reset 0 0 0 0)
  gruppe r := by cases r <;> rfl
  modus r := by cases r <;> rfl

/-- A contact that is open at boot reports nothing in its first tick. -/
theorem oddGroups_off : ¬∀ offen events, (run oddGroups offen events).Ventilates := by
  intro all
  have on := all (fun _ => true) [.tick .reed0] .reed0 rfl
  revert on
  decide +kernel

end House

end Hcan.Hauselektrik
