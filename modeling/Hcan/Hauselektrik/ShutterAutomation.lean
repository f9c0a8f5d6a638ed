import Hcan.Hauselektrik.TimeSwitch
import Hcan.Library.Periods

/-!
# The shutter automation

The automation moves its shutter once in a period of its zones.  It remembers its message until an
automatic second outside the zones, so that in a period behind a manual gap it sends nothing.
-/

namespace Hcan.Hauselektrik

open Hcan.Canix Hcan.Controller Hcan.Library Hcan.Library.Nested

variable {mcu : Mcu}

namespace DeviceDataRolladenAutomat

/-- `rolladenAutomat_can_callback`. -/
def canCallback (p : DeviceDataRolladenAutomat) (frame : CanixFrame) : DeviceDataRolladenAutomat :=
  if frame.data[1] = hcanHesPowerGroupOn then
    if frame.data[2] = p.config.automatikEinSchalterGruppe then { p with automatikEin := true }
    else p
  else if frame.data[1] = hcanHesPowerGroupOff then
    if frame.data[2] = p.config.automatikEinSchalterGruppe then { p with automatikEin := false }
    else p
  else if frame.data[1] = hcanHesHelligkeitsInfo then
    if p.config.helligkeitsGruppe ≠ 255 ∧ frame.data[2] = p.config.helligkeitsGruppe then
      { p with brightness := frameWord frame.data[3] frame.data[4] }
    else p
  else p

/-- The message for the shutter. -/
def positionSet (self : UInt16) (config : EdsRolladenAutomatBlock) : CanixFrame :=
  hesFrame self hcanMulticastControl 4 hcanHesRolladenPositionSet config.rolladenGruppe
    config.rolladenSollPosition 0 0 0 0

/-- `sendMessage`. -/
def sendMessage (self : UInt16) (p : DeviceDataRolladenAutomat) :
    DeviceDataRolladenAutomat × List CanixFrame :=
  if p.msgIstVersendet then (p, [])
  else ({ p with msgIstVersendet := true }, [positionSet self p.config])

/-- Some zone of the automation matches. -/
def zeitzoneMatch (matching : UInt8 → Bool) (p : DeviceDataRolladenAutomat) : Bool :=
  p.config.zeitzoneId.toList.any matching

/-- The condition on the brightness; 65535 stands for no message so far. -/
def helligkeitPasst (p : DeviceDataRolladenAutomat) : Bool :=
  if p.config.helligkeitsGruppe = 255 then true
  else if p.brightness ≠ 65535 then
    if p.config.helligkeitswertueberschreitung ≠ 0 then
      decide (p.brightness > p.config.helligkeitsschwelle)
    else decide (p.brightness < p.config.helligkeitsschwelle)
  else false

/-- `rolladenAutomat_timer_handler` with the answers of `zeitzone_matches` and the messages that it
sends. -/
def timerHandler (self : UInt16) (matching : UInt8 → Bool) (p : DeviceDataRolladenAutomat) :
    DeviceDataRolladenAutomat × List CanixFrame :=
  if p.automatikEin = false then (p, [])
  else if p.zeitzoneMatch matching then
    if p.helligkeitPasst then p.sendMessage self else (p, [])
  else ({ p with msgIstVersendet := false }, [])

end DeviceDataRolladenAutomat

/-- The callback on a board is the callback of the automation. -/
theorem rolladenAutomatCanCallback_apply {i : Nat} {p : DeviceDataRolladenAutomat}
    {b : Board mcu} (slot : b.devices[i]? = some (.rolladenAutomat p)) (frame : CanixFrame) :
    rolladenAutomatCanCallback i p frame b =
      some ((), { b with
        devices := b.devices.set i (.rolladenAutomat (p.canCallback frame)) }) := by
  have idle : (pure () : OnBoard mcu Unit) b =
      some ((), { b with devices := b.devices.set i (.rolladenAutomat p) }) := pure_slot slot
  unfold rolladenAutomatCanCallback DeviceDataRolladenAutomat.canCallback
  split
  · split
    · exact poke_apply slot rfl
    · exact idle
  · split
    · split
      · exact poke_apply slot rfl
      · exact idle
    · split
      · split
        · exact poke_apply slot rfl
        · exact idle
      · exact idle

/-- What a second has found and sent. -/
structure ShutterSecond where
  matched : Bool
  automatik : Bool
  helligkeit : Bool
  sent : List CanixFrame
  deriving DecidableEq

namespace ShutterSecond

/-- The automation is on in a zone, and its brightness condition holds. -/
def Due (second : ShutterSecond) : Prop :=
  second.matched = true ∧ second.automatik = true ∧ second.helligkeit = true

/-- An automatic second outside the zones. -/
def Clears (second : ShutterSecond) : Prop := second.matched = false ∧ second.automatik = true

instance decidableDue (second : ShutterSecond) : Decidable second.Due := by
  unfold Due
  infer_instance

end ShutterSecond

/-- The automation with its seconds. -/
structure ShutterRun where
  p : DeviceDataRolladenAutomat
  log : List ShutterSecond

namespace ShutterRun

def init (config : EdsRolladenAutomatBlock) : ShutterRun := ⟨rolladenAutomatInit config, []⟩

/-- The automation also receives what it sends. -/
def step (self : UInt16) (s : ShutterRun) : ZoneCall mcu → ShutterRun
  | .frame frame => { s with p := s.p.canCallback frame }
  | .tick b =>
      let (p, frames) := s.p.timerHandler self (zeitzoneMatches b)
      { p := frames.foldl DeviceDataRolladenAutomat.canCallback p
        log := s.log ++ [⟨s.p.zeitzoneMatch (zeitzoneMatches b), s.p.automatikEin,
          s.p.helligkeitPasst, frames⟩] }

end ShutterRun

/-- The second sends the message for the shutter exactly when it is to act. -/
def SendsIf (self : UInt16) (config : EdsRolladenAutomatBlock) (second : ShutterSecond)
    (acts : Prop) : Prop :=
  (acts → second.sent = [DeviceDataRolladenAutomat.positionSet self config]) ∧
    (¬ acts → second.sent = [])

/-- In a period the shutter is moved in the first second that is due, and in no other one. -/
def ActsOnce (self : UInt16) (config : EdsRolladenAutomatBlock) (period : List ShutterSecond) :
    Prop :=
  ∀ earlier second later, period = earlier ++ second :: later →
    SendsIf self config second (second.Due ∧ ∀ before ∈ earlier, ¬ before.Due)

/-- Between successive due seconds of different periods there is an automatic second outside the
zones. -/
def PeriodsApart (log : List ShutterSecond) : Prop :=
  ∀ front first middle later back, log = front ++ first :: middle ++ later :: back →
    first.Due → later.Due → (∀ second ∈ middle, ¬ second.Due) →
      (∃ second ∈ middle, ¬ second.matched = true) → ∃ second ∈ middle, second.Clears

section Seconds

variable {self : UInt16} {config : EdsRolladenAutomatBlock} {second : ShutterSecond}

theorem sendsIf_iff {acts other : Prop} (sends : SendsIf self config second acts) :
    SendsIf self config second other ↔ (acts ↔ other) := by
  constructor
  · intro too
    by_cases here : acts
    · refine iff_of_true here ?_
      by_contra quiet
      exact List.cons_ne_nil _ _ ((sends.1 here).symm.trans (too.2 quiet))
    · refine iff_of_false here fun there => ?_
      exact List.cons_ne_nil _ _ ((too.1 there).symm.trans (sends.2 here))
  · intro same
    exact ⟨fun there => sends.1 (same.mpr there), fun quiet => sends.2 (mt same.mp quiet)⟩

/-- The flag is a latch, and it decides what is sent. -/
structure Remembers (src : UInt16) (config : EdsRolladenAutomatBlock) (s : ShutterRun) : Prop where
  record : s.p.config = config
  flag : s.p.msgIstVersendet = true ↔ Latched ShutterSecond.Due ShutterSecond.Clears s.log
  sends : ∀ front second back, s.log = front ++ second :: back →
    SendsIf src config second
      (second.Due ∧ ¬ Latched ShutterSecond.Due ShutterSecond.Clears front)

variable {s : ShutterRun}

/-- The periods are as they should be exactly when they are apart. -/
theorem Remembers.actsOnce_iff (remembers : Remembers self config s) :
    (∀ front period back, IsPeriod (fun second => second.matched = true) s.log front period back →
      ActsOnce self config period) ↔ PeriodsApart s.log := by
  refine Iff.trans ?_ latched_imp_iff
  have weak (second : ShutterSecond) (clears : second.Clears) : ¬ second.matched = true :=
    ne_true_of_eq_false clears.1
  constructor
  · intro once front second back cut due latched
    obtain ⟨before, earlier, later, behind, rfl, period⟩ :=
      exists_period (fun second => second.matched = true) front back due.1
    rw [← cut] at period
    have sends := remembers.sends _ _ _ cut
    have acts := (sendsIf_iff sends).mp (once _ _ _ period earlier second later rfl)
    rw [latched_outside (fun _ due => due.1) period.starts fun other member =>
      period.within other (List.mem_append_left _ member)]
    by_contra none
    exact (acts.mpr ⟨due, fun other member due => none ⟨other, member, due⟩⟩).2 latched
  · rintro implies front _ back period earlier second later rfl
    have cut := period.cut
    rw [← List.append_assoc, List.append_assoc _ _ back, List.cons_append] at cut
    refine (sendsIf_iff (remembers.sends _ _ _ cut)).mpr (and_congr_right fun due => ?_)
    have known : Latched ShutterSecond.Due (fun second => ¬ second.matched = true)
        (front ++ earlier) ↔ ∃ other ∈ earlier, other.Due :=
      latched_outside (fun _ due => due.1) period.starts fun other member =>
        period.within other (List.mem_append_left _ member)
    constructor
    · intro fresh other member dueBefore
      exact fresh ((known.mpr ⟨other, member, dueBefore⟩).mono weak)
    · intro first latched
      obtain ⟨other, member, dueBefore⟩ := known.mp (implies _ _ _ cut due latched)
      exact first other member dueBefore

theorem remembers_init : Remembers self config (.init config) := by
  refine ⟨rfl, iff_of_false Bool.false_ne_true not_latched_nil, fun front second back cut => ?_⟩
  exact absurd cut.symm (List.append_ne_nil_of_right_ne_nil front (List.cons_ne_nil second back))

end Seconds

/-! ## What a second does -/

section Steps

variable {self : UInt16} {config : EdsRolladenAutomatBlock} {s : ShutterRun}
  {matching : UInt8 → Bool} {p : DeviceDataRolladenAutomat}

namespace ShutterRun

/-- The second that the handler is in. -/
def second (self : UInt16) (matching : UInt8 → Bool) (p : DeviceDataRolladenAutomat) :
    ShutterSecond where
  matched := p.zeitzoneMatch matching
  automatik := p.automatikEin
  helligkeit := p.helligkeitPasst
  sent := (p.timerHandler self matching).2

theorem canCallback_config (frame : CanixFrame) : (p.canCallback frame).config = p.config := by
  unfold DeviceDataRolladenAutomat.canCallback
  split_ifs <;> rfl

theorem canCallback_flag (frame : CanixFrame) :
    (p.canCallback frame).msgIstVersendet = p.msgIstVersendet := by
  unfold DeviceDataRolladenAutomat.canCallback
  split_ifs <;> rfl

/-- What a second does to the flag and sends. -/
theorem timerHandler_spec (self : UInt16) (matching : UInt8 → Bool)
    (p : DeviceDataRolladenAutomat) :
    (p.timerHandler self matching).1.config = p.config ∧
      ((p.timerHandler self matching).1.msgIstVersendet = true ↔
        (second self matching p).Due ∨
          ¬ (second self matching p).Clears ∧ p.msgIstVersendet = true) ∧
      SendsIf self p.config (second self matching p)
        ((second self matching p).Due ∧ ¬ p.msgIstVersendet = true) := by
  unfold second SendsIf ShutterSecond.Due ShutterSecond.Clears
  cases automatik : p.automatikEin <;> cases matched : p.zeitzoneMatch matching <;>
    cases passt : p.helligkeitPasst <;> cases sent : p.msgIstVersendet <;>
    simp [DeviceDataRolladenAutomat.timerHandler, DeviceDataRolladenAutomat.sendMessage,
      automatik, matched, passt, sent]

/-- The automation ignores its message for the shutter. -/
theorem canCallback_positionSet (q : DeviceDataRolladenAutomat) :
    q.canCallback (DeviceDataRolladenAutomat.positionSet self config) = q := by
  have command : (DeviceDataRolladenAutomat.positionSet self config).data[1] =
      hcanHesRolladenPositionSet := rfl
  unfold DeviceDataRolladenAutomat.canCallback
  rw [command, if_neg (by decide), if_neg (by decide), if_neg (by decide)]

theorem step_tick_p (b : Board mcu) :
    (s.step self (.tick b)).p = (s.p.timerHandler self (zeitzoneMatches b)).1 := by
  obtain ⟨-, -, acts, rests⟩ := timerHandler_spec self (zeitzoneMatches b) s.p
  change (second self (zeitzoneMatches b) s.p).sent.foldl DeviceDataRolladenAutomat.canCallback
    (s.p.timerHandler self (zeitzoneMatches b)).1 = _
  by_cases here : (second self (zeitzoneMatches b) s.p).Due ∧ ¬ s.p.msgIstVersendet = true
  · rw [acts here, List.foldl_cons, List.foldl_nil, canCallback_positionSet]
  · rw [rests here, List.foldl_nil]

theorem remembers_step (remembers : Remembers self config s) (call : ZoneCall mcu) :
    Remembers self config (s.step self call) := by
  cases call with
  | frame frame =>
      refine ⟨(canCallback_config frame).trans remembers.record, ?_, remembers.sends⟩
      change (s.p.canCallback frame).msgIstVersendet = true ↔ _
      rw [canCallback_flag]
      exact remembers.flag
  | tick b =>
      have log : (s.step self (.tick b)).log = s.log ++ [second self (zeitzoneMatches b) s.p] := rfl
      obtain ⟨record, flag, sends⟩ := timerHandler_spec self (zeitzoneMatches b) s.p
      refine ⟨?_, ?_, fun front here back cut => ?_⟩
      · rw [step_tick_p]
        exact record.trans remembers.record
      · rw [step_tick_p, log, latched_snoc, ← remembers.flag]
        exact flag
      · rw [log] at cut
        obtain rfl | ⟨later, last, rfl⟩ := back.eq_nil_or_concat'
        · obtain ⟨rfl, same⟩ := List.append_inj' cut rfl
          cases same
          rw [← remembers.flag, ← remembers.record]
          exact sends
        · rw [← List.cons_append, ← List.append_assoc] at cut
          exact remembers.sends _ _ _ (List.append_inj' cut rfl).1

end ShutterRun

end Steps

/-- In a run from the initialisation the shutter is moved once in each period exactly when the
periods in which it is due are apart. -/
theorem shutter_actsOnce_iff (self : UInt16) (config : EdsRolladenAutomatBlock)
    (calls : List (ZoneCall mcu)) :
    (∀ front period back, IsPeriod (fun second => second.matched = true)
        (runAll (ShutterRun.step self) (.init config) calls).log front period back →
      ActsOnce self config period) ↔
    PeriodsApart (runAll (ShutterRun.step self) (.init config) calls).log :=
  (runAll_invariant (Remembers self config) remembers_init
    fun _ call remembers => ShutterRun.remembers_step remembers call).actsOnce_iff

/-- A shutter that is moved when its zone begins. -/
def bedroom : EdsRolladenAutomatBlock where
  rolladenGruppe := 30
  rolladenSollPosition := 0
  automatikEinSchalterGruppe := 21
  feature := 0
  zeitzoneId := ⟨#[3, 255], rfl⟩
  helligkeitsGruppe := 255
  helligkeitsschwelle := 0
  helligkeitswertueberschreitung := 0

/-- A day with the zone, a manual evening and the zone of the next day. -/
def bedroomDays : List (ZoneCall atmega32) :=
  [.tick (fountainBoard 12), fountainMode hcanHesPowerGroupOff, .tick (fountainBoard 20),
    fountainMode hcanHesPowerGroupOn, .tick (fountainBoard 12)]

/-- Behind a manual evening the shutter is not moved in the zone of the next day. -/
theorem bedroom_staysUp :
    ∃ front period back, IsPeriod (fun second => second.matched = true)
        (runAll (ShutterRun.step 5) (.init bedroom) bedroomDays).log front period back ∧
      ¬ ActsOnce 5 bedroom period := by
  let moved : ShutterSecond := ⟨true, true, true, [DeviceDataRolladenAutomat.positionSet 5 bedroom]⟩
  let evening : ShutterSecond := ⟨false, false, true, []⟩
  let missed : ShutterSecond := ⟨true, true, true, []⟩
  refine ⟨[moved, evening], [missed], [], ⟨by decide +kernel, ?_, ?_, ?_⟩, fun once => ?_⟩
  · exact fun second member => List.mem_singleton.mp member ▸ rfl
  · exact fun second last => Option.some.inj last ▸ Bool.false_ne_true
  · exact fun second none => absurd none (Option.not_mem_none _)
  · have sends := (once [] missed [] rfl).1 ⟨⟨rfl, rfl, rfl⟩, fun _ none =>
      absurd none List.not_mem_nil⟩
    exact List.cons_ne_nil _ _ sends.symm

end Hcan.Hauselektrik
