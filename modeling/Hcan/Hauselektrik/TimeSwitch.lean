import Hcan.Hauselektrik.WriteFrames
import Hcan.Library.Machine

/-!
# The time switch

The state of the switch is that of the schedule.  In manual mode the switch sends its group off and
leaves the state, so that the group stays off behind the manual mode as long as the zone lasts and
no update is due.
-/

namespace Hcan.Hauselektrik

open Hcan.Canix Hcan.Controller Hcan.Library Hcan.Library.Nested

variable {mcu : Mcu}

/-- A call of the frame callback, or a second with the zones and the clock of the board. -/
inductive ZoneCall (mcu : Mcu) where
  | frame (frame : CanixFrame)
  | tick (b : Board mcu)

def zeitschaltuhrUpdateInterval : UInt16 := 173

namespace DeviceDataZeitschaltuhr

/-- `zeitschaltuhr_can_callback`. -/
def canCallback (p : DeviceDataZeitschaltuhr) (frame : CanixFrame) : DeviceDataZeitschaltuhr :=
  if frame.data[1] = hcanHesPowerGroupOn then
    if frame.data[2] = p.config.automatikEinSchalterGruppe then { p with automatikEin := true }
    else p
  else if frame.data[1] = hcanHesPowerGroupOff then
    if frame.data[2] = p.config.automatikEinSchalterGruppe then { p with automatikEin := false }
    else p
  else p

/-- The message of `sendMessage`. -/
def message (self : UInt16) (p : DeviceDataZeitschaltuhr) (zustandToSend : UInt8) : CanixFrame :=
  hesFrame self hcanMulticastControl 3 zustandToSend p.config.powerGruppe 0 0 0 0 0

/-- The command for a state of the group. -/
def zustand (state : Bool) : UInt8 := if state then hcanHesPowerGroupOn else hcanHesPowerGroupOff

/-- Some zone of the switch matches. -/
def zeitzoneFound (matching : UInt8 → Bool) (p : DeviceDataZeitschaltuhr) : Bool :=
  p.config.zeitzoneId.toList.any matching

/-- The updates at the end of `zeitschaltuhr_timer_handler`. -/
def update (self : UInt16) (p : DeviceDataZeitschaltuhr) :
    DeviceDataZeitschaltuhr × List CanixFrame :=
  if p.updateCounter = 0 then
    ({ p with updateCounter := zeitschaltuhrUpdateInterval - 1 }, [p.message self (zustand p.state)])
  else ({ p with updateCounter := p.updateCounter - 1 }, [])

/-- `zeitschaltuhr_timer_handler` with the answers of `zeitzone_matches` and the messages that it
sends. -/
def timerHandler (self : UInt16) (matching : UInt8 → Bool) (p : DeviceDataZeitschaltuhr) :
    DeviceDataZeitschaltuhr × List CanixFrame :=
  if p.automatikEin = false then (p, [p.message self hcanHesPowerGroupOff])
  else if p.state = false then
    if p.zeitzoneFound matching = true then
      ({ p with state := true }, [p.message self hcanHesPowerGroupOn])
    else p.update self
  else if p.zeitzoneFound matching = false then
    ({ p with state := false }, [p.message self hcanHesPowerGroupOff])
  else p.update self

end DeviceDataZeitschaltuhr

theorem pure_slot {i : Nat} {device : Device} {b : Board mcu} (slot : b.devices[i]? = some device) :
    (pure () : OnBoard mcu Unit) b = some ((), { b with devices := b.devices.set i device }) := by
  rw [set_self slot]
  rfl

/-- The callback on a board is the callback of the switch. -/
theorem zeitschaltuhrCanCallback_apply {i : Nat} {p : DeviceDataZeitschaltuhr} {b : Board mcu}
    (slot : b.devices[i]? = some (.zeitschaltuhr p)) (frame : CanixFrame) :
    zeitschaltuhrCanCallback i p frame b =
      some ((), { b with devices := b.devices.set i (.zeitschaltuhr (p.canCallback frame)) }) := by
  have idle : (pure () : OnBoard mcu Unit) b =
      some ((), { b with devices := b.devices.set i (.zeitschaltuhr p) }) := pure_slot slot
  unfold zeitschaltuhrCanCallback DeviceDataZeitschaltuhr.canCallback
  split
  · split
    · exact poke_apply slot rfl
    · exact idle
  · split
    · split
      · exact poke_apply slot rfl
      · exact idle
    · exact idle

/-- The switch with what it has sent. -/
structure TimeSwitch where
  p : DeviceDataZeitschaltuhr
  sent : List CanixFrame
  /-- Behind an automatic second: some zone has matched in it. -/
  scheduled : Option Bool

namespace TimeSwitch

def init (config : EdsZeitschaltuhrBlock) : TimeSwitch := ⟨zeitschaltuhrInit config, [], none⟩

/-- The switch also receives what it sends. -/
def step (self : UInt16) (s : TimeSwitch) : ZoneCall mcu → TimeSwitch
  | .frame frame => { s with p := s.p.canCallback frame }
  | .tick b =>
      let (p, frames) := s.p.timerHandler self (zeitzoneMatches b)
      { p := frames.foldl .canCallback p
        sent := s.sent ++ frames
        scheduled :=
          if s.p.automatikEin then some (s.p.zeitzoneFound (zeitzoneMatches b)) else none }

/-- The command that the group has been sent last. -/
def command (s : TimeSwitch) : Option UInt8 := s.sent.getLast?.map fun frame => frame.data[1]

/-- Behind an automatic second the last command is that of the schedule. -/
def Follows (s : TimeSwitch) : Prop :=
  ∀ found ∈ s.scheduled, ∀ command ∈ s.command, command = hcanHesPowerGroupOn ↔ found = true

/-- No automatic second that follows a manual one finds a zone for a switch that is on already and
sends no update. -/
def Fits (s : TimeSwitch) : ZoneCall mcu → Prop
  | .frame _ => True
  | .tick b => s.scheduled = none → s.p.automatikEin = true → s.p.state = true →
      s.p.zeitzoneFound (zeitzoneMatches b) = true → s.p.updateCounter = 0

/-! ## What a second does -/

section Steps

variable {self : UInt16} {s : TimeSwitch} {matching : UInt8 → Bool} {p : DeviceDataZeitschaltuhr}

/-- The command of a second. -/
def ordered (matching : UInt8 → Bool) (p : DeviceDataZeitschaltuhr) : Option UInt8 :=
  if p.automatikEin = false then some hcanHesPowerGroupOff
  else if p.state ≠ p.zeitzoneFound matching ∨ p.updateCounter = 0 then
    some (DeviceDataZeitschaltuhr.zustand (p.zeitzoneFound matching))
  else none

theorem timerHandler_sent :
    (p.timerHandler self matching).2 = (ordered matching p).toList.map (p.message self) := by
  unfold DeviceDataZeitschaltuhr.timerHandler DeviceDataZeitschaltuhr.update ordered
  cases p.automatikEin with
  | false => rfl
  | true =>
      cases state : p.state <;> cases found : p.zeitzoneFound matching <;>
        by_cases due : p.updateCounter = 0 <;> simp [due, DeviceDataZeitschaltuhr.zustand]

theorem update_config : (p.update self).1.config = p.config := by
  unfold DeviceDataZeitschaltuhr.update
  by_cases due : p.updateCounter = 0
  · simp only [if_pos due]
  · simp only [if_neg due]

theorem timerHandler_config : (p.timerHandler self matching).1.config = p.config := by
  unfold DeviceDataZeitschaltuhr.timerHandler
  split
  · rfl
  · split
    · split
      · rfl
      · exact update_config
    · split
      · rfl
      · exact update_config

theorem timerHandler_state : (p.timerHandler self matching).1.state =
    if p.automatikEin then p.zeitzoneFound matching else p.state := by
  unfold DeviceDataZeitschaltuhr.timerHandler DeviceDataZeitschaltuhr.update
  cases p.automatikEin with
  | false => rfl
  | true =>
      cases state : p.state <;> cases found : p.zeitzoneFound matching <;>
        by_cases due : p.updateCounter = 0 <;> simp [due]

/-- Commands for another group than that of the mode switch change nothing. -/
theorem canCallback_message (apart : p.config.powerGruppe ≠ p.config.automatikEinSchalterGruppe)
    {q : DeviceDataZeitschaltuhr} (same : q.config = p.config) (zustandToSend : UInt8) :
    q.canCallback (p.message self zustandToSend) = q := by
  have other : (p.message self zustandToSend).data[2] ≠ q.config.automatikEinSchalterGruppe := by
    rw [same]
    exact apart
  unfold DeviceDataZeitschaltuhr.canCallback
  rw [if_neg other, if_neg other, ite_self, ite_self]

theorem canCallback_config (frame : CanixFrame) : (p.canCallback frame).config = p.config := by
  unfold DeviceDataZeitschaltuhr.canCallback
  split_ifs <;> rfl

theorem canCallback_state (frame : CanixFrame) : (p.canCallback frame).state = p.state := by
  unfold DeviceDataZeitschaltuhr.canCallback
  split_ifs <;> rfl

theorem step_tick_p (apart : s.p.config.powerGruppe ≠ s.p.config.automatikEinSchalterGruppe)
    (b : Board mcu) :
    (s.step self (.tick b)).p = (s.p.timerHandler self (zeitzoneMatches b)).1 := by
  change (s.p.timerHandler self (zeitzoneMatches b)).2.foldl
    DeviceDataZeitschaltuhr.canCallback _ = _
  rw [timerHandler_sent, List.foldl_map]
  exact List.foldl_fixed' (fun zustandToSend =>
    canCallback_message apart timerHandler_config zustandToSend) _

theorem step_tick_command (b : Board mcu) :
    (s.step self (.tick b)).command = (ordered (zeitzoneMatches b) s.p).or s.command := by
  change ((s.sent ++ (s.p.timerHandler self (zeitzoneMatches b)).2).getLast?.map _) = _
  rw [timerHandler_sent]
  cases ordered (zeitzoneMatches b) s.p with
  | none => rw [Option.toList_none, List.map_nil, List.append_nil, Option.none_or]; rfl
  | some command =>
      rw [Option.toList_some, List.map_singleton, List.getLast?_concat, Option.some_or]
      rfl

/-- What the state of the switch says about the last command. -/
structure Consistent (config : EdsZeitschaltuhrBlock) (s : TimeSwitch) : Prop where
  record : s.p.config = config
  off : s.p.state = false → s.command ≠ some hcanHesPowerGroupOn
  on : s.p.state = true → s.scheduled ≠ none → s.command = some hcanHesPowerGroupOn
  paused : s.p.state = true → s.scheduled = none → s.command = some hcanHesPowerGroupOff
  follows : s.Follows

variable {config : EdsZeitschaltuhrBlock}

theorem consistent_init : Consistent config (init config) :=
  ⟨rfl, fun _ => (Option.some_ne_none _).symm, Bool.noConfusion, Bool.noConfusion,
    fun _ scheduled => absurd scheduled (Option.not_mem_none _)⟩

theorem follows_manual (manual : s.p.automatikEin = false) (b : Board mcu) :
    (s.step self (.tick b)).Follows := by
  intro found inside
  change found ∈ (if s.p.automatikEin then _ else none) at inside
  rw [manual] at inside
  exact absurd inside (Option.not_mem_none _)

theorem follows_automatic (automatik : s.p.automatikEin = true) (b : Board mcu) :
    (s.step self (.tick b)).Follows ↔ ∀ command ∈ (s.step self (.tick b)).command,
      command = hcanHesPowerGroupOn ↔ s.p.zeitzoneFound (zeitzoneMatches b) = true := by
  have scheduled : (s.step self (.tick b)).scheduled =
      some (s.p.zeitzoneFound (zeitzoneMatches b)) := if_pos automatik
  unfold Follows
  rw [scheduled]
  exact ⟨fun follows => follows _ rfl, fun follows _ same => Option.some.inj same ▸ follows⟩

theorem zustand_on_iff {state : Bool} :
    DeviceDataZeitschaltuhr.zustand state = hcanHesPowerGroupOn ↔ state = true := by
  cases state <;> decide

/-- A second leaves the last command that of the schedule exactly when it fits. -/
theorem follows_step_iff (consistent : Consistent config s) (call : ZoneCall mcu) :
    (s.step self call).Follows ↔ s.Fits call := by
  cases call with
  | frame frame => exact iff_of_true consistent.follows trivial
  | tick b =>
      cases automatik : s.p.automatikEin with
      | false =>
          refine iff_of_true (follows_manual automatik b) fun _ on => ?_
          rw [automatik] at on
          cases on
      | true =>
          rw [follows_automatic automatik, step_tick_command]
          unfold ordered
          rw [automatik, if_neg Bool.true_eq_false.mp]
          by_cases orders : s.p.state ≠ s.p.zeitzoneFound (zeitzoneMatches b) ∨
              s.p.updateCounter = 0
          · rw [if_pos orders, Option.some_or]
            refine iff_of_true (fun command inside => ?_) fun _ _ on found => ?_
            · rw [← Option.some.inj inside]
              exact zustand_on_iff
            · exact orders.resolve_left (not_not.mpr (on.trans found.symm))
          · obtain ⟨same, waits⟩ := not_or.mp orders
            rw [if_neg orders, Option.none_or, ← not_not.mp same]
            cases state : s.p.state with
            | false =>
                refine iff_of_true (fun command inside => ?_) fun _ _ on => ?_
                · refine iff_of_false ?_ Bool.false_ne_true
                  rintro rfl
                  exact consistent.off state inside
                · rw [state] at on
                  cases on
            | true =>
                cases scheduled : s.scheduled with
                | none =>
                    have off := consistent.paused state scheduled
                    refine iff_of_false (fun follows => ?_) fun fits => ?_
                    · exact absurd ((follows _ off).mpr rfl) (by decide)
                    · exact waits (fits scheduled automatik state (not_not.mp same ▸ state))
                | some found =>
                    have on := consistent.on state (scheduled ▸ Option.some_ne_none found)
                    refine iff_of_true (fun command inside => ?_) fun none => ?_
                    · rw [on] at inside
                      exact iff_of_true (Option.some.inj inside).symm rfl
                    · exact absurd (scheduled.symm.trans none) (Option.some_ne_none found)

/-- A switch that is on has sent a command. -/
theorem step_command_some (consistent : Consistent config s) (automatik : s.p.automatikEin = true)
    {b : Board mcu} (found : s.p.zeitzoneFound (zeitzoneMatches b) = true) :
    ∃ last, (s.step self (.tick b)).command = some last := by
  rw [step_tick_command, ordered, automatik, if_neg Bool.true_eq_false.mp]
  by_cases orders : s.p.state ≠ s.p.zeitzoneFound (zeitzoneMatches b) ∨ s.p.updateCounter = 0
  · rw [if_pos orders, Option.some_or]
    exact ⟨_, rfl⟩
  · have on : s.p.state = true := (not_not.mp (not_or.mp orders).1).trans found
    rw [if_neg orders, Option.none_or]
    cases scheduled : s.scheduled with
    | none => exact ⟨_, consistent.paused on scheduled⟩
    | some _ => exact ⟨_, consistent.on on (scheduled ▸ Option.some_ne_none _)⟩

theorem consistent_step (apart : config.powerGruppe ≠ config.automatikEinSchalterGruppe)
    (consistent : Consistent config s) {call : ZoneCall mcu} (fits : s.Fits call) :
    Consistent config (s.step self call) := by
  have follows : (s.step self call).Follows := (follows_step_iff consistent call).mpr fits
  cases call with
  | frame frame =>
      have state : (s.p.canCallback frame).state = s.p.state := canCallback_state frame
      exact ⟨(canCallback_config frame).trans consistent.record,
        fun off => consistent.off (state.symm.trans off),
        fun on => consistent.on (state.symm.trans on),
        fun on => consistent.paused (state.symm.trans on), follows⟩
  | tick b =>
      rw [consistent.record.symm] at apart
      have command : (s.step self (.tick b)).command = _ := step_tick_command b
      have state : (s.step self (.tick b)).p.state = _ :=
        (congrArg DeviceDataZeitschaltuhr.state (step_tick_p apart b)).trans timerHandler_state
      have record : (s.step self (.tick b)).p.config = _ :=
        (congrArg DeviceDataZeitschaltuhr.config (step_tick_p apart b)).trans timerHandler_config
      cases automatik : s.p.automatikEin with
      | false =>
          have off : (s.step self (.tick b)).command = some hcanHesPowerGroupOff := by
            rw [command, ordered, if_pos automatik, Option.some_or]
          have unplanned : (s.step self (.tick b)).scheduled = none :=
            if_neg (ne_true_of_eq_false automatik)
          refine ⟨record.trans consistent.record, fun _ => ?_, fun _ planned => ?_, fun _ _ => off,
            follows⟩
          · rw [off]
            decide
          · exact absurd unplanned planned
      | true =>
          have planned : (s.step self (.tick b)).scheduled =
              some (s.p.zeitzoneFound (zeitzoneMatches b)) := if_pos automatik
          have told := (follows_automatic automatik b).mp follows
          rw [automatik, if_pos rfl] at state
          refine ⟨record.trans consistent.record, fun off on => ?_, fun on _ => ?_,
            fun _ none => ?_, follows⟩
          · exact Bool.false_ne_true (off.symm.trans (state.trans ((told _ on).mp rfl)))
          · obtain ⟨last, sent⟩ := step_command_some consistent automatik (state.symm.trans on)
            rw [sent, (told last sent).mpr (state.symm.trans on)]
          · exact absurd (planned.symm.trans none) (Option.some_ne_none _)

end Steps

end TimeSwitch

/-- In a run from the initialisation the group is commanded as scheduled exactly when no automatic
second behind a manual one finds the switch on in a zone without an update. -/
theorem timeSwitch_follows_iff (self : UInt16) (config : EdsZeitschaltuhrBlock)
    (apart : config.powerGruppe ≠ config.automatikEinSchalterGruppe)
    (calls : List (ZoneCall mcu)) :
    AlwaysHolds (TimeSwitch.step self) TimeSwitch.Follows (.init config) calls ↔
      AlwaysFits (TimeSwitch.step self) TimeSwitch.Fits (.init config) calls :=
  alwaysHolds_part_iff (TimeSwitch.Consistent config) TimeSwitch.consistent_init
    (fun _ consistent => consistent.follows)
    (fun _ call consistent => TimeSwitch.follows_step_iff consistent call)
    fun _ _ consistent fits => TimeSwitch.consistent_step apart consistent fits

/-- A switch with a zone. -/
def fountain : EdsZeitschaltuhrBlock where
  powerGruppe := 20
  automatikEinSchalterGruppe := 21
  zeitzoneId := ⟨#[3, 255, 255, 255, 255, 255, 255, 255], rfl⟩

/-- A board on which the zone lasts from eight to six, at a full hour. -/
def fountainBoard (hour : UInt8) : Board atmega32 where
  devices := [.zeitschaltuhr (zeitschaltuhrInit fountain), .zeitzone ⟨⟨3, 0x7f, 8, 0, 18, 0⟩, 0⟩]
  ramUsage := 0
  out := .reset 0 0 0 0
  tasterport _ := false
  eeprom := .powerUp fun _ => 255
  clock := ⟨1, hour, 0, 0, 1, 1, 8⟩
  sent := []

/-- A frame of the mode switch. -/
def fountainMode (command : UInt8) : ZoneCall atmega32 :=
  .frame (hesFrame 7 hcanMulticastControl 3 command 21 0 0 0 0 0)

/-- The group follows the zone through a day with a manual second, behind which the zone is
over. -/
theorem fountain_on :
    AlwaysHolds (TimeSwitch.step 5) TimeSwitch.Follows (.init fountain)
      [.tick (fountainBoard 7), .tick (fountainBoard 12), fountainMode hcanHesPowerGroupOff,
        .tick (fountainBoard 13), fountainMode hcanHesPowerGroupOn, .tick (fountainBoard 20),
        .tick (fountainBoard 9)] := by
  refine (timeSwitch_follows_iff 5 fountain (by decide) _).mpr ?_
  refine alwaysFits_cons.mpr ⟨fun _ _ on => ?_, alwaysFits_cons.mpr ⟨fun manual => ?_,
    alwaysFits_cons.mpr ⟨trivial, alwaysFits_cons.mpr ⟨fun manual => ?_,
      alwaysFits_cons.mpr ⟨trivial, alwaysFits_cons.mpr ⟨fun _ _ _ found => ?_,
        alwaysFits_cons.mpr ⟨fun manual => ?_, alwaysFits_nil⟩⟩⟩⟩⟩⟩⟩
  · cases on
  · exact absurd manual (by decide +kernel)
  · exact absurd manual (by decide +kernel)
  · exact absurd found (by decide +kernel)
  · exact absurd manual (by decide +kernel)

/-- Behind a pause of the automatic mode the group stays off in its zone. -/
theorem fountain_staysOff :
    fountain.powerGruppe ≠ fountain.automatikEinSchalterGruppe ∧
      ¬ AlwaysHolds (TimeSwitch.step 5) TimeSwitch.Follows (.init fountain)
        [.tick (fountainBoard 12), fountainMode hcanHesPowerGroupOff, .tick (fountainBoard 13),
          fountainMode hcanHesPowerGroupOn, .tick (fountainBoard 14)] := by
  refine ⟨by decide, fun always => ?_⟩
  have told := always _ List.prefix_rfl true (by decide +kernel) hcanHesPowerGroupOff
    (by decide +kernel)
  exact absurd (told.mpr rfl) (by decide)

end Hcan.Hauselektrik
