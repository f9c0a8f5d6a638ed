import Hcan.Controller.Priority

/-!
# Starting from an end

A press starts a standing shutter against the direction of its last drive, wherever it stands.
This leads away from the end that the last drive went to; behind a start of the firmware the
shutter stands at the top, and without a drive it starts upwards.
-/

namespace Hcan.Controller

open Hcan.Canix Hcan.Library

def RolladenDir.opposite : RolladenDir → RolladenDir
  | .auf => .ab
  | .ab => .auf

/-- The ticks from the press until the drive is on its way. -/
def RolladenDir.startTicks : RolladenDir → Nat
  | .auf => 4
  | .ab => 6

/-- The state of a drive on its way. -/
def RolladenDir.drives : RolladenDir → RolladenState
  | .auf => .auf
  | .ab => .ab

/-- The states before it. -/
def RolladenDir.Prepares : RolladenDir → RolladenState → Prop
  | .auf, state => state = .aufWait
  | .ab, state => state = .abWait1 ∨ state = .abWait2

/-- `Starting dir k state command wait`: `k` ticks behind the press. -/
inductive Starting : RolladenDir → Nat → RolladenState → RolladenCommand → Nat → Prop where
  | placedAuf (wait) : Starting .auf 0 .stop .auf wait
  | placedAb (wait) : Starting .ab 0 .stop .ab wait
  | aufWait (command) {k wait : Nat} (more : 0 < wait) (left : k + wait = 4) (started : 0 < k) :
      Starting .auf k .aufWait command wait
  | auf (command wait) : Starting .auf 4 .auf command wait
  | abWait1 (command) {k wait : Nat} (more : 0 < wait) (left : k + wait = 3) (started : 0 < k) :
      Starting .ab k .abWait1 command wait
  | abWait2 (command) {k wait : Nat} (more : 0 < wait) (left : k + wait = 6) (started : 3 ≤ k) :
      Starting .ab k .abWait2 command wait
  | ab (command wait) : Starting .ab 6 .ab command wait

namespace Starting

variable {dir : RolladenDir} {k wait nextWait : Nat} {state next : RolladenState}
  {command : RolladenCommand} {action : RelayAction}

theorem prepares (starting : Starting dir k state command wait) (started : 0 < k)
    (more : k < dir.startTicks) : dir.Prepares state := by
  cases starting with
  | placedAuf _ => exact absurd started (lt_irrefl 0)
  | placedAb _ => exact absurd started (lt_irrefl 0)
  | aufWait _ _ _ _ => rfl
  | auf _ _ => exact absurd more (lt_irrefl 4)
  | abWait1 _ _ _ _ => exact .inl rfl
  | abWait2 _ _ _ _ => exact .inr rfl
  | ab _ _ => exact absurd more (lt_irrefl 6)

theorem drives (starting : Starting dir dir.startTicks state command wait) :
    state = dir.drives := by
  generalize due : dir.startTicks = k at starting
  cases starting with
  | placedAuf _ => exact absurd due (by decide)
  | placedAb _ => exact absurd due (by decide)
  | aufWait _ more left _ =>
      have four : 4 = k := due
      omega
  | auf _ _ => rfl
  | abWait1 _ more left _ =>
      have six : 6 = k := due
      omega
  | abWait2 _ more left _ =>
      have six : 6 = k := due
      omega
  | ab _ _ => rfl

/-- A tick; the commands that come meanwhile are not looked at. -/
theorem tick (starting : Starting dir k state command wait) (more : k < dir.startTicks)
    (transition : Transition state command (wait - 1) action next nextWait)
    (later : RolladenCommand) : Starting dir (k + 1) next later nextWait := by
  generalize counted : wait - 1 = w at transition
  cases starting with
  | placedAuf _ =>
      cases transition with
      | waiting _ _ waits _ => exact waits.elim
      | staying _ _ _ _ idle => exact absurd (.inl rfl) idle
      | startAuf _ => exact .aufWait later (by decide) rfl (by decide)
  | placedAb _ =>
      cases transition with
      | waiting _ _ waits _ => exact waits.elim
      | staying _ _ _ _ idle => exact absurd (.inr rfl) idle
      | startAb _ => exact .abWait1 later (by decide) rfl (by decide)
  | aufWait _ positive left started =>
      cases transition with
      | waiting _ _ _ _ => exact .aufWait later (by omega) (by omega) (Nat.succ_pos k)
      | staying _ _ _ ready _ => exact absurd trivial ready
      | runsAuf _ =>
          have last : k = 3 := by omega
          subst last
          exact .auf later 0
  | auf _ _ => exact absurd more (lt_irrefl 4)
  | abWait1 _ positive left started =>
      cases transition with
      | waiting _ _ _ _ => exact .abWait1 later (by omega) (by omega) (Nat.succ_pos k)
      | staying _ _ _ ready _ => exact absurd trivial ready
      | powerAb _ => exact .abWait2 later (by decide) (by omega) (by omega)
  | abWait2 _ positive left started =>
      cases transition with
      | waiting _ _ _ _ => exact .abWait2 later (by omega) (by omega) (by omega)
      | staying _ _ _ ready _ => exact absurd trivial ready
      | runsAb _ =>
          have last : k = 5 := by omega
          subst last
          exact .ab later 0
  | ab _ _ => exact absurd more (lt_irrefl 6)

end Starting

/-- A release of the own push-button. -/
def ReleasesTaster (p : DeviceDataRolladen) (frame : CanixFrame) : Prop :=
  frame.data[1] = hcanHesTasterUp ∧ frame.data[2] = p.config.taster

/-- The shutter `k` ticks behind the press, with the release behind `held` ticks. -/
def pressedFor (byZero : Int → Int) (self : UInt16) (press release : CanixFrame) (held k : Nat)
    (s : RolladenSystem) : RolladenSystem :=
  let pressed := s.after byZero self (.frame press)
  if k < held then pressed.ticks byZero self k
  else ((pressed.ticks byZero self held).after byZero self (.frame release)).ticks byZero self
    (k - held)

/-- A press and a release, in whatever time, start a drive. -/
def StartsDrive (byZero : Int → Int) (self : UInt16) (dir : RolladenDir) (s : RolladenSystem) :
    Prop :=
  ∀ press release held, PressesTaster s.device press → ReleasesTaster s.device release →
    (∀ k, 0 < k → k < dir.startTicks →
      dir.Prepares (pressedFor byZero self press release held k s).device.lowlevelState) ∧
    (pressedFor byZero self press release held dir.startTicks s).device.lowlevelState = dir.drives

section Press

variable (byZero : Int → Int) (self : UInt16) {s : RolladenSystem} {dir : RolladenDir}

/-- The shutter is `k` ticks behind its start. -/
def StartingSystem (dir : RolladenDir) (k : Nat) (s : RolladenSystem) : Prop :=
  Starting dir k s.device.lowlevelState s.device.lowlevelCommand s.device.lowlevelWaitCounter

theorem startingSystem_tick {k : Nat} (starting : StartingSystem dir k s)
    (more : k < dir.startTicks) : StartingSystem dir (k + 1) (s.after byZero self .tick) := by
  obtain ⟨action, transition, -, -⟩ := timerHandler_transition byZero self s.device s.out
  exact starting.tick more transition _

theorem startingSystem_ticks {k n : Nat} (starting : StartingSystem dir k s)
    (more : k + n ≤ dir.startTicks) : StartingSystem dir (k + n) (s.ticks byZero self n) := by
  induction n with
  | zero => exact starting
  | succ n ih =>
      rw [RolladenSystem.ticks_succ]
      exact startingSystem_tick byZero self (ih (Nat.le_of_succ_le more)) more

theorem callback_release {p : DeviceDataRolladen}
    {frame : CanixFrame} (release : ReleasesTaster p frame) :
    (rolladenCanCallback byZero self p frame).1 = { p with hilevelUpEventCounter := -1 } := by
  unfold rolladenCanCallback
  rw [if_neg (by rw [release.1]; decide), if_pos release.1, if_pos release.2.symm]

theorem startingSystem_release {k : Nat} {release : CanixFrame}
    (released : ReleasesTaster s.device release) (starting : StartingSystem dir k s) :
    StartingSystem dir k (s.after byZero self (.frame release)) := by
  have record : (s.after byZero self (.frame release)).device =
      { s.device with hilevelUpEventCounter := -1 } := callback_release byZero self released
  unfold StartingSystem
  rw [record]
  exact starting

theorem ticks_config (n : Nat) : (s.ticks byZero self n).device.config = s.device.config := by
  induction n with
  | zero => rfl
  | succ n ih =>
      rw [RolladenSystem.ticks_succ]
      obtain ⟨-, -, -, config⟩ := timerHandler_transition byZero self
        (s.ticks byZero self n).device (s.ticks byZero self n).out
      exact config.trans ih

theorem startingSystem_pressedFor {press release : CanixFrame}
    (pressed : StartingSystem dir 0 (s.after byZero self (.frame press)))
    (released : ReleasesTaster s.device release) (held : Nat) {k : Nat}
    (more : k ≤ dir.startTicks) :
    StartingSystem dir k (pressedFor byZero self press release held k s) := by
  have same : (s.after byZero self (.frame press)).device.config = s.device.config :=
    (canCallback_skeleton byZero self s.device press).config
  unfold pressedFor
  dsimp only
  split
  · have starting := startingSystem_ticks byZero self pressed (n := k) (by omega)
    rwa [Nat.zero_add] at starting
  next late =>
    have starting := startingSystem_ticks byZero self pressed (n := held) (by omega)
    rw [Nat.zero_add] at starting
    have own : ReleasesTaster ((s.after byZero self (.frame press)).ticks byZero self held).device
        release := by
      unfold ReleasesTaster
      rw [ticks_config, same]
      exact released
    have going := startingSystem_ticks byZero self
      (startingSystem_release byZero self own starting) (n := k - held) (by omega)
    rwa [Nat.add_sub_cancel' (by omega)] at going

/-- A press starts a standing shutter against its last direction. -/
theorem startsDrive_opposite (stands : s.device.lowlevelState = .stop) :
    StartsDrive byZero self s.device.lowlevelLastDir.opposite s := by
  intro press release held presses releases
  have pressed : StartingSystem s.device.lowlevelLastDir.opposite 0
      (s.after byZero self (.frame press)) := by
    have record : (s.after byZero self (.frame press)).device = rolladenTasterDown s.device :=
      callback_press byZero self presses
    unfold StartingSystem
    rw [record]
    unfold rolladenTasterDown
    rw [stands]
    cases s.device.lowlevelLastDir with
    | auf => exact .placedAb _
    | ab => exact .placedAuf _
  constructor
  · intro k started more
    exact (startingSystem_pressedFor byZero self pressed releases held more.le).prepares started
      more
  · exact (startingSystem_pressedFor byZero self pressed releases held le_rfl).drives

/-- The button of a shutter. -/
def tasterFrame (command : UInt8) (p : DeviceDataRolladen) : CanixFrame :=
  hesFrame command p.config.taster 0

theorem startsDrive_iff (stands : s.device.lowlevelState = .stop) :
    StartsDrive byZero self dir s ↔ s.device.lowlevelLastDir = dir.opposite := by
  have starts := startsDrive_opposite byZero self stands
  constructor
  · intro same
    have here := (same (tasterFrame hcanHesTasterDown s.device)
      (tasterFrame hcanHesTasterUp s.device) 0 ⟨rfl, rfl⟩ ⟨rfl, rfl⟩).1 1 (by decide)
    have there := (starts (tasterFrame hcanHesTasterDown s.device)
      (tasterFrame hcanHesTasterUp s.device) 0 ⟨rfl, rfl⟩ ⟨rfl, rfl⟩).1 1 (by decide)
    cases last : s.device.lowlevelLastDir with
    | auf =>
        cases dir with
        | ab => rfl
        | auf =>
            rw [last] at there
            have up := here (by decide)
            rcases there (by decide) with down | down
            · exact absurd (up.symm.trans down) (by decide)
            · exact absurd (up.symm.trans down) (by decide)
    | ab =>
        cases dir with
        | auf => rfl
        | ab =>
            rw [last] at there
            have up := there (by decide)
            rcases here (by decide) with down | down
            · exact absurd (up.symm.trans down) (by decide)
            · exact absurd (up.symm.trans down) (by decide)
  · intro last
    have twice : dir.opposite.opposite = dir := by cases dir <;> rfl
    rw [last, twice] at starts
    exact starts

end Press

/-! ## The last drive -/

/-- A shutter and the direction of its last drive since the start of the firmware. -/
structure DrivenSystem where
  shutter : RolladenSystem
  drive : Option RolladenDir

/-- The last drive behind a step into a state. -/
def lastDrive (before : Option RolladenDir) : RolladenState → Option RolladenDir
  | .auf => some .auf
  | .ab => some .ab
  | _ => before

/-- The last drive behind a step; a start of the firmware forgets it. -/
def driveBehind (before : Option RolladenDir) (state : RolladenState) :
    Option RolladenEvent → Option RolladenDir
  | some _ => lastDrive before state
  | none => none

structure DrivenStep (byZero : Int → Int) (selfaddr : UInt16) (h : DrivenSystem)
    (event : Option RolladenEvent) (later : DrivenSystem) : Prop where
  happens : LifeStep byZero selfaddr h.shutter event later.shutter
  drive : later.drive = driveBehind h.drive later.shutter.device.lowlevelState event

/-- The record holds the direction of the last drive, and downwards before the first one. -/
structure Remembers (h : DrivenSystem) : Prop where
  lastDir : h.shutter.device.lowlevelLastDir = h.drive.getD .ab
  driving : lastDrive h.drive h.shutter.device.lowlevelState = h.drive

section Drive

variable {byZero : Int → Int} {self : UInt16} {h later : DrivenSystem}

theorem lastDrive_twice (before : Option RolladenDir) (state : RolladenState) :
    lastDrive (lastDrive before state) state = lastDrive before state := by
  cases state <;> rfl

theorem counted_lastDir (q : DeviceDataRolladen) :
    (countedRolladen q).lowlevelLastDir = q.lowlevelLastDir := by
  have soll (p : DeviceDataRolladen) (reached : Prop) [Decidable reached] :
      (rolladenSollErreicht p reached).lowlevelLastDir = p.lowlevelLastDir := by
    unfold rolladenSollErreicht
    split <;> rfl
  have upper (p : DeviceDataRolladen) :
      (rolladenObereEndposition p).1.lowlevelLastDir = p.lowlevelLastDir := by
    unfold rolladenObereEndposition
    split <;> split <;> rfl
  have lower (p : DeviceDataRolladen) :
      (rolladenUntereEndposition p).1.lowlevelLastDir = p.lowlevelLastDir := by
    unfold rolladenUntereEndposition
    split <;> split <;> rfl
  have hilevel (p : DeviceDataRolladen) :
      (rolladenHilevelCount p).lowlevelLastDir = p.lowlevelLastDir := by
    unfold rolladenHilevelCount
    dsimp only
    split
    · split <;> rfl
    · rfl
  have counted : (rolladenStreckeZaehlen q).1.lowlevelLastDir = q.lowlevelLastDir := by
    unfold rolladenStreckeZaehlen
    split
    · exact (upper _).trans (soll _ _)
    · split
      · exact (lower _).trans (soll _ _)
      · rfl
  unfold countedRolladen
  split
  · exact counted
  · exact (hilevel _).trans counted

/-- The direction is written when a drive is on its way. -/
theorem switch_lastDir (byZero : Int → Int) (self : UInt16) (p : DeviceDataRolladen)
    (out : Outputs) {drive : Option RolladenDir} (lastDir : p.lowlevelLastDir = drive.getD .ab)
    (driving : lastDrive drive p.lowlevelState = drive) :
    (rolladenLowlevelSwitch byZero self p out).1.lowlevelLastDir =
      (lastDrive drive (rolladenLowlevelSwitch byZero self p out).1.lowlevelState).getD .ab := by
  obtain ⟨config, summe, laufzeit, soll, source, last, state, command, wait, up⟩ := p
  dsimp only at lastDir driving
  cases state with
  | stop =>
      cases command with
      | dirChange => cases last <;> exact lastDir
      | _ => exact lastDir
  | auf =>
      rw [← driving] at lastDir ⊢
      cases command <;> exact lastDir
  | ab =>
      rw [← driving] at lastDir ⊢
      cases command <;> exact lastDir
  | _ => cases wait <;> first | exact lastDir | rfl

theorem canCallback_lastDir (frame : CanixFrame) (p : DeviceDataRolladen) :
    (rolladenCanCallback byZero self p frame).1.lowlevelLastDir = p.lowlevelLastDir := by
  by_cases command : frame.data[1] = hcanHesRolladenDefinePosition
  · rw [callback_definePosition command]
    split <;> rfl
  · exact (canCallback_commands byZero self p command).lastDir

theorem Remembers.event {device : DeviceDataRolladen} (same : later.shutter.device = device)
    (drive : later.drive = lastDrive h.drive later.shutter.device.lowlevelState)
    (last : device.lowlevelLastDir = (lastDrive h.drive device.lowlevelState).getD .ab) :
    Remembers later := by
  rw [same] at drive
  constructor
  · rw [same, drive]
    exact last
  · rw [same, drive]
    exact lastDrive_twice _ _

theorem DrivenStep.remembers {event : Option RolladenEvent} (remembers : Remembers h)
    (taken : DrivenStep byZero self h event later) : Remembers later := by
  obtain ⟨happens, drive⟩ := taken
  generalize ended : later.shutter = t at happens
  cases happens with
  | @event event _ =>
      cases event with
      | tick =>
          refine .event (congrArg RolladenSystem.device ended) drive ?_
          have same := timerHandler_skeleton byZero self h.shutter.device h.shutter.out
          have last := switch_lastDir byZero self (rolladenCountDown h.shutter.device)
            h.shutter.out remembers.lastDir remembers.driving
          rw [← same.state] at last
          exact (counted_lastDir _).trans last
      | frame frame =>
          refine .event (congrArg RolladenSystem.device ended) drive ?_
          have same := canCallback_skeleton byZero self h.shutter.device frame
          change (rolladenCanCallback byZero self h.shutter.device frame).1.lowlevelLastDir =
            (lastDrive h.drive
              (rolladenCanCallback byZero self h.shutter.device frame).1.lowlevelState).getD .ab
          rw [same.state, remembers.driving, canCallback_lastDir]
          exact remembers.lastDir
      | other n state =>
          refine .event (congrArg RolladenSystem.device ended) drive ?_
          change h.shutter.device.lowlevelLastDir =
            (lastDrive h.drive h.shutter.device.lowlevelState).getD .ab
          rw [remembers.driving]
          exact remembers.lastDir
  | restart config out =>
      constructor
      · rw [ended, drive]
        rfl
      · rw [ended, drive]
        rfl

/-- The shutter behind the start of the firmware. -/
def bootDriven (config : EdsRolladenBlock) (out : Outputs) : DrivenSystem :=
  ⟨⟨rolladenInit config, out⟩, none⟩

theorem drivenRun_remembers {config : EdsRolladenBlock} {out : Outputs}
    {events : List (Option RolladenEvent)}
    (run : Run (DrivenStep byZero self) (bootDriven config out) events h) : Remembers h :=
  run.invariant Remembers (fun _ _ _ taken before => taken.remembers before) ⟨rfl, rfl⟩

/-- A press starts a shutter that stands at an end away from it, exactly when its last drive
since the start of the firmware went there; at the bottom also without a drive. -/
theorem leavesEnd_iff {config : EdsRolladenBlock} {out : Outputs}
    {events : List (Option RolladenEvent)}
    (run : Run (DrivenStep byZero self) (bootDriven config out) events h)
    (stands : h.shutter.device.lowlevelState = .stop) :
    ((h.shutter.device.laufzeit = 0 → StartsDrive byZero self .auf h.shutter) ∧
      (h.shutter.device.laufzeit = h.shutter.device.config.laufzeit.toNat →
        StartsDrive byZero self .ab h.shutter)) ↔
    (h.shutter.device.laufzeit = 0 → h.drive ≠ some .auf) ∧
      (h.shutter.device.laufzeit = h.shutter.device.config.laufzeit.toNat →
        h.drive = some .auf) := by
  have last := (drivenRun_remembers run).lastDir
  have upwards : StartsDrive byZero self .auf h.shutter ↔ h.drive ≠ some .auf := by
    rw [startsDrive_iff byZero self stands, last]
    cases h.drive with
    | none => exact ⟨fun _ => nofun, fun _ => rfl⟩
    | some dir => cases dir <;> decide
  have downwards : StartsDrive byZero self .ab h.shutter ↔ h.drive = some .auf := by
    rw [startsDrive_iff byZero self stands, last]
    cases h.drive with
    | none => decide
    | some dir => cases dir <;> decide
  rw [upwards, downwards]

/-- The kitchen shutter behind an event, or behind a start of the firmware. -/
def kitchenDriven (h : DrivenSystem) : Option RolladenEvent → DrivenSystem
  | some event =>
      let s := h.shutter.after (fun _ => 0) 7 event
      ⟨s, lastDrive h.drive s.device.lowlevelState⟩
  | none => bootDriven kitchenShutter bootOutputs

/-- The kitchen shutter is sent to the bottom and arrives there. -/
def kitchenLowering : List (Option RolladenEvent) :=
  none :: some kitchenDown :: List.replicate 115 (some .tick)

/-- Behind its drive to the bottom a press starts the kitchen shutter upwards. -/
theorem leavesEnd_kitchen :
    (kitchenLowering.foldl kitchenDriven
        (bootDriven kitchenShutter bootOutputs)).shutter.device.lowlevelState = .stop ∧
      (kitchenLowering.foldl kitchenDriven
        (bootDriven kitchenShutter bootOutputs)).shutter.device.laufzeit = 0 ∧
      StartsDrive (fun _ => 0) 7 .auf
        (kitchenLowering.foldl kitchenDriven (bootDriven kitchenShutter bootOutputs)).shutter := by
  have run : Run (DrivenStep (fun _ => 0) 7) (bootDriven kitchenShutter bootOutputs)
      kitchenLowering
      (kitchenLowering.foldl kitchenDriven (bootDriven kitchenShutter bootOutputs)) := by
    refine Run.of_foldl fun h event inside => ?_
    cases event with
    | none => exact ⟨.restart kitchenShutter bootOutputs, rfl⟩
    | some event =>
        refine ⟨.event ?_, rfl⟩
        obtain none | ⟨_, none | ⟨_, ticks⟩⟩ := inside
        · exact (by decide : hcanHesRolladenPositionSet ≠ hcanHesConfigReload)
        · cases List.eq_of_mem_replicate ticks
          trivial
  have stands : (kitchenLowering.foldl kitchenDriven
      (bootDriven kitchenShutter bootOutputs)).shutter.device.lowlevelState = .stop := by
    decide +kernel
  have bottom : (kitchenLowering.foldl kitchenDriven
      (bootDriven kitchenShutter bootOutputs)).shutter.device.laufzeit = 0 := by
    decide +kernel
  have leaves := (leavesEnd_iff run stands).mpr
    ⟨fun _ => by decide +kernel, fun top => absurd (bottom.symm.trans top) (by decide +kernel)⟩
  exact ⟨stands, bottom, leaves.1 bottom⟩

/-- Behind the start of the firmware a press starts the kitchen shutter upwards from the top. -/
theorem kitchen_starts_upwards :
    kitchenBoot.device.lowlevelState = .stop ∧ kitchenBoot.device.lowlevelCommand = .ready ∧
      kitchenBoot.device.laufzeit = kitchenBoot.device.config.laufzeit.toNat ∧
      ¬ StartsDrive (fun _ => 0) 7 .ab kitchenBoot ∧
      StartsDrive (fun _ => 0) 7 .auf kitchenBoot := by
  refine ⟨rfl, rfl, rfl, ?_, ?_⟩
  · rw [startsDrive_iff _ _ rfl]
    decide
  · rw [startsDrive_iff _ _ rfl]
    rfl

end Drive

end Hcan.Controller
