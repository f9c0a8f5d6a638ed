import Hcan.Controller.Position

/-!
# The shutter behind the relays

The control estimates the height of its shutter by the ticks that it counts.  Here the shutter
itself stands beside the control: between two ticks the motor moves it by a tenth of a second of its
run time, the way the relays stand, and an end switch stops it.  A start downwards is counted
before the motor runs, so the estimate falls behind the shutter; the end stops take the difference
back.
-/

namespace Hcan.Controller

open Hcan.Canix Hcan.Library

/-- The shutter a tenth of a second later, `dir` being the relay for downwards. -/
def heightAfter (strecke : Nat) (power dir : Bool) (height : Int) : Int :=
  if power then if dir then max (height - 1) 0 else min (height + 1) strecke else height

/-- The ticks without a motor that a start downwards counts: from the standstill and out of a drive
upwards. -/
def slip : RolladenState → RolladenState → Nat
  | .stop, .abWait1 => 2
  | .auf, .dirChangeWait1 => 3
  | _, _ => 0

/-- A shutter with its control; `lost` sums up the ticks of its starts downwards. -/
structure Drive where
  control : RolladenSystem
  height : Int
  lost : Nat

namespace Drive

def strecke (a : Drive) : Nat := a.control.device.config.strecke

def state (a : Drive) : RolladenState := a.control.device.lowlevelState

/-- The estimate. -/
def laufzeit (a : Drive) : Int := a.control.device.laufzeit

/-- The shutter stands, for the control. -/
def Stands (a : Drive) : Prop := a.state = .stop

end Drive

/-- The drive is to be reversed. -/
def RolladenState.Turns (state : RolladenState) : Prop :=
  state = .dirChangeWait1 ∨ state = .dirChangeWait2

/-- The steps of a shutter with its control; a running drive is reversed inside the run time only,
not while it runs on against an end stop. -/
structure DriveStep (byZero : Int → Int) (selfaddr : UInt16) (a : Drive)
    (event : RolladenEvent) (b : Drive) : Prop where
  measured : MeasuredStep byZero selfaddr a.control event b.control
  turns : b.state.Turns → 0 ≤ b.laufzeit ∧ b.laufzeit ≤ b.strecke
  height : b.height = if tickCount event = 1 then
    heightAfter a.strecke b.control.powerOn b.control.dirOn a.height else a.height
  lost : b.lost = a.lost + slip a.state b.state

/-- The states with the power relay on. -/
def RolladenState.drives : RolladenState → Bool
  | .aufWait | .auf | .abWait2 | .ab => true
  | _ => false

/-- The states with the direction relay on. -/
def RolladenState.lowers : RolladenState → Bool
  | .abWait1 | .abWait2 | .ab | .stopWait2 | .dirChangeWait2 => true
  | _ => false

section Diagram

variable {state next : RolladenState} {command : RolladenCommand} {wait nextWait : Nat}
  {action : RelayAction} {on : Bool}

theorem transition_drives (transition : Transition state command wait action next nextWait)
    (same : on = state.drives) : action.powerThen true on = next.drives := by
  cases transition with
  | waiting _ _ _ _ => exact same
  | staying _ _ _ _ _ => exact same
  | _ => simp [RelayAction.powerThen, RolladenState.drives, same]

theorem transition_lowers (transition : Transition state command wait action next nextWait)
    (same : on = state.lowers) : action.dirThen true on = next.lowers := by
  cases transition with
  | waiting _ _ _ _ => exact same
  | staying _ _ _ _ _ => exact same
  | _ => simp [RelayAction.dirThen, RolladenState.lowers, same]

end Diagram

/-- Both relays are there, and they stand as the state says. -/
structure Wired (s : RolladenSystem) : Prop where
  distinct : s.device.config.portPower ≠ s.device.config.portDir
  hasPower : s.out.hasPin s.device.config.portPower = true
  hasDir : s.out.hasPin s.device.config.portDir = true
  power : s.powerOn = s.device.lowlevelState.drives
  dir : s.dirOn = s.device.lowlevelState.lowers

theorem act_hasPin (out : Outputs) (config : EdsRolladenBlock) (action : RelayAction) (n : UInt8) :
    (out.act config action).hasPin n = out.hasPin n := by
  cases action with
  | rest => rfl
  | power state => exact hasPin_setpin out config.portPower n state
  | dir state => exact hasPin_setpin out config.portDir n state

section Steps

variable {byZero : Int → Int} {self : UInt16} {s t : RolladenSystem} {event : RolladenEvent}

theorem Wired.tick (wired : Wired s) {action : RelayAction}
    (config : t.device.config = s.device.config)
    (transition : Transition s.device.lowlevelState s.device.lowlevelCommand
      (s.device.lowlevelWaitCounter - 1) action t.device.lowlevelState
      t.device.lowlevelWaitCounter)
    (acted : t.out = s.out.act s.device.config action) : Wired t := by
  have power : (s.out.act s.device.config action).isOn s.device.config.portPower =
      action.powerThen (s.out.hasPin s.device.config.portPower) s.powerOn :=
    act_power wired.distinct action
  have dir : (s.out.act s.device.config action).isOn s.device.config.portDir =
      action.dirThen (s.out.hasPin s.device.config.portDir) s.dirOn :=
    act_dir wired.distinct action
  rw [wired.hasPower] at power
  rw [wired.hasDir] at dir
  refine ⟨config ▸ wired.distinct, ?_, ?_, ?_, ?_⟩
  · rw [config, acted, act_hasPin, wired.hasPower]
  · rw [config, acted, act_hasPin, wired.hasDir]
  · rw [RolladenSystem.powerOn, config, acted, power]
    exact transition_drives transition wired.power
  · rw [RolladenSystem.dirOn, config, acted, dir]
    exact transition_lowers transition wired.dir

theorem Wired.step (wired : Wired s) (taken : RolladenStep byZero self s event t) : Wired t := by
  obtain ⟨config, ⟨-, action, transition, acted⟩ | ⟨-, same, power, dir⟩⟩ :=
    rolladenStep_cases taken
  · exact wired.tick config transition acted
  · have pins : ∀ n, t.out.hasPin n = s.out.hasPin n := by
      obtain ⟨-, rfl⟩ := taken
      cases event with
      | tick =>
          intro n
          obtain ⟨action, -, acted, -⟩ := timerHandler_transition byZero self s.device s.out
          exact (congrArg (Outputs.hasPin · n) acted).trans (act_hasPin _ _ _ _)
      | frame frame => exact fun _ => rfl
      | other m state => exact fun n => hasPin_setpin s.out m n state
    refine ⟨config ▸ wired.distinct, ?_, ?_, ?_, ?_⟩
    · rw [config, pins, wired.hasPower]
    · rw [config, pins, wired.hasDir]
    · rw [power, same.state, wired.power]
    · rw [dir, same.state, wired.dir]

end Steps

/-- The estimate inside the run time. -/
def clamped (strecke : Nat) (x : Int) : Int := max 0 (min x strecke)

/-- A tick from `state` to `next` takes the estimate from `x` to `y`. -/
structure Reckons (strecke : Nat) (state next : RolladenState) (x y : Int) : Prop where
  up : next.drivesUp = true → y = x + 1 ∨ (strecke ≤ x ∧ y = strecke)
  down : next.drivesDown = true → y = x - 1 ∨ (x ≤ 0 ∧ y = 0)
  aligned : next = .stop → state ≠ .stop → y = clamped strecke x
  still : next.drivesUp = false → next.drivesDown = false → (next = .stop → state = .stop) → y = x

theorem obereEndposition_laufzeit (p : DeviceDataRolladen) :
    (rolladenObereEndposition p).1.laufzeit = p.laufzeit ∨
      ((p.config.strecke : Int) < p.laufzeit ∧
        (rolladenObereEndposition p).1.laufzeit = p.config.strecke) := by
  have order := le_oneAndHalfTime p.config.strecke
  unfold rolladenObereEndposition
  split
  · split <;> exact .inl rfl
  · split
    next above =>
      have far : (oneAndHalfTime p.config.strecke : Int) < p.laufzeit := above
      exact .inr ⟨by omega, rfl⟩
    · exact .inl rfl

theorem untereEndposition_laufzeit (p : DeviceDataRolladen) :
    (rolladenUntereEndposition p).1.laufzeit = p.laufzeit ∨
      (p.laufzeit < 0 ∧ (rolladenUntereEndposition p).1.laufzeit = 0) := by
  unfold rolladenUntereEndposition
  split
  · split <;> exact .inl rfl
  · split
    next below =>
      have far : p.laufzeit < -(halfTime p.config.strecke : Int) := below
      exact .inr ⟨by omega, rfl⟩
    · exact .inl rfl

theorem zaehleAuf_laufzeit (p : DeviceDataRolladen) :
    (rolladenZaehleAuf p).1.laufzeit = p.laufzeit + 1 ∨
      ((p.config.strecke : Int) ≤ p.laufzeit ∧
        (rolladenZaehleAuf p).1.laufzeit = p.config.strecke) := by
  unfold rolladenZaehleAuf
  dsimp only
  have ends := obereEndposition_laufzeit (rolladenSollErreicht { p with
    summeLaufzeit := p.summeLaufzeit + 1, laufzeit := p.laufzeit + 1 }
    (p.laufzeit + 1 ≥ p.sollLaufzeit))
  rw [sollErreicht_laufzeit, (sollErreicht_skeleton _ _).config] at ends
  exact ends.imp_right fun both => ⟨Int.lt_add_one_iff.mp both.1, both.2⟩

theorem zaehleAb_laufzeit (p : DeviceDataRolladen) :
    (rolladenZaehleAb p).1.laufzeit = p.laufzeit - 1 ∨
      (p.laufzeit ≤ 0 ∧ (rolladenZaehleAb p).1.laufzeit = 0) := by
  unfold rolladenZaehleAb
  dsimp only
  have ends := untereEndposition_laufzeit (rolladenSollErreicht { p with
    summeLaufzeit := p.summeLaufzeit + 1, laufzeit := p.laufzeit - 1 }
    (p.laufzeit - 1 ≤ p.sollLaufzeit))
  rw [sollErreicht_laufzeit] at ends
  exact ends.imp_right fun both => ⟨Int.sub_one_lt_iff.mp both.1, both.2⟩

theorem laufzeitAlign_laufzeit (p : DeviceDataRolladen) :
    (rolladenLaufzeitAlign p).laufzeit = clamped p.config.strecke p.laufzeit := by
  unfold rolladenLaufzeitAlign clamped
  dsimp only
  split <;> split <;> omega

section Handler

variable (byZero : Int → Int) (self : UInt16)

/-- The switch aligns the estimate where it stops the shutter, and keeps it elsewhere. -/
theorem switch_aligns (p : DeviceDataRolladen) (out : Outputs) :
    let q := (rolladenLowlevelSwitch byZero self p out).1
    (q.lowlevelState = .stop → p.lowlevelState ≠ .stop →
      q.laufzeit = clamped p.config.strecke p.laufzeit) ∧
    ((q.lowlevelState = .stop → p.lowlevelState = .stop) → q.laufzeit = p.laufzeit) := by
  obtain ⟨config, summe, laufzeit, soll, source, lastDir, state, command, wait, up⟩ := p
  cases state with
  | stopWait1 =>
      cases wait with
      | zero => exact ⟨fun _ _ => laufzeitAlign_laufzeit _, fun same => by cases same rfl⟩
      | succ wait => exact ⟨nofun, fun _ => rfl⟩
  | stopWait3 =>
      cases wait with
      | zero => exact ⟨fun _ _ => laufzeitAlign_laufzeit _, fun same => by cases same rfl⟩
      | succ wait => exact ⟨nofun, fun _ => rfl⟩
  | stop =>
      refine ⟨fun _ other => absurd rfl other, fun _ => ?_⟩
      cases command with
      | dirChange => cases lastDir <;> rfl
      | _ => rfl
  | auf => cases command <;> exact ⟨nofun, fun _ => rfl⟩
  | ab => cases command <;> exact ⟨nofun, fun _ => rfl⟩
  | _ => cases wait <;> exact ⟨nofun, fun _ => rfl⟩

theorem countedRolladen_laufzeit (q : DeviceDataRolladen) :
    (countedRolladen q).laufzeit = (rolladenStreckeZaehlen q).1.laufzeit := by
  unfold countedRolladen
  split
  · rfl
  · exact hilevelCount_laufzeit _

theorem timerHandler_reckons (p : DeviceDataRolladen) (out : Outputs) :
    Reckons p.config.strecke p.lowlevelState
      (rolladenLowlevelTimerHandler byZero self p out).1.lowlevelState p.laufzeit
      (rolladenLowlevelTimerHandler byZero self p out).1.laufzeit := by
  obtain ⟨-, -, -, config⟩ := switch_transition byZero self (rolladenCountDown p) out
  have switched := switch_aligns byZero self (rolladenCountDown p) out
  have counted : (rolladenLowlevelTimerHandler byZero self p out).1.laufzeit =
      (rolladenStreckeZaehlen
        (rolladenLowlevelSwitch byZero self (rolladenCountDown p) out).1).1.laufzeit :=
    countedRolladen_laufzeit _
  rw [(timerHandler_skeleton byZero self p out).state, counted]
  generalize (rolladenLowlevelSwitch byZero self (rolladenCountDown p) out).1 = q at config switched
  dsimp only at switched
  have same : q.config.strecke = p.config.strecke := congrArg EdsRolladenBlock.strecke config
  have moves : (q.lowlevelState = .stop → p.lowlevelState = .stop) → q.laufzeit = p.laufzeit :=
    switched.2
  unfold rolladenStreckeZaehlen
  refine ⟨fun up => ?_, fun down => ?_, fun stops before => ?_, fun notUp notDown stays => ?_⟩
  · have start := moves fun stops => by rw [stops] at up; cases up
    have counts := zaehleAuf_laufzeit q
    rw [same, start] at counts
    rwa [if_pos up]
  · have notUp : q.lowlevelState.drivesUp ≠ true := by
      intro up
      cases state : q.lowlevelState <;> rw [state] at up down <;> contradiction
    have start := moves fun stops => by rw [stops] at down; cases down
    have counts := zaehleAb_laufzeit q
    rw [start] at counts
    rwa [if_neg notUp, if_pos down]
  · rw [stops]
    exact switched.1 stops before
  · rw [notUp, notDown, if_neg Bool.false_ne_true, if_neg Bool.false_ne_true]
    exact moves stays

end Handler

/-! ## The drift -/

/-- The estimate moves with the shutter inside the range; a stop aligns it. -/
def Ranges (strecke : Nat) (x : Int) : RolladenState → Prop
  | .stop | .dirChangeWait1 | .dirChangeWait2 | .dirChangeWait3 => 0 ≤ x ∧ x ≤ strecke
  | .aufWait | .auf => 0 ≤ x
  | .abWait1 | .abWait2 | .ab => x ≤ strecke
  | .stopWait1 | .stopWait2 | .stopWait3 => True

/-- The ticks that are still to be counted without a motor. -/
def uncounted (wait : Nat) : RolladenState → Int
  | .abWait1 => wait - 1
  | .dirChangeWait1 => 3
  | _ => 0

/-- The shutter at `h` is `lo` to `hi` above the estimate `x`. -/
structure Drifts (strecke : Nat) (lo hi : Int) (state : RolladenState) (wait : Nat) (x h : Int) :
    Prop where
  low : 0 ≤ h
  high : h ≤ strecke
  range : Ranges strecke x state
  waits : state = .abWait1 → 1 ≤ wait
  lower : lo ≤ h - clamped strecke x
  upper : h - clamped strecke x + uncounted wait state ≤ hi

section Drift

variable {strecke wait nextWait : Nat} {state next : RolladenState} {command : RolladenCommand}
  {action : RelayAction} {lo hi x y h : Int}

/-- The motor and the count go upwards together. -/
theorem Drifts.upward (drifts : Drifts strecke lo hi state wait x h) (low : lo ≤ 0) (high : 0 ≤ hi)
    (start : 0 ≤ x) (pending : 0 ≤ uncounted wait state)
    (reckons : Reckons strecke state next x y) (moves : next.drivesUp = true) :
    Drifts strecke lo (hi + slip state next) next nextWait y
      (heightAfter strecke next.drives next.lowers h) := by
  have moved := reckons.up moves
  obtain ⟨below, above, -, -, lower, upper⟩ := drifts
  unfold clamped at lower upper
  have there : heightAfter strecke next.drives next.lowers h = min (h + 1) strecke := by
    cases next <;> first | rfl | cases moves
  have range : Ranges strecke y next := by
    cases next <;> first | (change 0 ≤ y; omega) | cases moves
  have none_ : uncounted nextWait next = 0 := by
    cases next <;> first | rfl | cases moves
  rw [there]
  refine ⟨by omega, by omega, range, fun same => ?_, ?_, ?_⟩
  · rw [same] at moves
    cases moves
  · unfold clamped
    omega
  · unfold clamped
    omega

/-- The motor and the count go downwards together. -/
theorem Drifts.downward (drifts : Drifts strecke lo hi state wait x h) (low : lo ≤ 0)
    (high : 0 ≤ hi) (start : x ≤ strecke) (pending : 0 ≤ uncounted wait state)
    (reckons : Reckons strecke state next x y) (runs : next = .abWait2 ∨ next = .ab) :
    Drifts strecke lo (hi + slip state next) next nextWait y
      (heightAfter strecke next.drives next.lowers h) := by
  have moved := reckons.down (by rcases runs with rfl | rfl <;> rfl)
  obtain ⟨below, above, -, -, lower, upper⟩ := drifts
  unfold clamped at lower upper
  have there : heightAfter strecke next.drives next.lowers h = max (h - 1) 0 := by
    rcases runs with rfl | rfl <;> rfl
  have range : Ranges strecke y next := by
    rcases runs with rfl | rfl <;> (change y ≤ strecke; omega)
  have none_ : uncounted nextWait next = 0 := by
    rcases runs with rfl | rfl <;> rfl
  rw [there]
  refine ⟨by omega, by omega, range, fun same => ?_, ?_, ?_⟩
  · rw [same] at runs
    cases runs with
    | inl other => cases other
    | inr other => cases other
  · unfold clamped
    omega
  · unfold clamped
    omega

/-- A start downwards counts before the motor runs. -/
theorem Drifts.starting (drifts : Drifts strecke lo hi state wait x h) (start : x ≤ strecke)
    (reckons : Reckons strecke state .abWait1 x y) (more : 1 ≤ nextWait)
    (pending : (nextWait : Int) ≤ uncounted wait state + slip state .abWait1) :
    Drifts strecke lo (hi + slip state .abWait1) .abWait1 nextWait y
      (heightAfter strecke RolladenState.abWait1.drives RolladenState.abWait1.lowers h) := by
  have moved := reckons.down rfl
  obtain ⟨below, above, -, -, lower, upper⟩ := drifts
  unfold clamped at lower upper
  have next : uncounted nextWait .abWait1 = nextWait - 1 := rfl
  have there :
      heightAfter strecke RolladenState.abWait1.drives RolladenState.abWait1.lowers h = h := rfl
  rw [there]
  refine ⟨below, above, ?_, fun _ => more, ?_, ?_⟩
  · change y ≤ strecke
    omega
  · unfold clamped
    omega
  · unfold clamped
    omega

/-- Nothing moves, and the estimate shows the same. -/
theorem Drifts.resting (drifts : Drifts strecke lo hi state wait x h)
    (same : clamped strecke y = clamped strecke x) (range : Ranges strecke y next)
    (off : next.drives = false) (notWait : next ≠ .abWait1)
    (pending : uncounted nextWait next ≤ uncounted wait state + slip state next) :
    Drifts strecke lo (hi + slip state next) next nextWait y
      (heightAfter strecke next.drives next.lowers h) := by
  obtain ⟨below, above, -, -, lower, upper⟩ := drifts
  have there : heightAfter strecke next.drives next.lowers h = h := by
    rw [off]
    rfl
  rw [there]
  refine ⟨below, above, range, fun isWait => absurd isWait notWait, ?_, ?_⟩
  · rw [same]
    exact lower
  · rw [same]
    omega

/-- A stop aligns the estimate to what it shows. -/
theorem Drifts.stopping (drifts : Drifts strecke lo hi state wait x h)
    (reckons : Reckons strecke state .stop x y) (before : state ≠ .stop)
    (pending : 0 ≤ uncounted wait state) :
    Drifts strecke lo (hi + slip state .stop) .stop nextWait y
      (heightAfter strecke RolladenState.stop.drives RolladenState.stop.lowers h) := by
  have aligned := reckons.aligned rfl before
  refine drifts.resting ?_ ?_ rfl (by decide) ?_
  · rw [aligned]
    unfold clamped
    omega
  · change 0 ≤ y ∧ y ≤ strecke
    rw [aligned]
    unfold clamped
    omega
  · change (0 : Int) ≤ _
    omega

/-- One tick adds what a start downwards loses. -/
theorem Drifts.tick (drifts : Drifts strecke lo hi state wait x h) (low : lo ≤ 0) (high : 0 ≤ hi)
    (transition : Transition state command (wait - 1) action next nextWait)
    (reckons : Reckons strecke state next x y) (turns : next.Turns → 0 ≤ y ∧ y ≤ strecke) :
    Drifts strecke lo (hi + slip state next) next nextWait y
      (heightAfter strecke next.drives next.lowers h) := by
  have range := drifts.range
  generalize counted : wait - 1 = w at transition
  cases transition with
  | waiting _ _ waits more =>
      cases state with
      | aufWait => exact drifts.upward low high range le_rfl reckons rfl
      | abWait1 =>
          refine drifts.starting range reckons (by omega) ?_
          change _ ≤ (wait : Int) - 1 + 0
          omega
      | abWait2 => exact drifts.downward low high range le_rfl reckons (.inl rfl)
      | stop => cases waits
      | auf => cases waits
      | ab => cases waits
      | _ =>
          rw [reckons.still rfl rfl fun same => by cases same]
          exact drifts.resting rfl range rfl (by decide) le_rfl
  | staying _ _ _ ready idle =>
      cases state with
      | stop =>
          rw [reckons.still rfl rfl fun _ => rfl]
          exact drifts.resting rfl range rfl (by decide) le_rfl
      | auf => exact drifts.upward low high range le_rfl reckons rfl
      | ab => exact drifts.downward low high range le_rfl reckons (.inr rfl)
      | _ => exact absurd trivial ready
  | startAuf _ => exact drifts.upward low high range.1 le_rfl reckons rfl
  | startAb _ => exact drifts.starting range.2 reckons (by decide) le_rfl
  | runsAuf _ => exact drifts.upward low high range le_rfl reckons rfl
  | stopAuf _ =>
      rw [reckons.still rfl rfl fun same => by cases same]
      exact drifts.resting rfl trivial rfl (by decide) le_rfl
  | turnAuf _ =>
      have inside := turns (.inl rfl)
      rw [reckons.still rfl rfl fun same => by cases same] at inside ⊢
      exact drifts.resting rfl inside rfl (by decide) le_rfl
  | stoppedAuf _ => exact drifts.stopping reckons (by decide) le_rfl
  | powerAb _ =>
      refine drifts.downward low high range ?_ reckons (.inl rfl)
      have pending := drifts.waits rfl
      change (0 : Int) ≤ (wait : Int) - 1
      omega
  | runsAb _ => exact drifts.downward low high range le_rfl reckons (.inr rfl)
  | stopAb _ =>
      rw [reckons.still rfl rfl fun same => by cases same]
      exact drifts.resting rfl trivial rfl (by decide) le_rfl
  | turnAb _ =>
      have inside := turns (.inr rfl)
      rw [reckons.still rfl rfl fun same => by cases same] at inside ⊢
      exact drifts.resting rfl inside rfl (by decide) le_rfl
  | dirOffStop _ =>
      rw [reckons.still rfl rfl fun same => by cases same]
      exact drifts.resting rfl trivial rfl (by decide) le_rfl
  | stoppedAb _ => exact drifts.stopping reckons (by decide) le_rfl
  | dirOn _ => exact drifts.starting range.2 reckons (by decide) le_rfl
  | dirOff _ =>
      rw [reckons.still rfl rfl fun same => by cases same]
      exact drifts.resting rfl range rfl (by decide) le_rfl
  | powerAuf _ => exact drifts.upward low high range.1 le_rfl reckons rfl

end Drift

section Runs

variable {byZero : Int → Int} {self : UInt16} {a b c : Drive} {event : RolladenEvent}
  {events : List RolladenEvent} {lo hi : Int}

/-- The relays follow the control, and the shutter is near the estimate. -/
structure Drive.Tracked (lo hi : Int) (a : Drive) : Prop where
  wired : Wired a.control
  drifts :
    Drifts a.strecke lo hi a.state a.control.device.lowlevelWaitCounter a.laufzeit a.height

theorem Drive.Tracked.step (tracked : a.Tracked lo hi) (low : lo ≤ 0) (high : 0 ≤ hi)
    (taken : DriveStep byZero self a event b) :
    b.Tracked lo (hi + slip a.state b.state) := by
  have wired := tracked.wired.step taken.measured.toRolladenStep
  refine ⟨wired, ?_⟩
  have moved := taken.height
  obtain ⟨config, ⟨tick, action, transition, -, -⟩ | ⟨idle, same, there, -, -⟩⟩ :=
    measuredStep_cases taken.measured
  · have strecke : b.strecke = a.strecke := congrArg EdsRolladenBlock.strecke config
    have reckons : Reckons a.strecke a.state b.state a.laufzeit b.laufzeit := by
      have happens := taken.measured.happens
      cases event with
      | tick =>
          have counted := timerHandler_reckons byZero self a.control.device a.control.out
          unfold Drive.state Drive.laufzeit Drive.strecke
          rw [← happens]
          exact counted
      | frame frame => cases tick
      | other n state => cases tick
    rw [if_pos tick, wired.power, wired.dir] at moved
    rw [strecke, moved]
    have turns := taken.turns
    rw [strecke] at turns
    exact tracked.drifts.tick low high transition reckons turns
  · have strecke : b.strecke = a.strecke := congrArg EdsRolladenBlock.strecke config
    have state : b.state = a.state := same.state
    have laufzeit : b.laufzeit = a.laufzeit := there
    have none_ : slip a.state a.state = 0 := by cases a.state <;> rfl
    rw [if_neg (by rw [idle]; decide)] at moved
    rw [strecke, state, laufzeit, moved, same.wait, none_, Int.natCast_zero, Int.add_zero]
    exact tracked.drifts

/-- A run adds what its starts downwards lose. -/
theorem Drive.Tracked.run (tracked : a.Tracked lo hi) (low : lo ≤ 0) (high : 0 ≤ hi)
    (run : Run (DriveStep byZero self) a events b) :
    b.Tracked lo (hi + b.lost - a.lost) := by
  refine run.invariant (fun c : Drive =>
    a.lost ≤ c.lost ∧ c.Tracked lo (hi + c.lost - a.lost)) ?_ ?_ |>.2
  · rintro c event d taken ⟨more, before⟩
    have loses := taken.lost
    have after := before.step low (by omega) taken
    refine ⟨by omega, ?_⟩
    have same : hi + d.lost - a.lost =
        hi + c.lost - a.lost + slip c.state d.state := by
      rw [loses]
      omega
    rw [same]
    exact after
  · refine ⟨le_rfl, ?_⟩
    rwa [Int.add_sub_cancel]

/-- A shutter at rest with its relays. -/
structure Drive.Rests (a : Drive) : Prop where
  wired : Wired a.control
  stands : a.Stands
  laufzeit : 0 ≤ a.laufzeit ∧ a.laufzeit ≤ a.strecke
  height : 0 ≤ a.height ∧ a.height ≤ a.strecke

/-- How far the shutter is above its estimate. -/
def Drive.error (a : Drive) : Int := a.height - a.laufzeit

theorem clamped_inside {strecke : Nat} {x : Int} (inside : 0 ≤ x ∧ x ≤ strecke) :
    clamped strecke x = x := by
  unfold clamped
  omega

theorem Drive.Rests.tracked (rests : a.Rests) :
    a.Tracked (min a.error 0) (max a.error 0) := by
  have state : a.state = .stop := rests.stands
  have shown : a.height - clamped a.strecke a.laufzeit = a.error := by
    rw [clamped_inside rests.laufzeit]
    rfl
  refine ⟨rests.wired, rests.height.1, rests.height.2, ?_, ?_, ?_, ?_⟩
  · rw [state]
    exact rests.laufzeit
  · rw [state]
    exact fun other => by cases other
  · rw [shown]
    exact Int.min_le_left _ _
  · rw [shown, state]
    change a.error + 0 ≤ _
    omega

theorem Drive.Tracked.rests (tracked : a.Tracked lo hi) (stands : a.Stands) :
    a.Rests ∧ lo ≤ a.error ∧ a.error ≤ hi := by
  obtain ⟨wired, low, high, range, -, lower, upper⟩ := tracked
  rw [show a.state = .stop from stands] at range upper
  rw [clamped_inside range] at lower upper
  have exact_ : a.error + 0 ≤ hi := upper
  exact ⟨⟨wired, stands, range, low, high⟩, lower, by omega⟩

/-- Between two rests the difference stays between its old value and 0, but for the starts
downwards. -/
theorem Drive.Rests.drift (rests : a.Rests) (run : Run (DriveStep byZero self) a events b)
    (stands : b.Stands) : b.Rests ∧ min a.error 0 ≤ b.error ∧
      b.error ≤ max a.error 0 + b.lost - a.lost :=
  (rests.tracked.run (by omega) (by omega) run).rests stands

end Runs

theorem rests_init {config : EdsRolladenBlock} {out : Outputs} {height : Int}
    (distinct : config.portPower ≠ config.portDir) (hasPower : out.hasPin config.portPower = true)
    (hasDir : out.hasPin config.portDir = true) (powerOff : out.isOn config.portPower = false)
    (dirOff : out.isOn config.portDir = false) (inside : 0 ≤ height ∧ height ≤ config.strecke) :
    (Drive.mk ⟨rolladenInit config, out⟩ height 0).Rests :=
  ⟨⟨distinct, hasPower, hasDir, powerOff, dirOff⟩, rfl, ⟨Int.natCast_nonneg _, le_rfl⟩, inside⟩

/-- Dead reckoning: from the start with the shutter at any height, the difference of the shutter
and its estimate stays, from rest to rest, between its old value and 0, but for the ticks that
starts downwards lose; and a shutter that has been at the bottom for its control is fully open when
the control has it at the top. -/
theorem rolladen_dead_reckoning (byZero : Int → Int) (self : UInt16) {config : EdsRolladenBlock}
    {out : Outputs} {height : Int} (distinct : config.portPower ≠ config.portDir)
    (hasPower : out.hasPin config.portPower = true) (hasDir : out.hasPin config.portDir = true)
    (powerOff : out.isOn config.portPower = false) (dirOff : out.isOn config.portDir = false)
    (inside : 0 ≤ height ∧ height ≤ config.strecke) {front back : List RolladenEvent} {a b : Drive}
    (runFront : Run (DriveStep byZero self) ⟨⟨rolladenInit config, out⟩, height, 0⟩ front a)
    (stands : a.Stands) (runBack : Run (DriveStep byZero self) a back b) (standsLater : b.Stands) :
    (min a.error 0 ≤ b.error ∧ b.error ≤ max a.error 0 + b.lost - a.lost) ∧
      (a.laufzeit = 0 → b.laufzeit = b.strecke → b.height = b.strecke) := by
  have start := rests_init distinct hasPower hasDir powerOff dirOff inside
  obtain ⟨rests, -⟩ := start.drift runFront stands
  obtain ⟨restsLater, lower, upper⟩ := rests.drift runBack standsLater
  refine ⟨⟨lower, upper⟩, fun bottom top => ?_⟩
  have above := rests.height.1
  have below := restsLater.height.2
  unfold Drive.error at lower
  omega

/-! ## A short shutter -/

instance (state : RolladenState) : Decidable state.Turns :=
  inferInstanceAs (Decidable (state = .dirChangeWait1 ∨ state = .dirChangeWait2))

/-- The step of an event. -/
def Drive.after (byZero : Int → Int) (self : UInt16) (a : Drive) (event : RolladenEvent) :
    Drive :=
  let s := a.control.after byZero self event
  { control := s
    height := if tickCount event = 1 then heightAfter a.strecke s.powerOn s.dirOn a.height
      else a.height
    lost := a.lost + slip a.state s.device.lowlevelState }

/-- The step of an event that may happen. -/
def Drive.next (byZero : Int → Int) (self : UInt16) (a : Drive) (event : RolladenEvent) :
    Option Drive :=
  let b := a.after byZero self event
  if Unshared a.control.device.config event ∧ NoDefinition event ∧
      (b.state.Turns → 0 ≤ b.laufzeit ∧ b.laufzeit ≤ b.strecke) then some b
  else none

theorem driveRun {byZero : Int → Int} {self : UInt16} {a b : Drive}
    {events : List RolladenEvent} (executed : events.foldlM (Drive.next byZero self) a = some b) :
    Run (DriveStep byZero self) a events b := by
  refine (Run.of_execute executed).mono fun a event b taken => ?_
  unfold Drive.next at taken
  dsimp only at taken
  split at taken
  next may =>
    cases Option.some.inj taken
    exact ⟨⟨⟨may.1, rfl⟩, may.2.1⟩, may.2.2, rfl, rfl⟩
  · cases taken

/-- A shutter with a run time of 0.3 seconds, a third of it open. -/
def shortDrive : Drive :=
  ⟨⟨rolladenInit { kitchenShutter with laufzeit := 3 }, bootOutputs⟩, 1, 0⟩

def sentDown : List RolladenEvent :=
  .frame (hesFrame hcanHesRolladenPositionSet 20 200) :: List.replicate 25 .tick

def sentUp : List RolladenEvent :=
  .frame (hesFrame hcanHesRolladenPositionSet 20 201) :: List.replicate 25 .tick

/-- It is sent down and up. -/
theorem rolladen_dead_reckoning_short :
    ∃ a b : Drive, a.laufzeit = 0 ∧ b.laufzeit = b.strecke ∧
      (min a.error 0 ≤ b.error ∧ b.error ≤ max a.error 0 + b.lost - a.lost) ∧
      b.height = b.strecke := by
  have ways : ((sentDown.foldlM (Drive.next (fun _ => 0) 7) shortDrive).any fun a =>
      (a.state == .stop && a.laufzeit == 0) &&
        (sentUp.foldlM (Drive.next (fun _ => 0) 7) a).any fun b =>
          b.state == .stop && b.laufzeit == b.strecke) = true := by decide +kernel
  obtain ⟨a, down, later⟩ := (Option.any_eq_true _ _).mp ways
  obtain ⟨bottom, upwards⟩ := Bool.and_eq_true_iff.mp later
  obtain ⟨b, up, top⟩ := (Option.any_eq_true _ _).mp upwards
  rw [Bool.and_eq_true, beq_iff_eq, beq_iff_eq] at bottom top
  have proved := rolladen_dead_reckoning (fun _ => 0) 7 (by decide) (by decide +kernel)
    (by decide +kernel) (by decide +kernel) (by decide +kernel) (by decide) (driveRun down)
    bottom.1 (driveRun up) top.1
  exact ⟨a, b, bottom.2, top.2, proved.1, proved.2 bottom.2 top.2⟩

end Hcan.Controller
