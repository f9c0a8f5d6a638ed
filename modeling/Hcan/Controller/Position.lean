import Hcan.Controller.Transition

/-!
# Position and run time of the shutter

`Travel` says what a tick does to the position, next to what `Transition` says
about the state.  From both follow the bounds of the position in every state and
the bound of the ticks for which the motor runs without a pause.
-/

namespace Hcan.Controller

open Hcan.Canix Hcan.Library

/-- Half of the run time, by which the shutter is driven below the bottom. -/
def halfTime (strecke : Nat) : Nat := strecke * 5 / 10

/-- One and a half of the run time, up to which it is driven over the top. -/
def oneAndHalfTime (strecke : Nat) : Nat := strecke * 15 / 10

theorem le_oneAndHalfTime (strecke : Nat) : strecke ≤ oneAndHalfTime strecke := by
  unfold oneAndHalfTime
  omega

/-- `Travel strecke state next x command y`: a tick from `state` to `next` moves
the position from `x` to `y` and leaves `command`. -/
inductive Travel (strecke : Nat) (state next : RolladenState) (x : Int) :
    RolladenCommand → Int → Prop where
  | up {command : RolladenCommand} (moves : next.drivesUp = true)
      (inside : x + 1 ≤ oneAndHalfTime strecke) : Travel strecke state next x command (x + 1)
  | top {y : Int} (moves : next.drivesUp = true) (limit : y = x + 1 ∨ y = strecke) :
      Travel strecke state next x .stop y
  | down {command : RolladenCommand} (moves : next.drivesDown = true)
      (inside : -(halfTime strecke : Int) ≤ x - 1) : Travel strecke state next x command (x - 1)
  | bottom {y : Int} (moves : next.drivesDown = true) (limit : y = x - 1 ∨ y = 0) :
      Travel strecke state next x .stop y
  | aligned {command : RolladenCommand} {y : Int} (stopped : next = .stop) (low : 0 ≤ y)
      (high : y ≤ strecke) : Travel strecke state next x command y
  | rests {command : RolladenCommand} (notUp : next.drivesUp = false)
      (notDown : next.drivesDown = false) (notStopped : next = .stop → state = .stop) :
      Travel strecke state next x command x

namespace Travel

variable {strecke : Nat} {state next : RolladenState} {command : RolladenCommand} {x y : Int}

/-- Upwards: one step or back to the top, and inside the limit unless it is to stop. -/
theorem upward (travel : Travel strecke state next x command y) (moves : next.drivesUp = true) :
    (y = x + 1 ∨ y = strecke) ∧ (command ≠ .stop → y = x + 1 ∧ y ≤ oneAndHalfTime strecke) := by
  cases travel with
  | up _ inside => exact ⟨.inl rfl, fun _ => ⟨rfl, inside⟩⟩
  | top _ limit => exact ⟨limit, fun other => absurd rfl other⟩
  | down other _ => cases next <;> contradiction
  | bottom other _ => cases next <;> contradiction
  | aligned stopped _ _ => subst stopped; cases moves
  | rests notUp _ _ => rw [notUp] at moves; cases moves

/-- Downwards: one step or back to the bottom. -/
theorem downward (travel : Travel strecke state next x command y) (moves : next.drivesDown = true) :
    (y = x - 1 ∨ y = 0) ∧ (command ≠ .stop → y = x - 1 ∧ -(halfTime strecke : Int) ≤ y) := by
  cases travel with
  | down _ inside => exact ⟨.inl rfl, fun _ => ⟨rfl, inside⟩⟩
  | bottom _ limit => exact ⟨limit, fun other => absurd rfl other⟩
  | up other _ => cases next <;> contradiction
  | top other _ => cases next <;> contradiction
  | aligned stopped _ _ => subst stopped; cases moves
  | rests _ notDown _ => rw [notDown] at moves; cases moves

theorem still (travel : Travel strecke state next x command y) (notUp : next.drivesUp = false)
    (notDown : next.drivesDown = false) (notStopped : next ≠ .stop) : y = x := by
  cases travel with
  | up moves _ => rw [notUp] at moves; cases moves
  | top moves _ => rw [notUp] at moves; cases moves
  | down moves _ => rw [notDown] at moves; cases moves
  | bottom moves _ => rw [notDown] at moves; cases moves
  | aligned stopped _ _ => exact absurd stopped notStopped
  | rests _ _ _ => rfl

/-- A stop ends inside the run time. -/
theorem stopped (travel : Travel strecke state .stop x command y)
    (before : state = .stop → 0 ≤ x ∧ x ≤ strecke) : 0 ≤ y ∧ y ≤ strecke := by
  cases travel with
  | up moves _ => cases moves
  | top moves _ => cases moves
  | down moves _ => cases moves
  | bottom moves _ => cases moves
  | aligned _ low high => exact ⟨low, high⟩
  | rests _ _ notStopped => exact before (notStopped rfl)

end Travel

theorem sollErreicht_laufzeit (p : DeviceDataRolladen) (reached : Prop) [Decidable reached] :
    (rolladenSollErreicht p reached).laufzeit = p.laufzeit := by
  unfold rolladenSollErreicht
  split <;> rfl

theorem obereEndposition_cases (p : DeviceDataRolladen) :
    (rolladenObereEndposition p = (p, false) ∧ p.laufzeit ≤ oneAndHalfTime p.config.strecke) ∨
    ((rolladenObereEndposition p).1.lowlevelCommand = .stop ∧
      (rolladenObereEndposition p).2 = true ∧
      ((rolladenObereEndposition p).1.laufzeit = p.laufzeit ∨
        (rolladenObereEndposition p).1.laufzeit = p.config.strecke)) := by
  have order := le_oneAndHalfTime p.config.strecke
  unfold rolladenObereEndposition
  split
  · split
    · exact .inr ⟨rfl, rfl, .inl rfl⟩
    · exact .inl ⟨rfl, by omega⟩
  · split
    · exact .inr ⟨rfl, rfl, .inr rfl⟩
    next below => exact .inl ⟨rfl, Int.not_lt.mp below⟩

theorem untereEndposition_cases (p : DeviceDataRolladen) :
    (rolladenUntereEndposition p = (p, false) ∧ -(halfTime p.config.strecke : Int) ≤ p.laufzeit) ∨
    ((rolladenUntereEndposition p).1.lowlevelCommand = .stop ∧
      (rolladenUntereEndposition p).2 = true ∧
      ((rolladenUntereEndposition p).1.laufzeit = p.laufzeit ∨
        (rolladenUntereEndposition p).1.laufzeit = 0)) := by
  unfold rolladenUntereEndposition
  split
  · split
    · exact .inr ⟨rfl, rfl, .inl rfl⟩
    · exact .inl ⟨rfl, by omega⟩
  · split
    · exact .inr ⟨rfl, rfl, .inr rfl⟩
    next above => exact .inl ⟨rfl, Int.not_lt.mp above⟩

/-- A tick upwards goes on inside the limit or is to stop. -/
theorem zaehleAuf_cases (p : DeviceDataRolladen) :
    ((rolladenZaehleAuf p).1.laufzeit = p.laufzeit + 1 ∧ (rolladenZaehleAuf p).2 = false ∧
      p.laufzeit + 1 ≤ oneAndHalfTime p.config.strecke) ∨
    ((rolladenZaehleAuf p).1.lowlevelCommand = .stop ∧ (rolladenZaehleAuf p).2 = true ∧
      ((rolladenZaehleAuf p).1.laufzeit = p.laufzeit + 1 ∨
        (rolladenZaehleAuf p).1.laufzeit = p.config.strecke)) := by
  generalize moved : ({ p with
    summeLaufzeit := p.summeLaufzeit + 1, laufzeit := p.laufzeit + 1 } : DeviceDataRolladen) = q
  generalize aimed : rolladenSollErreicht q (q.laufzeit ≥ q.sollLaufzeit) = r
  have there : r.laufzeit = p.laufzeit + 1 := by rw [← aimed, sollErreicht_laufzeit, ← moved]
  have same : r.config = p.config := by
    rw [← aimed, (sollErreicht_skeleton _ _).config, ← moved]
  have counted : rolladenZaehleAuf p = rolladenObereEndposition r := by
    rw [← aimed, ← moved]
    rfl
  have cases_ := obereEndposition_cases r
  rw [there, same] at cases_
  rw [counted]
  rcases cases_ with ⟨result, inside⟩ | ending
  · rw [result]
    exact .inl ⟨there, rfl, inside⟩
  · exact .inr ending

theorem zaehleAb_cases (p : DeviceDataRolladen) :
    ((rolladenZaehleAb p).1.laufzeit = p.laufzeit - 1 ∧ (rolladenZaehleAb p).2 = false ∧
      -(halfTime p.config.strecke : Int) ≤ p.laufzeit - 1) ∨
    ((rolladenZaehleAb p).1.lowlevelCommand = .stop ∧ (rolladenZaehleAb p).2 = true ∧
      ((rolladenZaehleAb p).1.laufzeit = p.laufzeit - 1 ∨
        (rolladenZaehleAb p).1.laufzeit = 0)) := by
  generalize moved : ({ p with
    summeLaufzeit := p.summeLaufzeit + 1, laufzeit := p.laufzeit - 1 } : DeviceDataRolladen) = q
  generalize aimed : rolladenSollErreicht q (q.laufzeit ≤ q.sollLaufzeit) = r
  have there : r.laufzeit = p.laufzeit - 1 := by rw [← aimed, sollErreicht_laufzeit, ← moved]
  have same : r.config = p.config := by
    rw [← aimed, (sollErreicht_skeleton _ _).config, ← moved]
  have counted : rolladenZaehleAb p = rolladenUntereEndposition r := by
    rw [← aimed, ← moved]
    rfl
  have cases_ := untereEndposition_cases r
  rw [there, same] at cases_
  rw [counted]
  rcases cases_ with ⟨result, inside⟩ | ending
  · rw [result]
    exact .inl ⟨there, rfl, inside⟩
  · exact .inr ending

theorem hilevelCount_laufzeit (p : DeviceDataRolladen) :
    (rolladenHilevelCount p).laufzeit = p.laufzeit := by
  unfold rolladenHilevelCount
  dsimp only
  split
  · split <;> rfl
  · rfl

theorem laufzeitAlign_bounds (p : DeviceDataRolladen) :
    0 ≤ (rolladenLaufzeitAlign p).laufzeit ∧
      (rolladenLaufzeitAlign p).laufzeit ≤ p.config.strecke := by
  unfold rolladenLaufzeitAlign
  dsimp only
  split <;> split <;> omega

section Handler

variable (byZero : Int → Int) (self : UInt16)

/-- The switch moves the position only when it stops the shutter. -/
theorem switch_laufzeit (p : DeviceDataRolladen) (out : Outputs) :
    ((rolladenLowlevelSwitch byZero self p out).1.laufzeit = p.laufzeit ∧
      ((rolladenLowlevelSwitch byZero self p out).1.lowlevelState = .stop →
        p.lowlevelState = .stop)) ∨
    ((rolladenLowlevelSwitch byZero self p out).1.lowlevelState = .stop ∧
      0 ≤ (rolladenLowlevelSwitch byZero self p out).1.laufzeit ∧
      (rolladenLowlevelSwitch byZero self p out).1.laufzeit ≤ p.config.strecke) := by
  obtain ⟨config, summe, laufzeit, soll, source, lastDir, state, command, wait, up⟩ := p
  cases state with
  | stopWait1 =>
      cases wait with
      | zero => exact .inr ⟨rfl, laufzeitAlign_bounds _⟩
      | succ wait => exact .inl ⟨rfl, id⟩
  | stopWait3 =>
      cases wait with
      | zero => exact .inr ⟨rfl, laufzeitAlign_bounds _⟩
      | succ wait => exact .inl ⟨rfl, id⟩
  | stop =>
      cases command <;> first
        | exact .inl ⟨rfl, fun _ => rfl⟩
        | (cases lastDir <;> exact .inl ⟨rfl, fun _ => rfl⟩)
  | auf => cases command <;> exact .inl ⟨rfl, nofun⟩
  | ab => cases command <;> exact .inl ⟨rfl, nofun⟩
  | _ => cases wait <;> exact .inl ⟨rfl, nofun⟩

/-- The record behind the counting of distance and push-button. -/
def countedRolladen (q : DeviceDataRolladen) : DeviceDataRolladen :=
  if (rolladenStreckeZaehlen q).2 then (rolladenStreckeZaehlen q).1
  else rolladenHilevelCount (rolladenStreckeZaehlen q).1

theorem counted_travel {q : DeviceDataRolladen} {strecke : Nat} {state : RolladenState} {x : Int}
    (config : q.config.strecke = strecke)
    (switched : (q.laufzeit = x ∧ (q.lowlevelState = .stop → state = .stop)) ∨
      (q.lowlevelState = .stop ∧ 0 ≤ q.laufzeit ∧ q.laufzeit ≤ strecke)) :
    Travel strecke state q.lowlevelState x (countedRolladen q).lowlevelCommand
      (countedRolladen q).laufzeit := by
  subst config
  unfold countedRolladen
  cases up : q.lowlevelState.drivesUp with
  | true =>
      have start : q.laufzeit = x := by
        rcases switched with ⟨start, -⟩ | ⟨stop, -⟩
        · exact start
        · rw [stop] at up
          cases up
      subst start
      rw [rolladenStreckeZaehlen, if_pos up]
      rcases zaehleAuf_cases q with ⟨there, goesOn, inside⟩ | ⟨stops, returns, limit⟩
      · rw [goesOn, if_neg Bool.false_ne_true, hilevelCount_laufzeit, there]
        exact .up up inside
      · rw [returns, if_pos rfl, stops]
        exact .top up limit
  | false =>
      rw [rolladenStreckeZaehlen, if_neg (Bool.eq_false_iff.mp up)]
      cases down : q.lowlevelState.drivesDown with
      | true =>
          have start : q.laufzeit = x := by
            rcases switched with ⟨start, -⟩ | ⟨stop, -⟩
            · exact start
            · rw [stop] at down
              cases down
          subst start
          rw [if_pos rfl]
          rcases zaehleAb_cases q with ⟨there, goesOn, inside⟩ | ⟨stops, returns, limit⟩
          · rw [goesOn, if_neg Bool.false_ne_true, hilevelCount_laufzeit, there]
            exact .down down inside
          · rw [returns, if_pos rfl, stops]
            exact .bottom down limit
      | false =>
          rw [if_neg Bool.false_ne_true, if_neg Bool.false_ne_true, hilevelCount_laufzeit]
          rcases switched with ⟨start, notStopped⟩ | ⟨stopped, low, high⟩
          · rw [start]
            exact .rests up down notStopped
          · exact .aligned stopped low high

/-- The position behind a tick. -/
theorem timerHandler_travel (p : DeviceDataRolladen) (out : Outputs) :
    Travel p.config.strecke p.lowlevelState
      (rolladenLowlevelTimerHandler byZero self p out).1.lowlevelState p.laufzeit
      (rolladenLowlevelTimerHandler byZero self p out).1.lowlevelCommand
      (rolladenLowlevelTimerHandler byZero self p out).1.laufzeit := by
  obtain ⟨-, -, -, config⟩ := switch_transition byZero self (rolladenCountDown p) out
  have switched := switch_laufzeit byZero self (rolladenCountDown p) out
  rw [(timerHandler_skeleton byZero self p out).state]
  exact counted_travel (congrArg EdsRolladenBlock.strecke config) switched

end Handler

/-! ## The bounds -/

/-- The bounds of the position in every state; while a start is delayed the wait
counter stands for the ticks that are still to be counted. -/
def PositionBound (strecke : Nat) (command : RolladenCommand) (wait : Nat) (x : Int) :
    RolladenState → Prop
  | .stop => 0 ≤ x ∧ x ≤ strecke
  | .aufWait => (1 ≤ wait ∧ wait ≤ 3) ∧ -(halfTime strecke : Int) ≤ x ∧
      x ≤ oneAndHalfTime strecke + 4 - wait
  | .auf => -(halfTime strecke : Int) ≤ x ∧ x ≤ oneAndHalfTime strecke + 4 ∧
      (command ≠ .stop → x ≤ oneAndHalfTime strecke)
  | .stopWait1 => -(halfTime strecke : Int) ≤ x ∧ x ≤ oneAndHalfTime strecke + 4
  | .abWait1 => (1 ≤ wait ∧ wait ≤ 3) ∧ -(halfTime strecke : Int) - 4 + wait ≤ x ∧
      x ≤ oneAndHalfTime strecke
  | .abWait2 => (1 ≤ wait ∧ wait ≤ 3) ∧ -(halfTime strecke : Int) - 7 + wait ≤ x ∧
      x ≤ oneAndHalfTime strecke
  | .ab => -(halfTime strecke : Int) - 7 ≤ x ∧ x ≤ oneAndHalfTime strecke ∧
      (command ≠ .stop → -(halfTime strecke : Int) ≤ x)
  | .stopWait2 | .stopWait3 => -(halfTime strecke : Int) - 7 ≤ x ∧ x ≤ oneAndHalfTime strecke
  | .dirChangeWait1 | .dirChangeWait2 | .dirChangeWait3 =>
      -(halfTime strecke : Int) ≤ x ∧ x ≤ oneAndHalfTime strecke

/-- The bound of the ticks with a running motor. -/
def RunBound (strecke n : Nat) (command : RolladenCommand) (wait : Nat) (x : Int) :
    RolladenState → Prop
  | .aufWait => n + wait ≤ 4
  | .auf => n ≤ oneAndHalfTime strecke + halfTime strecke + 5 ∧
      (command ≠ .stop → (n : Int) ≤ x + halfTime strecke + 4)
  | .abWait1 => n + wait ≤ 4
  | .abWait2 => n + wait ≤ 7
  | .ab => n ≤ oneAndHalfTime strecke + halfTime strecke + 9 ∧
      (command ≠ .stop → (n : Int) ≤ oneAndHalfTime strecke - x + 8)
  | _ => n = 0

variable {strecke n wait nextWait : Nat} {state next : RolladenState}
  {command nextCommand : RolladenCommand} {action : RelayAction} {x y : Int}

theorem positionBound_tick
    (transition : Transition state command (wait - 1) action next nextWait)
    (travel : Travel strecke state next x nextCommand y)
    (bound : PositionBound strecke command wait x state) :
    PositionBound strecke nextCommand nextWait y next := by
  have order := le_oneAndHalfTime strecke
  generalize counted : wait - 1 = w at transition
  cases transition with
  | waiting _ _ waits more =>
      cases state with
      | aufWait =>
          have moved := (travel.upward rfl).1
          simp only [PositionBound] at bound ⊢
          omega
      | abWait1 =>
          have moved := (travel.downward rfl).1
          simp only [PositionBound] at bound ⊢
          omega
      | abWait2 =>
          have moved := (travel.downward rfl).1
          simp only [PositionBound] at bound ⊢
          omega
      | stop => cases waits
      | auf => cases waits
      | ab => cases waits
      | _ =>
          rw [travel.still rfl rfl nofun]
          exact bound
  | staying _ _ _ ready idle =>
      cases state with
      | stop => exact travel.stopped fun _ => bound
      | auf =>
          obtain ⟨low, high, inside⟩ := bound
          have before := inside fun stop => idle (.inl stop)
          obtain ⟨moved, goesOn⟩ := travel.upward rfl
          exact ⟨by omega, by omega, fun other => (goesOn other).2⟩
      | ab =>
          obtain ⟨low, high, inside⟩ := bound
          have before := inside fun stop => idle (.inl stop)
          obtain ⟨moved, goesOn⟩ := travel.downward rfl
          exact ⟨by omega, by omega, fun other => (goesOn other).2⟩
      | _ => exact absurd trivial ready
  | startAuf _ =>
      have moved := (travel.upward rfl).1
      simp only [PositionBound] at bound ⊢
      omega
  | startAb _ =>
      have moved := (travel.downward rfl).1
      simp only [PositionBound] at bound ⊢
      omega
  | runsAuf _ =>
      obtain ⟨moved, goesOn⟩ := travel.upward rfl
      simp only [PositionBound] at bound
      exact ⟨by omega, by omega, fun other => (goesOn other).2⟩
  | stopAuf _ =>
      rw [travel.still rfl rfl nofun]
      exact ⟨bound.1, bound.2.1⟩
  | turnAuf _ =>
      rw [travel.still rfl rfl nofun]
      exact ⟨bound.1, bound.2.2 nofun⟩
  | stoppedAuf _ => exact travel.stopped nofun
  | powerAb _ =>
      have moved := (travel.downward rfl).1
      simp only [PositionBound] at bound ⊢
      omega
  | runsAb _ =>
      obtain ⟨moved, goesOn⟩ := travel.downward rfl
      simp only [PositionBound] at bound
      exact ⟨by omega, by omega, fun other => (goesOn other).2⟩
  | stopAb _ =>
      rw [travel.still rfl rfl nofun]
      exact ⟨bound.1, bound.2.1⟩
  | turnAb _ =>
      rw [travel.still rfl rfl nofun]
      exact ⟨bound.2.2 nofun, bound.2.1⟩
  | dirOffStop _ =>
      rw [travel.still rfl rfl nofun]
      exact bound
  | stoppedAb _ => exact travel.stopped nofun
  | dirOn _ =>
      have moved := (travel.downward rfl).1
      simp only [PositionBound] at bound ⊢
      omega
  | dirOff _ =>
      rw [travel.still rfl rfl nofun]
      exact bound
  | powerAuf _ =>
      have moved := (travel.upward rfl).1
      simp only [PositionBound] at bound ⊢
      omega

/-- A tick behind which the motor still runs. -/
theorem runBound_tick
    (transition : Transition state command (wait - 1) action next nextWait)
    (travel : Travel strecke state next x nextCommand y)
    (position : PositionBound strecke command wait x state)
    (moving : next.drivesUp = true ∨ next.drivesDown = true)
    (bound : RunBound strecke n command wait x state) :
    RunBound strecke (n + 1) nextCommand nextWait y next := by
  have order := le_oneAndHalfTime strecke
  have after := positionBound_tick transition travel position
  generalize counted : wait - 1 = w at transition
  cases transition with
  | waiting _ _ waits more =>
      cases state with
      | aufWait =>
          simp only [RunBound] at bound ⊢
          omega
      | abWait1 =>
          simp only [RunBound] at bound ⊢
          omega
      | abWait2 =>
          simp only [RunBound] at bound ⊢
          omega
      | stop => cases waits
      | auf => cases waits
      | ab => cases waits
      | _ => simp [RolladenState.drivesUp, RolladenState.drivesDown] at moving
  | staying _ _ _ ready idle =>
      cases state with
      | auf =>
          have notStop : command ≠ .stop := fun stop => idle (.inl stop)
          have before := position.2.2 notStop
          have ticks := bound.2 notStop
          obtain ⟨moved, goesOn⟩ := travel.upward rfl
          exact ⟨by omega, fun other => by have := (goesOn other).1; omega⟩
      | ab =>
          have notStop : command ≠ .stop := fun stop => idle (.inl stop)
          have before := position.2.2 notStop
          have ticks := bound.2 notStop
          obtain ⟨moved, goesOn⟩ := travel.downward rfl
          exact ⟨by omega, fun other => by have := (goesOn other).1; omega⟩
      | stop => simp [RolladenState.drivesUp, RolladenState.drivesDown] at moving
      | _ => exact absurd trivial ready
  | startAuf _ =>
      simp only [RunBound] at bound ⊢
      omega
  | startAb _ =>
      simp only [RunBound] at bound ⊢
      omega
  | runsAuf _ =>
      have low := after.1
      simp only [RunBound, PositionBound] at bound position
      exact ⟨by omega, fun _ => by omega⟩
  | powerAb _ =>
      simp only [RunBound, PositionBound] at bound position ⊢
      omega
  | runsAb _ =>
      have high := after.2.1
      simp only [RunBound, PositionBound] at bound position
      exact ⟨by omega, fun _ => by omega⟩
  | dirOn _ =>
      simp only [RunBound] at bound ⊢
      omega
  | powerAuf _ =>
      simp only [RunBound] at bound ⊢
      omega
  | _ => simp [RolladenState.drivesUp, RolladenState.drivesDown] at moving

/-! ## The bounds under frames and over runs -/

/-- What a frame may make of the pending command. -/
def Placed (state : RolladenState) (command nextCommand : RolladenCommand) : Prop :=
  nextCommand = command ∨
    (state = .stop ∧ (nextCommand = .auf ∨ nextCommand = .ab)) ∨
    ((state = .auf ∨ state = .ab) ∧ nextCommand = .stop)

theorem positionBound_placed (placed : Placed state command nextCommand)
    (bound : PositionBound strecke command wait x state) :
    PositionBound strecke nextCommand wait x state := by
  rcases placed with rfl | ⟨rfl, -⟩ | ⟨rfl | rfl, rfl⟩
  · exact bound
  · exact bound
  · exact ⟨bound.1, bound.2.1, fun other => absurd rfl other⟩
  · exact ⟨bound.1, bound.2.1, fun other => absurd rfl other⟩

theorem runBound_placed (placed : Placed state command nextCommand)
    (bound : RunBound strecke n command wait x state) :
    RunBound strecke n nextCommand wait x state := by
  rcases placed with rfl | ⟨rfl, -⟩ | ⟨rfl | rfl, rfl⟩
  · exact bound
  · exact bound
  · exact ⟨bound.1, fun other => absurd rfl other⟩
  · exact ⟨bound.1, fun other => absurd rfl other⟩

/-- No ticks are counted yet. -/
theorem runBound_zero (position : PositionBound strecke command wait x state) :
    RunBound strecke 0 command wait x state := by
  have order := le_oneAndHalfTime strecke
  cases state with
  | aufWait =>
      simp only [PositionBound, RunBound] at position ⊢
      omega
  | abWait1 =>
      simp only [PositionBound, RunBound] at position ⊢
      omega
  | abWait2 =>
      simp only [PositionBound, RunBound] at position ⊢
      omega
  | auf =>
      have low := position.1
      exact ⟨Nat.zero_le _, fun _ => by omega⟩
  | ab =>
      have high := position.2.1
      exact ⟨Nat.zero_le _, fun _ => by omega⟩
  | _ => rfl

/-- The widest bounds, those of the delayed starts. -/
theorem positionBound_all (bound : PositionBound strecke command wait x state) :
    -(halfTime strecke : Int) - 7 ≤ x ∧ x ≤ oneAndHalfTime strecke + 4 := by
  have order := le_oneAndHalfTime strecke
  cases state <;> simp only [PositionBound] at bound <;> omega

theorem runBound_all (bound : RunBound strecke n command wait x state) :
    n ≤ oneAndHalfTime strecke + halfTime strecke + 9 := by
  cases state <;> simp only [RunBound] at bound <;> omega

/-- The event is no frame that defines the position. -/
def NoDefinition : RolladenEvent → Prop
  | .frame frame => frame.data[1] ≠ hcanHesRolladenDefinePosition
  | _ => True

instance : DecidablePred NoDefinition
  | .tick => .isTrue trivial
  | .frame frame => inferInstanceAs (Decidable (frame.data[1] ≠ hcanHesRolladenDefinePosition))
  | .other _ _ => .isTrue trivial

/-- The steps of a shutter whose position nobody defines. -/
structure MeasuredStep (byZero : Int → Int) (selfaddr : UInt16) (s : RolladenSystem)
    (event : RolladenEvent) (t : RolladenSystem) : Prop
    extends RolladenStep byZero selfaddr s event t where
  undefined : NoDefinition event

theorem measuredRun {byZero : Int → Int} {self : UInt16} {s t : RolladenSystem}
    {events : List RolladenEvent} (run : Run (RolladenStep byZero self) s events t)
    (undefined : ∀ event ∈ events, NoDefinition event) :
    Run (MeasuredStep byZero self) s events t := by
  induction run with
  | nil state => exact .nil state
  | cons taken _ ih =>
      have rest := ih fun event member => undefined event (List.mem_cons_of_mem _ member)
      exact .cons ⟨taken, undefined _ List.mem_cons_self⟩ rest

/-- The invariant of the position. -/
def Measured (s : RolladenSystem) : Prop :=
  PositionBound s.device.config.strecke s.device.lowlevelCommand s.device.lowlevelWaitCounter
    s.device.laufzeit s.device.lowlevelState

/-- The invariant of the motor: it runs for `n` ticks. -/
def MotorRuns (n : Nat) (s : RolladenSystem) : Prop :=
  RunBound s.device.config.strecke n s.device.lowlevelCommand s.device.lowlevelWaitCounter
    s.device.laufzeit s.device.lowlevelState

/-- The state counts the position. -/
def RolladenState.Moves (state : RolladenState) : Prop :=
  state.drivesUp = true ∨ state.drivesDown = true

/-- The power relay is on in the moving states only. -/
def PoweredMoving (s : RolladenSystem) : Prop :=
  s.powerOn = true → s.device.lowlevelState.Moves

section Steps

variable {byZero : Int → Int} {self : UInt16} {s t : RolladenSystem} {event : RolladenEvent}

/-- A step is a tick that follows the diagram and travels, or it moves nothing
and places a command at most. -/
theorem measuredStep_cases (taken : MeasuredStep byZero self s event t) :
    t.device.config = s.device.config ∧
      ((tickCount event = 1 ∧ ∃ action,
        Transition s.device.lowlevelState s.device.lowlevelCommand
          (s.device.lowlevelWaitCounter - 1) action t.device.lowlevelState
          t.device.lowlevelWaitCounter ∧
        Travel s.device.config.strecke s.device.lowlevelState t.device.lowlevelState
          s.device.laufzeit t.device.lowlevelCommand t.device.laufzeit ∧
        t.out = s.out.act s.device.config action) ∨
      (tickCount event = 0 ∧ SameSkeleton s.device t.device ∧
        t.device.laufzeit = s.device.laufzeit ∧ t.powerOn = s.powerOn ∧
        Placed s.device.lowlevelState s.device.lowlevelCommand t.device.lowlevelCommand)) := by
  obtain ⟨⟨unshared, rfl⟩, undefined⟩ := taken
  cases event with
  | tick =>
      obtain ⟨action, transition, acted, config⟩ :=
        timerHandler_transition byZero self s.device s.out
      have travel := timerHandler_travel byZero self s.device s.out
      exact ⟨config, .inl ⟨rfl, action, transition, travel, acted⟩⟩
  | frame frame =>
      have commands := canCallback_commands byZero self s.device undefined
      have power := congrArg s.out.isOn (congrArg EdsRolladenBlock.portPower commands.config)
      exact ⟨commands.config,
        .inr ⟨rfl, commands.toSameSkeleton, commands.laufzeit, power, commands.command⟩⟩
  | other n state =>
      have power := isOn_setpin_of_ne s.out (Ne.symm unshared.1) state
      exact ⟨rfl, .inr ⟨rfl, .refl _, rfl, power, .inl rfl⟩⟩

theorem Measured.step (measured : Measured s) (taken : MeasuredStep byZero self s event t) :
    Measured t := by
  obtain ⟨config, ⟨-, action, transition, travel, -⟩ | ⟨-, same, there, -, placed⟩⟩ :=
    measuredStep_cases taken
  · unfold Measured
    rw [config]
    exact positionBound_tick transition travel measured
  · unfold Measured
    rw [config, same.state, same.wait, there]
    exact positionBound_placed placed measured

/-- Only a tick into a moving state switches the power relay on. -/
theorem transition_moves (transition : Transition state command wait action next nextWait)
    {out : Outputs} {config : EdsRolladenBlock}
    (moving : out.isOn config.portPower = true → state.Moves)
    (on : (out.act config action).isOn config.portPower = true) : next.Moves := by
  cases transition with
  | waiting _ _ _ _ => exact moving on
  | staying _ _ _ _ _ => exact moving on
  | startAuf _ => exact .inl rfl
  | startAb _ => exact .inr rfl
  | runsAuf _ => exact .inl rfl
  | stoppedAuf _ => exact (moving on).elim nofun nofun
  | powerAb _ => exact .inr rfl
  | runsAb _ => exact .inr rfl
  | stoppedAb _ => exact (moving on).elim nofun nofun
  | dirOn _ => exact .inr rfl
  | powerAuf _ => exact .inl rfl
  | dirOffStop _ =>
      have before := (isOn_setpin_false on).2
      exact (moving before).elim nofun nofun
  | dirOff _ =>
      have before := (isOn_setpin_false on).2
      exact (moving before).elim nofun nofun
  | stopAuf _ => exact absurd rfl (isOn_setpin_false on).1
  | turnAuf _ => exact absurd rfl (isOn_setpin_false on).1
  | stopAb _ => exact absurd rfl (isOn_setpin_false on).1
  | turnAb _ => exact absurd rfl (isOn_setpin_false on).1

theorem PoweredMoving.step (moving : PoweredMoving s) (taken : MeasuredStep byZero self s event t) :
    PoweredMoving t := by
  intro on
  obtain ⟨config, ⟨-, action, transition, -, acted⟩ | ⟨-, same, -, power, -⟩⟩ :=
    measuredStep_cases taken
  · rw [RolladenSystem.powerOn, config, acted] at on
    exact transition_moves transition moving on
  · rw [same.state]
    exact moving (power ▸ on)

/-- A step behind which the power is on goes on counting. -/
theorem MotorRuns.step (runs : MotorRuns n s) (measured : Measured s)
    (moving : PoweredMoving s) (taken : MeasuredStep byZero self s event t)
    (on : t.powerOn = true) : MotorRuns (n + tickCount event) t := by
  have moves := moving.step taken on
  obtain ⟨config, ⟨tick, action, transition, travel, -⟩ | ⟨idle, same, there, -, placed⟩⟩ :=
    measuredStep_cases taken
  · unfold MotorRuns
    rw [config, tick]
    exact runBound_tick transition travel measured moves runs
  · unfold MotorRuns
    rw [config, idle, same.state, same.wait, there]
    exact runBound_placed placed runs

end Steps

/-- An initialised shutter stands at the top. -/
theorem measured_init (config : EdsRolladenBlock) (out : Outputs) :
    Measured ⟨rolladenInit config, out⟩ := ⟨Int.natCast_nonneg _, le_rfl⟩

/-- The steps behind which the power relay is on. -/
structure PoweredStep (byZero : Int → Int) (selfaddr : UInt16) (s : RolladenSystem)
    (event : RolladenEvent) (t : RolladenSystem) : Prop
    extends MeasuredStep byZero selfaddr s event t where
  powered : t.powerOn = true

/-- Shutter position and motor-run bound: from an initialised shutter the
position stays within half a run time of its range, a standing shutter is within
its range, and when the power relay was off at first it is never on for more
than two run times. -/
theorem rolladen_position_bound (byZero : Int → Int) (self : UInt16) {config : EdsRolladenBlock}
    {out : Outputs} {events : List RolladenEvent} {s : RolladenSystem}
    (run : Run (MeasuredStep byZero self) ⟨rolladenInit config, out⟩ events s) :
    (-((config.strecke / 2 : Nat) : Int) - 16 ≤ s.device.laufzeit ∧
      s.device.laufzeit ≤ ((3 * config.strecke / 2 + 16 : Nat) : Int)) ∧
    (s.device.lowlevelState = .stop →
      0 ≤ s.device.laufzeit ∧ s.device.laufzeit ≤ config.strecke) ∧
    (out.isOn config.portPower = false →
      ∀ (on : List RolladenEvent) (t : RolladenSystem), Run (PoweredStep byZero self) s on t →
        tally tickCount on ≤ 2 * config.strecke + 64) := by
  have same : s.device.config = config :=
    rolladenRun_config (run.mono fun _ _ _ taken => taken.toRolladenStep)
  have measured : Measured s :=
    run.invariant Measured (fun _ _ _ taken before => before.step taken) (measured_init config out)
  have bounds := positionBound_all measured
  rw [same] at bounds
  refine ⟨?_, ?_, ?_⟩
  · unfold halfTime oneAndHalfTime at bounds
    omega
  · intro stands
    unfold Measured at measured
    rw [stands, same] at measured
    exact measured
  · intro off on t powered
    have initially : PoweredMoving ⟨rolladenInit config, out⟩ := fun isOn => by
      have isOff : RolladenSystem.powerOn ⟨rolladenInit config, out⟩ = false := off
      rw [isOff] at isOn
      cases isOn
    have moving : PoweredMoving s :=
      run.invariant PoweredMoving (fun _ _ _ taken before => before.step taken) initially
    have counted := powered.counted tickCount
      (fun n u => u.device.config = config ∧ Measured u ∧ PoweredMoving u ∧ MotorRuns n u)
      (fun n u event u' taken holds =>
        ⟨(measuredStep_cases taken.toMeasuredStep).1.trans holds.1,
          holds.2.1.step taken.toMeasuredStep, holds.2.2.1.step taken.toMeasuredStep,
          holds.2.2.2.step holds.2.1 holds.2.2.1 taken.toMeasuredStep taken.powered⟩)
      ⟨same, measured, moving, runBound_zero measured⟩
    have ticks := runBound_all counted.2.2.2
    rw [Nat.zero_add, counted.1] at ticks
    unfold halfTime oneAndHalfTime at ticks
    omega

/-- The kitchen shutter on its way down, with the motor on. -/
theorem rolladen_position_bound_kitchen :
    let s := kitchenAfter kitchenBoot [kitchenDown, .tick, .tick, .tick]
    let t := kitchenAfter s [.tick]
    t.powerOn = true ∧ -((100 / 2 : Nat) : Int) - 16 ≤ s.device.laufzeit ∧
      tally tickCount [.tick] ≤ 2 * 100 + 64 := by
  intro s t
  have on : t.powerOn = true := by decide +kernel
  have run := measuredRun
    (kitchenRun kitchenBoot (by decide :
      ∀ event ∈ [kitchenDown, .tick, .tick, .tick], Unshared kitchenShutter event))
    (by decide)
  have proved := rolladen_position_bound (fun _ => 0) 7 run
  have powered : PoweredStep (fun _ => 0) 7 s .tick t := ⟨⟨kitchenTick s, trivial⟩, on⟩
  exact ⟨on, proved.1.1, proved.2.2 (by decide +kernel) [.tick] t (.single powered)⟩

end Hcan.Controller
