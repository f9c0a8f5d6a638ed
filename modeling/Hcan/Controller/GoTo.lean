import Hcan.Controller.Position

/-!
# Going to a position

ROLLADEN_POSITION_SET starts a standing shutter when its position differs by more than
the rounding, and the target is at least six ticks away then.  Three wait ticks upwards
and six downwards lie before the first tick in which a stop can act, so that the shutter
stops at the target exactly.
-/

namespace Hcan.Controller

open Hcan.Canix Hcan.Library

section Counting

variable {q : DeviceDataRolladen}

theorem obereEndposition_inside (below : q.laufzeit < q.config.strecke) :
    rolladenObereEndposition q = (q, false) := by
  have order := le_oneAndHalfTime q.config.strecke
  unfold rolladenObereEndposition
  split
  · exact if_neg (Int.not_le.mpr below)
  · refine if_neg (Int.not_lt.mpr ?_)
    change q.laufzeit ≤ (oneAndHalfTime q.config.strecke : Nat)
    omega

theorem untereEndposition_inside (above : 0 < q.laufzeit) :
    rolladenUntereEndposition q = (q, false) := by
  unfold rolladenUntereEndposition
  split
  · exact if_neg (Int.not_le.mpr above)
  · refine if_neg (Int.not_lt.mpr ?_)
    change -(halfTime q.config.strecke : Int) ≤ q.laufzeit
    omega

theorem hilevelCount_released (released : q.hilevelUpEventCounter ≤ 0) :
    rolladenHilevelCount q = q := if_neg (Int.not_lt.mpr released)

theorem sollErreicht_inside (reached : Prop) [Decidable reached] :
    (rolladenSollErreicht q reached).laufzeit = q.laufzeit ∧
      (rolladenSollErreicht q reached).config = q.config ∧
      (rolladenSollErreicht q reached).hilevelUpEventCounter = q.hilevelUpEventCounter := by
  unfold rolladenSollErreicht
  split <;> exact ⟨rfl, rfl, rfl⟩

theorem counted_auf (up : q.lowlevelState.drivesUp = true)
    (below : q.laufzeit + 1 < q.config.strecke) (released : q.hilevelUpEventCounter ≤ 0) :
    countedRolladen q = rolladenSollErreicht
      { q with summeLaufzeit := q.summeLaufzeit + 1, laufzeit := q.laufzeit + 1 }
      (q.laufzeit + 1 ≥ q.sollLaufzeit) := by
  generalize aimed : rolladenSollErreicht
    { q with summeLaufzeit := q.summeLaufzeit + 1, laufzeit := q.laufzeit + 1 }
    (q.laufzeit + 1 ≥ q.sollLaufzeit) = r
  obtain ⟨there, config, counter⟩ := sollErreicht_inside (q :=
    { q with summeLaufzeit := q.summeLaufzeit + 1, laufzeit := q.laufzeit + 1 })
    (q.laufzeit + 1 ≥ q.sollLaufzeit)
  rw [aimed] at there config counter
  have inside : rolladenObereEndposition r = (r, false) :=
    obereEndposition_inside (by rw [there, config]; exact below)
  have counted : rolladenStreckeZaehlen q = (r, false) := by
    rw [rolladenStreckeZaehlen, if_pos up, ← inside, ← aimed]
    rfl
  rw [countedRolladen, counted]
  exact hilevelCount_released (counter.trans_le released)

theorem counted_ab (notUp : q.lowlevelState.drivesUp = false)
    (down : q.lowlevelState.drivesDown = true)
    (above : 0 < q.laufzeit - 1) (released : q.hilevelUpEventCounter ≤ 0) :
    countedRolladen q = rolladenSollErreicht
      { q with summeLaufzeit := q.summeLaufzeit + 1, laufzeit := q.laufzeit - 1 }
      (q.laufzeit - 1 ≤ q.sollLaufzeit) := by
  generalize aimed : rolladenSollErreicht
    { q with summeLaufzeit := q.summeLaufzeit + 1, laufzeit := q.laufzeit - 1 }
    (q.laufzeit - 1 ≤ q.sollLaufzeit) = r
  obtain ⟨there, -, counter⟩ := sollErreicht_inside (q :=
    { q with summeLaufzeit := q.summeLaufzeit + 1, laufzeit := q.laufzeit - 1 })
    (q.laufzeit - 1 ≤ q.sollLaufzeit)
  rw [aimed] at there counter
  have inside : rolladenUntereEndposition r = (r, false) :=
    untereEndposition_inside (by rw [there]; exact above)
  have counted : rolladenStreckeZaehlen q = (r, false) := by
    rw [rolladenStreckeZaehlen, if_neg (Bool.eq_false_iff.mp notUp), if_pos down, ← inside,
      ← aimed]
    rfl
  rw [countedRolladen, counted]
  exact hilevelCount_released (counter.trans_le released)

theorem counted_still (notUp : q.lowlevelState.drivesUp = false)
    (notDown : q.lowlevelState.drivesDown = false) (released : q.hilevelUpEventCounter ≤ 0) :
    countedRolladen q = q := by
  have counted : rolladenStreckeZaehlen q = (q, false) := by
    rw [rolladenStreckeZaehlen, if_neg (Bool.eq_false_iff.mp notUp),
      if_neg (Bool.eq_false_iff.mp notDown)]
  rw [countedRolladen, counted]
  exact hilevelCount_released released

end Counting

/-- `Way target n state command wait x soll`: `n` ticks before the shutter stands at `target`.
While a start is delayed the wait counter leaves room before the target. -/
inductive Way (target : Int) : Nat → RolladenState → RolladenCommand → Nat → Int → Int → Prop where
  | aufWait (wait d : Nat) (delay : wait ≤ d) :
      Way target (d + 5) .aufWait .ready (wait + 1) (target - (d + 1)) target
  | auf (wait d : Nat) : Way target (d + 5) .auf .ready wait (target - (d + 1)) target
  | aufTarget (wait : Nat) : Way target 4 .auf .stop wait target (-1)
  | stopWait1 (wait : Nat) : Way target (wait + 1) .stopWait1 .ready (wait + 1) target (-1)
  | abWait1 (wait d : Nat) (delay : wait + 3 ≤ d) :
      Way target (d + 11) .abWait1 .ready (wait + 1) (target + (d + 1)) target
  | abWait2 (wait d : Nat) (delay : wait ≤ d) :
      Way target (d + 11) .abWait2 .ready (wait + 1) (target + (d + 1)) target
  | ab (wait d : Nat) : Way target (d + 11) .ab .ready wait (target + (d + 1)) target
  | abTarget (wait : Nat) : Way target 10 .ab .stop wait target (-1)
  | stopWait2 (wait : Nat) : Way target (wait + 4) .stopWait2 .ready (wait + 1) target (-1)
  | stopWait3 (wait : Nat) : Way target (wait + 1) .stopWait3 .ready (wait + 1) target (-1)
  | standing (wait : Nat) : Way target 0 .stop .ready wait target (-1)

/-- A shutter of `config` on the way to `target` with its push-button released. -/
structure Approaching (config : EdsRolladenBlock) (target : Int) (n : Nat)
    (p : DeviceDataRolladen) : Prop where
  config : p.config = config
  released : p.hilevelUpEventCounter ≤ 0
  way : Way target n p.lowlevelState p.lowlevelCommand p.lowlevelWaitCounter p.laufzeit
    p.sollLaufzeit

section Step

variable {config : EdsRolladenBlock} {target : Int} {n d : Nat} {p q : DeviceDataRolladen}

/-- A tick upwards, behind which the target is `d` ticks away. -/
theorem approaching_auf (same : q.config = config) (up : q.lowlevelState.drivesUp = true)
    (low : 0 < target) (high : target < config.strecke) (released : q.hilevelUpEventCounter ≤ 0)
    (ready : q.lowlevelCommand = .ready) (x : q.laufzeit = target - (d + 1))
    (soll : q.sollLaufzeit = target) (arrives : d = 0 → q.lowlevelState = .auf)
    (goes : ∀ e, d = e + 1 → Way target (e + 5) q.lowlevelState .ready q.lowlevelWaitCounter
      (target - (e + 1)) target) :
    Approaching config target (d + 4) (countedRolladen q) := by
  rw [counted_auf up (by rw [same]; omega) released, rolladenSollErreicht, soll]
  cases d with
  | zero =>
      rw [if_pos ⟨by omega, by omega⟩]
      have there : q.laufzeit + 1 = target := by omega
      refine ⟨same, released, ?_⟩
      rw [arrives rfl]
      dsimp only
      rw [there]
      exact .aufTarget _
  | succ e =>
      rw [if_neg fun both => absurd both.2 (by omega)]
      have there : q.laufzeit + 1 = target - (e + 1) := by omega
      refine ⟨same, released, ?_⟩
      dsimp only
      rw [ready, there]
      exact goes e rfl

/-- A tick downwards. -/
theorem approaching_ab (same : q.config = config) (notUp : q.lowlevelState.drivesUp = false)
    (down : q.lowlevelState.drivesDown = true) (low : 0 < target)
    (released : q.hilevelUpEventCounter ≤ 0) (ready : q.lowlevelCommand = .ready)
    (x : q.laufzeit = target + (d + 1)) (soll : q.sollLaufzeit = target)
    (arrives : d = 0 → q.lowlevelState = .ab)
    (goes : ∀ e, d = e + 1 → Way target (e + 11) q.lowlevelState .ready q.lowlevelWaitCounter
      (target + (e + 1)) target) :
    Approaching config target (d + 10) (countedRolladen q) := by
  rw [counted_ab notUp down (by omega) released, rolladenSollErreicht, soll]
  cases d with
  | zero =>
      rw [if_pos ⟨by omega, by omega⟩]
      have there : q.laufzeit - 1 = target := by omega
      refine ⟨same, released, ?_⟩
      rw [arrives rfl]
      dsimp only
      rw [there]
      exact .abTarget _
  | succ e =>
      rw [if_neg fun both => absurd both.2 (by omega)]
      have there : q.laufzeit - 1 = target + (e + 1) := by omega
      refine ⟨same, released, ?_⟩
      dsimp only
      rw [ready, there]
      exact goes e rfl

/-- A tick behind which the motor does not run. -/
theorem approaching_still (same : q.config = config) (notUp : q.lowlevelState.drivesUp = false)
    (notDown : q.lowlevelState.drivesDown = false) (released : q.hilevelUpEventCounter ≤ 0)
    (way : Way target n q.lowlevelState q.lowlevelCommand q.lowlevelWaitCounter q.laufzeit
      q.sollLaufzeit) : Approaching config target n (countedRolladen q) := by
  rw [counted_still notUp notDown released]
  exact ⟨same, released, way⟩

theorem align_inside (low : 0 ≤ p.laufzeit) (high : p.laufzeit ≤ p.config.strecke) :
    rolladenLaufzeitAlign p = p := by
  unfold rolladenLaufzeitAlign
  dsimp only
  rw [if_neg (Int.not_lt.mpr low), if_neg (Int.not_lt.mpr high)]

/-- A tick on the way. -/
theorem Approaching.tick (byZero : Int → Int) (self : UInt16) (out : Outputs) (low : 0 < target)
    (high : target < config.strecke) (approaching : Approaching config target (n + 1) p) :
    Approaching config target n (rolladenLowlevelTimerHandler byZero self p out).1 := by
  obtain ⟨config, summe, laufzeit, soll, source, lastDir, state, command, wait, up⟩ := p
  obtain ⟨same, released, way⟩ := approaching
  dsimp only at same released way
  subst same
  change Approaching _ _ _ (countedRolladen _)
  cases way with
  | aufWait wait d delay =>
      cases wait with
      | zero =>
          exact approaching_auf rfl rfl low high released rfl rfl rfl (fun _ => rfl)
            fun e _ => .auf 0 e
      | succ wait =>
          exact approaching_auf rfl rfl low high released rfl rfl rfl
            (fun none => absurd none (by omega)) fun e left => .aufWait wait e (by omega)
  | auf wait d =>
      exact approaching_auf rfl rfl low high released rfl rfl rfl (fun _ => rfl)
        fun e _ => .auf _ e
  | aufTarget wait => exact approaching_still rfl rfl rfl released (.stopWait1 2)
  | stopWait1 =>
      cases n with
      | zero =>
          change Approaching _ _ _ (countedRolladen (rolladenLaufzeitAlign _))
          rw [align_inside low.le high.le]
          exact approaching_still rfl rfl rfl released (.standing 0)
      | succ wait => exact approaching_still rfl rfl rfl released (.stopWait1 wait)
  | abWait1 wait d delay =>
      cases wait with
      | zero =>
          exact approaching_ab rfl rfl rfl low released rfl rfl rfl
            (fun none => absurd none (by omega)) fun e left => .abWait2 2 e (by omega)
      | succ wait =>
          exact approaching_ab rfl rfl rfl low released rfl rfl rfl
            (fun none => absurd none (by omega)) fun e left => .abWait1 wait e (by omega)
  | abWait2 wait d delay =>
      cases wait with
      | zero =>
          exact approaching_ab rfl rfl rfl low released rfl rfl rfl (fun _ => rfl)
            fun e _ => .ab 0 e
      | succ wait =>
          exact approaching_ab rfl rfl rfl low released rfl rfl rfl
            (fun none => absurd none (by omega)) fun e left => .abWait2 wait e (by omega)
  | ab wait d =>
      exact approaching_ab rfl rfl rfl low released rfl rfl rfl (fun _ => rfl) fun e _ => .ab _ e
  | abTarget wait => exact approaching_still rfl rfl rfl released (.stopWait2 5)
  | stopWait2 wait =>
      cases wait with
      | zero => exact approaching_still rfl rfl rfl released (.stopWait3 2)
      | succ wait => exact approaching_still rfl rfl rfl released (.stopWait2 wait)
  | stopWait3 =>
      cases n with
      | zero =>
          change Approaching _ _ _ (countedRolladen (rolladenLaufzeitAlign _))
          rw [align_inside low.le high.le]
          exact approaching_still rfl rfl rfl released (.standing 0)
      | succ wait => exact approaching_still rfl rfl rfl released (.stopWait3 wait)

/-- A standing shutter that is not started stays. -/
theorem Approaching.rest (byZero : Int → Int) (self : UInt16) (out : Outputs)
    (approaching : Approaching config target 0 p) :
    Approaching config target 0 (rolladenLowlevelTimerHandler byZero self p out).1 := by
  obtain ⟨config, summe, laufzeit, soll, source, lastDir, state, command, wait, up⟩ := p
  obtain ⟨same, released, way⟩ := approaching
  dsimp only at same released way
  subst same
  change Approaching _ _ _ (countedRolladen _)
  cases way with
  | standing wait => exact approaching_still rfl rfl rfl released (.standing (wait - 1))

theorem Approaching.moves (approaching : Approaching config target (n + 1) p) :
    p.lowlevelState ≠ .stop := by
  obtain ⟨config, summe, laufzeit, soll, source, lastDir, state, command, wait, up⟩ := p
  obtain ⟨-, -, way⟩ := approaching
  dsimp only at way
  cases way <;> exact RolladenState.noConfusion

theorem Approaching.stands (approaching : Approaching config target 0 p) :
    p.lowlevelState = .stop ∧ p.lowlevelCommand = .ready ∧ p.laufzeit = target := by
  obtain ⟨config, summe, laufzeit, soll, source, lastDir, state, command, wait, up⟩ := p
  obtain ⟨-, -, way⟩ := approaching
  dsimp only at way
  cases way with
  | standing wait => exact ⟨rfl, rfl, rfl⟩

/-- The first tick of a started shutter: three wait ticks lie before the target upwards. -/
theorem start_auf (byZero : Int → Int) (self : UInt16) (out : Outputs)
    (stands : p.lowlevelState = .stop) (started : p.lowlevelCommand = .auf)
    (released : p.hilevelUpEventCounter ≤ 0) (low : 0 < target) (high : target < p.config.strecke)
    (soll : p.sollLaufzeit = target) (x : p.laufzeit = target - (d + 1)) (delay : 3 ≤ d) :
    Approaching p.config target (d + 4) (rolladenLowlevelTimerHandler byZero self p out).1 := by
  obtain ⟨config, summe, laufzeit, soll, source, lastDir, state, command, wait, up⟩ := p
  dsimp only at *
  subst stands started soll
  change Approaching _ _ _ (countedRolladen _)
  exact approaching_auf rfl rfl low high released rfl x rfl (fun none => absurd none (by omega))
    fun e left => .aufWait 2 e (by omega)

/-- Two and three wait ticks lie before the target downwards. -/
theorem start_ab (byZero : Int → Int) (self : UInt16) (out : Outputs)
    (stands : p.lowlevelState = .stop) (started : p.lowlevelCommand = .ab)
    (released : p.hilevelUpEventCounter ≤ 0) (low : 0 < target)
    (soll : p.sollLaufzeit = target) (x : p.laufzeit = target + (d + 1)) (delay : 5 ≤ d) :
    Approaching p.config target (d + 10) (rolladenLowlevelTimerHandler byZero self p out).1 := by
  obtain ⟨config, summe, laufzeit, soll, source, lastDir, state, command, wait, up⟩ := p
  dsimp only at *
  subst stands started soll
  change Approaching _ _ _ (countedRolladen _)
  exact approaching_ab rfl rfl rfl low released rfl x rfl (fun none => absurd none (by omega))
    fun e left => .abWait1 1 e (by omega)

end Step

/-- The system after `n` ticks. -/
def RolladenSystem.ticks (byZero : Int → Int) (self : UInt16) (n : Nat) (s : RolladenSystem) :
    RolladenSystem := (fun t => t.after byZero self .tick)^[n] s

section Ticks

variable (byZero : Int → Int) (self : UInt16) {config : EdsRolladenBlock} {target : Int} {n : Nat}
  {s : RolladenSystem}

theorem RolladenSystem.ticks_succ (n : Nat) (s : RolladenSystem) :
    s.ticks byZero self (n + 1) = (s.ticks byZero self n).after byZero self .tick :=
  Function.iterate_succ_apply' _ n s

theorem rest_ticks (rest : Approaching config target 0 s.device) (k : Nat) :
    Approaching config target 0 (s.ticks byZero self k).device := by
  induction k with
  | zero => exact rest
  | succ k ih =>
      rw [RolladenSystem.ticks_succ]
      exact ih.rest byZero self _

/-- The way shortens with each tick and stays at 0 behind the target. -/
theorem way_ticks (low : 0 < target) (high : target < config.strecke)
    (approaching : Approaching config target n s.device) (k : Nat) :
    Approaching config target (n - k) (s.ticks byZero self k).device := by
  induction k with
  | zero => exact approaching
  | succ k ih =>
      rw [RolladenSystem.ticks_succ]
      cases left : n - k with
      | zero =>
          rw [left] at ih
          rw [Nat.sub_succ, left]
          exact ih.rest byZero self _
      | succ m =>
          rw [left] at ih
          rw [Nat.sub_succ, left]
          exact ih.tick byZero self _ low high

end Ticks

/-! ## The position in percent -/

section Percent

variable (byZero : Int → Int) {p : DeviceDataRolladen} {x q : Nat}

theorem getPosition_congr {p next : DeviceDataRolladen} (config : next.config = p.config)
    (there : next.laufzeit = p.laufzeit) :
    rolladenLowlevelGetPosition byZero next = rolladenLowlevelGetPosition byZero p := by
  rw [rolladenLowlevelGetPosition, rolladenLowlevelGetPosition, config, there]

/-- The reported position of a shutter within its range. -/
theorem getPosition_eq (there : p.laufzeit = x) (positive : 0 < p.config.strecke) :
    rolladenLowlevelGetPosition byZero p = min 100 (100 * x / p.config.strecke + 1) := by
  have divided : quotient byZero (100 * p.laufzeit) p.config.strecke =
      ((100 * x / p.config.strecke : Nat) : Int) := by
    rw [quotient, if_neg (by omega), there]
    exact Int.tdiv_eq_ediv_of_nonneg (by omega)
  unfold rolladenLowlevelGetPosition
  rw [divided]
  dsimp only
  generalize 100 * x / p.config.strecke = percent
  rw [if_neg (by omega)]
  split <;> omega

variable {strecke : Nat}

theorem target_inside (long : 600 ≤ strecke) (low : 1 ≤ q) (high : q ≤ 99) :
    0 < strecke * q / 100 ∧ strecke * q / 100 < strecke := by
  have below : strecke * q ≤ strecke * 99 := Nat.mul_le_mul_left _ high
  have above : strecke * 1 ≤ strecke * q := Nat.mul_le_mul_left _ low
  omega

/-- A position below the target percentage is at least six ticks below the target. -/
theorem six_below (long : 600 ≤ strecke) (below : 100 * x / strecke + 1 < q) :
    x + 6 ≤ strecke * q / 100 := by
  have positive : 1 < q := Nat.lt_of_le_of_lt (Nat.le_add_left 1 _) below
  have room : 100 * x < strecke * (q - 1) := by
    rw [Nat.mul_comm strecke]
    exact (Nat.div_lt_iff_lt_mul (by omega)).mp (Nat.lt_sub_of_add_lt below)
  have next : strecke * q = strecke * (q - 1) + strecke := by
    rw [← Nat.mul_succ, Nat.succ_eq_add_one, Nat.sub_add_cancel positive.le]
  omega

theorem six_above (long : 600 ≤ strecke) (above : q < 100 * x / strecke) :
    strecke * q / 100 + 6 ≤ x := by
  have room : (q + 1) * strecke ≤ 100 * x := (Nat.le_div_iff_mul_le (by omega)).mp above
  have next : (q + 1) * strecke = strecke * q + strecke := by
    rw [Nat.succ_mul, Nat.mul_comm]
  omega

/-- The position reported at the target. -/
theorem percent_target (long : 600 ≤ strecke) (low : 1 ≤ q) :
    q - 1 ≤ 100 * (strecke * q / 100) / strecke ∧ 100 * (strecke * q / 100) / strecke ≤ q := by
  have next : strecke * q = (q - 1) * strecke + strecke := by
    rw [← Nat.succ_mul, Nat.succ_eq_add_one, Nat.sub_add_cancel low, Nat.mul_comm]
  constructor
  · refine (Nat.le_div_iff_mul_le (by omega)).mpr ?_
    omega
  · refine Nat.le_of_lt_succ ((Nat.div_lt_iff_lt_mul (by omega)).mpr ?_)
    have more : (q + 1) * strecke = strecke * q + strecke := by
      rw [Nat.succ_mul, Nat.mul_comm]
    rw [Nat.succ_eq_add_one, more]
    omega

/-- At the target the position differs from the percentage by the rounding only. -/
theorem position_target (there : p.laufzeit = (p.config.strecke * q / 100 : Nat))
    (long : 600 ≤ p.config.strecke) (low : 1 ≤ q) (high : q ≤ 99) :
    q ≤ rolladenLowlevelGetPosition byZero p ∧ rolladenLowlevelGetPosition byZero p ≤ q + 1 := by
  obtain ⟨least, most⟩ := percent_target long low
  rw [getPosition_eq byZero there (Nat.lt_of_lt_of_le (by decide) long)]
  omega

end Percent

/-- The frame sets the position of a group of the shutter to `q` percent. -/
structure SetsPosition (p : DeviceDataRolladen) (q : Nat) (frame : CanixFrame) : Prop where
  command : frame.data[1] = hcanHesRolladenPositionSet
  group : rolladenIsInGroup p frame.data[2] = true
  percent : frame.data[3].toNat = q

section Frame

variable (byZero : Int → Int) (self : UInt16) {p : DeviceDataRolladen} {frame : CanixFrame}
  {q : Nat}

theorem callback_positionSet (sets : SetsPosition p q frame) :
    (rolladenCanCallback byZero self p frame).1 = rolladenPositionSet byZero p frame.data[3] := by
  unfold rolladenCanCallback
  rw [if_neg (by rw [sets.command]; decide), if_neg (by rw [sets.command]; decide),
    if_pos sets.command]
  exact if_pos (.inl sets.group)

theorem sollPos_eq (sets : SetsPosition p q frame) (high : q ≤ 99) :
    rolladenSollPos frame.data[3] = q := by
  have small : ∀ end_ : UInt8, 99 < end_.toNat → frame.data[3] ≠ end_ := by
    intro end_ large same
    have percent := sets.percent
    rw [same] at percent
    omega
  rw [rolladenSollPos, if_neg (small 200 (by decide)), if_neg (small 201 (by decide)),
    sets.percent]

theorem setSollLaufzeit_inner (low : 1 ≤ q) (high : q ≤ 99) :
    rolladenSetSollLaufzeit p q =
      { p with sollLaufzeit := (p.config.strecke * q / 100 : Nat) } := by
  rw [rolladenSetSollLaufzeit, if_neg (by omega), if_neg (by omega)]

/-- At the position a standing shutter stays. -/
theorem positionSet_there {config : EdsRolladenBlock} {target : Int}
    (rest : Approaching config target 0 p) (sets : SetsPosition p q frame) (high : q ≤ 99)
    (near : q ≤ rolladenLowlevelGetPosition byZero p ∧
      rolladenLowlevelGetPosition byZero p ≤ q + 1) :
    Approaching config target 0 (rolladenCanCallback byZero self p frame).1 := by
  obtain ⟨stands, ready, there⟩ := rest.stands
  have unchanged : rolladenPositionSet byZero p frame.data[3] = { p with sollLaufzeit := -1 } := by
    unfold rolladenPositionSet
    rw [stands]
    dsimp only
    rw [sollPos_eq sets high, if_neg (by omega), if_neg (by omega)]
  rw [callback_positionSet byZero self sets, unchanged]
  refine ⟨rest.config, rest.released, ?_⟩
  dsimp only
  rw [stands, ready, there]
  exact .standing _

/-- A standing shutter is at the position, or its next tick is the first one on the way. -/
theorem positionSet_starts (stands : p.lowlevelState = .stop) (ready : p.lowlevelCommand = .ready)
    (released : p.hilevelUpEventCounter ≤ 0) (bottom : 0 ≤ p.laufzeit)
    (long : 600 ≤ p.config.strecke)
    (sets : SetsPosition p q frame) (low : 1 ≤ q) (high : q ≤ 99) :
    (Approaching p.config p.laufzeit 0 (rolladenCanCallback byZero self p frame).1 ∧
      q ≤ rolladenLowlevelGetPosition byZero p ∧
      rolladenLowlevelGetPosition byZero p ≤ q + 1) ∨
    ∃ n, 0 < n ∧ ∀ out, Approaching p.config (p.config.strecke * q / 100 : Nat) n
      (rolladenLowlevelTimerHandler byZero self
        (rolladenCanCallback byZero self p frame).1 out).1 := by
  obtain ⟨x, there⟩ := Int.eq_ofNat_of_zero_le bottom
  obtain ⟨above, below⟩ := target_inside long low high
  have positive : (0 : Int) < (p.config.strecke * q / 100 : Nat) := Int.natCast_pos.mpr above
  have inside : ((p.config.strecke * q / 100 : Nat) : Int) < p.config.strecke :=
    Int.ofNat_lt.mpr below
  have position := getPosition_eq byZero there (by omega : 0 < p.config.strecke)
  rw [callback_positionSet byZero self sets, rolladenPositionSet, stands]
  dsimp only
  rw [sollPos_eq sets high, setSollLaufzeit_inner low high]
  by_cases less : rolladenLowlevelGetPosition byZero p < q
  · have distance : x + 6 ≤ p.config.strecke * q / 100 := six_below long (by omega)
    obtain ⟨d, way⟩ := Nat.exists_eq_add_of_le distance
    rw [if_pos less]
    have left : p.laufzeit = (p.config.strecke * q / 100 : Nat) - ((d + 5 : Nat) + 1) := by omega
    exact .inr ⟨d + 5 + 4, Nat.succ_pos _, fun out =>
      start_auf (p := { p with
        sollLaufzeit := (p.config.strecke * q / 100 : Nat)
        lowlevelCommand := .auf }) byZero self out stands rfl released positive inside rfl left
        (Nat.le_add_left 3 (d + 2))⟩
  · rw [if_neg less]
    by_cases more : rolladenLowlevelGetPosition byZero p > q + 1
    · have distance : p.config.strecke * q / 100 + 6 ≤ x := six_above long (by omega)
      obtain ⟨d, way⟩ := Nat.exists_eq_add_of_le distance
      rw [if_pos more]
      have left : p.laufzeit = (p.config.strecke * q / 100 : Nat) + ((d + 5 : Nat) + 1) := by omega
      exact .inr ⟨d + 5 + 10, Nat.succ_pos _, fun out =>
        start_ab (p := { p with
          sollLaufzeit := (p.config.strecke * q / 100 : Nat)
          lowlevelCommand := .ab }) byZero self out stands rfl released positive rfl left
          (Nat.le_add_left 5 d)⟩
    · rw [if_neg more]
      refine .inl ⟨⟨rfl, released, ?_⟩, by omega, by omega⟩
      dsimp only
      rw [ready]
      exact .standing _

end Frame

/-! ## Runs -/

/-- The event is no reload, behind which a new record is initialised. -/
def NoReload : RolladenEvent → Prop
  | .frame frame => frame.data[1] ≠ hcanHesConfigReload
  | _ => True

/-- The steps of a shutter whose position nobody defines, whatever happens to the pins. -/
structure UndefinedStep (byZero : Int → Int) (selfaddr : UInt16) (s : RolladenSystem)
    (event : RolladenEvent) (t : RolladenSystem) : Prop where
  loaded : NoReload event
  undefined : NoDefinition event
  happens : s.after byZero selfaddr event = t

/-- The shutter stands at `x`. -/
def StandsAt (x : Int) (s : RolladenSystem) : Prop :=
  s.device.lowlevelState = .stop ∧ s.device.laufzeit = x

/-- The shutter stands at `x`, and to be sent to `q` percent once more does not move it. -/
def SettledAt (byZero : Int → Int) (self : UInt16) (q : Nat) (x : Int) (s : RolladenSystem) :
    Prop :=
  StandsAt x s ∧ ∀ frame, SetsPosition s.device q frame →
    ∀ k, StandsAt x ((s.after byZero self (.frame frame)).ticks byZero self k)

section Runs

variable {byZero : Int → Int} {self : UInt16} {s t : RolladenSystem} {event : RolladenEvent}

theorem UndefinedStep.keeps (taken : UndefinedStep byZero self s event t) :
    t.device.config = s.device.config ∧ (Measured s → Measured t) := by
  obtain ⟨loaded, undefined, happens⟩ := taken
  cases event with
  | tick =>
      have step : MeasuredStep byZero self s .tick t := ⟨⟨trivial, happens⟩, undefined⟩
      exact ⟨(measuredStep_cases step).1, fun measured => measured.step step⟩
  | frame frame =>
      have step : MeasuredStep byZero self s (.frame frame) t := ⟨⟨loaded, happens⟩, undefined⟩
      exact ⟨(measuredStep_cases step).1, fun measured => measured.step step⟩
  | other n state =>
      subst happens
      exact ⟨rfl, id⟩

/-- A shutter that stands where `q` percent is reported has settled. -/
theorem settled_of_rest {config : EdsRolladenBlock} {x : Int} {q : Nat} (high : q ≤ 99)
    (rest : Approaching config x 0 s.device)
    (near : q ≤ rolladenLowlevelGetPosition byZero s.device ∧
      rolladenLowlevelGetPosition byZero s.device ≤ q + 1) : SettledAt byZero self q x s := by
  refine ⟨⟨rest.stands.1, rest.stands.2.2⟩, fun frame sets k => ?_⟩
  have still : Approaching config x 0 (s.after byZero self (.frame frame)).device :=
    positionSet_there byZero self rest sets high near
  obtain ⟨stands, -, there⟩ := (rest_ticks byZero self still k).stands
  exact ⟨stands, there⟩

/-- Go to position: a standing shutter is at the position and stays, or it moves and stands
at the target behind it. -/
theorem goTo_position (byZero : Int → Int) (self : UInt16) {s : RolladenSystem}
    {config : EdsRolladenBlock} {out : Outputs} {events : List RolladenEvent}
    (run : Run (UndefinedStep byZero self) ⟨rolladenInit config, out⟩ events s)
    (long : 600 ≤ config.laufzeit.toNat) (stands : s.device.lowlevelState = .stop)
    (ready : s.device.lowlevelCommand = .ready) (released : s.device.hilevelUpEventCounter ≤ 0)
    {frame : CanixFrame} {q : Nat} (sets : SetsPosition s.device q frame) (low : 1 ≤ q)
    (high : q ≤ 99) :
    let sent := s.after byZero self (.frame frame)
    (∀ k, SettledAt byZero self q s.device.laufzeit (sent.ticks byZero self k) ∧
      q ≤ rolladenLowlevelGetPosition byZero (sent.ticks byZero self k).device ∧
      rolladenLowlevelGetPosition byZero (sent.ticks byZero self k).device ≤ q + 1) ∨
    ∃ n, 1 < n ∧
      (∀ k, 0 < k → k < n → (sent.ticks byZero self k).device.lowlevelState ≠ .stop) ∧
      ∀ k, n ≤ k →
        SettledAt byZero self q (config.laufzeit.toNat * q / 100 : Nat)
          (sent.ticks byZero self k) := by
  intro sent
  have kept : s.device.config = config ∧ Measured s :=
    run.invariant (fun t => t.device.config = config ∧ Measured t)
      (fun _ _ _ taken before => ⟨taken.keeps.1.trans before.1, taken.keeps.2 before.2⟩)
      ⟨rfl, measured_init config out⟩
  obtain ⟨same, measured⟩ := kept
  subst same
  have bottom : 0 ≤ s.device.laufzeit := by
    unfold Measured at measured
    rw [stands] at measured
    exact measured.1
  rcases positionSet_starts byZero self stands ready released bottom long sets low high
    with ⟨rest, near⟩ | ⟨n, positive, starts⟩
  · refine .inl fun k => ?_
    have still :
        Approaching s.device.config s.device.laufzeit 0 (sent.ticks byZero self k).device :=
      rest_ticks byZero self rest k
    rw [← getPosition_congr byZero still.config still.stands.2.2] at near
    exact ⟨settled_of_rest high still near, near⟩
  · obtain ⟨above, below⟩ := target_inside long low high
    have way : ∀ k, Approaching s.device.config (s.device.config.strecke * q / 100 : Nat) (n - k)
        (sent.ticks byZero self (k + 1)).device := fun k =>
      way_ticks byZero self (s := sent.after byZero self .tick) (Int.natCast_pos.mpr above)
        (Int.ofNat_lt.mpr below) (starts s.out) k
    refine .inr ⟨n + 1, Nat.succ_lt_succ positive, fun k first before => ?_, fun k behind => ?_⟩
    · obtain ⟨k, rfl⟩ := Nat.exists_eq_succ_of_ne_zero first.ne'
      have left : n - k = (n - k - 1) + 1 := by omega
      have moving := way k
      rw [left] at moving
      exact moving.moves
    · obtain ⟨k, rfl⟩ := Nat.exists_eq_succ_of_ne_zero (Nat.ne_zero_of_lt behind)
      have rest := way k
      rw [Nat.sub_eq_zero_of_le (Nat.le_of_succ_le_succ behind)] at rest
      obtain ⟨-, -, there⟩ := rest.stands
      refine settled_of_rest high rest (position_target byZero ?_ ?_ low high)
      · rw [there, rest.config]
      · rw [rest.config]
        exact long

/-- A shutter with a run time of a minute, at the top after its start, is sent to the half. -/
theorem goTo_position_half :
    let hall : EdsRolladenBlock := { kitchenShutter with laufzeit := 600 }
    let s : RolladenSystem := ⟨rolladenInit hall, bootOutputs⟩
    let half : CanixFrame := hesFrame hcanHesRolladenPositionSet 20 50
    let sent := s.after (fun _ => 0) 7 (.frame half)
    sent.device.lowlevelCommand = .ab ∧
      ((∀ k, SettledAt (fun _ => 0) 7 50 600 (sent.ticks (fun _ => 0) 7 k) ∧
        50 ≤ rolladenLowlevelGetPosition (fun _ => 0) (sent.ticks (fun _ => 0) 7 k).device ∧
        rolladenLowlevelGetPosition (fun _ => 0) (sent.ticks (fun _ => 0) 7 k).device ≤ 51) ∨
      ∃ n, 1 < n ∧
        (∀ k, 0 < k → k < n → (sent.ticks (fun _ => 0) 7 k).device.lowlevelState ≠ .stop) ∧
        ∀ k, n ≤ k → SettledAt (fun _ => 0) 7 50 (600 * 50 / 100 : Nat)
          (sent.ticks (fun _ => 0) 7 k)) := by
  intro hall s half sent
  refine ⟨by decide +kernel, ?_⟩
  have sets : SetsPosition s.device 50 half := ⟨rfl, by decide, by decide⟩
  exact goTo_position (fun _ => 0) 7 (.nil s) (by decide) rfl rfl (by decide) sets (by decide)
    (by decide)

end Runs

end Hcan.Controller
