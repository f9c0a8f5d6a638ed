import Hcan.Controller.GoTo

/-!
# Saving and restoring the position

The procedure around an upgrade of the firmware: the position is asked for, and the answer
is sent back as the definition of the position.  The answer is rounded up by one percent and
the definition by another one, so that the position grows with every round.
-/

namespace Hcan.Controller

open Hcan.Canix Hcan.Library

/-- What happens to a shutter and its pins; no event stands for a start of the firmware or a
reload, behind which there is a new record. -/
inductive LifeStep (byZero : Int → Int) (selfaddr : UInt16) (s : RolladenSystem) :
    Option RolladenEvent → RolladenSystem → Prop where
  | event {event : RolladenEvent} (loaded : NoReload event) :
      LifeStep byZero selfaddr s (some event) (s.after byZero selfaddr event)
  | restart (config : EdsRolladenBlock) (out : Outputs) :
      LifeStep byZero selfaddr s none ⟨rolladenInit config, out⟩

/-- A standing shutter is within its run time. -/
def StandsInside (p : DeviceDataRolladen) : Prop :=
  p.lowlevelState = .stop → 0 ≤ p.laufzeit ∧ p.laufzeit ≤ p.config.strecke

section Life

variable {byZero : Int → Int} {self : UInt16} {s t : RolladenSystem} {p : DeviceDataRolladen}

theorem standsInside_init (config : EdsRolladenBlock) : StandsInside (rolladenInit config) :=
  fun _ => ⟨Int.natCast_nonneg _, le_rfl⟩

theorem definePosition_laufzeit (p : DeviceDataRolladen) (pos : UInt8) :
    (rolladenLowlevelDefinePosition p pos).laufzeit =
      (min ((pos.toNat + 1) * p.config.strecke / 100) p.config.strecke : Nat) := by
  unfold rolladenLowlevelDefinePosition
  dsimp only
  split <;> omega

theorem definePosition_inside (p : DeviceDataRolladen) (pos : UInt8) :
    StandsInside (rolladenLowlevelDefinePosition p pos) := by
  intro _
  rw [definePosition_laufzeit]
  exact ⟨Int.natCast_nonneg _, Int.ofNat_le.mpr (Nat.min_le_right _ _)⟩

theorem callback_definePosition {frame : CanixFrame}
    (command : frame.data[1] = hcanHesRolladenDefinePosition) :
    (rolladenCanCallback byZero self p frame).1 =
      if rolladenIsInGroup p frame.data[2] then rolladenLowlevelDefinePosition p frame.data[3]
      else p := by
  unfold rolladenCanCallback
  rw [if_neg (by rw [command]; decide), if_neg (by rw [command]; decide),
    if_neg (by rw [command]; decide), if_pos command]

theorem canCallback_inside (frame : CanixFrame) (inside : StandsInside p) :
    StandsInside (rolladenCanCallback byZero self p frame).1 := by
  by_cases command : frame.data[1] = hcanHesRolladenDefinePosition
  · rw [callback_definePosition command]
    split
    · exact definePosition_inside p _
    · exact inside
  · have kept := canCallback_commands byZero self p command
    unfold StandsInside
    rw [kept.state, kept.laufzeit, kept.config]
    exact inside

theorem timerHandler_inside (out : Outputs) (inside : StandsInside p) :
    StandsInside (rolladenLowlevelTimerHandler byZero self p out).1 := by
  have travel := timerHandler_travel byZero self p out
  obtain ⟨-, -, -, config⟩ := timerHandler_transition byZero self p out
  intro stands
  rw [stands] at travel
  rw [config]
  exact travel.stopped inside

theorem LifeStep.inside {event : Option RolladenEvent} (taken : LifeStep byZero self s event t)
    (inside : StandsInside s.device) : StandsInside t.device := by
  cases taken with
  | @event event _ =>
      cases event with
      | tick => exact timerHandler_inside s.out inside
      | frame frame => exact canCallback_inside frame inside
      | other n state => exact inside
  | restart config out => exact standsInside_init config

/-- In every reachable state a standing shutter is within its run time. -/
theorem lifeRun_inside {config : EdsRolladenBlock} {out : Outputs}
    {events : List (Option RolladenEvent)}
    (run : Run (LifeStep byZero self) ⟨rolladenInit config, out⟩ events s) :
    StandsInside s.device :=
  run.invariant (fun t => StandsInside t.device) (fun _ _ _ taken before => taken.inside before)
    (standsInside_init config)

end Life

/-- The position is asked for, the firmware is possibly started again, and the answer is sent
as the definition. -/
def saveAndRestore (byZero : Int → Int) (self : UInt16) (restarted : Bool) (group : UInt8)
    (p : DeviceDataRolladen) : DeviceDataRolladen :=
  let upgraded := if restarted then rolladenInit p.config else p
  match (rolladenCanCallback byZero self p
      (hesFrame hcanHesRolladenPositionRequest group 0)).2 with
  | some answer =>
      (rolladenCanCallback byZero self upgraded
        (hesFrame hcanHesRolladenDefinePosition group answer.data[3])).1
  | none => upgraded

section Round

variable (byZero : Int → Int) (self : UInt16) (restarted : Bool) {group : UInt8}
  {p : DeviceDataRolladen} {x strecke : Nat}

/-- The run time behind a round, from the run time before. -/
def restored (strecke x : Nat) : Nat :=
  min ((min 100 (100 * x / strecke + 1) + 1) * strecke / 100) strecke

theorem saveAndRestore_laufzeit (own : rolladenIsInGroup p group = true)
    (there : p.laufzeit = x) (positive : 0 < p.config.strecke) :
    (saveAndRestore byZero self restarted group p).config = p.config ∧
      (saveAndRestore byZero self restarted group p).laufzeit = restored p.config.strecke x := by
  have position := getPosition_eq byZero there positive
  generalize reported : rolladenLowlevelGetPosition byZero p = percent at position
  have byte : (UInt8.ofNat percent).toNat = percent := Nat.mod_eq_of_lt (by omega)
  have answers : (rolladenCanCallback byZero self p
      (hesFrame hcanHesRolladenPositionRequest group 0)).2.map (fun answer => answer.data[3]) =
        some (UInt8.ofNat percent) := by
    change Option.map _ (if rolladenIsInGroup p group = true then _ else _) = _
    rw [if_pos own, ← reported]
    rfl
  obtain ⟨answer, sent, value⟩ := Option.map_eq_some_iff.mp answers
  unfold saveAndRestore
  rw [sent]
  dsimp only
  rw [value]
  generalize upgrade : (if restarted = true then rolladenInit p.config else p) = upgraded
  have same : upgraded.config = p.config := by
    rw [← upgrade]
    split <;> rfl
  have ownStill : rolladenIsInGroup upgraded group = true := by
    unfold rolladenIsInGroup
    rw [same]
    exact own
  rw [callback_definePosition rfl]
  rw [show (hesFrame hcanHesRolladenDefinePosition group (UInt8.ofNat percent)).data[2] = group
    from rfl, if_pos ownStill]
  refine ⟨same, ?_⟩
  rw [definePosition_laufzeit, show (hesFrame hcanHesRolladenDefinePosition group
    (UInt8.ofNat percent)).data[3] = UInt8.ofNat percent from rfl, byte, same, position]
  rfl

/-- At the top the position stays. -/
theorem restored_top (positive : 0 < strecke) (top : 99 * strecke ≤ 100 * x) :
    restored strecke x = strecke := by
  have percent : 99 ≤ 100 * x / strecke := (Nat.le_div_iff_mul_le positive).mpr top
  unfold restored
  rw [Nat.min_eq_left (by omega : 100 ≤ 100 * x / strecke + 1)]
  omega

/-- Below it a round raises the reported position. -/
theorem restored_grows (long : 100 ≤ strecke) (below : 100 * x < 99 * strecke) :
    100 * x / strecke + 1 < min 100 (100 * restored strecke x / strecke + 1) := by
  have percent : 100 * x / strecke < 99 := (Nat.div_lt_iff_lt_mul (by omega)).mpr below
  unfold restored
  generalize 100 * x / strecke = k at percent
  have next : (k + 2) * strecke = (k + 1) * strecke + strecke := by rw [← Nat.succ_mul]
  have most : (k + 2) * strecke ≤ 100 * strecke := Nat.mul_le_mul_right _ (by omega)
  have rounded : min ((min 100 (k + 1) + 1) * strecke / 100) strecke = (k + 2) * strecke / 100 := by
    rw [Nat.min_eq_right (by omega : k + 1 ≤ 100)]
    change min ((k + 2) * strecke / 100) strecke = _
    exact Nat.min_eq_left (by omega)
  rw [rounded]
  have least : k + 1 ≤ 100 * ((k + 2) * strecke / 100) / strecke := by
    refine (Nat.le_div_iff_mul_le (by omega)).mpr ?_
    omega
  omega

/-- Rounds at the top. -/
theorem saveAndRestore_top (own : rolladenIsInGroup p group = true)
    (there : p.laufzeit = x) (positive : 0 < p.config.strecke)
    (top : 99 * p.config.strecke ≤ 100 * x) (n : Nat) :
    rolladenLowlevelGetPosition byZero ((saveAndRestore byZero self restarted group)^[n] p) =
      100 := by
  induction n generalizing p x with
  | zero =>
      have percent : 99 ≤ 100 * x / p.config.strecke := (Nat.le_div_iff_mul_le positive).mpr top
      rw [Function.iterate_zero_apply, getPosition_eq byZero there positive]
      omega
  | succ n ih =>
      obtain ⟨config, moved⟩ :=
        saveAndRestore_laufzeit byZero self restarted own there positive
      rw [restored_top positive top] at moved
      rw [Function.iterate_succ_apply]
      refine ih ?_ moved ?_ ?_
      · unfold rolladenIsInGroup
        rw [config]
        exact own
      · rw [config]
        exact positive
      · rw [config]
        exact Nat.mul_le_mul_right _ (by decide)

end Round

/-! ## The procedure -/

section Procedure

variable {byZero : Int → Int} {self : UInt16} {s : RolladenSystem}

/-- Rounds of saving and restoring leave the reported position of a standing shutter as it is
exactly when it is 100. -/
theorem restored_iff {config : EdsRolladenBlock} {out : Outputs}
    {events : List (Option RolladenEvent)}
    (run : Run (LifeStep byZero self) ⟨rolladenInit config, out⟩ events s)
    (stands : s.device.lowlevelState = .stop) (long : 100 ≤ s.device.config.laufzeit.toNat)
    {group : UInt8} (own : rolladenIsInGroup s.device group = true) (restarted : Bool) :
    (∀ n, rolladenLowlevelGetPosition byZero
        ((saveAndRestore byZero self restarted group)^[n] s.device) =
          rolladenLowlevelGetPosition byZero s.device) ↔
      99 * (s.device.config.laufzeit.toNat : Int) ≤ 100 * s.device.laufzeit := by
  obtain ⟨x, there⟩ := Int.eq_ofNat_of_zero_le (lifeRun_inside run stands).1
  have long : 100 ≤ s.device.config.strecke := long
  have positive : 0 < s.device.config.strecke := Nat.lt_of_lt_of_le (by decide) long
  change _ ↔ 99 * (s.device.config.strecke : Int) ≤ _
  constructor
  · intro unchanged
    by_contra less
    have below : 100 * x < 99 * s.device.config.strecke := by omega
    obtain ⟨same, moved⟩ :=
      saveAndRestore_laufzeit byZero self restarted own there positive
    have once := unchanged 1
    have grows := restored_grows long below
    rw [Function.iterate_one, getPosition_eq byZero moved (same ▸ positive),
      getPosition_eq byZero there positive, same] at once
    omega
  · intro top n
    have high : 99 * s.device.config.strecke ≤ 100 * x := by omega
    rw [saveAndRestore_top byZero self restarted own there positive high,
      ← saveAndRestore_top byZero self restarted own there positive high 0,
      Function.iterate_zero_apply]

/-- The kitchen shutter stands at the top behind its start. -/
theorem restored_iff_kitchen :
    (∀ n, rolladenLowlevelGetPosition (fun _ => 0)
        ((saveAndRestore (fun _ => 0) 7 true 20)^[n] (rolladenInit kitchenShutter)) =
          rolladenLowlevelGetPosition (fun _ => 0) (rolladenInit kitchenShutter)) ↔
      99 * (kitchenShutter.laufzeit.toNat : Int) ≤ 100 * (rolladenInit kitchenShutter).laufzeit :=
  restored_iff (.nil kitchenBoot) rfl (by decide) (by decide) true

/-- The half of the kitchen shutter: 51 percent become 53 in a round and 73 in eleven. -/
theorem kitchen_position_drifts :
    ∃ s, Run (LifeStep (fun _ => 0) 7) kitchenBoot
        [some (.frame (hesFrame hcanHesRolladenDefinePosition 20 49))] s ∧
      s.device.lowlevelState = .stop ∧ 100 ≤ s.device.config.laufzeit.toNat ∧
      rolladenIsInGroup s.device 20 = true ∧
      rolladenLowlevelGetPosition (fun _ => 0) s.device = 51 ∧
      rolladenLowlevelGetPosition (fun _ => 0)
        (saveAndRestore (fun _ => 0) 7 true 20 s.device) = 53 ∧
      rolladenLowlevelGetPosition (fun _ => 0)
        ((saveAndRestore (fun _ => 0) 7 true 20)^[11] s.device) = 73 := by
  refine ⟨_, .single (.event ?_), rfl, ?_, ?_, ?_, ?_, ?_⟩
  · intro reload
    cases reload
  all_goals decide +kernel

end Procedure

end Hcan.Controller
