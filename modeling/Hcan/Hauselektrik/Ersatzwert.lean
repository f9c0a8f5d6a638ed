import Hcan.Hauselektrik.ExtendedLight
import Mathlib.Data.List.Forall2

/-!
# The replacement value of unused groups

Unused group fields hold 255, which is to be ignored.  Power port and dimmer check the group of the
frame for it; the other devices compare their fields with the group alone.  A device table ignores
the group 255 exactly when no device finds it in a field that its callback compares.
-/

namespace Hcan.Hauselektrik

open Hcan.Canix Hcan.Eds Hcan.Controller Hcan.Library Hcan.Library.Nested

variable {mcu : Mcu}

/-- The record without the counters of the presses and without the switches of the automations. -/
def shown : Device → Device
  | .lichtzone p => .lichtzone { p with extonTasterDownCounter := 0, extonSecCounter := 0 }
  | .powerportAutomat p => .powerportAutomat { p with automatikEin := false }
  | .rolladenAutomat p => .rolladenAutomat { p with automatikEin := false }
  | .zeitschaltuhr p => .zeitschaltuhr { p with automatikEin := false }
  | .rolladenSchlitzpos p => .rolladenSchlitzpos { p with rolladenSchlitzJob := 0 }
  | device => device

/-- Pins, timers, states and positions are the same. -/
structure Same (b next : Board mcu) : Prop where
  pins : ∀ pin, next.out.isOn pin = b.out.isOn pin
  devices : next.devices.map shown = b.devices.map shown

/-- Whatever happens to frames that are sent, the board is the same after each device of the loop
in `hauselektrik_callback`. -/
def Ignores (env : Environment mcu) (frame : CanixFrame) (b : Board mcu) : Prop :=
  ∀ send, ∀ k ≤ maxPdeviceData mcu, ∃ next,
    (List.range k).forM (deviceCanCallback env send frame) b = some ((), next) ∧ Same b next

/-- Two states of one configuration. -/
inductive SameConfig : Device → Device → Prop where
  | powerportAutomat {p q : DeviceDataPowerportAutomat} (same : q.config = p.config) :
      SameConfig (.powerportAutomat p) (.powerportAutomat q)
  | rolladenAutomat {p q : DeviceDataRolladenAutomat} (same : q.config = p.config) :
      SameConfig (.rolladenAutomat p) (.rolladenAutomat q)
  | dunstabzugport {p q : DeviceDataDunstabzugport} (same : q.config = p.config) :
      SameConfig (.dunstabzugport p) (.dunstabzugport q)
  | heizung {p q : DeviceDataHeizung} (same : q.config = p.config) :
      SameConfig (.heizung p) (.heizung q)
  | lichtzone {p q : DeviceDataLichtzone} (same : q.config = p.config) :
      SameConfig (.lichtzone p) (.lichtzone q)
  | multitaster {p q : DeviceDataMultitaster} (same : q.config = p.config) :
      SameConfig (.multitaster p) (.multitaster q)
  | powerport {p q : DeviceDataPowerport} (same : q.config = p.config) :
      SameConfig (.powerport p) (.powerport q)
  | reedkontakt {p q : DeviceDataReedkontakt} (same : q.config = p.config) :
      SameConfig (.reedkontakt p) (.reedkontakt q)
  | rolladen {p q : DeviceDataRolladen} (same : q.config = p.config) :
      SameConfig (.rolladen p) (.rolladen q)
  | rolladenSchlitzpos {p q : DeviceDataRolladenSchlitzpos} (same : q.config = p.config) :
      SameConfig (.rolladenSchlitzpos p) (.rolladenSchlitzpos q)
  | zentralheizungspumpe {p q : DeviceDataZentralheizungspumpe} (same : q.config = p.config) :
      SameConfig (.zentralheizungspumpe p) (.zentralheizungspumpe q)
  | tastdimmer {p q : DeviceDataTastdimmer} (same : q.config = p.config) :
      SameConfig (.tastdimmer p) (.tastdimmer q)
  | tempsensor {p q : DeviceDataTempsensor} (same : q.config = p.config) :
      SameConfig (.tempsensor p) (.tempsensor q)
  | zeitschaltuhr {p q : DeviceDataZeitschaltuhr} (same : q.config = p.config) :
      SameConfig (.zeitschaltuhr p) (.zeitschaltuhr q)
  | zeitzone {p q : DeviceDataZeitzone} (same : q.config = p.config) :
      SameConfig (.zeitzone p) (.zeitzone q)
  | other (type : UInt8) : SameConfig (.other type) (.other type)

theorem SameConfig.refl (device : Device) : SameConfig device device := by
  cases device with
  | powerportAutomat p => exact .powerportAutomat rfl
  | rolladenAutomat p => exact .rolladenAutomat rfl
  | dunstabzugport p => exact .dunstabzugport rfl
  | heizung p => exact .heizung rfl
  | lichtzone p => exact .lichtzone rfl
  | multitaster p => exact .multitaster rfl
  | powerport p => exact .powerport rfl
  | reedkontakt p => exact .reedkontakt rfl
  | rolladen p => exact .rolladen rfl
  | rolladenSchlitzpos p => exact .rolladenSchlitzpos rfl
  | zentralheizungspumpe p => exact .zentralheizungspumpe rfl
  | tastdimmer p => exact .tastdimmer rfl
  | tempsensor p => exact .tempsensor rfl
  | zeitschaltuhr p => exact .zeitschaltuhr rfl
  | zeitzone p => exact .zeitzone rfl
  | other type => exact .other type

/-- The commands with a group that a device may have in its configuration. -/
def groupCommands : List UInt8 :=
  [hcanHesTasterDown, hcanHesTasterUp, hcanHesPowerGroupOn, hcanHesPowerGroupOff,
    hcanHesRolladenPositionSet, hcanHesRolladenDefinePosition, hcanHesReedkontaktOffen,
    hcanHesReedkontaktStateChange]

/-- The callback finds 255 in a field of the configuration and takes it for the group. -/
def Finds255 (command : UInt8) : Device → Prop
  | .rolladen p =>
      (command = hcanHesTasterDown ∨ command = hcanHesTasterUp) ∧ p.config.taster = 255 ∨
        (command = hcanHesRolladenPositionSet ∨ command = hcanHesRolladenDefinePosition) ∧
          rolladenIsInGroup p 255 = true
  | .lichtzone p => command = hcanHesTasterDown ∧
      (255 ∈ p.config.toggleGruppe.toList ∨ 255 ∈ p.config.offGruppe.toList ∨
        255 ∈ p.config.onGruppe.toList)
  | .dunstabzugport p =>
      (command = hcanHesReedkontaktOffen ∨ command = hcanHesReedkontaktStateChange) ∧
          (p.config.reedGruppe0 = 255 ∨ p.config.reedGruppe1 = 255) ∨
        command = hcanHesTasterDown ∧ p.config.freischaltTaster = 255
  | .heizung p => command = hcanHesReedkontaktOffen ∧ 255 ∈ p.config.reed.toList
  | .powerportAutomat p => (command = hcanHesPowerGroupOn ∨ command = hcanHesPowerGroupOff) ∧
      p.config.automatikEinSchalterGruppe ≠ 255 ∧ p.config.stellerGruppe = 255
  | _ => False

theorem finds255_congr {command : UInt8} {device other : Device} (same : SameConfig device other) :
    Finds255 command other ↔ Finds255 command device := by
  cases same with
  | rolladen same | lichtzone same | dunstabzugport same | heizung same | powerportAutomat same =>
      unfold Finds255
      try unfold rolladenIsInGroup
      dsimp only
      rw [same]
  | _ => exact Iff.rfl

theorem finds255_shown (command : UInt8) (device : Device) :
    Finds255 command (shown device) ↔ Finds255 command device := by
  cases device <;> exact Iff.rfl

theorem Same.refl (b : Board mcu) : Same b b := ⟨fun _ => rfl, rfl⟩

theorem Same.trans {b middle next : Board mcu} (first : Same b middle) (rest : Same middle next) :
    Same b next :=
  ⟨fun pin => (rest.pins pin).trans (first.pins pin), rest.devices.trans first.devices⟩

/-- A device that shows the same is at the same place. -/
theorem Same.slot {b next : Board mcu} {i : Nat} {device : Device} (same : Same b next)
    (slot : b.devices[i]? = some device) :
    ∃ later, next.devices[i]? = some later ∧ shown later = shown device := by
  have there : (next.devices.map shown)[i]? = some (shown device) := by
    rw [same.devices, List.getElem?_map, slot]
    rfl
  rw [List.getElem?_map] at there
  exact Option.map_eq_some_iff.mp there

/-- The program ends and leaves the board the same. -/
def LeavesSame (x : OnBoard mcu Unit) (b : Board mcu) : Prop :=
  ∃ next, x b = some ((), next) ∧ Same b next

section Ignored

variable {env : Environment mcu} {send : CanixFrame → OnBoard mcu Unit} {frame : CanixFrame}
  {i : Nat} {b : Board mcu} {device : Device}

theorem leavesSame_pure : LeavesSame (pure ()) b := ⟨b, rfl, Same.refl b⟩

theorem leavesSame_poke {ρ : Type} [DeviceRecord ρ] (change : ρ → ρ) {p : ρ}
    (slot : b.devices[i]? = some device) (found : DeviceRecord.select device = some p)
    (same : shown (DeviceRecord.wrap (change p)) = shown device) :
    LeavesSame (poke i change) b := by
  exact ⟨_, poke_apply slot found, fun _ => rfl, map_set_same slot same⟩

theorem leavesSame_ite {condition : Prop} [Decidable condition] {x y : OnBoard mcu Unit}
    (yes : condition → LeavesSame x b) (no : ¬ condition → LeavesSame y b) :
    LeavesSame (if condition then x else y) b := by
  split
  next chosen => exact yes chosen
  next chosen => exact no chosen

theorem ne_of_groupCommand {command other : UInt8} (known : command ∈ groupCommands)
    (unknown : other ∉ groupCommands) : command ≠ other :=
  fun same => unknown (same ▸ known)

theorem lichtzoneToggle_of_notMem {self : UInt16} {p : DeviceDataLichtzone} {taster : UInt8}
    {groups : List UInt8} (outside : taster ∉ groups) :
    lichtzoneToggle self send i p taster groups = (pure false : OnBoard mcu Bool) := by
  induction groups with
  | nil => rfl
  | cons group groups ih =>
      have other : taster ≠ group := fun same => outside (same ▸ List.mem_cons_self)
      rw [lichtzoneToggle, if_neg other, ih fun inside => outside (.tail _ inside)]

theorem forM_of_notMem {group : UInt8} {groups : List UInt8} (outside : group ∉ groups)
    (x : OnBoard mcu Unit) (b : Board mcu) :
    (groups.forM fun other => if group = other then x else pure ()) b = some ((), b) := by
  have each : ∀ other ∈ groups, ∀ b, (if group = other then x else pure () : OnBoard mcu Unit) b =
      some ((), b) := by
    intro other inside b
    have apart : group ≠ other := fun same => outside (same ▸ inside)
    rw [if_neg apart]
    rfl
  rw [forM_apply each, List.foldl_fixed]

theorem leavesSame_powerportAutomat {p : DeviceDataPowerportAutomat}
    (command : frame.data[1] ∈ groupCommands) (group : frame.data[2] = 255)
    (slot : b.devices[i]? = some (.powerportAutomat p))
    (finds : ¬ Finds255 frame.data[1] (.powerportAutomat p)) {self : UInt16} :
    LeavesSame (powerportAutomatCanCallback self send i p frame) b := by
  have steller : (frame.data[1] = hcanHesPowerGroupOn ∨ frame.data[1] = hcanHesPowerGroupOff) →
      frame.data[2] ≠ p.config.automatikEinSchalterGruppe →
        frame.data[2] ≠ p.config.stellerGruppe := by
    intro switched notAuto isSteller
    rw [group] at notAuto isSteller
    exact finds ⟨switched, notAuto.symm, isSteller.symm⟩
  rw [powerportAutomatCanCallback, if_neg (ne_of_groupCommand command
    (show hcanHesHelligkeitsInfo ∉ groupCommands by decide))]
  refine leavesSame_ite (fun on => leavesSame_ite (fun _ => leavesSame_poke _ slot rfl rfl) ?_)
    fun _ => leavesSame_ite (fun off => leavesSame_ite (fun _ => leavesSame_poke _ slot rfl rfl) ?_)
      fun _ => leavesSame_pure
  · intro notAuto
    rw [if_neg (steller (.inl on) notAuto)]
    exact leavesSame_pure
  · intro notAuto
    rw [if_neg (steller (.inr off) notAuto)]
    exact leavesSame_pure

theorem leavesSame_dunstabzugport {p : DeviceDataDunstabzugport} (group : frame.data[2] = 255)
    (finds : ¬ Finds255 frame.data[1] (.dunstabzugport p)) :
    LeavesSame (dunstabzugportCanCallback i p frame) b := by
  unfold dunstabzugportCanCallback
  refine leavesSame_ite (fun open_ => ?_) fun _ => leavesSame_ite (fun change_ => ?_)
    fun _ => leavesSame_ite (fun down => ?_) fun _ => leavesSame_pure
  · have first : p.config.reedGruppe0 ≠ frame.data[2] :=
      fun same => finds (.inl ⟨.inl open_, .inl (same.trans group)⟩)
    have second : p.config.reedGruppe1 ≠ frame.data[2] :=
      fun same => finds (.inl ⟨.inl open_, .inr (same.trans group)⟩)
    rw [if_neg first, if_neg second]
    exact leavesSame_pure
  · have first : p.config.reedGruppe0 ≠ frame.data[2] :=
      fun same => finds (.inl ⟨.inr change_, .inl (same.trans group)⟩)
    have second : p.config.reedGruppe1 ≠ frame.data[2] :=
      fun same => finds (.inl ⟨.inr change_, .inr (same.trans group)⟩)
    rw [dunstabzugportStateChange, dunstabzugportStateChange, if_neg first, if_neg second]
    exact leavesSame_pure
  · have taster : p.config.freischaltTaster ≠ frame.data[2] :=
      fun same => finds (.inr ⟨down, same.trans group⟩)
    rw [if_neg taster]
    exact leavesSame_pure

theorem leavesSame_heizung {p : DeviceDataHeizung} (command : frame.data[1] ∈ groupCommands)
    (group : frame.data[2] = 255) (finds : ¬ Finds255 frame.data[1] (.heizung p)) {self : UInt16} :
    LeavesSame (heizungCanCallback self send i p frame) b := by
  have ne : ∀ other, other ∉ groupCommands → frame.data[1] ≠ other :=
    fun _ => ne_of_groupCommand command
  dsimp only [heizungCanCallback]
  rw [if_neg (ne hcanHes1wireTemperature (by decide))]
  refine leavesSame_ite (fun open_ => ?_) fun _ => ?_
  · have outside : frame.data[2] ∉ p.config.reed.toList := by
      rw [group]
      exact fun inside => finds ⟨open_, inside⟩
    rw [if_neg outside]
    exact leavesSame_pure
  · rw [if_neg (ne hcanHesHeizungSetModeOff (by decide)),
      if_neg (ne hcanHesHeizungSetModeManual (by decide)),
      if_neg (ne hcanHesHeizungSetModeThermostatDetails (by decide)),
      if_neg (ne hcanHesHeizungSetModeAutomatik (by decide)),
      if_neg (ne hcanHesHeizungDetailsRequest (by decide)),
      if_neg (ne hcanHesHeizungTistRequest (by decide)),
      if_neg (ne hcanHesHeizungSolltempLineRequest (by decide)),
      if_neg (ne hcanHesHeizungSolltempWriteLine (by decide)), ite_self]
    exact leavesSame_pure

theorem leavesSame_lichtzone {p : DeviceDataLichtzone} (command : frame.data[1] ∈ groupCommands)
    (group : frame.data[2] = 255) (slot : b.devices[i]? = some (.lichtzone p))
    (finds : ¬ Finds255 frame.data[1] (.lichtzone p)) {self : UInt16} :
    LeavesSame (lichtzoneCanCallback self send i p frame) b := by
  have ne : ∀ other, other ∉ groupCommands → frame.data[1] ≠ other :=
    fun _ => ne_of_groupCommand command
  have noAction : p.config.actionGruppe.toList.any
      (fun action => action != 255 && action == 255) = false := by
    rw [List.any_eq_false]
    intro action _ both
    obtain ⟨used, unused⟩ := Bool.and_eq_true_iff.mp both
    exact bne_iff_ne.mp used (beq_iff_eq.mp unused)
  dsimp only [lichtzoneCanCallback]
  rw [group, if_neg (ne hcanHesPowerGroupTimerQuery (by decide)),
    if_neg (ne hcanHesPowerGroupSetTimer (by decide))]
  refine leavesSame_ite (fun down => ?_) fun _ => leavesSame_ite (fun _ => ?_)
    fun _ => leavesSame_ite (fun _ => ?_) fun _ => leavesSame_pure
  · have toggle : 255 ∉ p.config.toggleGruppe.toList := fun inside => finds ⟨down, .inl inside⟩
    have off : 255 ∉ p.config.offGruppe.toList := fun inside => finds ⟨down, .inr (.inl inside)⟩
    have on : 255 ∉ p.config.onGruppe.toList := fun inside => finds ⟨down, .inr (.inr inside)⟩
    obtain ⟨next, pressed, same⟩ := leavesSame_poke lichtzonePressed slot rfl rfl
    refine ⟨next, ?_, same⟩
    rw [lichtzoneTasterDown, bind_apply, pressed, Option.bind_some,
      lichtzoneToggle_of_notMem toggle]
    change (do
      p.config.offGruppe.toList.forM _
      p.config.onGruppe.toList.forM _ : OnBoard mcu Unit) next = _
    rw [bind_apply, forM_of_notMem off, Option.bind_some, forM_of_notMem on]
  · refine leavesSame_poke _ slot rfl ?_
    rw [lichtzonePowerGroupOn, noAction, if_neg fun both => Bool.noConfusion both.1]
    rfl
  · refine leavesSame_poke _ slot rfl ?_
    rw [lichtzonePowerGroupOff, noAction, if_neg Bool.false_ne_true]
    rfl

theorem rolladenCanCallback_ignored {p : DeviceDataRolladen} {byZero : Int → Int} {self : UInt16}
    (command : frame.data[1] ∈ groupCommands) (group : frame.data[2] = 255)
    (finds : ¬ Finds255 frame.data[1] (.rolladen p)) :
    rolladenCanCallback byZero self p frame = (p, none) := by
  have ne := ne_of_groupCommand command
    (show hcanHesRolladenPositionRequest ∉ groupCommands by decide)
  dsimp only [rolladenCanCallback]
  rw [group, if_neg ne]
  by_cases down : frame.data[1] = hcanHesTasterDown
  · rw [if_pos down, if_neg fun taster => finds (.inl ⟨.inl down, taster⟩)]
  rw [if_neg down]
  by_cases up : frame.data[1] = hcanHesTasterUp
  · rw [if_pos up, if_neg fun taster => finds (.inl ⟨.inr up, taster⟩)]
  rw [if_neg up]
  by_cases set : frame.data[1] = hcanHesRolladenPositionSet
  · have outside : rolladenIsInGroup p 255 = false :=
      Bool.eq_false_iff.mpr fun inside => finds (.inr ⟨.inl set, inside⟩)
    have taster : p.config.taster ≠ 255 := by
      intro same
      rw [rolladenIsInGroup, same] at outside
      exact Bool.noConfusion outside
    rw [if_pos set, outside, if_neg fun either => either.elim Bool.false_ne_true
      fun both => taster both.1]
  rw [if_neg set]
  by_cases define : frame.data[1] = hcanHesRolladenDefinePosition
  · rw [if_pos define, if_neg fun inside => finds (.inr ⟨.inr define, inside⟩)]
  · rw [if_neg define]

theorem leavesSame_rolladen {p : DeviceDataRolladen} {byZero : Int → Int} {self : UInt16}
    (command : frame.data[1] ∈ groupCommands) (group : frame.data[2] = 255)
    (slot : b.devices[i]? = some (.rolladen p))
    (finds : ¬ Finds255 frame.data[1] (.rolladen p)) :
    LeavesSame (rolladenCallback self send byZero i p frame) b := by
  obtain ⟨next, poked, same⟩ := leavesSame_poke (fun _ : DeviceDataRolladen => p) slot rfl
    rfl
  refine ⟨next, ?_, same⟩
  dsimp only [rolladenCallback]
  rw [rolladenCanCallback_ignored command group finds, bind_apply, poked]
  rfl

/-- A device that does not find the group 255 leaves the board the same. -/
theorem leavesSame_device (command : frame.data[1] ∈ groupCommands) (group : frame.data[2] = 255)
    (slot : b.devices[i]? = some device) (finds : ¬ Finds255 frame.data[1] device) :
    LeavesSame (deviceCanCallback env send frame i) b := by
  have ne : ∀ other, other ∉ groupCommands → frame.data[1] ≠ other :=
    fun _ => ne_of_groupCommand command
  unfold LeavesSame
  rw [deviceCanCallback, bind_apply, Nested.read, Option.bind_some, slot]
  cases device with
  | powerportAutomat p => exact leavesSame_powerportAutomat command group slot finds
  | rolladenAutomat p =>
      change LeavesSame (rolladenAutomatCanCallback i p frame) b
      unfold rolladenAutomatCanCallback
      rw [if_neg (ne hcanHesHelligkeitsInfo (by decide))]
      exact leavesSame_ite
        (fun _ => leavesSame_ite (fun _ => leavesSame_poke _ slot rfl rfl) fun _ => leavesSame_pure)
        fun _ => leavesSame_ite
          (fun _ => leavesSame_ite (fun _ => leavesSame_poke _ slot rfl rfl)
            fun _ => leavesSame_pure)
          fun _ => leavesSame_pure
  | dunstabzugport p => exact leavesSame_dunstabzugport group finds
  | heizung p => exact leavesSame_heizung command group finds
  | lichtzone p => exact leavesSame_lichtzone command group slot finds
  | multitaster p =>
      change LeavesSame (multitasterCanCallback i p frame) b
      rw [multitasterCanCallback, if_neg fun both => ne _ (by decide) both.1]
      exact leavesSame_pure
  | powerport p =>
      change LeavesSame (powerportCanCallback env.self send env.sleep i p frame) b
      rw [powerportCanCallback, powerportIsInGroup, group]
      exact leavesSame_pure
  | reedkontakt p =>
      change LeavesSame (reedkontaktCanCallback env.self send p frame) b
      rw [reedkontaktCanCallback, if_neg fun both => ne _ (by decide) both.2]
      exact leavesSame_pure
  | rolladen p => exact leavesSame_rolladen command group slot finds
  | rolladenSchlitzpos p =>
      change LeavesSame (rolladenSchlitzposCanCallback env.self send i p frame) b
      dsimp only [rolladenSchlitzposCanCallback]
      rw [if_neg (ne hcanHesRolladenPositionReplay (by decide)),
        if_neg (ne hcanHesReedkontaktStateReplay (by decide))]
      exact leavesSame_ite
        (fun _ => leavesSame_ite (fun _ => leavesSame_poke _ slot rfl rfl) fun _ => leavesSame_pure)
        fun _ => leavesSame_pure
  | zentralheizungspumpe p =>
      change LeavesSame (zentralheizungspumpeCanCallback env.self send i p frame) b
      rw [zentralheizungspumpeCanCallback, if_neg (ne _ (by decide))]
      exact leavesSame_pure
  | tastdimmer p =>
      change LeavesSame (tastdimmerCanCallback p frame) b
      rw [tastdimmerCanCallback, tastdimmerIsInGroup, group]
      exact leavesSame_pure
  | tempsensor p =>
      change LeavesSame (tempsensorCanCallback env.self send p frame) b
      rw [tempsensorCanCallback, if_neg fun both => ne _ (by decide) both.1]
      exact leavesSame_pure
  | zeitschaltuhr p =>
      change LeavesSame (zeitschaltuhrCanCallback i p frame) b
      unfold zeitschaltuhrCanCallback
      exact leavesSame_ite
        (fun _ => leavesSame_ite (fun _ => leavesSame_poke _ slot rfl rfl) fun _ => leavesSame_pure)
        fun _ => leavesSame_ite
          (fun _ => leavesSame_ite (fun _ => leavesSame_poke _ slot rfl rfl)
            fun _ => leavesSame_pure)
          fun _ => leavesSame_pure
  | zeitzone p =>
      change LeavesSame (zeitzoneCanCallback env.self send i p frame) b
      rw [zeitzoneCanCallback, if_neg (ne _ (by decide)), if_neg (ne _ (by decide)),
        if_neg (ne _ (by decide)), ite_self]
      exact leavesSame_pure
  | other type => exact leavesSame_pure

theorem forM_range_succ (body : Nat → OnBoard mcu Unit) (k : Nat) (b : Board mcu) :
    (List.range (k + 1)).forM body b =
      ((List.range k).forM body b).bind fun result => body k result.2 := by
  have split : (List.range (k + 1)).forM body =
      ((List.range k).forM body >>= fun _ => body k) := by
    rw [List.range_succ, List.forM_eq_forM, List.forM_append, List.forM_cons, List.forM_nil,
      bind_pure_unit]
  rw [split, bind_apply]

/-- The loop ignores the group when no device finds it. -/
theorem ignores_of_notFinds (command : frame.data[1] ∈ groupCommands)
    (group : frame.data[2] = 255)
    (finds : ∀ device ∈ b.devices.take (maxPdeviceData mcu), ¬ Finds255 frame.data[1] device) :
    Ignores env frame b := by
  intro send k bound
  induction k with
  | zero => exact ⟨b, rfl, Same.refl b⟩
  | succ k ih =>
      obtain ⟨middle, handled, same⟩ := ih (Nat.le_of_succ_le bound)
      have last : LeavesSame (deviceCanCallback env send frame k) middle := by
        cases slot : middle.devices[k]? with
        | none =>
            refine ⟨middle, ?_, Same.refl middle⟩
            rw [deviceCanCallback, bind_apply, Nested.read, Option.bind_some, slot]
            rfl
        | some device =>
            apply leavesSame_device command group slot
            have back : Same middle b := ⟨fun pin => (same.pins pin).symm, same.devices.symm⟩
            obtain ⟨first, there, showsSame⟩ := back.slot slot
            rw [← finds255_shown, ← showsSame, finds255_shown]
            apply finds first
            rw [List.mem_take_iff_getElem]
            obtain ⟨inside, stored⟩ := List.getElem?_eq_some_iff.mp there
            exact ⟨k, by omega, stored⟩
      obtain ⟨next, ran, still⟩ := last
      refine ⟨next, ?_, same.trans still⟩
      rw [forM_range_succ, handled]
      exact ran

end Ignored

/-! ## Devices that react to the group -/

/-- A frame that is sent does not return. -/
def unsent : CanixFrame → OnBoard mcu Unit := fun _ _ => none

/-- In every state that shows the same, the callback changes what the device shows or sends. -/
def Reacts (env : Environment mcu) (frame : CanixFrame) (device : Device) : Prop :=
  ∀ (b next : Board mcu) i later, shown later = shown device → b.devices[i]? = some later →
    deviceCanCallback env unsent frame i b = some ((), next) → ¬ Same b next

section Reacting

variable {env : Environment mcu} {frame : CanixFrame} {i : Nat} {b next : Board mcu}

theorem eq_of_shown_rolladen {later : Device} {p : DeviceDataRolladen}
    (same : shown later = shown (.rolladen p)) : later = .rolladen p := by
  cases later <;> first | exact same | cases same

theorem eq_of_shown_dunstabzugport {later : Device} {p : DeviceDataDunstabzugport}
    (same : shown later = shown (.dunstabzugport p)) : later = .dunstabzugport p := by
  cases later <;> first | exact same | cases same

theorem eq_of_shown_heizung {later : Device} {p : DeviceDataHeizung}
    (same : shown later = shown (.heizung p)) : later = .heizung p := by
  cases later <;> first | exact same | cases same

/-- A record that is set at the place of the device shows whether the board is the same. -/
theorem not_same_set {device other : Device} (slot : b.devices[i]? = some device)
    (there : next.devices[i]? = some other) (changed : shown other ≠ shown device) :
    ¬ Same b next := by
  intro same
  obtain ⟨later, found, showsSame⟩ := same.slot slot
  obtain rfl := Option.some_inj.mp (there.symm.trans found)
  exact changed showsSame

theorem rolladen_moves (p : DeviceDataRolladen) (byZero : Int → Int) (self : UInt16)
    (group : frame.data[2] = 255) (finds : Finds255 frame.data[1] (.rolladen p)) :
    ∃ q : DeviceDataRolladen, q.config = p.config ∧
      (rolladenCanCallback byZero self q frame).1 ≠ q := by
  dsimp only [rolladenCanCallback]
  rw [group]
  obtain ⟨down | up, taster⟩ | ⟨set | define, inside⟩ := finds
  · refine ⟨{ p with hilevelUpEventCounter := 0 }, rfl, fun same => ?_⟩
    rw [if_pos down, if_pos taster] at same
    have seven : (7 : Int) = 0 := congrArg DeviceDataRolladen.hilevelUpEventCounter same
    exact absurd seven (by decide)
  · refine ⟨{ p with hilevelUpEventCounter := 0 }, rfl, fun same => ?_⟩
    rw [if_neg (by rw [up]; decide), if_pos up, if_pos taster] at same
    have minus : (-1 : Int) = 0 := congrArg DeviceDataRolladen.hilevelUpEventCounter same
    exact absurd minus (by decide)
  · refine ⟨{ p with lowlevelState := .stop, lowlevelCommand := .stop, sollLaufzeit := 0 }, rfl,
      fun same => ?_⟩
    rw [if_neg (by rw [set]; decide), if_neg (by rw [set]; decide), if_pos set,
      if_pos (.inl inside)] at same
    unfold rolladenPositionSet at same
    dsimp only at same
    split_ifs at same
    · have command := congrArg DeviceDataRolladen.lowlevelCommand same
      cases command
    · have command := congrArg DeviceDataRolladen.lowlevelCommand same
      cases command
    · have minus : (-1 : Int) = 0 := congrArg DeviceDataRolladen.sollLaufzeit same
      exact absurd minus (by decide)
  · refine ⟨{ p with
      laufzeit := (rolladenLowlevelDefinePosition p frame.data[3]).laufzeit + 1 }, rfl,
      fun same => ?_⟩
    have here : ∀ laufzeit, rolladenIsInGroup { p with laufzeit } 255 = true := fun _ => inside
    rw [if_neg (by rw [define]; decide), if_neg (by rw [define]; decide),
      if_neg (by rw [define]; decide), if_pos define, if_pos (here _)] at same
    have later : (rolladenLowlevelDefinePosition p frame.data[3]).laufzeit =
        (rolladenLowlevelDefinePosition p frame.data[3]).laufzeit + 1 :=
      congrArg DeviceDataRolladen.laufzeit same
    omega

theorem rolladen_reacts {p : DeviceDataRolladen} (group : frame.data[2] = 255)
    (finds : Finds255 frame.data[1] (.rolladen p)) :
    ∃ other, SameConfig (.rolladen p) other ∧ Reacts env frame other := by
  obtain ⟨q, config, moves⟩ := rolladen_moves p env.byZero env.self group finds
  refine ⟨.rolladen q, .rolladen config, fun b next i later shows_ slot ran => ?_⟩
  obtain rfl := eq_of_shown_rolladen shows_
  rw [deviceCanCallback, bind_apply, Nested.read, Option.bind_some, slot] at ran
  change rolladenCallback env.self unsent env.byZero i q frame b = _ at ran
  obtain ⟨_, middle, poked, answered⟩ := ran_bind ran
  rw [poke_apply slot rfl] at poked
  cases poked
  refine not_same_set slot (?_ : next.devices[i]? =
    some (.rolladen (rolladenCanCallback env.byZero env.self q frame).1))
    fun same => moves (Device.rolladen.inj same)
  cases answer : (rolladenCanCallback env.byZero env.self q frame).2 with
  | none =>
      rw [answer] at answered
      cases answered
      exact slot_set slot _
  | some message =>
      rw [answer] at answered
      cases answered

theorem heizung_reacts {p : DeviceDataHeizung} (group : frame.data[2] = 255)
    (finds : Finds255 frame.data[1] (.heizung p)) :
    ∃ other, SameConfig (.heizung p) other ∧ Reacts env frame other := by
  obtain ⟨open_, inside⟩ := finds
  refine ⟨.heizung { p with reedHeizStopCounter := 0 }, .heizung rfl,
    fun b next i later shows_ slot ran => ?_⟩
  obtain rfl := eq_of_shown_heizung shows_
  rw [deviceCanCallback, bind_apply, Nested.read, Option.bind_some, slot] at ran
  change heizungCanCallback env.self unsent i { p with reedHeizStopCounter := 0 } frame b = _ at ran
  dsimp only [heizungCanCallback] at ran
  rw [group, if_neg (by rw [open_]; decide), if_pos open_, if_pos inside,
    poke_apply slot rfl] at ran
  cases ran
  refine not_same_set slot (slot_set slot _) fun same => ?_
  have sixty : (60 : UInt8) = 0 :=
    congrArg DeviceDataHeizung.reedHeizStopCounter (Device.heizung.inj same)
  exact absurd sixty (by decide)

theorem dunstabzugportEin_slot {p q : DeviceDataDunstabzugport} {seconds : UInt16}
    (slot : b.devices[i]? = some (.dunstabzugport p))
    (ran : (dunstabzugportEin i q seconds : OnBoard mcu Unit) b = some ((), next)) :
    next.devices[i]? =
      some (.dunstabzugport { p with counter := seconds, stateDunst := true }) := by
  rw [dunstabzugportEin, bind_apply, poke_apply slot rfl] at ran
  cases ran
  exact slot_set slot _

theorem dunstabzugportAus_slot {p q : DeviceDataDunstabzugport}
    (slot : b.devices[i]? = some (.dunstabzugport p))
    (ran : (dunstabzugportAus i q : OnBoard mcu Unit) b = some ((), next)) :
    next.devices[i]? = some (.dunstabzugport { p with counter := 0, stateDunst := false }) := by
  rw [dunstabzugportAus, bind_apply, poke_apply slot rfl] at ran
  cases ran
  exact slot_set slot _

/-- A contact of the group sets the counter, in both directions. -/
theorem stateChange_counter {p q : DeviceDataDunstabzugport} {reed : UInt8}
    (group : frame.data[2] = 255) (slot : b.devices[i]? = some (.dunstabzugport p))
    (ran : (dunstabzugportStateChange i q frame reed false : OnBoard mcu Unit) b =
      some ((), next)) :
    ∃ r, next.devices[i]? = some (.dunstabzugport r) ∧
      r.counter = if reed = 255 then if frame.data[3] ≠ 0 then 7 else 0 else p.counter := by
  rw [dunstabzugportStateChange, group] at ran
  by_cases own : reed = 255
  · rw [if_pos own] at ran ⊢
    by_cases open_ : frame.data[3] ≠ 0
    · rw [if_pos open_] at ran
      exact ⟨_, dunstabzugportEin_slot slot ran, (if_pos open_).symm⟩
    · rw [if_neg open_, if_pos rfl] at ran
      exact ⟨_, dunstabzugportAus_slot slot ran, (if_neg open_).symm⟩
  · rw [if_neg own] at ran ⊢
    cases ran
    exact ⟨p, slot, rfl⟩

theorem dunstabzugport_reacts {p : DeviceDataDunstabzugport} (group : frame.data[2] = 255)
    (finds : Finds255 frame.data[1] (.dunstabzugport p)) :
    ∃ other, SameConfig (.dunstabzugport p) other ∧ Reacts env frame other := by
  refine ⟨.dunstabzugport
    { p with counter := 1, stateDunst := false, stateReed0 := false, stateReed1 := false },
    .dunstabzugport rfl, fun b next i later shows_ slot ran => ?_⟩
  obtain rfl := eq_of_shown_dunstabzugport shows_
  rw [deviceCanCallback, bind_apply, Nested.read, Option.bind_some, slot] at ran
  change dunstabzugportCanCallback i { p with
    counter := 1, stateDunst := false, stateReed0 := false, stateReed1 := false } frame b = _ at ran
  unfold dunstabzugportCanCallback at ran
  dsimp only at ran
  rw [group] at ran
  obtain ⟨open_ | change_, reed⟩ | ⟨down, taster⟩ := finds
  · rw [if_pos open_] at ran
    have opened : ∃ q, next.devices[i]? = some (.dunstabzugport q) ∧ q.counter = 7 := by
      by_cases first : p.config.reedGruppe0 = 255
      · rw [if_pos first] at ran
        obtain ⟨_, middle, noted, on⟩ := ran_bind ran
        rw [poke_apply slot rfl] at noted
        cases noted
        exact ⟨_, dunstabzugportEin_slot (slot_set slot _) on, rfl⟩
      · rw [if_neg first, if_pos (reed.resolve_left first)] at ran
        obtain ⟨_, middle, noted, on⟩ := ran_bind ran
        rw [poke_apply slot rfl] at noted
        cases noted
        exact ⟨_, dunstabzugportEin_slot (slot_set slot _) on, rfl⟩
    obtain ⟨q, there, seven⟩ := opened
    refine not_same_set slot there fun same => ?_
    have one : q.counter = 1 := congrArg DeviceDataDunstabzugport.counter
      (Device.dunstabzugport.inj same)
    rw [seven] at one
    exact absurd one (by decide)
  · rw [if_neg (by rw [change_]; decide), if_pos change_] at ran
    obtain ⟨_, middle, first, second⟩ := ran_bind ran
    obtain ⟨q, between, counted⟩ := stateChange_counter group slot first
    obtain ⟨r, there, last⟩ := stateChange_counter group between second
    refine not_same_set slot there fun same => ?_
    have one : r.counter = 1 := congrArg DeviceDataDunstabzugport.counter
      (Device.dunstabzugport.inj same)
    rw [one] at last
    rw [counted] at last
    revert last
    obtain own | own := reed
    · rw [if_pos own]
      split_ifs <;> decide
    · rw [if_pos own]
      split_ifs <;> decide
  · rw [if_neg (by rw [down]; decide), if_neg (by rw [down]; decide), if_pos down,
      if_pos taster] at ran
    refine not_same_set slot (dunstabzugportEin_slot slot ran) fun same => ?_
    have on := congrArg DeviceDataDunstabzugport.stateDunst (Device.dunstabzugport.inj same)
    exact Bool.noConfusion on

theorem powerportAutomat_reacts {p : DeviceDataPowerportAutomat} (group : frame.data[2] = 255)
    (finds : Finds255 frame.data[1] (.powerportAutomat p)) :
    ∃ other, SameConfig (.powerportAutomat p) other ∧ Reacts env frame other := by
  obtain ⟨switched, notAuto, steller⟩ := finds
  refine ⟨.powerportAutomat { p with brightness := 65535 }, .powerportAutomat rfl,
    fun b next i later shows_ slot ran => ?_⟩
  exfalso
  cases later with
  | powerportAutomat q =>
      have same := Device.powerportAutomat.inj shows_
      have config : q.config = p.config := by
        have fields := congrArg DeviceDataPowerportAutomat.config same
        exact fields
      have dark : q.brightness = 65535 := by
        have fields := congrArg DeviceDataPowerportAutomat.brightness same
        exact fields
      have sends : ∀ active, powerportAutomatSendMessage env.self unsent q active b = none := by
        intro active
        rw [powerportAutomatSendMessage, if_neg fun all => all.2.2.1 dark]
        rfl
      rw [deviceCanCallback, bind_apply, Nested.read, Option.bind_some, slot] at ran
      change powerportAutomatCanCallback env.self unsent i q frame b = _ at ran
      unfold powerportAutomatCanCallback at ran
      rw [group, config, if_neg notAuto.symm, if_neg notAuto.symm, if_pos steller.symm,
        if_pos steller.symm] at ran
      obtain on | off := switched
      · rw [if_pos on, sends] at ran
        cases ran
      · rw [if_neg (by rw [off]; decide), if_pos off, sends] at ran
        cases ran
  | _ => cases shows_

/-- The zone is not on in the extended mode with its timer at 0. -/
def Moved (p : DeviceDataLichtzone) : Prop := p.state = .onExt → p.timerCounter ≠ 0

theorem moved_of_ne {p : DeviceDataLichtzone} (ne : p.state ≠ .onExt) : Moved p :=
  fun same => absurd same ne

section Moved

variable {p : DeviceDataLichtzone} {taster : UInt8} {groups : List UInt8}

theorem moved_umschalten : Moved (p.umschalten id) := by
  unfold DeviceDataLichtzone.umschalten
  by_cases timed : p.config.timerDelay ≠ 0
  · rw [if_pos timed]
    cases state : p.state with
    | off => exact moved_of_ne on_ne_onExt
    | on => exact moved_of_ne (state ▸ on_ne_onExt : p.state ≠ .onExt)
    | onExt => exact moved_of_ne off_ne_onExt
  · rw [if_neg timed]
    refine moved_of_ne ?_
    change (if p.state = .off then LichtzoneState.on else .off) ≠ .onExt
    split
    next => exact on_ne_onExt
    next => exact off_ne_onExt

theorem moved_toggle :
    (DeviceDataLichtzone.toggle id taster groups p).1 = true ∨ taster ∈ groups ∨ Moved p →
      Moved (DeviceDataLichtzone.toggle id taster groups p).2 := by
  induction groups generalizing p with
  | nil => exact fun either =>
      (either.resolve_left Bool.false_ne_true).resolve_left List.not_mem_nil
  | cons group groups ih =>
      intro either
      unfold DeviceDataLichtzone.toggle at either ⊢
      by_cases own : taster = group
      · rw [if_pos own]
        split
        next => exact fun _ => show lichtzoneExtTimerinit ≠ 0 by decide
        next => exact ih (.inr (.inr moved_umschalten))
      · rw [if_neg own] at either ⊢
        exact ih (either.imp_right <| Or.imp_left fun inside =>
          (List.mem_cons.mp inside).resolve_left own)

/-- The loops over the off groups and the on groups. -/
theorem moved_pressed {change : DeviceDataLichtzone → DeviceDataLichtzone}
    (moves : ∀ q, Moved (change q)) : taster ∈ groups ∨ Moved p →
      Moved (DeviceDataLichtzone.pressed id taster change groups p) := by
  induction groups generalizing p with
  | nil => exact fun either => either.resolve_left List.not_mem_nil
  | cons group groups ih =>
      intro either
      unfold DeviceDataLichtzone.pressed
      rw [List.foldl_cons]
      by_cases own : taster = group
      · rw [if_pos own]
        exact ih (.inr (moves p))
      · rw [if_neg own]
        exact ih (either.imp_left fun inside => (List.mem_cons.mp inside).resolve_left own)

/-- A press of a button of the zone leaves it moved. -/
theorem moved_tasterDown (found : taster ∈ p.config.toggleGruppe.toList ∨
      taster ∈ p.config.offGruppe.toList ∨ taster ∈ p.config.onGruppe.toList) :
    Moved (p.tasterDown id taster) := by
  have off {q : DeviceDataLichtzone} := @moved_pressed q taster p.config.offGruppe.toList
    DeviceDataLichtzone.switchOff fun _ => moved_of_ne off_ne_onExt
  have on {q : DeviceDataLichtzone} := @moved_pressed q taster p.config.onGruppe.toList
    DeviceDataLichtzone.switchOn fun q => moved_of_ne q.state_switchOn
  unfold DeviceDataLichtzone.tasterDown
  dsimp only
  split
  next returned => exact moved_toggle (.inl returned)
  next =>
    obtain toggle | inside | inside := found
    · exact on (.inr (off (.inr (moved_toggle (.inr (.inl toggle))))))
    · exact on (.inr (off (.inl inside)))
    · exact on (.inl inside)

end Moved

theorem informActionGroups_unsent {self : UInt16} {p : DeviceDataLichtzone}
    (ran : informActionGroups self unsent i p b = some ((), next)) : next = b := by
  unfold informActionGroups at ran
  generalize p.config.actionGruppe.toList = groups at ran
  induction groups with
  | nil =>
      cases ran
      rfl
  | cons group groups ih =>
      obtain ⟨_, middle, first, rest⟩ := ran_bind ran
      dsimp only at first
      split at first
      next =>
        obtain ⟨q, before, _, sent⟩ := ran_bind first
        cases sent
      next =>
        cases first
        exact ih rest

/-- An announcement that nobody hears does nothing to the zone. -/
theorem informs_unsent {self : UInt16} :
    Informs self (unsent : CanixFrame → OnBoard mcu Unit) i id := by
  intro p q b next config shows_ ran
  rw [informActionGroups_unsent ran]
  exact shows_

theorem inert_unsent {messages : List UInt8} :
    Inert messages (unsent : CanixFrame → OnBoard mcu Unit) := by
  intro message b next _ _ _ sent
  cases sent

theorem lichtzone_reacts {p : DeviceDataLichtzone} (group : frame.data[2] = 255)
    (finds : Finds255 frame.data[1] (.lichtzone p)) :
    ∃ other, SameConfig (.lichtzone p) other ∧ Reacts env frame other := by
  obtain ⟨down, found⟩ := finds
  refine ⟨.lichtzone { p with state := .onExt, timerCounter := 0 }, .lichtzone rfl,
    fun b next i later shows_ slot ran => ?_⟩
  cases later with
  | lichtzone q =>
      have fields := Device.lichtzone.inj shows_
      have config : q.config = p.config := by
        have same := congrArg DeviceDataLichtzone.config fields
        exact same
      rw [deviceCanCallback, bind_apply, Nested.read, Option.bind_some, slot] at ran
      change lichtzoneCanCallback env.self unsent i q frame b = _ at ran
      have final : ShowsZone i (q.canCallback id frame) next :=
        lichtzoneCanCallback_simulated keepsPresses_id informs_unsent inert_unsent slot frame ran
      have away : Moved (q.canCallback id frame) := by
        unfold DeviceDataLichtzone.canCallback
        dsimp only
        rw [if_pos down, group]
        exact moved_tasterDown (config ▸ found)
      refine not_same_set slot final fun same => ?_
      have back := Device.lichtzone.inj (same.trans shows_)
      have ext : (q.canCallback id frame).state = .onExt := by
        have state := congrArg DeviceDataLichtzone.state back
        exact state
      have stopped : (q.canCallback id frame).timerCounter = 0 := by
        have timer := congrArg DeviceDataLichtzone.timerCounter back
        exact timer
      exact away ext stopped
  | _ => cases shows_

theorem reacts_of_finds (env : Environment mcu) {device : Device} (group : frame.data[2] = 255)
    (finds : Finds255 frame.data[1] device) :
    ∃ other, SameConfig device other ∧ Reacts env frame other := by
  cases device with
  | rolladen p => exact rolladen_reacts group finds
  | lichtzone p => exact lichtzone_reacts group finds
  | dunstabzugport p => exact dunstabzugport_reacts group finds
  | heizung p => exact heizung_reacts group finds
  | powerportAutomat p => exact powerportAutomat_reacts group finds
  | _ => exact finds.elim

theorem not_ignores_of_reacts {device : Device} (bound : i < maxPdeviceData mcu)
    (slot : b.devices[i]? = some device) (reacts : Reacts env frame device) :
    ¬ Ignores env frame b := by
  intro ignores
  obtain ⟨middle, before, same⟩ := ignores unsent i (Nat.le_of_lt bound)
  obtain ⟨next, handled, still⟩ := ignores unsent (i + 1) bound
  obtain ⟨later, there, shows_⟩ := same.slot slot
  rw [forM_range_succ, before] at handled
  apply reacts middle next i later shows_ there handled
  exact ⟨fun pin => (still.pins pin).trans (same.pins pin).symm,
    still.devices.trans same.devices.symm⟩

end Reacting

/-! ## The device table -/

theorem forall₂_set {devices : List Device} {i : Nat} {device other : Device}
    (slot : devices[i]? = some device) (same : SameConfig device other) :
    List.Forall₂ SameConfig devices (devices.set i other) := by
  rw [List.forall₂_iff_get]
  refine ⟨List.length_set.symm, fun j first second => ?_⟩
  rw [List.get_eq_getElem, List.get_eq_getElem, List.getElem_set]
  split
  next here =>
    subst here
    obtain ⟨bound, stored⟩ := List.getElem?_eq_some_iff.mp slot
    rw [stored]
    exact same
  next => exact SameConfig.refl _

/-- In every state of its devices a table ignores the group 255 exactly when no device finds it. -/
theorem ersatzwert_ignored_iff (env : Environment mcu) (b : Board mcu) (frame : CanixFrame)
    (command : frame.data[1] ∈ groupCommands) (group : frame.data[2] = 255) :
    (∀ devices, List.Forall₂ SameConfig b.devices devices →
        Ignores env frame { b with devices }) ↔
      ∀ device ∈ b.devices.take (maxPdeviceData mcu), ¬ Finds255 frame.data[1] device := by
  constructor
  · intro ignores device inside finds
    obtain ⟨i, bound, stored⟩ := List.mem_take_iff_getElem.mp inside
    have slot : b.devices[i]? = some device :=
      List.getElem?_eq_some_iff.mpr ⟨by omega, stored⟩
    obtain ⟨other, same, reacts⟩ := reacts_of_finds env group finds
    refine not_ignores_of_reacts (Nat.lt_of_lt_of_le bound (Nat.min_le_left _ _)) ?_ reacts
      (ignores _ (forall₂_set slot same))
    exact slot_set slot other
  · intro finds devices same
    refine ignores_of_notFinds command group fun device inside found => ?_
    obtain ⟨i, bound, stored⟩ := List.mem_take_iff_getElem.mp inside
    have small : i < maxPdeviceData mcu := Nat.lt_of_lt_of_le bound (Nat.min_le_left _ _)
    have second : i < devices.length := Nat.lt_of_lt_of_le bound (Nat.min_le_right _ _)
    have first : i < b.devices.length := same.length_eq ▸ second
    have configured : SameConfig b.devices[i] devices[i] := same.get first second
    apply finds b.devices[i] (List.mem_take_iff_getElem.mpr ⟨i, lt_min small first, rfl⟩)
    rw [← finds255_congr configured, stored]
    exact found

/-- A frame that the table ignores does nothing in `hauselektrik_callback`. -/
theorem Ignores.callback {env : Environment mcu} {b : Board mcu} {frame : CanixFrame}
    (ignores : Ignores env frame b) (command : frame.data[1] ∈ groupCommands)
    (send : CanixFrame → OnBoard mcu Unit) :
    LeavesSame (hauselektrikCallback env send frame) b := by
  have ne : ∀ other, other ∉ groupCommands → frame.data[1] ≠ other :=
    fun _ => ne_of_groupCommand command
  unfold hauselektrikCallback
  refine leavesSame_ite (fun _ => ?_) fun _ => leavesSame_pure
  obtain ⟨next, handled, same⟩ := ignores send _ (Nat.le_refl _)
  refine ⟨next, ?_, same⟩
  rw [bind_apply, handled, Option.bind_some, hauselektrikSwitch,
    if_neg (ne hcanHesConfigReload (by decide)),
    if_neg (ne hcanHesConfigRamUsageRequest (by decide)),
    if_neg (ne hcanHes1wireDiscover (by decide))]
  rfl

/-- A board with one device. -/
def boardWith (device : Device) : Board atmega32 where
  devices := [device]
  ramUsage := 13
  out := darlingtonoutputInit (.reset 0 0 0 0)
  tasterport _ := false
  eeprom := .powerUp fun _ => 255
  clock := ⟨1, 12, 0, 0, 1, 1, 8⟩
  sent := []

/-- An extractor hood at the window contact 3, without a second contact and without a button. -/
def oneContactHood : Device := .dunstabzugport (dunstabzugportInit ⟨1, 3, 255, 10, 255⟩)

def frame255 (command : UInt8) : CanixFrame :=
  Hauselektrik.hesFrame 5 hcanMulticastControl 3 command 255 0 0 0 0 0

theorem ersatzwert_ignored_iff_reed :
    (∀ devices, List.Forall₂ SameConfig (boardWith oneContactHood).devices devices →
        Ignores quietEnvironment (frame255 hcanHesReedkontaktOffen)
          { boardWith oneContactHood with devices }) ↔
      ∀ device ∈ (boardWith oneContactHood).devices.take (maxPdeviceData atmega32),
        ¬ Finds255 hcanHesReedkontaktOffen device :=
  ersatzwert_ignored_iff quietEnvironment (boardWith oneContactHood)
    (frame255 hcanHesReedkontaktOffen) (by decide) rfl

/-- The window contact 255 switches the hood on. -/
theorem hood_notIgnored :
    ¬ Ignores quietEnvironment (frame255 hcanHesReedkontaktOffen) (boardWith oneContactHood) := by
  intro ignores
  obtain ⟨next, handled, same⟩ := ignores unsent 1 (by decide)
  have pin := same.pins 1
  cases handled
  revert pin
  decide +kernel

end Hcan.Hauselektrik
