import Hcan.Hauselektrik.Buttons
import Hcan.Library.Machine
import Mathlib.Data.List.TakeWhile

/-!
# The potentiometer of a button

The scale 0..1023 is divided among the leading configured groups.  The search over the scale marks
starts with the mark 0, so the value 0 selects no group at all.  What lies above the last mark
selects the field behind the configured groups, and with nine or ten groups nothing.
-/

namespace Hcan.Hauselektrik

open Hcan.Canix Hcan.Controller Hcan.Library

/-- The number of leading configured groups, `numOfPotiScaleDivisions`. -/
def configuredGroups (config : EdsMultitasterBlock) : Nat :=
  (config.gruppe.toList.takeWhile fun gruppe => gruppe != 255).length

def multitasterStep (self : UInt16) (p : DeviceDataMultitaster) :
    ButtonEvent → DeviceDataMultitaster
  | .sample pressed => (multitasterTimerHandler self (fun _ => !pressed) p).1
  | .frame frame => multitasterReceive p frame

/-- The record after some events since the start. -/
def multitasterAfter (self : UInt16) (byZero : Int → Int) (config : EdsMultitasterBlock)
    (events : List ButtonEvent) : DeviceDataMultitaster :=
  runAll (multitasterStep self) (multitasterInit byZero config) events

/-- The button events of some samples. -/
def multitasterFrames (self : UInt16) : DeviceDataMultitaster → List Bool → List CanixFrame
  | _, [] => []
  | p, pressed :: samples =>
      let handled := multitasterTimerHandler self (fun _ => !pressed) p
      handled.2 ++ multitasterFrames self handled.1 samples

/-- The division of the scale that contains a value: a mark belongs to the division below it, and
the remainder to the last division. -/
structure InDivision (divisions value d : Nat) : Prop where
  exists_ : d < divisions
  above : d = 0 ∨ d * (1023 / divisions) < value
  upTo : d + 1 = divisions ∨ value ≤ (d + 1) * (1023 / divisions)

/-- The next button event carries the group of the division of the value. -/
def SelectsDivision (self : UInt16) (p : DeviceDataMultitaster) (value : Nat) : Prop :=
  ∀ samples sent, (multitasterFrames self p samples).head? = some sent →
    ∃ d, InDivision (configuredGroups p.config) value d ∧
      p.config.gruppe.toList[d]? = some sent.data[2]

/-- The value lies on a mark that is searched, or above all of them while the last division is
selected anyway. -/
def PotiFits (p : DeviceDataMultitaster) (value : Nat) : Prop :=
  (0 < value ∧
    value ≤ min (configuredGroups p.config) 9 * (1023 / configuredGroups p.config)) ∨
  (9 ≤ configuredGroups p.config ∧ 9 * (1023 / configuredGroups p.config) < value ∧
    p.config.gruppe.toList[configuredGroups p.config - 1]? = some (getGroup p))

section Configuration

variable (self : UInt16) (byZero : Int → Int) (config : EdsMultitasterBlock)

theorem configuredGroups_le : configuredGroups config ≤ 10 := by
  have le := (List.takeWhile_sublist (l := config.gruppe.toList)
    fun gruppe => gruppe != 255).length_le
  rwa [Vector.length_toList] at le

/-- The field behind the configured groups is unused. -/
theorem unconfigured (few : configuredGroups config < 10) :
    config.gruppe.toList[configuredGroups config]? = some 255 := by
  have size : config.gruppe.toList.length = 10 := Vector.length_toList
  have split : config.gruppe.toList.takeWhile (fun gruppe => gruppe != 255) ++
      config.gruppe.toList.dropWhile (fun gruppe => gruppe != 255) = config.gruppe.toList :=
    List.takeWhile_append_dropWhile
  have first := List.head?_dropWhile_not (fun gruppe => gruppe != 255) config.gruppe.toList
  have behind : config.gruppe.toList[configuredGroups config]? =
      (config.gruppe.toList.dropWhile fun gruppe => gruppe != 255).head? := by
    have whole := congrArg (fun fields : List UInt8 => fields[configuredGroups config]?) split
    rw [← whole]
    unfold configuredGroups
    rw [List.getElem?_append_right (le_refl _), Nat.sub_self, List.head?_eq_getElem?]
  have exists_ := List.getElem?_eq_getElem (l := config.gruppe.toList)
    (i := configuredGroups config) (by omega)
  rw [← behind, exists_] at first
  rw [exists_]
  simpa using first

theorem configured_ne {d : Nat} (inside : d < configuredGroups config) {group : UInt8}
    (field : config.gruppe.toList[d]? = some group) : group ≠ 255 := by
  have leading := List.takeWhile_prefix (l := config.gruppe.toList) fun gruppe => gruppe != 255
  have same := leading.getElem inside
  rw [List.getElem?_eq_getElem (Nat.lt_of_lt_of_le inside leading.length_le), Option.some_inj,
    ← same] at field
  have member := List.mem_takeWhile_imp (List.getElem_mem (l := config.gruppe.toList.takeWhile
    fun gruppe => gruppe != 255) inside)
  rw [field] at member
  simpa using member

theorem multitasterStep_config (p : DeviceDataMultitaster) (event : ButtonEvent) :
    (multitasterStep self p event).config = p.config ∧
      (multitasterStep self p event).oneScale = p.oneScale := by
  cases event with
  | sample pressed => exact ⟨rfl, rfl⟩
  | frame frame =>
      change (multitasterReceive p frame).config = _ ∧ (multitasterReceive p frame).oneScale = _
      unfold multitasterReceive
      split
      next =>
        cases potiPos p.oneScale (frameWord frame.data[3] frame.data[4]) with
        | some n => exact ⟨rfl, rfl⟩
        | none => exact ⟨rfl, rfl⟩
      next => exact ⟨rfl, rfl⟩

/-- The scale stays as it was set at the start. -/
theorem multitasterAfter_config (events : List ButtonEvent) :
    (multitasterAfter self byZero config events).config = config ∧
      (multitasterAfter self byZero config events).oneScale =
        (multitasterInit byZero config).oneScale := by
  refine runAll_invariant (fun p : DeviceDataMultitaster =>
    p.config = config ∧ p.oneScale = (multitasterInit byZero config).oneScale) ⟨rfl, rfl⟩ ?_
  rintro p event ⟨same, scale⟩
  obtain ⟨stepConfig, stepScale⟩ := multitasterStep_config self p event
  exact ⟨stepConfig.trans same, stepScale.trans scale⟩

/-- The width of a division. -/
theorem oneScale_toNat (configured : 0 < configuredGroups config) :
    (multitasterInit byZero config).oneScale.toNat = 1023 / configuredGroups config := by
  have small := Nat.div_le_self 1023 (configuredGroups config)
  change (UInt16.ofInt (quotient byZero 1023 (configuredGroups config))).toNat = _
  unfold quotient
  rw [if_neg (by omega)]
  change (UInt16.ofInt ((1023 / configuredGroups config : Nat) : Int)).toNat = _
  change (UInt16.ofNat (((1023 / configuredGroups config : Nat) : Int) % 2 ^ 16).toNat).toNat = _
  generalize 1023 / configuredGroups config = width at small ⊢
  rw [UInt16.toNat_ofNat']
  omega

end Configuration

section Search

variable {scale value : UInt16} {width : Nat}

theorem mark_reached_iff (whole : scale.toNat = width) (small : width ≤ 1023) {m : Nat}
    (inside : m < 10) : value ≤ UInt16.ofNat m * scale ↔ value.toNat ≤ m * width := by
  have size : UInt16.size = 65536 := rfl
  have product : m * width ≤ 9 * 1023 := Nat.mul_le_mul (by omega) small
  rw [UInt16.le_iff_toNat_le, UInt16.toNat_mul, UInt16.toNat_ofNat_of_lt' (by omega), whole,
    Nat.mod_eq_of_lt (by omega)]

/-- The search finds the first mark at or above the value. -/
theorem potiPos_eq_some (whole : scale.toNat = width) (small : width ≤ 1023) {n : Nat}
    (inside : n < 10) (reached : value.toNat ≤ n * width)
    (first : ∀ below < n, below * width < value.toNat) : potiPos scale value = some n := by
  unfold potiPos
  rw [List.find?_range_eq_some, decide_eq_true_iff, List.mem_range]
  refine ⟨(mark_reached_iff whole small inside).mpr reached, inside, fun below less => ?_⟩
  rw [Bool.not_eq_true', decide_eq_false_iff_not, mark_reached_iff whole small (by omega)]
  exact not_le.mpr (first below less)

/-- Above the last mark nothing is found. -/
theorem potiPos_eq_none (whole : scale.toNat = width) (small : width ≤ 1023)
    (above : 9 * width < value.toNat) : potiPos scale value = none := by
  unfold potiPos
  rw [List.find?_range_eq_none]
  intro m inside
  rw [Bool.not_eq_true', decide_eq_false_iff_not, mark_reached_iff whole small inside]
  have mark : m * width ≤ 9 * width := Nat.mul_le_mul_right width (by omega)
  omega

end Search

section Selected

variable (self : UInt16)

theorem getGroup_eq (p : DeviceDataMultitaster) :
    getGroup p = (p.config.gruppe.toList[p.lastPotiPos.toNat]?).getD 255 := by
  have size : p.config.gruppe.toList.length = 10 := Vector.length_toList
  have ten : (10 : UInt8).toNat = 10 := rfl
  unfold getGroup
  split
  next inside =>
    rw [UInt8.lt_iff_toNat_lt] at inside
    rw [List.getElem?_eq_getElem (by omega), Option.getD_some, toList_byte]
  next outside =>
    rw [UInt8.lt_iff_toNat_lt] at outside
    rw [List.getElem?_eq_none (by omega)]
    rfl

theorem tasterMessages_group (port feature gruppe pressed : UInt8) (status : Bool)
    {sent : CanixFrame}
    (inside : sent ∈ tasterMessages self port feature gruppe pressed status) :
    sent.data[2] = gruppe := by
  unfold tasterMessages at inside
  dsimp only at inside
  rcases List.mem_append.mp inside with up | down
  · split at up
    next => rw [List.mem_singleton.mp up]; rfl
    next => exact absurd up List.not_mem_nil
  · split_ifs at down
    · rw [List.mem_singleton.mp down]; rfl
    · rw [List.mem_singleton.mp down]; rfl
    · rw [List.mem_singleton.mp down]; rfl
    · exact absurd down List.not_mem_nil

/-- Every button event carries the selected group. -/
theorem multitasterFrames_group (p : DeviceDataMultitaster) (samples : List Bool)
    {sent : CanixFrame} (inside : sent ∈ multitasterFrames self p samples) :
    sent.data[2] = getGroup p := by
  induction samples generalizing p with
  | nil => exact absurd inside List.not_mem_nil
  | cons pressed samples ih =>
      rcases List.mem_append.mp inside with now | later
      · exact tasterMessages_group self _ _ _ _ _ now
      · exact ih (multitasterTimerHandler self (fun _ => !pressed) p).1 later

/-- The press that reaches the debouncing time is an event. -/
theorem tasterMessages_reached {port feature gruppe pressed : UInt8} {status : Bool}
    (reached : countPressed pressed status = tasterTime feature) :
    tasterMessages self port feature gruppe pressed status ≠ [] := by
  unfold tasterMessages
  dsimp only
  rw [if_pos reached]
  split_ifs <;> simp

theorem multitasterFrames_pressed (p : DeviceDataMultitaster) (missing : Nat)
    (counted : p.pressed.toNat + missing + 1 = (tasterTime p.config.feature).toNat) :
    multitasterFrames self p (List.replicate (missing + 1) true) ≠ [] := by
  induction missing generalizing p with
  | zero =>
      have time := tasterTime_toNat p.config.feature
      have next : (countPressed p.pressed true).toNat = min (p.pressed.toNat + 1) 255 :=
        countPressed_toNat (by omega)
      have reached : countPressed p.pressed true = tasterTime p.config.feature := by
        rw [← UInt8.toNat_inj]
        omega
      rw [List.replicate_one]
      exact fun none_ => tasterMessages_reached self reached (List.append_eq_nil_iff.mp none_).1
  | succ missing ih =>
      have time := tasterTime_toNat p.config.feature
      have next : (countPressed p.pressed true).toNat = min (p.pressed.toNat + 1) 255 :=
        countPressed_toNat (by omega)
      intro none_
      rw [List.replicate_succ] at none_
      refine ih (multitasterTimerHandler self (fun _ => !true) p).1 ?_
        (List.append_eq_nil_iff.mp none_).2
      change (countPressed p.pressed true).toNat + missing + 1 =
        (tasterTime p.config.feature).toNat
      omega

/-- There is a next button event. -/
theorem exists_buttonEvent (p : DeviceDataMultitaster) :
    ∃ samples sent, (multitasterFrames self p samples).head? = some sent := by
  have time := tasterTime_toNat p.config.feature
  have pressed := multitasterFrames_pressed self
    (multitasterTimerHandler self (fun _ => !false) p).1
    ((tasterTime p.config.feature).toNat - 1)
    (by
      change 0 + _ + 1 = (tasterTime p.config.feature).toNat
      omega)
  refine ⟨false :: List.replicate ((tasterTime p.config.feature).toNat - 1 + 1) true, ?_⟩
  have events : multitasterFrames self p
      (false :: List.replicate ((tasterTime p.config.feature).toNat - 1 + 1) true) ≠ [] :=
    fun none_ => pressed (List.append_eq_nil_iff.mp none_).2
  exact Option.isSome_iff_exists.mp (List.isSome_head?.mpr events)

end Selected

/-! ## The selection -/

section Selection

variable {self : UInt16} {p : DeviceDataMultitaster} {value : Nat}

/-- The next event decides about the selected group. -/
theorem selectsDivision_iff :
    SelectsDivision self p value ↔
      ∃ d, InDivision (configuredGroups p.config) value d ∧
        p.config.gruppe.toList[d]? = some (getGroup p) := by
  constructor
  · intro selects
    obtain ⟨samples, sent, next⟩ := exists_buttonEvent self p
    have group := multitasterFrames_group self p samples (List.mem_of_head? next)
    obtain ⟨d, division, field⟩ := selects samples sent next
    exact ⟨d, division, group ▸ field⟩
  · rintro ⟨d, division, field⟩ samples sent next
    have group := multitasterFrames_group self p samples (List.mem_of_head? next)
    exact ⟨d, division, group ▸ field⟩

/-- The unused group selects no division. -/
theorem not_selectsDivision (unused : getGroup p = 255) : ¬ SelectsDivision self p value := by
  rw [selectsDivision_iff, unused]
  rintro ⟨d, division, field⟩
  exact configured_ne p.config division.exists_ field rfl

theorem getGroup_index {d : Nat} (inside : d < 10) (index : p.lastPotiPos = UInt8.ofNat d) :
    p.config.gruppe.toList[d]? = some (getGroup p) := by
  have exists_ := List.getElem?_eq_getElem (l := p.config.gruppe.toList) (i := d)
    (by rw [Vector.length_toList]; exact inside)
  rw [getGroup_eq, index, UInt8.toNat_ofNat_of_lt' (Nat.lt_trans inside (by decide)), exists_]
  rfl

end Selection

section Frame

variable {p : DeviceDataMultitaster} {frame : CanixFrame}

theorem multitasterReceive_found (poti : frame.data[1] = hcanHesPotiPosChanged)
    (own : frame.data[2] = p.config.potiGruppe) {n : Nat}
    (found : potiPos p.oneScale (frameWord frame.data[3] frame.data[4]) = some n) :
    multitasterReceive p frame = { p with lastPotiPos := UInt8.ofNat n - 1 } := by
  unfold multitasterReceive
  rw [if_pos ⟨poti, own⟩, found]

theorem multitasterReceive_none
    (none_ : potiPos p.oneScale (frameWord frame.data[3] frame.data[4]) = none) :
    multitasterReceive p frame = p := by
  unfold multitasterReceive
  rw [none_]
  exact ite_self _

end Frame

/-- With up to eight divisions the mark behind the last one is above the scale. -/
theorem scale_bounds {k : Nat} (configured : 0 < k) (few : k ≤ 10) :
    0 < 1023 / k ∧ 1023 / k ≤ 1023 ∧ (k ≤ 8 → 1023 ≤ (k + 1) * (1023 / k)) := by
  have all : ∀ few : Fin 11, 0 < few.val →
      0 < 1023 / few.val ∧ 1023 / few.val ≤ 1023 ∧
        (few.val ≤ 8 → 1023 ≤ (few.val + 1) * (1023 / few.val)) := by decide
  exact all ⟨k, by omega⟩ configured

/-- A value lies in the division before the first mark that reaches it. -/
theorem inDivision_of_mark {k n value : Nat} (inside : n < k)
    (above : n = 0 ∨ n * (1023 / k) < value) (reached : value ≤ (n + 1) * (1023 / k)) :
    InDivision k value n :=
  ⟨inside, above, Or.inr reached⟩

/-- Above the ninth mark only the last of nine or ten divisions is left. -/
theorem division_last {k value d : Nat} (many : 9 ≤ k) (few : k ≤ 10)
    (above : 9 * (1023 / k) < value) : InDivision k value d ↔ d = k - 1 := by
  constructor
  · rintro ⟨inside, -, last | upTo⟩
    · omega
    · by_contra other
      have mark : (d + 1) * (1023 / k) ≤ 9 * (1023 / k) :=
        Nat.mul_le_mul_right _ (by omega)
      omega
  · rintro rfl
    have mark : (k - 1) * (1023 / k) ≤ 9 * (1023 / k) := Nat.mul_le_mul_right _ (by omega)
    exact ⟨by omega, Or.inr (by omega), Or.inl (by omega)⟩

/-- The first mark at or above a positive value. -/
theorem exists_mark {width value : Nat} (pos : 0 < width) (positive : 0 < value) :
    ∃ n, n * width < value ∧ value ≤ (n + 1) * width := by
  refine ⟨(value - 1) / width, ?_, ?_⟩
  · have below := Nat.div_mul_le_self (value - 1) width
    omega
  · have above := Nat.lt_div_mul_add (a := value - 1) pos
    rw [Nat.succ_mul]
    omega

section Positions

variable {self : UInt16} {p : DeviceDataMultitaster} {frame : CanixFrame} {n : Nat}

/-- The value of a position. -/
def potiPosition (frame : CanixFrame) : Nat := (frameWord frame.data[3] frame.data[4]).toNat

/-- A position for a multitaster whose scale fits its groups. -/
structure Positioned (p : DeviceDataMultitaster) (frame : CanixFrame) : Prop where
  configured : 0 < configuredGroups p.config
  whole : p.oneScale.toNat = 1023 / configuredGroups p.config
  poti : frame.data[1] = hcanHesPotiPosChanged
  own : frame.data[2] = p.config.potiGruppe
  range : potiPosition frame ≤ 1023

theorem Positioned.few (_ : Positioned p frame) : configuredGroups p.config ≤ 10 :=
  configuredGroups_le p.config

theorem Positioned.small (positioned : Positioned p frame) :
    1023 / configuredGroups p.config ≤ 1023 :=
  (scale_bounds positioned.configured positioned.few).2.1

/-- The value 0 is found at the mark 0, and the index before it is 255. -/
theorem selects_zero (positioned : Positioned p frame) (zero : potiPosition frame = 0) :
    SelectsDivision self (multitasterReceive p frame) (potiPosition frame) ↔
      PotiFits p (potiPosition frame) := by
  have found := potiPos_eq_some (n := 0) positioned.whole positioned.small (by omega)
    (zero.le.trans (Nat.zero_le _)) (fun below less => absurd less (Nat.not_lt_zero below))
  rw [multitasterReceive_found positioned.poti positioned.own found]
  refine iff_of_false (not_selectsDivision ?_) ?_
  · rw [getGroup_eq]
    exact congrArg (Option.getD · 255)
      (List.getElem?_eq_none (by rw [Vector.length_toList]; exact (by decide : 10 ≤ 255)))
  · unfold PotiFits
    rw [zero]
    rintro (⟨positive, -⟩ | ⟨-, above, -⟩)
    · exact absurd positive (lt_irrefl 0)
    · exact absurd above (Nat.not_lt_zero _)

/-- The mark that a position reaches is found where it is searched. -/
theorem multitasterReceive_mark (positioned : Positioned p frame)
    (above : n * (1023 / configuredGroups p.config) < potiPosition frame)
    (reached : potiPosition frame ≤ (n + 1) * (1023 / configuredGroups p.config))
    (inside : n + 1 < 10) :
    multitasterReceive p frame = { p with lastPotiPos := UInt8.ofNat n } := by
  have found := potiPos_eq_some positioned.whole positioned.small inside reached fun below less =>
    Nat.lt_of_le_of_lt (Nat.mul_le_mul_right _ (by omega : below ≤ n)) above
  rw [multitasterReceive_found positioned.poti positioned.own found, UInt8.ofNat_add]
  congr 1
  exact UInt8.add_sub_cancel _ _

/-- A mark that is searched and belongs to a configured group. -/
theorem selects_mark (positioned : Positioned p frame)
    (above : n * (1023 / configuredGroups p.config) < potiPosition frame)
    (reached : potiPosition frame ≤ (n + 1) * (1023 / configuredGroups p.config))
    (inside : n < min (configuredGroups p.config) 9) :
    SelectsDivision self (multitasterReceive p frame) (potiPosition frame) ↔
      PotiFits p (potiPosition frame) := by
  have mark : (n + 1) * (1023 / configuredGroups p.config) ≤
      min (configuredGroups p.config) 9 * (1023 / configuredGroups p.config) :=
    Nat.mul_le_mul_right _ inside
  have positive : 0 < potiPosition frame := Nat.lt_of_le_of_lt (Nat.zero_le _) above
  have configuredMark : n < configuredGroups p.config := by omega
  rw [multitasterReceive_mark positioned above reached (by omega)]
  refine iff_of_true ?_ (Or.inl ⟨positive, reached.trans mark⟩)
  rw [selectsDivision_iff]
  exact ⟨n, inDivision_of_mark configuredMark (Or.inr above) reached,
    getGroup_index (p := { p with lastPotiPos := UInt8.ofNat n }) (by omega) rfl⟩

/-- Above the ninth mark the position stays. -/
theorem selects_top (positioned : Positioned p frame) (many : 9 ≤ configuredGroups p.config)
    (above : 9 * (1023 / configuredGroups p.config) < potiPosition frame) :
    SelectsDivision self (multitasterReceive p frame) (potiPosition frame) ↔
      PotiFits p (potiPosition frame) := by
  have kept : multitasterReceive p frame = p :=
    multitasterReceive_none (potiPos_eq_none positioned.whole positioned.small above)
  have last {d : Nat} := division_last (d := d) many positioned.few above
  rw [kept, selectsDivision_iff]
  unfold PotiFits
  rw [or_iff_right (by rw [Nat.min_eq_right many]; omega), and_iff_right many,
    and_iff_right above]
  constructor
  · rintro ⟨d, division, field⟩
    rwa [last.mp division] at field
  · exact fun field => ⟨_, last.mpr rfl, field⟩

/-- Behind the last of up to eight groups the index is the one of the first unused field. -/
theorem selects_unused (positioned : Positioned p frame)
    (above : n * (1023 / configuredGroups p.config) < potiPosition frame)
    (reached : potiPosition frame ≤ (n + 1) * (1023 / configuredGroups p.config))
    (outside : configuredGroups p.config ≤ n) (seldom : configuredGroups p.config ≤ 8) :
    SelectsDivision self (multitasterReceive p frame) (potiPosition frame) ↔
      PotiFits p (potiPosition frame) := by
  have range := positioned.range
  have mark : configuredGroups p.config * (1023 / configuredGroups p.config) ≤
      n * (1023 / configuredGroups p.config) := Nat.mul_le_mul_right _ outside
  have next : n = configuredGroups p.config := by
    by_contra other
    have later : (configuredGroups p.config + 1) * (1023 / configuredGroups p.config) ≤
        n * (1023 / configuredGroups p.config) := Nat.mul_le_mul_right _ (by omega)
    have end_ := (scale_bounds positioned.configured positioned.few).2.2 seldom
    omega
  rw [multitasterReceive_mark positioned above reached (by omega)]
  refine iff_of_false (not_selectsDivision ?_) ?_
  · have field := getGroup_index (p := { p with lastPotiPos := UInt8.ofNat n }) (by omega) rfl
    rw [next] at field ⊢
    exact Option.some_inj.mp (field.symm.trans (unconfigured p.config (by omega)))
  · rintro (⟨-, below⟩ | ⟨enough, -, -⟩)
    · rw [Nat.min_eq_left (by omega)] at below
      omega
    · omega

end Positions

/-- After any events the next button event carries the group of the division of a value exactly
when the value is above 0 and not above the last configured mark, or above the last mark that is
searched while the group of the last division is selected anyway. -/
theorem poti_selects_iff (self : UInt16) (byZero : Int → Int) (config : EdsMultitasterBlock)
    (events : List ButtonEvent) (frame : CanixFrame) (configured : 0 < configuredGroups config)
    (poti : frame.data[1] = hcanHesPotiPosChanged) (own : frame.data[2] = config.potiGruppe)
    (range : (frameWord frame.data[3] frame.data[4]).toNat ≤ 1023) :
    SelectsDivision self (multitasterReceive (multitasterAfter self byZero config events) frame)
        (frameWord frame.data[3] frame.data[4]).toNat ↔
      PotiFits (multitasterAfter self byZero config events)
        (frameWord frame.data[3] frame.data[4]).toNat := by
  obtain ⟨same, scale⟩ := multitasterAfter_config self byZero config events
  have whole := oneScale_toNat byZero config configured
  generalize multitasterAfter self byZero config events = p at *
  subst same
  rw [← scale] at whole
  have positioned : Positioned p frame := ⟨configured, whole, poti, own, range⟩
  by_cases zero : potiPosition frame = 0
  · exact selects_zero positioned zero
  · obtain ⟨n, above, reached⟩ :=
      exists_mark (scale_bounds configured positioned.few).1 (Nat.pos_of_ne_zero zero)
    by_cases inside : n < min (configuredGroups p.config) 9
    · exact selects_mark positioned above reached inside
    · by_cases many : 9 ≤ configuredGroups p.config
      · have mark : 9 * (1023 / configuredGroups p.config) ≤
            n * (1023 / configuredGroups p.config) := Nat.mul_le_mul_right _ (by omega)
        exact selects_top positioned many (Nat.lt_of_le_of_lt mark above)
      · exact selects_unused positioned above reached (by omega) (by omega)

/-- A frame with a position for the group 7. -/
def potiFrame (hi lo : UInt8) : CanixFrame :=
  hesFrame 5 hcanMulticastInfo 5 hcanHesPotiPosChanged 7 hi lo 0 0 0

/-- A multitaster with two groups. -/
def twoGroups : EdsMultitasterBlock :=
  ⟨7, 4, 0, ⟨#[21, 22, 255, 255, 255, 255, 255, 255, 255, 255], rfl⟩⟩

theorem poti_selects_iff_twoGroups :
    SelectsDivision 5 (multitasterReceive (multitasterAfter 5 id twoGroups []) (potiFrame 1 44))
        300 ↔ PotiFits (multitasterAfter 5 id twoGroups []) 300 :=
  poti_selects_iff 5 id twoGroups [] (potiFrame 1 44) (by decide) rfl rfl (by decide)

/-- At the position 0 the next button event carries the group 255. -/
theorem zeroPosition_unselected :
    (potiFrame 0 0).data[1] = hcanHesPotiPosChanged ∧
      (potiFrame 0 0).data[2] = twoGroups.potiGruppe ∧ configuredGroups twoGroups = 2 ∧
      ¬ SelectsDivision 5 (multitasterReceive (multitasterAfter 5 id twoGroups []) (potiFrame 0 0))
        0 := by
  refine ⟨rfl, rfl, rfl, fun selects => ?_⟩
  obtain ⟨d, division, field⟩ := selects [true, true, true] (hesFrame 5 hcanMulticastControl 4
    hcanHesTasterDown 255 4 0 0 0 0) rfl
  have divisions : configuredGroups twoGroups = 2 := rfl
  have inside : d < 2 := division.exists_
  have groups : ∀ index < 2, twoGroups.gruppe.toList[index]? ≠ some 255 := by decide
  exact groups d inside field

end Hcan.Hauselektrik
