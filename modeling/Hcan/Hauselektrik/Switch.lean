import Hcan.Hauselektrik.Buttons

/-!
# The switch

The handler of a switch counts the samples that differ from the position reported last and reports
the other position with the third one.  A sample with the reported position does not reset the
count.  So a report follows three equal samples in a row exactly when every change of the input
stays for three samples, or too few differing samples come after it for another report.
-/

namespace Hcan.Hauselektrik

open Hcan.Canix Hcan.Controller

def featureSchalterInvertieren : Nat := 0

structure EdsSchalterBlock where
  port : UInt8
  feature : UInt8
  gruppe : UInt8
  deriving DecidableEq, Repr

inductive Edge where
  | falling
  | rising
  deriving DecidableEq, Repr

structure DeviceDataSchalter where
  config : EdsSchalterBlock
  newState : UInt8
  lastEdge : Edge
  deriving DecidableEq, Repr

/-- The edge to a position. -/
def edgeTo (active : Bool) : Edge := if active then .rising else .falling

/-- The message about a position. -/
def schalterMessage (self : UInt16) (config : EdsSchalterBlock) (active : Bool) : CanixFrame :=
  let active := if config.feature.toNat.testBit featureSchalterInvertieren then !active else active
  hesFrame self hcanMulticastControl 3
    (if active then hcanHesPowerGroupOn else hcanHesPowerGroupOff) config.gruppe 0 0 0 0 0

/-- `sendMessage` of the switch. -/
def schalterSendMessage (self : UInt16) (p : DeviceDataSchalter) (active : Bool) :
    DeviceDataSchalter × List CanixFrame :=
  ({ p with lastEdge := edgeTo active }, [schalterMessage self p.config active])

/-- `schalter_init`; the record is zeroed when it is loaded. -/
def schalterInit (self : UInt16) (tasterport : UInt8 → Bool) (config : EdsSchalterBlock) :
    DeviceDataSchalter × List CanixFrame :=
  schalterSendMessage self ⟨config, 0, .falling⟩ (!tasterport config.port)

/-- `schalter_timer_handler`. -/
def schalterTimerHandler (self : UInt16) (tasterport : UInt8 → Bool) (p : DeviceDataSchalter) :
    DeviceDataSchalter × List CanixFrame :=
  let active := !tasterport p.config.port
  let p :=
    if (active = true ∧ p.lastEdge = .falling) ∨ (active = false ∧ p.lastEdge = .rising) then
      { p with newState := if p.newState < 255 then p.newState + 1 else p.newState }
    else p
  if p.newState = 3 then
    let sent := schalterSendMessage self p active
    ({ sent.1 with newState := 0 }, sent.2)
  else (p, [])

/-- The samples with the messages sent at each of them. -/
def schalterTrace (self : UInt16) :
    DeviceDataSchalter → List Bool → List (Bool × List CanixFrame)
  | _, [] => []
  | p, active :: samples =>
      let handled := schalterTimerHandler self (fun _ => !active) p
      (active, handled.2) :: schalterTrace self handled.1 samples

/-- A position is reported only at the third of three equal samples that differ from the position
reported last; the samples before come last one first. -/
def Debounced (self : UInt16) (config : EdsSchalterBlock) :
    Bool → List Bool → List (Bool × List CanixFrame) → Prop
  | _, _, [] => True
  | reported, before, (active, sent) :: trace =>
      (sent = [] ∧ Debounced self config reported (active :: before) trace) ∨
        (sent = [schalterMessage self config active] ∧
          (active :: before).take 3 = List.replicate 3 (!reported) ∧
          Debounced self config active (active :: before) trace)

instance debouncedDecidable (self : UInt16) (config : EdsSchalterBlock) :
    ∀ reported before trace, Decidable (Debounced self config reported before trace)
  | _, _, [] => .isTrue trivial
  | reported, before, (active, sent) :: trace =>
      have : Decidable (Debounced self config reported (active :: before) trace) :=
        debouncedDecidable self config reported (active :: before) trace
      have : Decidable (Debounced self config active (active :: before) trace) :=
        debouncedDecidable self config active (active :: before) trace
      inferInstanceAs (Decidable
        ((sent = [] ∧ Debounced self config reported (active :: before) trace) ∨
          (sent = [schalterMessage self config active] ∧
            (active :: before).take 3 = List.replicate 3 (!reported) ∧
            Debounced self config active (active :: before) trace)))

/-- Every change of the input stays for three samples, or fewer than three samples with the other
position follow at all. -/
def ChangesHeld : Bool → List Bool → Prop
  | reported, first :: second :: third :: samples =>
      if first = reported then ChangesHeld reported (second :: third :: samples)
      else if second = first ∧ third = first then ChangesHeld first samples
      else (first :: second :: third :: samples).count first < 3
  | _, _ => True

section Steps

variable (self : UInt16) {p : DeviceDataSchalter} {reported : Bool}

/-- The handler sees a change exactly when the sample is not the position reported last. -/
theorem changed_iff (edge : p.lastEdge = edgeTo reported) (active : Bool) :
    (active = true ∧ p.lastEdge = .falling) ∨ (active = false ∧ p.lastEdge = .rising) ↔
      active ≠ reported := by
  rw [edge]
  cases active <;> cases reported <;> decide

/-- A sample with the reported position changes nothing. -/
theorem schalterTimerHandler_same (edge : p.lastEdge = edgeTo reported) (few : p.newState < 3) :
    schalterTimerHandler self (fun _ => !reported) p = (p, []) := by
  have notThree : ¬ p.newState = 3 := fun three => absurd (three ▸ few) (by decide)
  have same := mt (changed_iff edge reported).mp (not_not.mpr rfl)
  unfold schalterTimerHandler
  dsimp only
  rw [Bool.not_not, if_neg same, if_neg notThree]

/-- The other position is counted, and reported with the third sample. -/
theorem schalterTimerHandler_other (edge : p.lastEdge = edgeTo reported) (few : p.newState < 3) :
    schalterTimerHandler self (fun _ => reported) p =
      if p.newState + 1 = 3 then
        (⟨p.config, 0, edgeTo (!reported)⟩, [schalterMessage self p.config (!reported)])
      else ({ p with newState := p.newState + 1 }, []) := by
  have below : p.newState < 255 := UInt8.lt_of_lt_of_le few (by decide)
  have other := (changed_iff edge (!reported)).mpr (by simp)
  unfold schalterTimerHandler
  dsimp only
  rw [if_pos other, if_pos below]
  rfl

end Steps

/-! ## Runs -/

section Runs

variable {self : UInt16} {config : EdsSchalterBlock} {reported : Bool} {before samples : List Bool}

/-- The record after a report and some differing samples. -/
def waiting (config : EdsSchalterBlock) (reported : Bool) (count : UInt8) : DeviceDataSchalter :=
  ⟨config, count, edgeTo reported⟩

theorem schalterTrace_same {count : UInt8} (few : count < 3) :
    schalterTrace self (waiting config reported count) (reported :: samples) =
      (reported, []) :: schalterTrace self (waiting config reported count) samples := by
  rw [schalterTrace, schalterTimerHandler_same self rfl few]

theorem schalterTrace_other {count : UInt8} (few : count < 2) :
    schalterTrace self (waiting config reported count) ((!reported) :: samples) =
      (!reported, []) :: schalterTrace self (waiting config reported (count + 1)) samples := by
  have next : ¬ count + 1 = 3 := by
    intro three
    rw [show count = 2 by rw [← UInt8.add_sub_cancel count 1, three]; rfl] at few
    exact absurd few (by decide)
  rw [schalterTrace, Bool.not_not,
    schalterTimerHandler_other self rfl (UInt8.lt_trans few (by decide))]
  change (_, (ite _ _ _ : _ × _).2) :: schalterTrace self (ite _ _ _ : _ × _).1 samples = _
  rw [if_neg (show ¬ (waiting config reported count).newState + 1 = 3 from next)]
  rfl

theorem schalterTrace_third :
    schalterTrace self (waiting config reported 2) ((!reported) :: samples) =
      (!reported, [schalterMessage self config (!reported)]) ::
        schalterTrace self (waiting config (!reported) 0) samples := by
  rw [schalterTrace, Bool.not_not,
    schalterTimerHandler_other self rfl (by decide : (2 : UInt8) < 3)]
  rfl

theorem debounced_silent {active : Bool} {trace : List (Bool × List CanixFrame)} :
    Debounced self config reported before ((active, []) :: trace) ↔
      Debounced self config reported (active :: before) trace := by
  rw [Debounced]
  simp

theorem debounced_report {active : Bool} {trace : List (Bool × List CanixFrame)} :
    Debounced self config reported before
        ((active, [schalterMessage self config active]) :: trace) ↔
      (active :: before).take 3 = List.replicate 3 (!reported) ∧
        Debounced self config active (active :: before) trace := by
  rw [Debounced]
  simp

/-- Too few differing samples cause no report. -/
theorem debounced_of_few {count : UInt8}
    (few : count.toNat + samples.count (!reported) < 3) :
    Debounced self config reported before
      (schalterTrace self (waiting config reported count) samples) := by
  have three : (3 : UInt8).toNat = 3 := rfl
  have two : (2 : UInt8).toNat = 2 := rfl
  have one : (1 : UInt8).toNat = 1 := rfl
  induction samples generalizing count before with
  | nil => exact trivial
  | cons active samples ih =>
      rcases Bool.eq_or_eq_not active reported with rfl | rfl
      · rw [List.count_cons_of_ne (by simp)] at few
        rw [schalterTrace_same (UInt8.lt_iff_toNat_lt.mpr (by omega)), debounced_silent]
        exact ih few
      · rw [List.count_cons_self] at few
        rw [schalterTrace_other (UInt8.lt_iff_toNat_lt.mpr (by omega)), debounced_silent]
        refine ih ?_
        rw [UInt8.toNat_add]
        omega

/-- When a sample between the counted ones had the reported position, the next report comes too
early. -/
theorem few_of_debounced {count : UInt8} (counted : count = 1 ∨ count = 2)
    (gap : before.take count.toNat ≠ List.replicate count.toNat (!reported))
    (debounced : Debounced self config reported before
      (schalterTrace self (waiting config reported count) samples)) :
    count.toNat + samples.count (!reported) < 3 := by
  have two : (2 : UInt8).toNat = 2 := rfl
  have one : (1 : UInt8).toNat = 1 := rfl
  induction samples generalizing count before with
  | nil =>
      rw [List.count_nil]
      rcases counted with rfl | rfl <;> decide
  | cons active samples ih =>
      rcases Bool.eq_or_eq_not active reported with rfl | rfl
      · rw [List.count_cons_of_ne (by simp)]
        rw [schalterTrace_same (by rcases counted with rfl | rfl <;> decide),
          debounced_silent] at debounced
        refine ih counted ?_ debounced
        rcases counted with rfl | rfl
        · rw [one]
          simp
        · rw [two]
          simp [List.replicate_succ]
      · rw [List.count_cons_self]
        rcases counted with rfl | rfl
        · rw [schalterTrace_other (by decide), debounced_silent] at debounced
          have rest := @ih _ (1 + 1) (Or.inr rfl) ?_ debounced
          · have sum : (1 + 1 : UInt8).toNat = 2 := rfl
            omega
          · intro both
            exact gap (List.cons.inj both).2
        · rw [schalterTrace_third, debounced_report] at debounced
          exact absurd (List.cons.inj debounced.1).2 gap

/-- After a first differing sample the next two decide. -/
theorem debounced_first {second third : Bool} :
    Debounced self config reported before (schalterTrace self (waiting config reported 0)
        ((!reported) :: second :: third :: samples)) ↔
      if second = (!reported) ∧ third = (!reported) then
        Debounced self config (!reported) ((!reported) :: (!reported) :: (!reported) :: before)
          (schalterTrace self (waiting config (!reported) 0) samples)
      else ((!reported) :: second :: third :: samples).count (!reported) < 3 := by
  have one : (0 + 1 : UInt8) = 1 := rfl
  have two : (1 + 1 : UInt8) = 2 := rfl
  by_cases both : second = (!reported) ∧ third = (!reported)
  · rw [if_pos both, both.1, both.2, schalterTrace_other (by decide), debounced_silent, one,
      schalterTrace_other (by decide), debounced_silent, two, schalterTrace_third,
      debounced_report]
    exact and_iff_right rfl
  · rw [if_neg both]
    constructor
    · intro debounced
      rw [schalterTrace_other (by decide), debounced_silent, one] at debounced
      rcases Bool.eq_or_eq_not second reported with rfl | rfl
      · rw [schalterTrace_same (by decide), debounced_silent] at debounced
        have few := few_of_debounced (Or.inl rfl) (by simp) debounced
        rw [List.count_cons_self, List.count_cons_of_ne (by simp)]
        change 1 + _ < 3 at few
        omega
      · rcases Bool.eq_or_eq_not third reported with rfl | rfl
        · rw [schalterTrace_other (by decide), debounced_silent, two,
            schalterTrace_same (by decide), debounced_silent] at debounced
          have few := few_of_debounced (Or.inr rfl) (by simp [List.replicate_succ]) debounced
          rw [List.count_cons_self, List.count_cons_self, List.count_cons_of_ne (by simp)]
          change 2 + _ < 3 at few
          omega
        · exact absurd ⟨rfl, rfl⟩ both
    · intro few
      exact debounced_of_few (by change 0 + _ < 3; omega)

/-- The reports of a run are debounced exactly when its changes are held. -/
theorem debounced_iff :
    Debounced self config reported before
        (schalterTrace self (waiting config reported 0) samples) ↔
      ChangesHeld reported samples := by
  fun_induction ChangesHeld reported samples generalizing before with
  | case1 reported second third samples ih =>
      rw [schalterTrace_same (by decide), debounced_silent]
      exact ih
  | case2 reported first second third samples other both ih =>
      obtain rfl := Bool.eq_not.mpr other
      rw [debounced_first, if_pos both]
      exact ih
  | case3 reported first second third samples other notBoth =>
      obtain rfl := Bool.eq_not.mpr other
      rw [debounced_first, if_neg notBoth]
  | case4 samples reported short =>
      have few : samples.length < 3 := by
        rcases samples with _ | ⟨first, _ | ⟨second, _ | ⟨third, rest⟩⟩⟩
        · simp
        · simp
        · simp
        · exact absurd rfl (short first second third rest)
      have counted := List.count_le_length (a := !reported) (l := samples)
      refine iff_of_true (debounced_of_few ?_) trivial
      change 0 + _ < 3
      omega

end Runs

/-- From the start on a switch reports only debounced positions exactly when every change of its
input is held. -/
theorem switch_debounced_iff (self : UInt16) (config : EdsSchalterBlock)
    (tasterport : UInt8 → Bool) (samples : List Bool) :
    Debounced self config (!tasterport config.port) []
        (schalterTrace self (schalterInit self tasterport config).1 samples) ↔
      ChangesHeld (!tasterport config.port) samples :=
  debounced_iff

/-- Three single bounces with quiet samples between them are reported. -/
theorem bounces_reported :
    ¬ Debounced 5 ⟨4, 0, 1⟩ false []
      (schalterTrace 5 (schalterInit 5 (fun _ => true) ⟨4, 0, 1⟩).1
        [true, false, true, false, true]) := by
  decide

end Hcan.Hauselektrik
