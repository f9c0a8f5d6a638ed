import Mathlib.Data.BitVec

/-!
# The output pins of the controller board

Pins 0 to 7 are port D, 8 to 11 the low half of port B and 12 to 43 the four
shift registers.  A pin behind them does not exist: it reads as off and writes
to it are lost.  `darlingtonoutputGetpin` and `darlingtonoutputSetpin` are a
lens on every existing pin.
-/

namespace Hcan.Controller

/-- The output registers: two ports with their directions and the bytes for the
shift registers. -/
structure Outputs where
  ddrD : BitVec 8
  portD : BitVec 8
  ddrB : BitVec 8
  portB : BitVec 8
  shiftOut : List (BitVec 8)

def maxNumOfShiftOutRegister : Nat := 4

def setBit (byte : BitVec 8) (n : Nat) (state : Bool) : BitVec 8 :=
  if state then byte ||| (1#8 <<< n) else byte &&& ~~~(1#8 <<< n)

def getBit (byte : BitVec 8) (n : Nat) : BitVec 8 := byte &&& (1#8 <<< n)

/-- The search for the byte of pin `n` in `changeShiftOutPinState`. -/
def changeShiftOutPinState : List (BitVec 8) → Nat → Bool → List (BitVec 8)
  | [], _, _ => []
  | byte :: bytes, n, state =>
      if n < 8 then setBit byte n state :: bytes
      else byte :: changeShiftOutPinState bytes (n - 8) state

def getShiftOutPinState : List (BitVec 8) → Nat → BitVec 8
  | [], _ => 0
  | byte :: bytes, n => if n < 8 then getBit byte n else getShiftOutPinState bytes (n - 8)

/-- The registers behind a reset: the static shift bytes are 0, the ports are not yet set up. -/
def Outputs.reset (ddrD portD ddrB portB : BitVec 8) : Outputs :=
  ⟨ddrD, portD, ddrB, portB, List.replicate maxNumOfShiftOutRegister 0⟩

def darlingtonoutputInit (out : Outputs) : Outputs :=
  { out with
    ddrD := out.ddrD ||| 0xff#8
    ddrB := out.ddrB ||| 0x0f#8
    portD := 0
    portB := out.portB &&& ~~~(0x0f#8) }

def darlingtonoutputGetpin (out : Outputs) (n : UInt8) : BitVec 8 :=
  if n.toNat < 8 then getBit out.portD n.toNat
  else if n.toNat < 12 then getBit out.portB (n.toNat - 8)
  else getShiftOutPinState out.shiftOut (n.toNat - 12)

def darlingtonoutputSetpin (out : Outputs) (n : UInt8) (state : Bool) : Outputs :=
  if n.toNat < 8 then
    { out with
      ddrD := out.ddrD ||| (1#8 <<< n.toNat)
      portD := setBit out.portD n.toNat state }
  else if n.toNat < 12 then
    { out with
      ddrB := out.ddrB ||| (1#8 <<< (n.toNat - 8))
      portB := setBit out.portB (n.toNat - 8) state }
  else { out with shiftOut := changeShiftOutPinState out.shiftOut (n.toNat - 12) state }

/-- The relay at pin `n` is switched on. -/
def Outputs.isOn (out : Outputs) (n : UInt8) : Bool := darlingtonoutputGetpin out n != 0

/-! ## The lens -/

theorem getBit_ne_zero {byte : BitVec 8} {n : Nat} (bound : n < 8) :
    (getBit byte n != 0) = byte.getLsbD n := by
  have nonzero : BitVec.twoPow 8 n ≠ 0#8 := by
    intro same
    have bit := BitVec.getLsbD_twoPow (w := 8) n n
    rw [same, BitVec.getLsbD_zero] at bit
    simp [bound] at bit
  rw [getBit, ← BitVec.twoPow_eq, BitVec.and_twoPow]
  cases byte.getLsbD n with
  | false => rfl
  | true => exact bne_iff_ne.mpr nonzero

theorem getLsbD_setBit {byte : BitVec 8} {n m : Nat} (state : Bool) (bound : m < 8) :
    (setBit byte n state).getLsbD m = if m = n then state else byte.getLsbD m := by
  rw [setBit, ← BitVec.twoPow_eq]
  by_cases same : m = n
  · subst same
    cases state with
    | false => simp [bound]
    | true => simp [bound]
  · have different : ¬ n = m := fun reversed => same reversed.symm
    cases state with
    | false => simp [bound, same]
    | true => simp [BitVec.getLsbD_twoPow, same, different]

theorem bit_setBit {byte : BitVec 8} {n m : Nat} (state : Bool) (bound : m < 8) :
    (getBit (setBit byte n state) m != 0) = if m = n then state else getBit byte m != 0 := by
  rw [getBit_ne_zero bound, getBit_ne_zero bound, getLsbD_setBit state bound]

theorem shiftOut_changed (bytes : List (BitVec 8)) (n : Nat) (state : Bool) :
    (getShiftOutPinState (changeShiftOutPinState bytes n state) n != 0) =
      (state && decide (n < 8 * bytes.length)) := by
  induction bytes generalizing n with
  | nil => simp [changeShiftOutPinState, getShiftOutPinState]
  | cons byte bytes ih =>
      rw [changeShiftOutPinState, List.length_cons]
      by_cases here : n < 8
      · have inside : n < 8 * (bytes.length + 1) := by omega
        rw [if_pos here, getShiftOutPinState, if_pos here, bit_setBit state here, if_pos rfl,
          decide_eq_true inside, Bool.and_true]
      · have shifted : n - 8 < 8 * bytes.length ↔ n < 8 * (bytes.length + 1) := by omega
        rw [if_neg here, getShiftOutPinState, if_neg here, ih, decide_eq_decide.mpr shifted]

theorem shiftOut_unchanged (bytes : List (BitVec 8)) {n m : Nat} (different : m ≠ n)
    (state : Bool) :
    (getShiftOutPinState (changeShiftOutPinState bytes n state) m != 0) =
      (getShiftOutPinState bytes m != 0) := by
  induction bytes generalizing n m with
  | nil => rfl
  | cons byte bytes ih =>
      rw [changeShiftOutPinState]
      by_cases here : n < 8
      · rw [if_pos here, getShiftOutPinState, getShiftOutPinState]
        by_cases low : m < 8
        · rw [if_pos low, if_pos low, bit_setBit state low, if_neg different]
        · rw [if_neg low, if_neg low]
      · rw [if_neg here, getShiftOutPinState, getShiftOutPinState]
        by_cases low : m < 8
        · rw [if_pos low, if_pos low]
        · rw [if_neg low, if_neg low, ih (by omega)]

/-- The pin exists. -/
def Outputs.hasPin (out : Outputs) (n : UInt8) : Bool :=
  decide (n.toNat < 12 + 8 * out.shiftOut.length)

theorem getShiftOutPinState_of_le {bytes : List (BitVec 8)} {n : Nat}
    (behind : 8 * bytes.length ≤ n) : getShiftOutPinState bytes n = 0 := by
  induction bytes generalizing n with
  | nil => rfl
  | cons byte bytes ih =>
      rw [List.length_cons] at behind
      rw [getShiftOutPinState, if_neg (by omega), ih (by omega)]

/-- A pin that is on exists. -/
theorem hasPin_of_isOn {out : Outputs} {n : UInt8} (on : out.isOn n = true) :
    out.hasPin n = true := by
  by_contra missing
  have behind : 8 * out.shiftOut.length ≤ n.toNat - 12 := by
    simp only [Outputs.hasPin, decide_eq_true_eq] at missing
    omega
  have high : ¬ n.toNat < 12 := by
    simp only [Outputs.hasPin, decide_eq_true_eq] at missing
    omega
  rw [Outputs.isOn, darlingtonoutputGetpin, if_neg (by omega), if_neg high,
    getShiftOutPinState_of_le behind] at on
  cases on

/-- Only a pin of the board is on. -/
theorem isOn_or_hasPin (out : Outputs) (n : UInt8) :
    (out.isOn n || out.hasPin n) = out.hasPin n := by
  cases on : out.isOn n with
  | false => rfl
  | true => rw [hasPin_of_isOn on, Bool.or_true]

/-- A pin that is set takes the value if it exists, and is off otherwise. -/
theorem isOn_setpin (out : Outputs) (n : UInt8) (state : Bool) :
    (darlingtonoutputSetpin out n state).isOn n = (state && (out.isOn n || out.hasPin n)) := by
  rw [isOn_or_hasPin]
  unfold Outputs.isOn darlingtonoutputGetpin darlingtonoutputSetpin Outputs.hasPin
  by_cases portD : n.toNat < 8
  · have inside : n.toNat < 12 + 8 * out.shiftOut.length := by omega
    simp only [if_pos portD, bit_setBit state portD, if_true, decide_eq_true inside, Bool.and_true]
  · by_cases portB : n.toNat < 12
    · have inside : n.toNat < 12 + 8 * out.shiftOut.length := by omega
      have bit : n.toNat - 8 < 8 := by omega
      simp only [if_neg portD, if_pos portB, bit_setBit state bit, if_true,
        decide_eq_true inside, Bool.and_true]
    · have shifted : n.toNat - 12 < 8 * out.shiftOut.length ↔
          n.toNat < 12 + 8 * out.shiftOut.length := by omega
      simp only [if_neg portD, if_neg portB, shiftOut_changed, shifted]

/-- The other pins stay as they are. -/
theorem isOn_setpin_of_ne (out : Outputs) {n m : UInt8} (different : m ≠ n) (state : Bool) :
    (darlingtonoutputSetpin out n state).isOn m = out.isOn m := by
  have apart : m.toNat ≠ n.toNat := fun same => different (UInt8.toNat_inj.mp same)
  unfold Outputs.isOn darlingtonoutputGetpin darlingtonoutputSetpin
  by_cases portD : n.toNat < 8
  · rw [if_pos portD]
    by_cases low : m.toNat < 8
    · simp only [if_pos low, bit_setBit state low, if_neg apart]
    · simp only [if_neg low]
  · by_cases portB : n.toNat < 12
    · rw [if_neg portD, if_pos portB]
      by_cases low : m.toNat < 8
      · simp only [if_pos low]
      · by_cases middle : m.toNat < 12
        · have shifted : m.toNat - 8 ≠ n.toNat - 8 := by omega
          simp only [if_neg low, if_pos middle, if_neg shifted,
            bit_setBit state (show m.toNat - 8 < 8 by omega)]
        · simp only [if_neg low, if_neg middle]
    · rw [if_neg portD, if_neg portB]
      by_cases low : m.toNat < 8
      · simp only [if_pos low]
      · by_cases middle : m.toNat < 12
        · simp only [if_neg low, if_pos middle]
        · have shifted : m.toNat - 12 ≠ n.toNat - 12 := by omega
          simp only [if_neg low, if_neg middle, shiftOut_unchanged _ shifted]

theorem changeShiftOutPinState_length (bytes : List (BitVec 8)) (n : Nat) (state : Bool) :
    (changeShiftOutPinState bytes n state).length = bytes.length := by
  induction bytes generalizing n with
  | nil => rfl
  | cons byte bytes ih =>
      unfold changeShiftOutPinState
      split
      · rfl
      · exact congrArg (· + 1) (ih _)

@[simp]
theorem hasPin_setpin (out : Outputs) (n m : UInt8) (state : Bool) :
    (darlingtonoutputSetpin out n state).hasPin m = out.hasPin m := by
  unfold Outputs.hasPin darlingtonoutputSetpin
  split
  · rfl
  · split
    · rfl
    · rw [changeShiftOutPinState_length]

theorem isOn_setpin_off (out : Outputs) (n : UInt8) :
    (darlingtonoutputSetpin out n false).isOn n = false := by
  rw [isOn_setpin, Bool.false_and]

/-- What is on after a pin was switched off is another pin that was on. -/
theorem isOn_setpin_false {out : Outputs} {n m : UInt8}
    (on : (darlingtonoutputSetpin out n false).isOn m = true) : m ≠ n ∧ out.isOn m = true := by
  have different : m ≠ n := by
    rintro rfl
    rw [isOn_setpin_off] at on
    cases on
  exact ⟨different, by rwa [isOn_setpin_of_ne out different] at on⟩

theorem getShiftOutPinState_replicate (count n : Nat) :
    getShiftOutPinState (List.replicate count 0) n = 0 := by
  induction count generalizing n with
  | zero => rfl
  | succ count ih =>
      rw [List.replicate_succ, getShiftOutPinState, ih, getBit]
      exact ite_eq_right_iff.mpr fun _ => BitVec.zero_and

/-- After the start of a board every pin is off. -/
theorem isOn_init (ddrD portD ddrB portB : BitVec 8) (n : UInt8) :
    (darlingtonoutputInit (.reset ddrD portD ddrB portB)).isOn n = false := by
  unfold Outputs.isOn darlingtonoutputGetpin darlingtonoutputInit Outputs.reset
  by_cases low : n.toNat < 8
  · rw [if_pos low, getBit_ne_zero low]
    exact BitVec.getLsbD_zero
  · by_cases middle : n.toNat < 12
    · have lowHalf : ∀ j : Fin 4, (0x0f#8).getLsbD j = true := by decide
      have bit : n.toNat - 8 < 4 := by omega
      rw [if_neg low, if_pos middle, getBit_ne_zero (by omega)]
      change (portB &&& ~~~(0x0f#8)).getLsbD (n.toNat - 8) = false
      rw [BitVec.getLsbD_and, BitVec.getLsbD_not, lowHalf ⟨n.toNat - 8, bit⟩, Bool.not_true,
        Bool.and_false, Bool.and_false]
    · rw [if_neg low, if_neg middle, getShiftOutPinState_replicate]
      rfl

end Hcan.Controller
