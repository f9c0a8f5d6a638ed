import Hcan.Controller.Darlington
import Hcan.Library.ShiftRegister

/-!
# The shift registers of the controller board

Outputs behind the pins 0 to 11 come from a chain of 74HC595, inputs behind the taster ports 0 to 15
from a chain of 4021.  Both chains have one clock at port C: reading an input moves the bits of the
outputs as well, and they must not be seen.
-/

namespace Hcan.Controller.Shiftio

open Hcan.Library

/-- What the board finds outside: the levels at the pins of the ports A and C that are inputs, the
parallel inputs of the 4021 in the order of their reading, and the level at the end of their
chain. -/
structure Outside where
  pinA : BitVec 8
  pinC : BitVec 8
  inputs : List Bool
  far : Bool
  deriving DecidableEq

/-- The stages of the 74HC595, the first one next to the board, their output registers, and the
stages of the 4021, the first one at the pin of the board. -/
structure Board where
  out : Outputs
  ddrA : BitVec 8
  portA : BitVec 8
  ddrC : BitVec 8
  portC : BitVec 8
  outside : Outside
  stages : List Bool
  outputs : List Bool
  inStages : List Bool

def shiftSck : Nat := 0
def shiftInSin : Nat := 1
def shiftOutRck : Nat := 2
def shiftOutSin : Nat := 3
def shiftInPs : Nat := 4

/-- `SHIFT_INIT_VAL`. -/
def shiftInitVal : BitVec 8 := 0x1d#8

namespace Board

/-- The level at a pin of port C. -/
def levelC (b : Board) (pin : Nat) : Bool :=
  if b.ddrC.getLsbD pin then b.portC.getLsbD pin
  else if pin = shiftInSin then b.inStages.head?.getD (b.outside.pinC.getLsbD pin)
  else b.outside.pinC.getLsbD pin

/-- The chips after a change of levels.  Both chains shift at a rising edge of the clock; the
74HC595 take over their stages at a rising edge of RCK, and the 4021 their inputs as long as PS is
high. -/
def settle (before after : Board) : Board :=
  let clocked := !before.levelC shiftSck && after.levelC shiftSck
  let released := !before.levelC shiftOutRck && after.levelC shiftOutRck
  { after with
    stages := if clocked then shiftIn (after.levelC shiftOutSin) after.stages else after.stages
    outputs := if released then after.stages else after.outputs
    inStages :=
      if after.levelC shiftInPs then after.outside.inputs
      else if clocked then shiftOut after.outside.far after.inStages
      else after.inStages }

/-- `PORTC |= 1 << pin` or `PORTC &= ~(1 << pin)`. -/
def setPortC (b : Board) (pin : Nat) (state : Bool) : Board :=
  b.settle { b with portC := setBit b.portC pin state }

def setDdrC (b : Board) (pin : Nat) (state : Bool) : Board :=
  b.settle { b with ddrC := setBit b.ddrC pin state }

/-- A 0-1-0 pulse. -/
def pulse (b : Board) (pin : Nat) : Board := (b.setPortC pin true).setPortC pin false

end Board

def doClkOutput (b : Board) : Board := b.pulse shiftSck

def doClkInput (b : Board) : Board := b.pulse shiftSck

def initShiftInOut (b : Board) : Board :=
  let b := b.settle { b with ddrC := b.ddrC ||| shiftInitVal }
  let b := b.setPortC shiftSck false
  let b := b.setPortC shiftOutRck false
  let b := b.setPortC shiftOutSin false
  let b := b.setPortC shiftInSin false
  b.setPortC shiftInPs false

def storeFromParallelInputs (b : Board) : Board := b.pulse shiftInPs

def isBitFromShiftInSet (b : Board) (n : Nat) : Bool × Board :=
  let b := doClkInput^[n] (storeFromParallelInputs b)
  (b.levelC shiftInSin, b)

/-- The loop of `shiftOutByte` with `i` bits to go. -/
def shiftOutBits : Nat → BitVec 8 → Board → Board
  | 0, _, b => b
  | i + 1, data, b =>
      shiftOutBits i (data <<< 1) (doClkOutput (b.setPortC shiftOutSin (data &&& 0x80#8 != 0)))

def shiftOutByte (data : BitVec 8) (b : Board) : Board := shiftOutBits 8 data b

def activateNewOutput (b : Board) : Board := b.pulse shiftOutRck

/-- From the last byte to the first. -/
def shiftOutDataArray (data : List (BitVec 8)) (b : Board) : Board :=
  activateNewOutput (data.reverse.foldl (fun b byte => shiftOutByte byte b) b)

def shiftOutTimerHandler (b : Board) : Board := shiftOutDataArray b.out.shiftOut b

/-- `PINC & (1 << n)`. -/
def pinBit (n : Nat) (level : Bool) : BitVec 8 := if level then 1#8 <<< n else 0

def tasterportRead (b : Board) (n : UInt8) : BitVec 8 × Board :=
  if n.toNat < 4 then (0, b)
  else if n.toNat < 8 then
    let b := (b.setDdrC n.toNat false).setPortC n.toNat true
    (pinBit n.toNat (b.levelC n.toNat), b)
  else if n.toNat < 16 then
    let pin := 7 - n.toNat % 8
    let b := { b with
      ddrA := setBit b.ddrA pin false
      portA := setBit b.portA pin true }
    (pinBit pin (b.outside.pinA.getLsbD pin), b)
  else if n.toNat < 244 then
    let (set, b) := isBitFromShiftInSet b (n.toNat - 16)
    (if set then 1 else 0, b)
  else (0, b)

/-- Behind a reset the ports are inputs; the chips hold anything. -/
def Board.reset (outside : Outside) (stages outputs inStages : List Bool) : Board where
  out := .reset 0 0 0 0
  ddrA := 0
  portA := 0
  ddrC := 0
  portC := 0
  outside := outside
  stages := stages
  outputs := outputs
  inStages := inStages

/-- `darlingtonoutput_init` on the whole board. -/
def boot (b : Board) : Board := initShiftInOut { b with out := darlingtonoutputInit b.out }

/-- What the devices, the timer and the house do. -/
inductive BoardEvent where
  | setpin (n : UInt8) (state : Bool)
  | read (n : UInt8)
  | refresh
  | outside (outside : Outside)
  deriving DecidableEq

def Board.step (b : Board) : BoardEvent → Board
  | .setpin n state => { b with out := darlingtonoutputSetpin b.out n state }
  | .read n => (tasterportRead b n).2
  | .refresh => shiftOutTimerHandler b
  | .outside outside => b.settle { b with outside := outside }

def Board.run (b : Board) (events : List BoardEvent) : Board := events.foldl Board.step b

/-- The outputs as they were asked for, and as they were when the chips were last told. -/
structure Lamps where
  wanted : Nat → Bool
  shown : Nat → Option Bool

def Lamps.step (l : Lamps) : BoardEvent → Lamps
  | .setpin n state =>
      if 12 ≤ n.toNat then { l with wanted := Function.update l.wanted (n.toNat - 12) state } else l
  | .refresh => { l with shown := fun j => some (l.wanted j) }
  | .read _ | .outside _ => l

def lampsOf (events : List BoardEvent) : Lamps :=
  events.foldl Lamps.step ⟨fun _ => false, fun _ => none⟩

/-! ## Pulses -/

variable {b c : Board}

/-- The lines of the outputs are driven, and the two clocks are low between two operations; the data
line of the inputs is an input. -/
structure Idle (b : Board) : Prop where
  sckDdr : b.ddrC.getLsbD shiftSck = true
  rckDdr : b.ddrC.getLsbD shiftOutRck = true
  sinDdr : b.ddrC.getLsbD shiftOutSin = true
  inDdr : b.ddrC.getLsbD shiftInSin = false
  sck : b.portC.getLsbD shiftSck = false
  rck : b.portC.getLsbD shiftOutRck = false

theorem Idle.frame (idle : Idle b) (ddrC : c.ddrC = b.ddrC) (portC : c.portC = b.portC) :
    Idle c := by
  obtain ⟨sckDdr, rckDdr, sinDdr, inDdr, sck, rck⟩ := idle
  rw [← ddrC] at sckDdr rckDdr sinDdr inDdr
  rw [← portC] at sck rck
  exact ⟨sckDdr, rckDdr, sinDdr, inDdr, sck, rck⟩

theorem levelC_driven {pin : Nat} (driven : b.ddrC.getLsbD pin = true) :
    b.levelC pin = b.portC.getLsbD pin := by
  rw [Board.levelC, if_pos driven]

theorem setBit_back {byte : BitVec 8} {n : Nat} (low : byte.getLsbD n = false) :
    setBit (setBit byte n true) n false = byte := by
  refine BitVec.eq_of_getLsbD_eq fun i bound => ?_
  rw [getLsbD_setBit _ bound, getLsbD_setBit _ bound]
  by_cases same : i = n
  · rw [if_pos same, same, low]
  · rw [if_neg same, if_neg same]

theorem no_edge {before after : Bool} (rising : after = true → before = true) :
    (!before && after) = false := by
  cases after with
  | false => exact Bool.and_false _
  | true => rw [rising rfl]; rfl

/-- Nothing is clocked where neither clock line rises. -/
theorem settle_still (sck : c.levelC shiftSck = true → b.levelC shiftSck = true)
    (rck : c.levelC shiftOutRck = true → b.levelC shiftOutRck = true) :
    b.settle c = { c with
      inStages := if c.levelC shiftInPs then c.outside.inputs else c.inStages } := by
  simp only [Board.settle, no_edge sck, no_edge rck, Bool.false_eq_true, if_false]

/-- The levels after a write to the port. -/
theorem levelC_setBit {pin other : Nat} (state : Bool) (bound : other < 8) :
    Board.levelC { b with portC := setBit b.portC pin state } other =
      if other = pin ∧ b.ddrC.getLsbD other = true then state else b.levelC other := by
  simp only [Board.levelC, getLsbD_setBit state bound]
  by_cases driven : b.ddrC.getLsbD other = true
  · by_cases same : other = pin
    · rw [if_pos driven, if_pos same, if_pos ⟨same, driven⟩]
    · rw [if_pos driven, if_neg same, if_neg fun both => same both.1, if_pos driven]
  · have apart : ¬ (other = pin ∧ b.ddrC.getLsbD other = true) := fun both => driven both.2
    rw [if_neg driven, if_neg apart, if_neg driven]

theorem levelC_other {pin other : Nat} (state : Bool) (bound : other < 8) (apart : other ≠ pin) :
    Board.levelC { b with portC := setBit b.portC pin state } other = b.levelC other := by
  rw [levelC_setBit state bound, if_neg fun both => apart both.1]

/-- A pin that is no clock line, or goes low: only the 4021 may take over their inputs. -/
theorem setPortC_still {pin : Nat} {state : Bool}
    (quiet : pin ≠ shiftSck ∧ pin ≠ shiftOutRck ∨ state = false) :
    b.setPortC pin state = { b with
      portC := setBit b.portC pin state
      inStages :=
        if Board.levelC { b with portC := setBit b.portC pin state } shiftInPs then b.outside.inputs
        else b.inStages } := by
  have still : ∀ line : Nat, line < 8 → pin ≠ line ∨ state = false →
      Board.levelC { b with portC := setBit b.portC pin state } line = true →
      b.levelC line = true := by
    intro line bound why high
    rw [levelC_setBit state bound] at high
    split at high
    · rename_i both
      rcases why with other | low
      · exact absurd both.1.symm other
      · rw [low] at high
        cases high
    · exact high
  have sck := still shiftSck (by decide) (quiet.imp And.left id)
  have rck := still shiftOutRck (by decide) (quiet.imp And.right id)
  rw [Board.setPortC, settle_still sck rck]

/-- A pulse of the clock moves both chains on. -/
theorem pulse_sck (idle : Idle b) : b.pulse shiftSck = { b with
    stages := shiftIn (b.portC.getLsbD shiftOutSin) b.stages
    inStages :=
      if b.levelC shiftInPs then b.outside.inputs else shiftOut b.outside.far b.inStages } := by
  have low : b.levelC shiftSck = false := by rw [levelC_driven idle.sckDdr, idle.sck]
  have high : Board.levelC { b with portC := setBit b.portC shiftSck true } shiftSck = true := by
    rw [levelC_setBit true (by decide), if_pos ⟨rfl, idle.sckDdr⟩]
  have rck : Board.levelC { b with portC := setBit b.portC shiftSck true } shiftOutRck = false := by
    rw [levelC_other true (by decide) (by decide), levelC_driven idle.rckDdr, idle.rck]
  have sin : Board.levelC { b with portC := setBit b.portC shiftSck true } shiftOutSin =
      b.portC.getLsbD shiftOutSin := by
    rw [levelC_other true (by decide) (by decide), levelC_driven idle.sinDdr]
  have ps : Board.levelC { b with portC := setBit b.portC shiftSck true } shiftInPs =
      b.levelC shiftInPs := levelC_other true (by decide) (by decide)
  have up : b.setPortC shiftSck true = { b with
      portC := setBit b.portC shiftSck true
      stages := shiftIn (b.portC.getLsbD shiftOutSin) b.stages
      inStages :=
        if b.levelC shiftInPs then b.outside.inputs else shiftOut b.outside.far b.inStages } := by
    simp only [Board.setPortC, Board.settle, low, high, rck, sin, ps, Bool.not_false, Bool.and_true,
      Bool.and_false, if_true, Bool.false_eq_true, if_false]
  rw [Board.pulse, up, setPortC_still (.inr rfl)]
  have down : ∀ c : Board,
      Board.levelC { c with portC := setBit c.portC shiftSck false } shiftInPs =
        c.levelC shiftInPs := fun c => levelC_other false (by decide) (by decide)
  rw [down]
  have psUp : ∀ stages inStages, Board.levelC { b with
      portC := setBit b.portC shiftSck true
      stages := stages
      inStages := inStages } shiftInPs = b.levelC shiftInPs := by
    intro stages inStages
    exact ps
  rw [psUp, setBit_back idle.sck]
  by_cases parallel : b.levelC shiftInPs = true
  · simp only [if_pos parallel]
  · simp only [if_neg parallel]

/-- A pulse of RCK shows what the stages hold. -/
theorem pulse_rck (idle : Idle b) : b.pulse shiftOutRck = { b with
    outputs := b.stages
    inStages := if b.levelC shiftInPs then b.outside.inputs else b.inStages } := by
  have low : b.levelC shiftOutRck = false := by rw [levelC_driven idle.rckDdr, idle.rck]
  have high :
      Board.levelC { b with portC := setBit b.portC shiftOutRck true } shiftOutRck = true := by
    rw [levelC_setBit true (by decide), if_pos ⟨rfl, idle.rckDdr⟩]
  have sck : Board.levelC { b with portC := setBit b.portC shiftOutRck true } shiftSck = false := by
    rw [levelC_other true (by decide) (by decide), levelC_driven idle.sckDdr, idle.sck]
  have ps : Board.levelC { b with portC := setBit b.portC shiftOutRck true } shiftInPs =
      b.levelC shiftInPs := levelC_other true (by decide) (by decide)
  have up : b.setPortC shiftOutRck true = { b with
      portC := setBit b.portC shiftOutRck true
      outputs := b.stages
      inStages := if b.levelC shiftInPs then b.outside.inputs else b.inStages } := by
    simp only [Board.setPortC, Board.settle, low, high, sck, ps, Bool.not_false, Bool.and_true,
      Bool.and_false, if_true, Bool.false_eq_true, if_false]
  have down : ∀ c : Board,
      Board.levelC { c with portC := setBit c.portC shiftOutRck false } shiftInPs =
        c.levelC shiftInPs := fun c => levelC_other false (by decide) (by decide)
  have psUp : ∀ outputs inStages, Board.levelC { b with
      portC := setBit b.portC shiftOutRck true
      outputs := outputs
      inStages := inStages } shiftInPs = b.levelC shiftInPs := by
    intro outputs inStages
    exact ps
  rw [Board.pulse, up, setPortC_still (.inr rfl), down, psUp, setBit_back idle.rck]
  by_cases parallel : b.levelC shiftInPs = true
  · simp only [if_pos parallel]
  · simp only [if_neg parallel]

/-- What most operations leave alone. -/
structure Kept (b c : Board) : Prop where
  out : c.out = b.out
  outside : c.outside = b.outside
  ddrC : c.ddrC = b.ddrC
  outputs : c.outputs = b.outputs
  width : c.stages.length = b.stages.length
  sck : c.portC.getLsbD shiftSck = b.portC.getLsbD shiftSck
  rck : c.portC.getLsbD shiftOutRck = b.portC.getLsbD shiftOutRck
  ps : b.portC.getLsbD shiftInPs = false → c.portC.getLsbD shiftInPs = false

theorem Kept.refl (b : Board) : Kept b b := ⟨rfl, rfl, rfl, rfl, rfl, rfl, rfl, id⟩

theorem Kept.trans {d : Board} (first : Kept b c) (second : Kept c d) : Kept b d where
  out := second.out.trans first.out
  outside := second.outside.trans first.outside
  ddrC := second.ddrC.trans first.ddrC
  outputs := second.outputs.trans first.outputs
  width := second.width.trans first.width
  sck := second.sck.trans first.sck
  rck := second.rck.trans first.rck
  ps low := second.ps (first.ps low)

theorem Kept.idle (kept : Kept b c) (idle : Idle b) : Idle c where
  sckDdr := by rw [kept.ddrC]; exact idle.sckDdr
  rckDdr := by rw [kept.ddrC]; exact idle.rckDdr
  sinDdr := by rw [kept.ddrC]; exact idle.sinDdr
  inDdr := by rw [kept.ddrC]; exact idle.inDdr
  sck := kept.sck.trans idle.sck
  rck := kept.rck.trans idle.rck

theorem clock_kept (idle : Idle b) : Kept b (b.pulse shiftSck) := by
  rw [pulse_sck idle]
  exact ⟨rfl, rfl, rfl, rfl, shiftIn_length _ _, rfl, rfl, id⟩

theorem setPortC_kept {pin : Nat} {state : Bool} (sck : pin ≠ shiftSck) (rck : pin ≠ shiftOutRck)
    (ps : pin = shiftInPs → state = false) : Kept b (b.setPortC pin state) := by
  rw [setPortC_still (.inl ⟨sck, rck⟩)]
  refine ⟨rfl, rfl, rfl, rfl, rfl, ?_, ?_, fun low => ?_⟩
  · change (setBit b.portC pin state).getLsbD shiftSck = _
    rw [getLsbD_setBit state (by decide), if_neg sck.symm]
  · change (setBit b.portC pin state).getLsbD shiftOutRck = _
    rw [getLsbD_setBit state (by decide), if_neg rck.symm]
  · change (setBit b.portC pin state).getLsbD shiftInPs = false
    rw [getLsbD_setBit state (by decide)]
    split
    · rename_i same
      exact ps same.symm
    · exact low

/-- The bits in the order of their sending. -/
def serialBits : Nat → BitVec 8 → List Bool
  | 0, _ => []
  | i + 1, data => (data &&& 0x80#8 != 0) :: serialBits i (data <<< 1)

theorem serialBits_byte (data : BitVec 8) :
    (serialBits 8 data).reverse = (List.range 8).map fun n => getBit data n != 0 := by
  revert data
  decide +kernel

theorem shiftOutBits_kept (i : Nat) (data : BitVec 8) (idle : Idle b) :
    Kept b (shiftOutBits i data b) ∧
      (shiftOutBits i data b).stages = shiftAll (serialBits i data) b.stages := by
  induction i generalizing data b with
  | zero => exact ⟨.refl b, rfl⟩
  | succ i ih =>
      have level : Kept b (b.setPortC shiftOutSin (data &&& 0x80#8 != 0)) :=
        setPortC_kept (by decide) (by decide) (fun same => absurd same (by decide))
      have clocked := clock_kept (level.idle idle)
      obtain ⟨kept, stages⟩ := ih (data <<< 1) (clocked.idle (level.idle idle))
      refine ⟨(level.trans clocked).trans kept, ?_⟩
      have sent : ((b.setPortC shiftOutSin (data &&& 0x80#8 != 0)).pulse shiftSck).stages =
          shiftIn (data &&& 0x80#8 != 0) b.stages := by
        rw [pulse_sck (level.idle idle), setPortC_still (.inl ⟨by decide, by decide⟩)]
        change shiftIn ((setBit b.portC shiftOutSin _).getLsbD shiftOutSin) b.stages = _
        rw [getLsbD_setBit _ (by decide), if_pos rfl]
      rw [serialBits, shiftAll_cons, ← sent]
      exact stages

theorem shiftOutByte_kept (data : BitVec 8) (idle : Idle b) :
    Kept b (shiftOutByte data b) ∧
      (shiftOutByte data b).stages = shiftAll (serialBits 8 data) b.stages :=
  shiftOutBits_kept 8 data idle

theorem shiftOutBytes_kept (bytes : List (BitVec 8)) (idle : Idle b) :
    Kept b (bytes.foldl (fun b byte => shiftOutByte byte b) b) ∧
      (bytes.foldl (fun b byte => shiftOutByte byte b) b).stages =
        shiftAll (bytes.flatMap (serialBits 8)) b.stages := by
  induction bytes generalizing b with
  | nil => exact ⟨.refl b, rfl⟩
  | cons byte bytes ih =>
      obtain ⟨here, stages⟩ := shiftOutByte_kept byte idle
      obtain ⟨kept, rest⟩ := ih (here.idle idle)
      rw [List.foldl_cons, List.flatMap_cons, shiftAll_append, ← stages]
      exact ⟨here.trans kept, rest⟩

theorem reverse_flatMap_serialBits (bytes : List (BitVec 8)) :
    (bytes.reverse.flatMap (serialBits 8)).reverse =
      bytes.flatMap fun data => (List.range 8).map fun n => getBit data n != 0 := by
  rw [List.reverse_flatMap, List.reverse_reverse]
  congr 1
  funext data
  exact serialBits_byte data

/-- The bits in the order of the stages are the pins. -/
theorem pins_getElem? (bytes : List (BitVec 8)) {j : Nat} (pin : j < 8 * bytes.length) :
    (bytes.flatMap fun data => (List.range 8).map fun n => getBit data n != 0)[j]? =
      some (getShiftOutPinState bytes j != 0) := by
  induction bytes generalizing j with
  | nil => exact absurd pin (Nat.not_lt_zero _)
  | cons byte bytes ih =>
      have width : ((List.range 8).map fun n => getBit byte n != 0).length = 8 := by
        rw [List.length_map, List.length_range]
      rw [List.flatMap_cons, getShiftOutPinState]
      by_cases here : j < 8
      · rw [if_pos here, List.getElem?_append_left (by rw [width]; exact here), List.getElem?_map,
          List.getElem?_range here]
        rfl
      · rw [List.length_cons] at pin
        rw [if_neg here, List.getElem?_append_right (by rw [width]; omega), width, ih (by omega)]

/-- The outputs of the refreshed chips are the stages that were sent. -/
theorem refresh_eq (idle : Idle b) : ∃ c inStages, Kept b c ∧
    c.stages = shiftAll (b.out.shiftOut.reverse.flatMap (serialBits 8)) b.stages ∧
    shiftOutTimerHandler b = { c with outputs := c.stages, inStages := inStages } := by
  obtain ⟨kept, stages⟩ := shiftOutBytes_kept b.out.shiftOut.reverse idle
  exact ⟨_, _, kept, stages, pulse_rck (kept.idle idle)⟩

/-- A refreshed output is the bit of its pin, if there is a register. -/
theorem refreshed_getElem? {bytes : List (BitVec 8)} {stages : List Bool} {j : Nat}
    (pin : j < 8 * bytes.length) (stage : j < stages.length) :
    (shiftAll (bytes.reverse.flatMap (serialBits 8)) stages)[j]? =
      some (getShiftOutPinState bytes j != 0) := by
  have sent := reverse_flatMap_serialBits bytes
  have many : j < (bytes.reverse.flatMap (serialBits 8)).length := by
    by_contra few
    have missing := pins_getElem? bytes pin
    rw [← sent, List.getElem?_eq_none (by rw [List.length_reverse]; exact Nat.le_of_not_lt few)]
      at missing
    cases missing
  rw [shiftAll_getElem? stage many, sent, pins_getElem? bytes pin]

theorem clocks_kept (n : Nat) (idle : Idle b) : Kept b (doClkInput^[n] b) := by
  induction n generalizing b with
  | zero => exact .refl b
  | succ n ih =>
      have here : Kept b (doClkInput b) := clock_kept idle
      rw [Function.iterate_succ_apply]
      exact here.trans (ih (here.idle idle))

theorem store_kept (b : Board) : Kept b (storeFromParallelInputs b) := by
  have other : ∀ pin, pin < 8 → pin ≠ shiftInPs →
      (setBit (setBit b.portC shiftInPs true) shiftInPs false).getLsbD pin =
        b.portC.getLsbD pin := by
    intro pin bound apart
    rw [getLsbD_setBit _ bound, getLsbD_setBit _ bound, if_neg apart, if_neg apart]
  rw [storeFromParallelInputs, Board.pulse, setPortC_still (.inr rfl),
    setPortC_still (.inl ⟨by decide, by decide⟩)]
  refine ⟨rfl, rfl, rfl, rfl, rfl, other _ (by decide) (by decide), other _ (by decide) (by decide),
    fun _ => ?_⟩
  change (setBit (setBit b.portC shiftInPs true) shiftInPs false).getLsbD shiftInPs = false
  rw [getLsbD_setBit _ (by decide), if_pos rfl]

theorem isBit_kept (n : Nat) (idle : Idle b) : Kept b (isBitFromShiftInSet b n).2 :=
  (store_kept b).trans (clocks_kept n ((store_kept b).idle idle))

/-- The levels after a change of a direction. -/
theorem levelC_ddr {pin other : Nat} (bound : other < 8) (apart : other ≠ pin) (state : Bool) :
    Board.levelC { b with ddrC := setBit b.ddrC pin state } other = b.levelC other := by
  simp only [Board.levelC, getLsbD_setBit state bound, if_neg apart]

/-- A read of a pin of port C itself. -/
theorem direct_eq {n : Nat} (low : 4 ≤ n) : ∃ inStages,
    (b.setDdrC n false).setPortC n true = { b with
      ddrC := setBit b.ddrC n false
      portC := setBit b.portC n true
      inStages := inStages } := by
  have apart : ∀ line, line < 4 → line ≠ n := fun line small same => by omega
  have sck : Board.levelC { b with ddrC := setBit b.ddrC n false } shiftSck = b.levelC shiftSck :=
    levelC_ddr (by decide) (apart _ (by decide)) false
  have rck :
      Board.levelC { b with ddrC := setBit b.ddrC n false } shiftOutRck = b.levelC shiftOutRck :=
    levelC_ddr (by decide) (apart _ (by decide)) false
  rw [Board.setDdrC, settle_still (fun high => sck ▸ high) (fun high => rck ▸ high),
    setPortC_still (.inl ⟨(apart _ (by decide)).symm, (apart _ (by decide)).symm⟩)]
  exact ⟨_, rfl⟩

/-- What a read leaves alone. -/
structure Untouched (b c : Board) : Prop where
  out : c.out = b.out
  outside : c.outside = b.outside
  outputs : c.outputs = b.outputs
  width : c.stages.length = b.stages.length
  idle : Idle c

theorem Kept.untouched (kept : Kept b c) (idle : Idle b) : Untouched b c :=
  ⟨kept.out, kept.outside, kept.outputs, kept.width, kept.idle idle⟩

theorem direct_idle {n : Nat} (low : 4 ≤ n) (inStages : List Bool) (idle : Idle b) :
    Idle { b with
      ddrC := setBit b.ddrC n false
      portC := setBit b.portC n true
      inStages := inStages } := by
  have ddr : ∀ line, line < 4 → (setBit b.ddrC n false).getLsbD line = b.ddrC.getLsbD line := by
    intro line small
    rw [getLsbD_setBit _ (by omega), if_neg (by omega)]
  have port : ∀ line, line < 4 → (setBit b.portC n true).getLsbD line = b.portC.getLsbD line := by
    intro line small
    rw [getLsbD_setBit _ (by omega), if_neg (by omega)]
  exact ⟨(ddr _ (by decide)).trans idle.sckDdr, (ddr _ (by decide)).trans idle.rckDdr,
    (ddr _ (by decide)).trans idle.sinDdr, (ddr _ (by decide)).trans idle.inDdr,
    (port _ (by decide)).trans idle.sck, (port _ (by decide)).trans idle.rck⟩

/-- No read is seen at the outputs. -/
theorem read_untouched (n : UInt8) (idle : Idle b) : Untouched b (tasterportRead b n).2 := by
  unfold tasterportRead
  split
  · exact (Kept.refl b).untouched idle
  · split
    · obtain ⟨inStages, direct⟩ := direct_eq (b := b) (n := n.toNat) (by omega)
      dsimp only
      rw [direct]
      exact ⟨rfl, rfl, rfl, rfl, direct_idle (by omega) inStages idle⟩
    · split
      · exact ⟨rfl, rfl, rfl, rfl, idle.frame rfl rfl⟩
      · split
        · exact (isBit_kept (n.toNat - 16) idle).untouched idle
        · exact (Kept.refl b).untouched idle

theorem setPortC_low_kept (pin : Nat) (idle : Idle b) : Kept b (b.setPortC pin false) := by
  have bit : ∀ line, line < 8 → b.portC.getLsbD line = false →
      (setBit b.portC pin false).getLsbD line = false := by
    intro line bound low
    rw [getLsbD_setBit _ bound, low, ite_self]
  rw [setPortC_still (.inr rfl)]
  exact ⟨rfl, rfl, rfl, rfl, rfl, (bit _ (by decide) idle.sck).trans idle.sck.symm,
    (bit _ (by decide) idle.rck).trans idle.rck.symm, bit _ (by decide)⟩

/-- PS is driven low. -/
structure Serial (b : Board) : Prop where
  psDdr : b.ddrC.getLsbD shiftInPs = true
  ps : b.portC.getLsbD shiftInPs = false

theorem Kept.serial (kept : Kept b c) (serial : Serial b) : Serial c where
  psDdr := by rw [kept.ddrC]; exact serial.psDdr
  ps := kept.ps serial.ps

theorem initShiftInOut_kept (idle : Idle (b.settle { b with ddrC := b.ddrC ||| shiftInitVal })) :
    Kept (b.settle { b with ddrC := b.ddrC ||| shiftInitVal }) (initShiftInOut b) := by
  have first := setPortC_low_kept shiftSck idle
  have second := first.trans (setPortC_low_kept shiftOutRck (first.idle idle))
  have third := second.trans (setPortC_low_kept shiftOutSin (second.idle idle))
  have fourth := third.trans (setPortC_low_kept shiftInSin (third.idle idle))
  exact fourth.trans (setPortC_low_kept shiftInPs (fourth.idle idle))

/-- No line rises when the pins become outputs, as the port is 0. -/
theorem directions_eq (zero : b.portC = 0) (input : b.ddrC = 0) :
    b.settle { b with ddrC := b.ddrC ||| shiftInitVal } = { b with ddrC := shiftInitVal } := by
  have ddr : b.ddrC ||| shiftInitVal = shiftInitVal := by
    rw [input]
    rfl
  have low : ∀ line, shiftInitVal.getLsbD line = true →
      Board.levelC { b with ddrC := shiftInitVal } line = false := by
    intro line direction
    have driven : (Board.levelC { b with ddrC := shiftInitVal } line) = b.portC.getLsbD line :=
      if_pos direction
    rw [driven, zero]
    exact BitVec.getLsbD_zero
  have edge : ∀ line, shiftInitVal.getLsbD line = true →
      Board.levelC { b with ddrC := shiftInitVal } line = true → b.levelC line = true := by
    intro line direction high
    rw [low line direction] at high
    cases high
  rw [ddr, settle_still (edge _ (by decide)) (edge _ (by decide)), low _ (by decide)]
  rfl

theorem boot_eq (outside : Outside) (stages outputs inStages : List Bool) :
    Kept { Board.reset outside stages outputs inStages with
        out := darlingtonoutputInit (.reset 0 0 0 0)
        ddrC := shiftInitVal }
      (boot (.reset outside stages outputs inStages)) ∧
    Idle (boot (.reset outside stages outputs inStages)) ∧
    Serial (boot (.reset outside stages outputs inStages)) := by
  have start := directions_eq (b := { Board.reset outside stages outputs inStages with
    out := darlingtonoutputInit (.reset 0 0 0 0) }) rfl rfl
  have low : ∀ line, (0 : BitVec 8).getLsbD line = false := fun _ => BitVec.getLsbD_zero
  have idle : Idle { Board.reset outside stages outputs inStages with
      out := darlingtonoutputInit (.reset 0 0 0 0)
      ddrC := shiftInitVal } :=
    ⟨show shiftInitVal.getLsbD shiftSck = true by decide,
      show shiftInitVal.getLsbD shiftOutRck = true by decide,
      show shiftInitVal.getLsbD shiftOutSin = true by decide,
      show shiftInitVal.getLsbD shiftInSin = false by decide, low _, low _⟩
  have serial : Serial { Board.reset outside stages outputs inStages with
      out := darlingtonoutputInit (.reset 0 0 0 0)
      ddrC := shiftInitVal } :=
    ⟨show shiftInitVal.getLsbD shiftInPs = true by decide, low _⟩
  have kept := initShiftInOut_kept (b := { Board.reset outside stages outputs inStages with
    out := darlingtonoutputInit (.reset 0 0 0 0) }) (by rw [start]; exact idle)
  rw [start] at kept
  exact ⟨kept, kept.idle idle, kept.serial serial⟩

/-! ## Runs -/

theorem Board.run_append (b : Board) (front back : List BoardEvent) :
    b.run (front ++ back) = (b.run front).run back := List.foldl_append

/-- The board shows what was asked for. -/
structure Shows (width : Nat) (b : Board) (l : Lamps) : Prop where
  idle : Idle b
  bytes : b.out.shiftOut.length = maxNumOfShiftOutRegister
  stages : b.stages.length = width
  wanted : ∀ j, j < 8 * maxNumOfShiftOutRegister →
    (getShiftOutPinState b.out.shiftOut j != 0) = l.wanted j
  shown : ∀ j, j < 8 * maxNumOfShiftOutRegister → j < width → ∀ state, l.shown j = some state →
    b.outputs[j]? = some state

theorem setpin_shiftOut (out : Outputs) (n : UInt8) (state : Bool) :
    (darlingtonoutputSetpin out n state).shiftOut =
      if 12 ≤ n.toNat then changeShiftOutPinState out.shiftOut (n.toNat - 12) state
      else out.shiftOut := by
  unfold darlingtonoutputSetpin
  split
  · rw [if_neg (by omega)]
  · split
    · rw [if_neg (by omega)]
    · rw [if_pos (by omega)]

theorem Untouched.shows {width : Nat} {l : Lamps} (same : Untouched b c) (shows : Shows width b l) :
    Shows width c l where
  idle := same.idle
  bytes := by rw [same.out]; exact shows.bytes
  stages := same.width.trans shows.stages
  wanted := by rw [same.out]; exact shows.wanted
  shown := by rw [same.outputs]; exact shows.shown

theorem step_shows {width : Nat} {l : Lamps} (shows : Shows width b l) (event : BoardEvent) :
    Shows width (b.step event) (l.step event) := by
  cases event with
  | setpin n state =>
      have bytes : (darlingtonoutputSetpin b.out n state).shiftOut.length =
          maxNumOfShiftOutRegister := by
        rw [setpin_shiftOut]
        split
        · rw [changeShiftOutPinState_length, shows.bytes]
        · exact shows.bytes
      refine ⟨shows.idle.frame rfl rfl, bytes, shows.stages, fun j pin => ?_, ?_⟩
      · change (getShiftOutPinState (darlingtonoutputSetpin b.out n state).shiftOut j != 0) = _
        rw [setpin_shiftOut, Lamps.step]
        by_cases shifted : 12 ≤ n.toNat
        · rw [if_pos shifted, if_pos shifted]
          by_cases same : j = n.toNat - 12
          · have inside : n.toNat - 12 < 8 * b.out.shiftOut.length := by
              rw [shows.bytes, ← same]
              exact pin
            rw [same, shiftOut_changed, decide_eq_true inside, Bool.and_true]
            exact (Function.update_self (n.toNat - 12) state l.wanted).symm
          · rw [shiftOut_unchanged _ same, shows.wanted j pin]
            exact (Function.update_of_ne same state l.wanted).symm
        · rw [if_neg shifted, if_neg shifted, shows.wanted j pin]
      · rw [Lamps.step]
        split
        · exact shows.shown
        · exact shows.shown
  | read n => exact (read_untouched n shows.idle).shows shows
  | refresh =>
      obtain ⟨c, inStages, kept, stages, refreshed⟩ := refresh_eq shows.idle
      change Shows width (shiftOutTimerHandler b) _
      rw [refreshed]
      have idle := kept.idle shows.idle
      refine ⟨idle.frame rfl rfl, ?_,
        kept.width.trans shows.stages, ?_, fun j pin stage state asked => ?_⟩
      · rw [kept.out]
        exact shows.bytes
      · rw [kept.out]
        exact shows.wanted
      · cases asked
        change c.stages[j]? = _
        rw [stages, refreshed_getElem? (by rw [shows.bytes]; exact pin)
          (by rw [shows.stages]; exact stage), shows.wanted j pin]
  | outside outside =>
      have level : ∀ line, b.ddrC.getLsbD line = true →
          Board.levelC { b with outside := outside } line = true → b.levelC line = true := by
        intro line driven high
        rw [Board.levelC, if_pos driven] at high
        rw [levelC_driven driven]
        exact high
      change Shows width (b.settle { b with outside := outside }) l
      rw [settle_still (level _ shows.idle.sckDdr) (level _ shows.idle.rckDdr)]
      exact ⟨shows.idle.frame rfl rfl, shows.bytes, shows.stages, shows.wanted, shows.shown⟩

theorem run_shows {width : Nat} {l : Lamps} (shows : Shows width b l) (events : List BoardEvent) :
    Shows width (b.run events) (events.foldl Lamps.step l) := by
  induction events generalizing b l with
  | nil => exact shows
  | cons event events ih => exact ih (step_shows shows event)

theorem boot_shows (outside : Outside) (stages outputs inStages : List Bool) :
    Shows stages.length (boot (.reset outside stages outputs inStages))
      ⟨fun _ => false, fun _ => none⟩ := by
  obtain ⟨kept, idle, -⟩ := boot_eq outside stages outputs inStages
  refine ⟨idle, ?_, kept.width, fun j _ => ?_, fun _ _ _ _ unknown => by cases unknown⟩
  · rw [kept.out]
    rfl
  · rw [kept.out]
    change (getShiftOutPinState (List.replicate maxNumOfShiftOutRegister 0) j != 0) = false
    rw [getShiftOutPinState_replicate]
    rfl

/-- The board is its lamps: at every time a pin of the shift registers is on in the registers of the
program if it was asked for, and every output of a connected 74HC595 shows what was asked for when
the chips were last refreshed.  The reading of inputs, which clocks the same chips, is not seen. -/
theorem shift_outputs (outside : Outside) (stages outputs inStages : List Bool)
    (events : List BoardEvent) {j : Nat} (pin : j < 8 * maxNumOfShiftOutRegister) :
    ((boot (.reset outside stages outputs inStages)).run events).out.isOn (UInt8.ofNat (12 + j)) =
        (lampsOf events).wanted j ∧
      (j < stages.length → ∀ state, (lampsOf events).shown j = some state →
        ((boot (.reset outside stages outputs inStages)).run events).outputs[j]? = some state) := by
  have shows := run_shows (boot_shows outside stages outputs inStages) events
  refine ⟨?_, fun stage => shows.shown j pin stage⟩
  have few : j < 32 := pin
  have number : (UInt8.ofNat (12 + j)).toNat = 12 + j := by
    rw [UInt8.toNat_ofNat']
    omega
  rw [Outputs.isOn, darlingtonoutputGetpin, number, if_neg (by omega), if_neg (by omega),
    Nat.add_sub_cancel_left, shows.wanted j pin]
  rfl

/-- Two registers, both inputs of a 4021 read while the output 9 is on. -/
theorem shift_outputs_nine :
    9 < 8 * maxNumOfShiftOutRegister ∧
    ((boot (.reset ⟨0, 0, [true, false], false⟩ (List.replicate 16 true) [] [])).run
        [.setpin 21 true, .refresh, .read 16, .read 17, .setpin 21 false]).out.isOn
          (UInt8.ofNat (12 + 9)) =
      (lampsOf [.setpin 21 true, .refresh, .read 16, .read 17, .setpin 21 false]).wanted 9 ∧
    (9 < (List.replicate 16 true).length → ∀ state,
      (lampsOf [.setpin 21 true, .refresh, .read 16, .read 17, .setpin 21 false]).shown 9 =
          some state →
        ((boot (.reset ⟨0, 0, [true, false], false⟩ (List.replicate 16 true) [] [])).run
          [.setpin 21 true, .refresh, .read 16, .read 17, .setpin 21 false]).outputs[9]? =
            some state) :=
  ⟨by decide, shift_outputs _ _ _ _ _ (by decide)⟩

theorem levelC_serial (serial : Serial b) : b.levelC shiftInPs = false := by
  rw [levelC_driven serial.psDdr, serial.ps]

theorem Serial.frame (serial : Serial b) (ddrC : c.ddrC = b.ddrC) (portC : c.portC = b.portC) :
    Serial c := by
  obtain ⟨psDdr, ps⟩ := serial
  rw [← ddrC] at psDdr
  rw [← portC] at ps
  exact ⟨psDdr, ps⟩

theorem store_serial (serial : Serial b) :
    storeFromParallelInputs b = { b with inStages := b.outside.inputs } := by
  have up : Board.levelC { b with portC := setBit b.portC shiftInPs true } shiftInPs = true := by
    rw [levelC_setBit true (by decide), if_pos ⟨rfl, serial.psDdr⟩]
  have down : ∀ inStages, Board.levelC { b with
      portC := setBit (setBit b.portC shiftInPs true) shiftInPs false
      inStages := inStages } shiftInPs = false := by
    intro inStages
    rw [setBit_back serial.ps]
    exact levelC_serial (serial.frame rfl rfl)
  have loaded : b.setPortC shiftInPs true = { b with
      portC := setBit b.portC shiftInPs true
      inStages := b.outside.inputs } := by
    rw [setPortC_still (.inl ⟨by decide, by decide⟩), up, if_pos rfl]
  rw [storeFromParallelInputs, Board.pulse, loaded, setPortC_still (.inr rfl), down,
    setBit_back serial.ps]
  rfl

theorem clocks_serial (n : Nat) (idle : Idle b) (serial : Serial b) :
    (doClkInput^[n] b).inStages = (shiftOut b.outside.far)^[n] b.inStages := by
  induction n generalizing b with
  | zero => rfl
  | succ n ih =>
      have clocked : doClkInput b = { b with
          stages := shiftIn (b.portC.getLsbD shiftOutSin) b.stages
          inStages := shiftOut b.outside.far b.inStages } := by
        rw [doClkInput, pulse_sck idle, levelC_serial serial]
        rfl
      have kept : Kept b (doClkInput b) := clock_kept idle
      rw [Function.iterate_succ_apply, Function.iterate_succ_apply,
        ih (kept.idle idle) (kept.serial serial), clocked]

theorem isBit_head (n : Nat) (idle : Idle b) {level : Bool}
    (first : (doClkInput^[n] (storeFromParallelInputs b)).inStages.head? = some level) :
    (isBitFromShiftInSet b n).1 = level := by
  have kept := clocks_kept n ((store_kept b).idle idle)
  have input := (kept.idle ((store_kept b).idle idle)).inDdr
  change Board.levelC _ shiftInSin = level
  rw [Board.levelC, input, if_neg (by decide), if_pos rfl, first, Option.getD_some]

theorem tasterportRead_chain {k : Nat} (few : k < 228) :
    (tasterportRead b (UInt8.ofNat (16 + k))).1 = if (isBitFromShiftInSet b k).1 then 1 else 0 := by
  have number : (UInt8.ofNat (16 + k)).toNat = 16 + k := by
    rw [UInt8.toNat_ofNat']
    omega
  rw [tasterportRead, number, if_neg (by omega), if_neg (by omega), if_neg (by omega),
    if_pos (by omega), Nat.add_sub_cancel_left]

/-- An input that is read is that of its number. -/
theorem isBit_serial (idle : Idle b) (serial : Serial b) {n : Nat}
    (input : n < b.outside.inputs.length) :
    (isBitFromShiftInSet b n).1 = b.outside.inputs.get ⟨n, input⟩ := by
  have stages := clocks_serial n ((store_kept b).idle idle) ((store_kept b).serial serial)
  refine isBit_head n idle ?_
  rw [stages, store_serial serial, shiftOut_iterate_head? input]
  exact List.getElem?_eq_getElem input

theorem step_serial (idle : Idle b) (serial : Serial b) {event : BoardEvent}
    (allowed : event ≠ .read 4) : Serial (b.step event) := by
  cases event with
  | setpin n state => exact serial.frame rfl rfl
  | read n =>
      have other : shiftInPs ≠ n.toNat := fun same =>
        allowed (congrArg BoardEvent.read (UInt8.toNat_inj.mp same.symm))
      change Serial (tasterportRead b n).2
      unfold tasterportRead
      split
      · exact serial
      · split
        · obtain ⟨inStages, direct⟩ := direct_eq (b := b) (n := n.toNat) (by omega)
          dsimp only
          rw [direct]
          refine ⟨?_, ?_⟩
          · change (setBit b.ddrC n.toNat false).getLsbD shiftInPs = true
            rw [getLsbD_setBit _ (by decide), if_neg other, serial.psDdr]
          · change (setBit b.portC n.toNat true).getLsbD shiftInPs = false
            rw [getLsbD_setBit _ (by decide), if_neg other, serial.ps]
        · split
          · exact serial.frame rfl rfl
          · split
            · exact (isBit_kept (n.toNat - 16) idle).serial serial
            · exact serial
  | refresh =>
      obtain ⟨c, inStages, kept, -, refreshed⟩ := refresh_eq idle
      change Serial (shiftOutTimerHandler b)
      rw [refreshed]
      exact (kept.serial serial).frame rfl rfl
  | outside outside => exact serial.frame rfl rfl

theorem run_serial {width : Nat} {l : Lamps} (shows : Shows width b l) (serial : Serial b)
    {events : List BoardEvent} (allowed : ∀ event ∈ events, event ≠ .read 4) :
    Serial (b.run events) := by
  induction events generalizing b l with
  | nil => exact serial
  | cons event events ih =>
      exact ih (step_shows shows event)
        (step_serial shows.idle serial (allowed event (List.mem_cons_self ..)))
        fun later inside => allowed later (List.mem_cons_of_mem _ inside)

/-- As long as the port 4 is not read, the taster port `16 + k` is the input `k`, whatever outputs
were set and refreshed in between. -/
theorem shift_inputs (outside : Outside) (stages outputs inStages : List Bool)
    {events : List BoardEvent} (allowed : ∀ event ∈ events, event ≠ .read 4) {k : Nat}
    (few : k < 228)
    (input :
      k < ((boot (.reset outside stages outputs inStages)).run events).outside.inputs.length) :
    (tasterportRead ((boot (.reset outside stages outputs inStages)).run events)
        (UInt8.ofNat (16 + k))).1 =
      if ((boot (.reset outside stages outputs inStages)).run events).outside.inputs.get ⟨k, input⟩
      then 1 else 0 := by
  have start := boot_shows outside stages outputs inStages
  have idle := (run_shows start events).idle
  have serial := run_serial start (boot_eq outside stages outputs inStages).2.2 allowed
  rw [tasterportRead_chain few, isBit_serial idle serial input]

theorem shift_inputs_nine :
    (∀ event ∈ [BoardEvent.setpin 21 true, .refresh, .read 5, .read 17], event ≠ .read 4) ∧
      1 < 228 ∧ ∃ input, (tasterportRead
        ((boot (.reset ⟨0, 0, [true, false], false⟩ (List.replicate 16 true) [] [])).run
          [.setpin 21 true, .refresh, .read 5, .read 17]) (UInt8.ofNat (16 + 1))).1 =
        if ((boot (.reset ⟨0, 0, [true, false], false⟩ (List.replicate 16 true) [] [])).run
          [.setpin 21 true, .refresh, .read 5, .read 17]).outside.inputs.get ⟨1, input⟩
        then 1 else 0 := by
  have allowed : ∀ event ∈ [BoardEvent.setpin 21 true, .refresh, .read 5, .read 17],
      event ≠ .read 4 := by decide
  have input : 1 < ((boot (.reset ⟨0, 0, [true, false], false⟩ (List.replicate 16 true) [] [])).run
      [.setpin 21 true, .refresh, .read 5, .read 17]).outside.inputs.length := by
    decide +kernel
  exact ⟨allowed, by decide, input, shift_inputs _ _ _ _ allowed (by decide) input⟩

/-! ## The port 4 -/

/-- PS is not driven any more. -/
def Lost (b : Board) : Prop := b.ddrC.getLsbD shiftInPs = false

theorem Kept.lost (kept : Kept b c) (lost : Lost b) : Lost c := by
  rw [Lost, kept.ddrC]
  exact lost

theorem setDdr_lost {n : Nat} (lost : Lost b ∨ n = shiftInPs) :
    (setBit b.ddrC n false).getLsbD shiftInPs = false := by
  rw [getLsbD_setBit _ (by decide)]
  rcases lost with before | here
  · rw [before, ite_self]
  · rw [if_pos here.symm]

theorem read_lost {n : UInt8} (idle : Idle b) (lost : Lost b ∨ n.toNat = shiftInPs) :
    Lost (tasterportRead b n).2 := by
  have four : shiftInPs = 4 := rfl
  have before : n.toNat ≠ shiftInPs → Lost b := lost.resolve_right
  unfold tasterportRead
  split
  · exact before (by omega)
  · split
    · obtain ⟨inStages, direct⟩ := direct_eq (b := b) (n := n.toNat) (by omega)
      dsimp only
      rw [direct]
      exact setDdr_lost lost
    · have still := before (by omega)
      split
      · exact still
      · split
        · exact (isBit_kept (n.toNat - 16) idle).lost still
        · exact still

theorem step_lost (idle : Idle b) (lost : Lost b) (event : BoardEvent) : Lost (b.step event) := by
  cases event with
  | setpin n state => exact lost
  | read n => exact read_lost idle (.inl lost)
  | refresh =>
      obtain ⟨c, inStages, kept, -, refreshed⟩ := refresh_eq idle
      change Lost (shiftOutTimerHandler b)
      rw [refreshed]
      exact kept.lost lost
  | outside outside => exact lost

theorem run_lost {width : Nat} {l : Lamps} (shows : Shows width b l) {events : List BoardEvent}
    (lost : Lost b ∨ .read 4 ∈ events) : Lost (b.run events) := by
  induction events generalizing b l with
  | nil => exact lost.resolve_right List.not_mem_nil
  | cons event events ih =>
      refine ih (step_shows shows event) ?_
      rcases lost with before | inside
      · exact .inl (step_lost shows.idle before event)
      · rcases List.mem_cons.mp inside with here | later
        · subst here
          exact .inl (read_lost shows.idle (.inr rfl))
        · exact .inr later

theorem levelC_lost (lost : Lost b) : b.levelC shiftInPs = b.outside.pinC.getLsbD shiftInPs := by
  have direction : ¬ b.ddrC.getLsbD shiftInPs = true := by
    rw [show b.ddrC.getLsbD shiftInPs = false from lost]
    decide
  rw [Board.levelC, if_neg direction, if_neg (by decide)]

/-- With PS high the 4021 do not shift. -/
theorem clocks_lost (n : Nat) (idle : Idle b) (lost : Lost b)
    (high : b.outside.pinC.getLsbD shiftInPs = true) (loaded : b.inStages = b.outside.inputs) :
    (doClkInput^[n] b).inStages = b.outside.inputs := by
  induction n generalizing b with
  | zero => exact loaded
  | succ n ih =>
      have kept : Kept b (doClkInput b) := clock_kept idle
      have again : (doClkInput b).inStages = b.outside.inputs := by
        rw [doClkInput, pulse_sck idle, levelC_lost lost, high]
        rfl
      have next := ih (kept.idle idle) (kept.lost lost) (by rw [kept.outside]; exact high)
        (by rw [kept.outside]; exact again)
      rw [Function.iterate_succ_apply, next, kept.outside]

theorem store_lost (lost : Lost b) (high : b.outside.pinC.getLsbD shiftInPs = true) :
    (storeFromParallelInputs b).inStages = b.outside.inputs := by
  have level : Board.levelC { b with portC := setBit b.portC shiftInPs true } shiftInPs = true := by
    rw [levelC_lost (b := { b with portC := setBit b.portC shiftInPs true }) lost, high]
  have loaded : (b.setPortC shiftInPs true).inStages = b.outside.inputs := by
    rw [setPortC_still (.inl ⟨by decide, by decide⟩), level]
    rfl
  have outside : (b.setPortC shiftInPs true).outside = b.outside := rfl
  rw [storeFromParallelInputs, Board.pulse, setPortC_still (.inr rfl), loaded, outside, ite_self]

/-- The port 4 is the line PS, though only the ports 0 to 3 are excluded: once it was read, PS is
not driven, and as long as it is seen high every taster port of the chain is its first input. -/
theorem shift_inputs_lost (outside : Outside) (stages outputs inStages : List Bool)
    {events : List BoardEvent} (read : .read 4 ∈ events) {b : Board}
    (reached : (boot (.reset outside stages outputs inStages)).run events = b) :
    Lost b ∧ ∀ k first rest, k < 228 → b.outside.pinC.getLsbD shiftInPs = true →
      b.outside.inputs = first :: rest →
        (tasterportRead b (UInt8.ofNat (16 + k))).1 = if first then 1 else 0 := by
  have start := boot_shows outside stages outputs inStages
  subst reached
  have idle := (run_shows start events).idle
  have lost := run_lost start (.inr read)
  refine ⟨lost, fun k first rest few high inputs => ?_⟩
  generalize (boot (.reset outside stages outputs inStages)).run events = b at *
  have stored := store_kept b
  have loaded := clocks_lost k (stored.idle idle) (stored.lost lost)
    (by rw [stored.outside]; exact high) (by rw [store_lost lost high, stored.outside])
  rw [stored.outside, inputs] at loaded
  rw [tasterportRead_chain few, isBit_head k idle (by rw [loaded]; rfl)]

/-- The second input of the chain is low and reads as the first one, which is high. -/
theorem shift_inputs_lost_two :
    .read 4 ∈ [BoardEvent.read 17, .read 4, .refresh] ∧
      Lost ((boot (.reset ⟨0, 0x10#8, [true, false], false⟩ [] [] [])).run
        [.read 17, .read 4, .refresh]) ∧
      (tasterportRead ((boot (.reset ⟨0, 0x10#8, [true, false], false⟩ [] [] [])).run
        [.read 17, .read 4, .refresh]) (UInt8.ofNat (16 + 1))).1 = if true then 1 else 0 := by
  have read : .read 4 ∈ [BoardEvent.read 17, .read 4, .refresh] := by decide
  obtain ⟨lost, answers⟩ :=
    shift_inputs_lost ⟨0, 0x10#8, [true, false], false⟩ [] [] [] read rfl
  exact ⟨read, lost, answers 1 true [false] (by decide) (by decide +kernel) (by decide +kernel)⟩

end Hcan.Controller.Shiftio
