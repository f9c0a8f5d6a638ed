import Hcan.Canix.Sending

/-!
# The transmit buffers while the controller works

The controller clears TXREQ of a buffer that it has sent, at any moment, also between two
register reads of the driver.  Both tests of the driver are followed over such moments.
-/

namespace Hcan.Canix

open Hcan.Library

/-- The three transmit buffers. -/
def txIndex (buffer : Fin 3) : UInt8 := UInt8.ofNat buffer.val

theorem txIndex_cases (buffer : Fin 3) :
    txIndex buffer = 0 ∨ txIndex buffer = 1 ∨ txIndex buffer = 2 := by
  revert buffer
  decide

theorem txIndex_ne_iff {buffer other : Fin 3} :
    txIndex buffer ≠ txIndex other ↔ buffer ≠ other := by
  revert buffer other
  decide

/-- A transmission has ended. -/
def Mcp2515.transmitted (chip : Mcp2515) (buffer : Fin 3) : Mcp2515 :=
  chip.bitModify (ofBuffer txb0ctrl (txIndex buffer)) txreq 0

/-- A burst leaves the registers behind it alone. -/
theorem Mcp2515.writeRegisterP_above (chip : Mcp2515) (address : UInt8) (bytes : List UInt8)
    {other : UInt8} (fits : address.toNat + bytes.length ≤ 256)
    (above : address.toNat + bytes.length ≤ other.toNat) :
    (chip.writeRegisterP address bytes).reg other = chip.reg other := by
  induction bytes generalizing chip address with
  | nil => rfl
  | cons byte bytes ih =>
      rw [List.length_cons] at fits above
      have apart : other ≠ address := ne_of_toNat (by omega)
      have up : (address + 1).toNat = address.toNat + 1 :=
        Mcp2515.toNat_succ (by have := other.toNat_lt; omega)
      rw [writeRegisterP, ih _ _ (by omega) (by omega), chip.writeRegister_other byte apart]

/-- Loading a buffer leaves the registers of the other ones alone. -/
theorem loadTxBuffer_other (chip : Mcp2515) {buffer other : Fin 3} (id : UInt32)
    {data : List UInt8} (length : UInt8) (fits : data.length ≤ 8) (apart : other ≠ buffer)
    {register : UInt8} (low : (ofBuffer txb0ctrl (txIndex other)).toNat ≤ register.toNat)
    (high : register.toNat < (ofBuffer txb0ctrl (txIndex other)).toNat + 16) :
    (loadTxBuffer chip (txIndex buffer) id data length).reg register = chip.reg register := by
  obtain ⟨ctrl, sidh, dlc, d0, upper⟩ := buffer_places (txIndex_cases buffer)
  obtain ⟨there, -, -, -, last⟩ := buffer_places (txIndex_cases other)
  have numbers : (txIndex other).toNat ≠ (txIndex buffer).toNat :=
    fun same => txIndex_ne_iff.mpr apart (UInt8.toNat_inj.mp same)
  have four : (idRegisters id).length = 4 := rfl
  unfold loadTxBuffer
  rw [Mcp2515.bitModify_other _ _ _ (ne_of_toNat (by omega))]
  rcases Nat.lt_or_gt_of_ne numbers with below | above
  · rw [Mcp2515.writeRegisterP_below _ _ _ (by omega) (by omega),
      Mcp2515.writeRegister_other _ _ (ne_of_toNat (by omega)),
      Mcp2515.writeRegisterP_below _ _ _ (by omega) (by omega)]
  · rw [Mcp2515.writeRegisterP_above _ _ _ (by omega) (by omega),
      Mcp2515.writeRegister_other _ _ (ne_of_toNat (by omega)),
      Mcp2515.writeRegisterP_above _ _ _ (by omega) (by omega)]

theorem canSendable_congr {chip other : Mcp2515} {index : UInt8}
    (same : chip.reg (ofBuffer txb0ctrl index) = other.reg (ofBuffer txb0ctrl index)) :
    canSendable chip index = canSendable other index := by
  unfold canSendable Mcp2515.readRegister
  rw [same]

theorem txreq_cleared (control : UInt8) :
    ((control &&& ~~~txreq) ||| ((0 : UInt8) &&& txreq)) &&& txreq = 0 := by
  revert control
  exact forall_byte (by decide +kernel)

theorem txreq_set (control : UInt8) :
    ((control &&& ~~~txreq) ||| (txreq &&& txreq)) &&& txreq ≠ 0 := by
  revert control
  exact forall_byte (by decide +kernel)

theorem ofBuffer_ctrl_ne {buffer other : Fin 3} (apart : other ≠ buffer) :
    ofBuffer txb0ctrl (txIndex other) ≠ ofBuffer txb0ctrl (txIndex buffer) := by
  revert buffer other
  decide

theorem canSendable_transmitted (chip : Mcp2515) (buffer other : Fin 3) :
    canSendable (chip.transmitted buffer) (txIndex other) =
      (decide (other = buffer) || canSendable chip (txIndex other)) := by
  by_cases same : other = buffer
  · rw [same, decide_eq_true rfl, Bool.true_or]
    refine decide_eq_true ?_
    unfold Mcp2515.transmitted Mcp2515.bitModify Mcp2515.readRegister
    rw [Mcp2515.writeRegister_same]
    exact txreq_cleared _
  · rw [decide_eq_false same, Bool.false_or]
    exact canSendable_congr (chip.bitModify_other _ _ (ofBuffer_ctrl_ne same))

theorem canSendable_load (chip : Mcp2515) (buffer other : Fin 3) (id : UInt32) {data : List UInt8}
    (length : UInt8) (fits : data.length ≤ 8) :
    canSendable (loadTxBuffer chip (txIndex buffer) id data length) (txIndex other) =
      (decide (other ≠ buffer) && canSendable chip (txIndex other)) := by
  by_cases same : other = buffer
  · rw [same, decide_eq_false fun apart => apart rfl, Bool.false_and]
    refine decide_eq_false ?_
    unfold loadTxBuffer Mcp2515.bitModify Mcp2515.readRegister
    rw [Mcp2515.writeRegister_same]
    exact txreq_set _
  · rw [decide_eq_true same, Bool.true_and]
    exact canSendable_congr (loadTxBuffer_other chip id length fits same (Nat.le_refl _) (by omega))

/-! ## The tests of the driver -/

section Driver

variable {σ : Type*} (chip : σ → Mcp2515) (hw : ℕ → σ → σ)

/-- `can_any_sendable`; `hw k` is what the controller does up to the register read `k`. -/
def anySendable (s : σ) : Bool × σ :=
  let s := hw 0 s
  if canSendable (chip s) (txIndex 0) then (true, s)
  else
    let s := hw 1 s
    if canSendable (chip s) (txIndex 1) then (true, s)
    else
      let s := hw 2 s
      (canSendable (chip s) (txIndex 2), s)

/-- The three tests at the begin of `can_send_message`. -/
def freeBuffer (s : σ) : Option (Fin 3) × σ :=
  let s := hw 0 s
  if canSendable (chip s) (txIndex 0) then (some 0, s)
  else
    let s := hw 1 s
    if canSendable (chip s) (txIndex 1) then (some 1, s)
    else
      let s := hw 2 s
      if canSendable (chip s) (txIndex 2) then (some 2, s) else (none, s)

/-- Where the controller rests, these are the tests of one moment. -/
theorem anySendable_rest (s : σ) :
    anySendable chip (fun _ s => s) s = (canAnySendable (chip s), s) := by
  change _ = (canSendable (chip s) (txIndex 0) || canSendable (chip s) (txIndex 1) ||
    canSendable (chip s) (txIndex 2), s)
  unfold anySendable
  dsimp only
  cases canSendable (chip s) (txIndex 0) <;> cases canSendable (chip s) (txIndex 1) <;> rfl

theorem freeBuffer_rest (s : σ) :
    ((freeBuffer chip (fun _ s => s) s).1.map txIndex, (freeBuffer chip (fun _ s => s) s).2) =
      (freeTxBuffer (chip s), s) := by
  change _ = (if canSendable (chip s) (txIndex 0) = true then some (txIndex 0)
    else if canSendable (chip s) (txIndex 1) = true then some (txIndex 1)
    else if canSendable (chip s) (txIndex 2) = true then some (txIndex 2) else none, s)
  unfold freeBuffer
  dsimp only
  cases canSendable (chip s) (txIndex 0) <;> cases canSendable (chip s) (txIndex 1) <;>
    cases canSendable (chip s) (txIndex 2) <;> rfl

variable {chip hw}

/-- What the controller keeps holds behind the tests. -/
theorem anySendable_keeps {holds : σ → Prop} (keeps : ∀ place s, holds s → holds (hw place s))
    {s : σ} (start : holds s) : holds (anySendable chip hw s).2 := by
  have zero := keeps 0 s start
  have one := keeps 1 _ zero
  have two := keeps 2 _ one
  unfold anySendable
  dsimp only
  split
  · exact zero
  · split
    · exact one
    · exact two

theorem freeBuffer_keeps {holds : σ → Prop} (keeps : ∀ place s, holds s → holds (hw place s))
    {s : σ} (start : holds s) : holds (freeBuffer chip hw s).2 := by
  have zero := keeps 0 s start
  have one := keeps 1 _ zero
  have two := keeps 2 _ one
  unfold freeBuffer
  dsimp only
  split
  · exact zero
  · split
    · exact one
    · split
      · exact two
      · exact two

/-- The buffer that is found is free. -/
theorem freeBuffer_free {s : σ} {buffer : Fin 3}
    (found : (freeBuffer chip hw s).1 = some buffer) :
    canSendable (chip (freeBuffer chip hw s).2) (txIndex buffer) = true := by
  unfold freeBuffer at found ⊢
  dsimp only at found ⊢
  split at found
  case isTrue zero =>
    rw [if_pos zero, ← Option.some.inj found]
    exact zero
  case isFalse zero =>
    rw [if_neg zero]
    split at found
    case isTrue one =>
      rw [if_pos one, ← Option.some.inj found]
      exact one
    case isFalse one =>
      rw [if_neg one]
      split at found
      case isTrue two =>
        rw [if_pos two, ← Option.some.inj found]
        exact two
      case isFalse two => cases found

/-- A test that finds none has found each buffer pending. -/
theorem freeBuffer_none {s : σ} (found : (freeBuffer chip hw s).1 = none) :
    ¬ canSendable (chip (hw 0 s)) (txIndex 0) = true ∧
      ¬ canSendable (chip (hw 1 (hw 0 s))) (txIndex 1) = true ∧
      ¬ canSendable (chip (hw 2 (hw 1 (hw 0 s)))) (txIndex 2) = true := by
  unfold freeBuffer at found
  dsimp only at found
  split at found
  case isTrue => cases found
  case isFalse zero =>
    split at found
    case isTrue => cases found
    case isFalse one =>
      split at found
      case isTrue => cases found
      case isFalse two => exact ⟨zero, one, two⟩

theorem anySendable_free {s : σ} (any : (anySendable chip hw s).1 = true) :
    ∃ buffer, canSendable (chip (anySendable chip hw s).2) (txIndex buffer) = true := by
  unfold anySendable at any ⊢
  dsimp only at any ⊢
  split at any
  case isTrue zero => exact ⟨0, by rwa [if_pos zero]⟩
  case isFalse zero =>
    rw [if_neg zero]
    split at any
    case isTrue one => exact ⟨1, by rwa [if_pos one]⟩
    case isFalse one => exact ⟨2, by rwa [if_neg one]⟩

/-- The controller does not take a free buffer. -/
def KeepsFree (chip : σ → Mcp2515) (hw : ℕ → σ → σ) : Prop :=
  ∀ place s buffer, canSendable (chip s) (txIndex buffer) = true →
    canSendable (chip (hw place s)) (txIndex buffer) = true

/-- Behind a test that found a free buffer the other test finds one, too. -/
theorem freeBuffer_isSome (keeps : KeepsFree chip hw) {asked : ℕ → σ → σ} {s : σ}
    (any : (anySendable chip asked s).1 = true) :
    (freeBuffer chip hw (anySendable chip asked s).2).1.isSome = true := by
  obtain ⟨buffer, free⟩ := anySendable_free any
  generalize (anySendable chip asked s).2 = s at free ⊢
  have zero := keeps 0 s buffer free
  have one := keeps 1 _ buffer zero
  have two := keeps 2 _ buffer one
  refine Option.isSome_iff_ne_none.mpr fun found => ?_
  obtain ⟨busyZero, busyOne, busyTwo⟩ := freeBuffer_none found
  match buffer with
  | 0 => exact busyZero zero
  | 1 => exact busyOne one
  | 2 => exact busyTwo two

end Driver

end Hcan.Canix
