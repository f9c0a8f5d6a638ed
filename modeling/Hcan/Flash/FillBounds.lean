import Hcan.Flash.Exchange

/-!
# The bounds of the page buffer

A FILL frame stores four bytes at the index it carries.  Both boot loaders have the same loop;
neither compares the index with the size of the buffer, nor the length of a frame with that of
the array it is read into.
-/

namespace Hcan.Flash

open Hcan.Canix Hcan.Library

variable {c : Controller}

/-- The loop of `HCAN_HMS_FLASH_BUFFER_FILL`, with its count of rounds. -/
def fillLoop (flashBuffer : Vector UInt8 c.pageSize) (data : Vector UInt8 8) :
    Nat → Option (Vector UInt8 c.pageSize) :=
  fun rounds => copyAt (fun i => data[3 + i]) data[2].toNat rounds flashBuffer

/-- The four stores of the loop are the ones of the boot loader's model. -/
theorem fillBuffer_eq_fillLoop (flashBuffer : Vector UInt8 c.pageSize) (data : Vector UInt8 8) :
    BootLoader.fillBuffer flashBuffer data = fillLoop flashBuffer data 4 := by
  by_cases room : data[2].toNat + 3 < c.pageSize
  · rw [BootLoader.fillBuffer, dif_pos room, fillLoop]
    simp only [copyAt, Option.bind_eq_bind, Option.bind_some, Nat.add_zero]
    rw [dif_pos (by omega), Option.bind_some, dif_pos (by omega), Option.bind_some,
      dif_pos (by omega), Option.bind_some, dif_pos room]
  · rw [BootLoader.fillBuffer, dif_neg room]
    have outside : ¬ (fillLoop flashBuffer data 4).isSome := by
      rw [fillLoop, copyAt_isSome]
      exact fun inside => room (inside 3 (by decide))
    exact (Option.not_isSome_iff_eq_none.mp outside).symm

theorem fillBuffer_isSome (flashBuffer : Vector UInt8 c.pageSize) (data : Vector UInt8 8) :
    (BootLoader.fillBuffer flashBuffer data).isSome ↔ data[2].toNat + 3 < c.pageSize := by
  rw [fillBuffer_eq_fillLoop, fillLoop, copyAt_isSome]
  constructor
  · exact fun inside => inside 3 (by decide)
  · intro room i round
    omega

/-- A FILL frame, for any receiver. -/
structure IsFill (frame : CanixFrame) : Prop where
  long : 2 ≤ frame.size
  service : frame.data[0] = hcanSrvHms
  command : frame.data[1] = hcanHmsFlashBufferFill

namespace BootLoader

/-- The index of a FILL frame; a frame of two bytes leaves the one in the array. -/
def fillIndex (b : BootLoader c) (frame : CanixFrame) : UInt8 :=
  if 2 < frame.size then frame.data[2] else b.data[2]

theorem read_index (b : BootLoader c) (frame : CanixFrame) :
    (b.read frame).data[2] = b.fillIndex frame := by
  have byte : (b.read frame).data.get ⟨2, by decide⟩ =
      if 2 < frame.size.toNat then frame.data.toList.getD 2 0 else b.data.get ⟨2, by decide⟩ :=
    overlay_getElem (fun i => frame.data.toList.getD i 0) frame.size.toNat b.data (by decide)
  have stale : b.data[2] = b.data.get ⟨2, by decide⟩ := byte_eq (by decide)
  rw [byte_eq (by decide), byte, fillIndex, stale]
  rfl

theorem handleHms_isSome {b : BootLoader c} (request : CanixFrame)
    (fill : b.data[1] = hcanHmsFlashBufferFill) :
    (b.handleHms request).isSome ↔ b.data[2].toNat + 3 < c.pageSize := by
  rw [← fillBuffer_isSome b.flashBuffer b.data]
  cases stored : BootLoader.fillBuffer b.flashBuffer b.data with
  | none =>
      rw [BootLoader.handleHms, fill, if_neg (by decide), if_neg (by decide),
        if_neg (by decide), if_neg (by decide), if_neg (by decide), if_neg (by decide),
        if_pos rfl, stored]
      simp
  | some buffer =>
      rw [handleHms_fill request fill rfl stored]
      refine iff_of_true ?_ rfl
      split <;> rfl

/-- A frame that is longer than the array is copied behind its end. -/
theorem handle_overrun {b : BootLoader c} (inApp : b.inApp = false) {frame : CanixFrame}
    (long : 8 < frame.size.toNat) : b.handle frame = none := by
  rw [BootLoader.handle, if_neg (by rw [inApp]; exact Bool.false_ne_true),
    copyInto_of_lt _ b.data long]
  rfl

/-- A pass of the main loop over a FILL frame stores inside its arrays exactly when the frame has
at most eight bytes, and its index leaves room for four bytes if the boot loader listens to its
receiver. -/
theorem handle_isSome_iff (b : BootLoader c) {frame : CanixFrame} (fill : IsFill frame) :
    (b.handle frame).isSome ↔ b.inApp = true ∨ frame.size ≤ 8 ∧
      (b.Accepts frame.dst → (b.fillIndex frame).toNat ≤ c.pageSize - 4) := by
  have four : 4 ≤ c.pageSize := by cases c <;> decide
  have two : 2 ≤ frame.size.toNat := fill.long
  cases inApp : b.inApp with
  | true =>
      rw [handle_inApp inApp]
      exact iff_of_true rfl (.inl rfl)
  | false =>
      by_cases fits : frame.size.toNat ≤ 8
      · have short : frame.size ≤ 8 := fits
        rw [handle_eq inApp fits, read_data b frame (by decide) (by omega)]
        by_cases accepts : b.Accepts frame.dst
        · have isFill : (b.read frame).data[1] = hcanHmsFlashBufferFill := by
            rw [read_data b frame (by decide) two]
            exact fill.command
          rw [if_pos ⟨accepts, fill.long, fill.service⟩, handleHms_isSome _ isFill, read_index]
          constructor
          · exact fun room => .inr ⟨short, fun _ => by omega⟩
          · rintro (wrong | ⟨_, room⟩)
            · cases wrong
            · have inside := room accepts
              omega
        · rw [if_neg fun handled => accepts handled.1]
          exact iff_of_true rfl (.inr ⟨short, fun wrong => absurd wrong accepts⟩)
      · rw [handle_overrun inApp (Nat.lt_of_not_le fits)]
        refine iff_of_false Bool.false_ne_true ?_
        rintro (wrong | ⟨short, _⟩)
        · cases wrong
        · exact fits short

end BootLoader

/-- A board of the smallest controller behind a reset. -/
def smallBoard : BootLoader .atmega8 where
  flash _ := 0xff
  eeprom _ := 0xff
  selfAddr := 5
  flashBuffer := Vector.replicate _ 0
  lineCounter := 0
  bootCounter := 0
  data := Vector.replicate 8 0
  inApp := false

/-- A FILL frame of the host to the board 5. -/
def fillFrameAt (index : UInt8) : CanixFrame :=
  ⟨0x3ff, 5, hcanProtoSfp, 7, #v[hcanSrvHms, hcanHmsFlashBufferFill, index, 1, 2, 3, 4, 0]⟩

theorem handle_isSome_iff_smallBoard :
    (smallBoard.handle (fillFrameAt 60)).isSome ↔ smallBoard.inApp = true ∨
      (fillFrameAt 60).size ≤ 8 ∧ (smallBoard.Accepts (fillFrameAt 60).dst →
        (smallBoard.fillIndex (fillFrameAt 60)).toNat ≤ Controller.atmega8.pageSize - 4) :=
  BootLoader.handle_isSome_iff smallBoard ⟨by decide, rfl, rfl⟩

/-- The last of the four bytes for index 61 lies behind a page of 64 bytes. -/
theorem smallBoard_overrun : ¬ (smallBoard.handle (fillFrameAt 61)).isSome := by
  decide +kernel

end Hcan.Flash
