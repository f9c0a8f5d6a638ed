import Hcan.Eds.Defragment
import Hcan.Eds.Format

/-!
# Requests to the EDS service

The write log of each request that changes the block structure is a `Progress`.
The last section is about the allocation that finds no block.
-/

namespace Hcan.Eds

open Hcan.Canix Hcan.Library

variable {mcu : Mcu} {path : List Nat}

/-- The frame asks to free the block at `p`. -/
def Frees (frame : CanixFrame) (p : Nat) : Prop :=
  frame.data[1] = hcanEdsFreeBlock ∧ framePointer frame.data[2] frame.data[3] = p

/-- `eds_alloc` finds a block for the wanted size. -/
def FindsBlock (ee : Eeprom mcu) (size : UInt8) : Prop :=
  ∃ later p, edsAlloc ee size = some (later, p) ∧ p ≠ 0

/-- The requests that work on the block structure; an allocation finds a block. -/
inductive AllocatorRequest (ee : Eeprom mcu) (frame : CanixFrame) : Prop where
  | allocate (command : frame.data[1] = hcanEdsAllocateBlock)
      (finds : FindsBlock ee frame.data[3])
  | free (command : frame.data[1] = hcanEdsFreeBlock)
  | defragment (command : frame.data[1] = hcanEdsDefragment)

theorem edsCanCallback_allocate (self : UInt16) (ee : Eeprom mcu) {frame : CanixFrame}
    (command : frame.data[1] = hcanEdsAllocateBlock) :
    edsCanCallback self ee frame = (edsAlloc ee frame.data[3]).map fun allocated =>
      (edsSetBlockType allocated.1 allocated.2 frame.data[2],
        some (edsAnswer self frame 4 hcanEdsAllocateBlockReplay
          (pointerHi allocated.2) (pointerLo allocated.2) 0 0)) := by
  rw [edsCanCallback, if_neg (by rw [command]; decide), if_pos command]
  cases edsAlloc ee frame.data[3] <;> rfl

theorem edsCanCallback_free (self : UInt16) (ee : Eeprom mcu) {frame : CanixFrame}
    (command : frame.data[1] = hcanEdsFreeBlock) :
    edsCanCallback self ee frame =
      (edsFree ee (framePointer frame.data[2] frame.data[3])).map fun freed =>
        (freed.1, some (edsAnswer self frame 3 hcanEdsFreeBlockReplay freed.2 0 0 0)) := by
  rw [edsCanCallback, if_neg (by rw [command]; decide), if_neg (by rw [command]; decide),
    if_pos command]
  cases edsFree ee (framePointer frame.data[2] frame.data[3]) <;> rfl

theorem edsCanCallback_defragment (self : UInt16) (ee : Eeprom mcu) {frame : CanixFrame}
    (command : frame.data[1] = hcanEdsDefragment) :
    edsCanCallback self ee frame = (edsDefragment ee).map fun merged => (merged, none) := by
  rw [edsCanCallback, if_neg (by rw [command]; decide), if_neg (by rw [command]; decide),
    if_neg (by rw [command]; decide), if_pos command]
  cases edsDefragment ee <;> rfl

theorem edsCanCallback_format (self : UInt16) (ee : Eeprom mcu) {frame : CanixFrame}
    (command : frame.data[1] = hcanEdsFormat) :
    edsCanCallback self ee frame = (edsFormat ee).map fun formated => (formated, none) := by
  rw [edsCanCallback, if_neg (by rw [command]; decide), if_neg (by rw [command]; decide),
    if_neg (by rw [command]; decide), if_neg (by rw [command]; decide),
    if_neg (by rw [command]; decide), if_neg (by rw [command]; decide), if_pos command]
  cases edsFormat ee <;> rfl

theorem edsCanCallback_next (self : UInt16) (ee : Eeprom mcu) {frame : CanixFrame}
    (command : frame.data[1] = hcanEdsGetNextBlock) :
    edsCanCallback self ee frame =
      let h1 := framePointer frame.data[2] frame.data[3]
      let next := if h1 = 0 then edsDataStart else edsNextBlock ee h1
      let h2 := if next ≥ edsEnd mcu then 0 else next
      some (ee, some (edsAnswer self frame 6 hcanEdsGetNextBlockReplay (pointerHi h2)
        (pointerLo h2) (edsBlockType ee h2) (edsBlockSize ee h2))) := by
  rw [edsCanCallback, if_pos command]

theorem edsCanCallback_read (self : UInt16) (ee : Eeprom mcu) {frame : CanixFrame}
    (command : frame.data[1] = hcanEdsReadFromBlock) :
    edsCanCallback self ee frame =
      let h1 := framePointer frame.data[2] frame.data[3]
      let index := frame.data[4].toNat
      some (ee, some (edsAnswer self frame 6 hcanEdsReadFromBlockReplay
        (eepromReadByte ee (ptrAdd h1 index)) (eepromReadByte ee (ptrAdd h1 (index + 1)))
        (eepromReadByte ee (ptrAdd h1 (index + 2)))
        (eepromReadByte ee (ptrAdd h1 (index + 3))))) := by
  rw [edsCanCallback, if_neg (by rw [command]; decide), if_neg (by rw [command]; decide),
    if_neg (by rw [command]; decide), if_neg (by rw [command]; decide), if_pos command]

theorem edsCanCallback_write (self : UInt16) (ee : Eeprom mcu) {frame : CanixFrame}
    (command : frame.data[1] = hcanEdsWriteToBlock) :
    edsCanCallback self ee frame =
      some (eepromWriteByte ee (ptrAdd (framePointer frame.data[2] frame.data[3])
          frame.data[4].toNat) frame.data[5],
        some (edsAnswer self frame 2 hcanEdsWriteToBlockReplay 0 0 0 0)) := by
  rw [edsCanCallback, if_neg (by rw [command]; decide), if_neg (by rw [command]; decide),
    if_neg (by rw [command]; decide), if_neg (by rw [command]; decide),
    if_neg (by rw [command]; decide), if_pos command]

/-- The answer to an allocation names the block at `p`. -/
def AnswersBlock (answer : Option CanixFrame) (p : Nat) : Prop :=
  ∃ reply, answer = some reply ∧ framePointer reply.data[2] reply.data[3] = p

/-- ALLOCATE with a block found. -/
theorem allocate_progress (keep : Nat → Prop) (self : UInt16) (ee : Eeprom mcu) {frame : CanixFrame}
    (command : frame.data[1] = hcanEdsAllocateBlock) (finds : FindsBlock ee frame.data[3])
    (chain : IsChain mcu ee.cell path) (kept : ∀ p, keep p → p ∈ path ∧ ee.cell p ≠ 0) :
    ∃ later answer log newPath p, edsCanCallback self ee frame = some (later, answer) ∧
      ee.Wrote log later ∧ Progress mcu ee.cell keep log newPath ∧ AnswersBlock answer p ∧
      p ∈ newPath ∧ later.cell p = frame.data[2] ∧ later.cell (p + 1) = frame.data[3] ∧
      ee.cell p = 0 ∧ OnlyNew ee.cell later.cell path newPath fun q => q = p := by
  obtain ⟨found, pointer, result, notNull⟩ := finds
  rcases edsAlloc_spec ee frame.data[3] chain with ⟨none_, -⟩ | ⟨p, member, fits, taken⟩
  · rw [none_] at result
    cases result
    exact absurd rfl notNull
  · have loose : ¬ keep p := fun isKept => (kept p isKept).2 fits.1
    obtain ⟨newPath, progress, stillThere, sized, onlyNew⟩ :=
      take_progress chain (fun q isKept => (kept q isKept).1) member loose fits
    have wrote := edsTake_wrote ee chain member fits
    have below := progress.chain.below p stillThere
    have limit := edsEnd_le mcu
    have typed := eepromWriteByte_wrote (edsTake ee p frame.data[3]) below.le frame.data[2]
    refine ⟨eepromWriteByte (edsTake ee p frame.data[3]) p frame.data[2],
      some (edsAnswer self frame 4 hcanEdsAllocateBlockReplay (pointerHi p) (pointerLo p) 0 0),
      _, newPath, p, ?_, wrote.trans typed, progress.writeType stillThere loose frame.data[2],
      ⟨_, rfl, ?_⟩, stillThere, ?_, ?_, fits.1, ?_⟩
    · rw [edsCanCallback_allocate self ee command, taken]
      rfl
    · exact framePointer_bytes (by omega)
    · rw [typed.cell, replay_cons, replay_nil, Function.update_self]
    · rw [typed.cell, replay_cons, replay_nil, Function.update_of_ne (Nat.succ_ne_self p),
        wrote.cell, sized]
    · intro q inside different notFree
      rw [typed.cell, replay_cons, replay_nil, Function.update_of_ne different,
        wrote.cell] at notFree
      exact onlyNew q inside different notFree

/-- FREE of any pointer. -/
theorem free_progress (keep : Nat → Prop) (self : UInt16) (ee : Eeprom mcu) {frame : CanixFrame}
    (command : frame.data[1] = hcanEdsFreeBlock) (chain : IsChain mcu ee.cell path)
    (kept : ∀ p, keep p → p ∈ path ∧ ¬ Frees frame p) :
    ∃ later answer log, edsCanCallback self ee frame = some (later, answer) ∧
      ee.Wrote log later ∧ Progress mcu ee.cell keep log path := by
  have started := Progress.start chain fun p isKept => (kept p isKept).1
  rw [edsCanCallback_free self ee command, edsFree_spec ee _ chain]
  by_cases member : framePointer frame.data[2] frame.data[3] ∈ path
  · rw [if_pos member]
    have loose : ¬ keep (framePointer frame.data[2] frame.data[3]) :=
      fun isKept => (kept _ isKept).2 ⟨command, rfl⟩
    exact ⟨_, _, _, rfl, eepromWriteByte_wrote ee (chain.below _ member).le 0,
      started.writeType member loose 0⟩
  · rw [if_neg member]
    exact ⟨_, _, _, rfl, .refl ee, started⟩

/-- DEFRAGMENT. -/
theorem defragment_progress (keep : Nat → Prop) (self : UInt16) (ee : Eeprom mcu)
    {frame : CanixFrame}
    (command : frame.data[1] = hcanEdsDefragment) (chain : IsChain mcu ee.cell path)
    (kept : ∀ p, keep p → p ∈ path ∧ ee.cell p ≠ 0) :
    ∃ later log newPath, edsCanCallback self ee frame = some (later, none) ∧
      ee.Wrote log later ∧ Progress mcu ee.cell keep log newPath ∧
      OnlyNew ee.cell later.cell path newPath fun _ => False := by
  obtain ⟨later, log, newPath, result, wrote, progress, onlyOld⟩ :=
    edsDefragment_spec ee chain kept
  rw [edsCanCallback_defragment self ee command, result]
  exact ⟨later, log, newPath, rfl, wrote, progress, onlyOld⟩

/-- A request of the allocator is answered; its writes spare every allocated
block that it does not free. -/
theorem request_progress (keep : Nat → Prop) (self : UInt16) (ee : Eeprom mcu) {frame : CanixFrame}
    (request : AllocatorRequest ee frame) (chain : IsChain mcu ee.cell path)
    (kept : ∀ p, keep p → (p ∈ path ∧ ee.cell p ≠ 0) ∧ ¬ Frees frame p) :
    ∃ later answer log newPath, edsCanCallback self ee frame = some (later, answer) ∧
      ee.Wrote log later ∧ Progress mcu ee.cell keep log newPath := by
  cases request with
  | allocate command finds =>
      obtain ⟨later, answer, log, newPath, p, result, wrote, progress, -⟩ :=
        allocate_progress keep self ee command finds chain fun p isKept => (kept p isKept).1
      exact ⟨later, answer, log, newPath, result, wrote, progress⟩
  | free command =>
      obtain ⟨later, answer, log, result, wrote, progress⟩ :=
        free_progress keep self ee command chain fun p isKept =>
          ⟨(kept p isKept).1.1, (kept p isKept).2⟩
      exact ⟨later, answer, log, path, result, wrote, progress⟩
  | defragment command =>
      obtain ⟨later, log, newPath, result, wrote, progress, -⟩ :=
        defragment_progress keep self ee command chain fun p isKept => (kept p isKept).1
      exact ⟨later, none, log, newPath, result, wrote, progress⟩

/-! ## A request without a block -/

/-- The wanted failure of an allocation: pointer 0 and an unchanged EEPROM. -/
def RefusesCleanly (self : UInt16) (ee : Eeprom mcu) (frame : CanixFrame) : Prop :=
  ∃ later answer, edsCanCallback self ee frame = some (later, answer) ∧
    AnswersBlock answer 0 ∧ later.cell = ee.cell

theorem edsAlloc_refused {ee : Eeprom mcu} {size : UInt8} (wellFormed : WellFormed mcu ee.cell)
    (refused : ¬ FindsBlock ee size) : edsAlloc ee size = some (ee, 0) := by
  obtain ⟨path, chain⟩ := wellFormed
  rcases edsAlloc_spec ee size chain with ⟨result, -⟩ | ⟨p, member, -, result⟩
  · exact result
  · have low := chain.dataStart_le member
    have start : edsDataStart = 34 := rfl
    exact absurd ⟨_, p, result, by omega⟩ refused

/-- A refused allocation meets its contract exactly when the byte at address 0
already is the requested type: the handler writes the type through the pointer 0. -/
theorem refusesCleanly_iff (self : UInt16) (ee : Eeprom mcu) {frame : CanixFrame}
    (wellFormed : WellFormed mcu ee.cell) (command : frame.data[1] = hcanEdsAllocateBlock)
    (refused : ¬ FindsBlock ee frame.data[3]) :
    RefusesCleanly self ee frame ↔ ee.cell 0 = frame.data[2] := by
  have notFound := edsAlloc_refused wellFormed refused
  have typed := eepromWriteByte_wrote ee (Nat.zero_le mcu.edsDataEnd) frame.data[2]
  have answered := edsCanCallback_allocate self ee command
  rw [notFound, Option.map_some] at answered
  have cells : (edsSetBlockType ee 0 frame.data[2]).cell =
      Function.update ee.cell 0 frame.data[2] := typed.cell
  constructor
  · rintro ⟨later, answer, result, -, same⟩
    rw [answered] at result
    cases result
    rw [cells, Function.update_eq_self_iff] at same
    exact same.symm
  · intro same
    refine ⟨_, _, answered, ⟨_, rfl, framePointer_bytes (Nat.succ_pos 65535)⟩, ?_⟩
    rw [cells, Function.update_eq_self_iff]
    exact same.symm

/-- A 1 KiB area filled by four allocated blocks; byte 0 is `EEPR_APP_START`. -/
def fullArea (address : Nat) : UInt8 :=
  if address = 0 then 32
  else if address = 34 ∨ address = 291 ∨ address = 548 ∨ address = 805 then 12
  else if address = 35 ∨ address = 292 ∨ address = 549 then 255
  else if address = 806 then 217
  else 0

theorem fullArea_isChain : IsChain atmega32 fullArea [34, 291, 548, 805] where
  walk := .step (.step (.step (.step (.arrived _))))
  below := by decide

theorem fullArea_refuses (size : UInt8) :
    ¬ FindsBlock (Eeprom.powerUp fullArea : Eeprom atmega32) size := by
  rintro ⟨later, p, found, notNull⟩
  rcases edsAlloc_spec (Eeprom.powerUp fullArea : Eeprom atmega32) size fullArea_isChain with
    ⟨result, -⟩ | ⟨q, member, fits, -⟩
  · rw [result] at found
    cases found
    exact notNull rfl
  · have allocated : ∀ q ∈ [34, 291, 548, 805], fullArea q ≠ 0 := by decide
    exact allocated q member fits.1

/-- ALLOCATE of a shutter block with the size 5. -/
def allocateRolladen : CanixFrame where
  src := 2
  dst := 7
  proto := hcanProtoSfp
  size := 4
  data := #v[hcanSrvEds, hcanEdsAllocateBlock, 12, 5, 0, 0, 0, 0]

/-- On the full area the request overwrites the byte at address 0 with the type. -/
theorem fullArea_type_written :
    WellFormed atmega32 fullArea ∧
      ¬ FindsBlock (Eeprom.powerUp fullArea : Eeprom atmega32) allocateRolladen.data[3] ∧
      ¬ RefusesCleanly 7 (Eeprom.powerUp fullArea : Eeprom atmega32) allocateRolladen := by
  refine ⟨⟨_, fullArea_isChain⟩, fullArea_refuses _, ?_⟩
  rintro ⟨later, answer, result, -, same⟩
  have written : (edsCanCallback 7 (Eeprom.powerUp fullArea : Eeprom atmega32)
      allocateRolladen).map (fun served => served.1.cell 0) = some 12 := by decide +kernel
  rw [result, Option.map_some, same] at written
  exact absurd written (by decide)

theorem refusesCleanly_iff_fullArea :
    RefusesCleanly 7 (Eeprom.powerUp fullArea : Eeprom atmega32) allocateRolladen ↔
      fullArea 0 = 12 :=
  refusesCleanly_iff 7 _ ⟨_, fullArea_isChain⟩ rfl (fullArea_refuses _)

end Hcan.Eds
