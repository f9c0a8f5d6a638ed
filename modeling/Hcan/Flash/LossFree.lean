import Hcan.Flash.Verify

/-!
# Runs without losses

Inside the images no step of an attempt is without a result, and when every frame
arrives every request is answered.
-/

namespace Hcan.Flash

open Hcan.Canix Hcan.Host Hcan.Library Hcan.Library.Program

variable {c : Controller} {faults : Faults} {bcon : BoardConnection}

def lossFree : Faults := fun _ => Fault.absent

section Defined

variable {image : List UInt8} {offset : Nat}

theorem total_send {frame : CanixFrame}
    (defined : ∀ b : BootLoader c, b.handle frame ≠ none) : Total (send (c := c) faults frame) := by
  refine total_step fun n stuck => ?_
  have unsent := Option.map_eq_none_iff.mp stuck
  unfold Net.afterSend at unsent
  simp only at unsent
  split at unsent
  · cases unsent
  · exact defined n.board (Option.map_eq_none_iff.mp unsent)

theorem handle_defined {frame : CanixFrame} {b : BootLoader c} (most : frame.size.toNat ≤ 8)
    (defined : b.handle frame = (b.read frame).handleHms frame →
      ∃ result, b.handle frame = some result) : b.handle frame ≠ none := by
  rcases handle_cases b most with ⟨_, silent⟩ | command
  · rw [silent]
    exact Option.some_ne_none _
  · obtain ⟨result, isResult⟩ := defined command
    rw [isResult]
    exact Option.some_ne_none _

theorem fill_defined {index : UInt8} (room : index.toNat + 3 < c.pageSize) (d0 d1 d2 d3 : UInt8)
    (b : BootLoader c) : b.handle (fillFrame bcon index d0 d1 d2 d3) ≠ none := by
  refine handle_defined (by decide : (7 : UInt8).toNat ≤ 8) fun command => ?_
  obtain ⟨_, answered, _⟩ := answer_fill room d0 d1 d2 d3 command
  exact ⟨_, answered⟩

theorem write_defined {lsb msb : UInt8}
    (spared : framePointer msb lsb % c.flashSize < c.bootloaderAddress) (b : BootLoader c) :
    b.handle (writeFrame bcon lsb msb) ≠ none := by
  refine handle_defined (by decide : (4 : UInt8).toNat ≤ 8) fun command => ?_
  obtain ⟨_, answered, _⟩ := answer_write command
  rw [if_neg (Nat.not_le_of_lt spared)] at answered
  exact ⟨_, answered⟩

theorem total_recv (size command : UInt8) : Total (recv (c := c) bcon size command) := by
  intro n stuck
  have ends : Ends (recv bcon size command) n _ _ := recv_ends size command n
  unfold Ends at ends
  rw [stuck] at ends
  exact ends

theorem total_byteOf {i : Nat} (inside : i < image.length) : Total (byteOf (c := c) image i) := by
  refine total_step fun n stuck => ?_
  rw [List.getElem?_eq_getElem inside] at stuck
  cases stuck

theorem total_fillFrames (start : Nat) (inPage : start + 16 ≤ c.pageSize)
    (inImage : offset + start + 16 ≤ image.length) {frames i : Nat} (four : i + frames = 4) :
    Total (fillFrames (c := c) faults bcon image offset frames (UInt8.ofNat (start + 4 * i))) := by
  induction frames generalizing i with
  | zero => exact total_pure
  | succ frames ih =>
      have small := pageSize_le c
      have place : (UInt8.ofNat (start + 4 * i)).toNat = start + 4 * i := index_toNat (by omega)
      rw [fillFrames, place, index_next]
      refine (total_byteOf (by omega)).bind fun d0 => (total_byteOf (by omega)).bind fun d1 =>
        (total_byteOf (by omega)).bind fun d2 => (total_byteOf (by omega)).bind fun d3 => ?_
      refine Total.bind (total_send fun b => fill_defined ?_ d0 d1 d2 d3 b) fun _ => ih (by omega)
      rw [place]
      omega

theorem fillFrames_returns (start : Nat) {frames i : Nat} (four : i + frames = 4) (n : Net c) :
    Meets (fillFrames faults bcon image offset frames (UInt8.ofNat (start + 4 * i))) n
      (fun next _ => next = UInt8.ofNat (start + 16)) (fun _ _ => True) := by
  induction frames generalizing i n with
  | zero =>
      obtain rfl : i = 4 := four
      exact meets_pure rfl
  | succ frames ih =>
      rw [fillFrames, index_next]
      refine meets_any.bind fun _ _ _ => meets_any.bind fun _ _ _ => meets_any.bind fun _ _ _ => ?_
      exact meets_any.bind fun _ _ _ => meets_any.bind fun _ next _ => ih (by omega) next

theorem total_flashLines {lines done : Nat} (inPage : 16 * (done + lines) ≤ c.pageSize)
    (inImage : offset + 16 * (done + lines) ≤ image.length) :
    Total (flashLines (c := c) faults bcon image offset lines (UInt8.ofNat (16 * done))) := by
  induction lines generalizing done with
  | zero => exact total_pure
  | succ lines ih =>
      rw [flashLines]
      have frames : Total (fillFrames (c := c) faults bcon image offset 4
          (UInt8.ofNat (16 * done))) :=
        total_fillFrames (16 * done) (i := 0) (by omega) (by omega) rfl
      refine frames.bind_of (fillFrames_returns (16 * done) (i := 0) rfl) fun next isNext => ?_
      refine (total_recv 2 hcanHmsFlashBufferFillAck).bind fun _ => ?_
      refine Total.bind (fun n stuck => Option.some_ne_none _ stuck) fun _ => ?_
      rw [isNext]
      have rest : Total (flashLines (c := c) faults bcon image offset lines
          (UInt8.ofNat (16 * (done + 1)))) := ih (by omega) (by omega)
      exact rest

theorem total_blocksEqual {cached : List UInt8} {bytes i : Nat}
    (inImage : offset + i + bytes ≤ image.length) (inCached : offset + i + bytes ≤ cached.length) :
    Total (blocksEqual (c := c) image cached offset bytes i) := by
  induction bytes generalizing i with
  | zero => exact total_pure
  | succ bytes ih =>
      rw [blocksEqual]
      refine (total_byteOf (by omega)).bind fun fresh => ?_
      refine (total_byteOf (by omega)).bind fun old => ?_
      exact total_ite (fun _ => total_pure) fun _ => ih (by omega) (by omega)

/-- The blocks from `block` on lie within the cached image. -/
def WithinCached (c : Controller) (cached : Option (List UInt8)) (blocks : Nat) : Prop :=
  ∀ old, cached = some old → blocks * c.pageSize ≤ old.length

theorem total_flashBlock {cached : Option (List UInt8)} {block : Nat}
    (addressed : (block + 1) * c.pageSize ≤ 65536)
    (inImage : (block + 1) * c.pageSize ≤ image.length)
    (inCached : WithinCached c cached (block + 1)) (spared : Spared c image cached block) :
    Total (flashBlock (c := c) faults bcon image cached block) := by
  have lines := lines_pageSize c
  have positive := pageSize_pos c
  rw [Nat.succ_mul] at inImage
  have leaves : Total (leaveOut (c := c) image (block * c.pageSize) cached) := by
    cases cached with
    | none => exact total_pure
    | some old =>
        have inOld := inCached old rfl
        rw [Nat.succ_mul] at inOld
        exact total_blocksEqual inImage inOld
  have decides (n : Net c) : Meets (leaveOut image (block * c.pageSize) cached) n
      (fun left _ => left = true ↔ ∃ old, cached = some old ∧ SameBlock c image old block)
      (fun _ _ => True) := leaveOut_meets.mono (fun _ _ isLeft => isLeft.2) fun _ _ holds => holds
  refine leaves.bind_of decides fun left isLeft =>
    total_ite (fun _ => total_pure) fun sends => ?_
  have pointer : framePointer (pointerHi (block * c.pageSize)) (pointerLo (block * c.pageSize)) =
      block * c.pageSize := framePointer_bytes (by rw [Nat.succ_mul] at addressed; omega)
  have below : framePointer (pointerHi (block * c.pageSize)) (pointerLo (block * c.pageSize)) %
      c.flashSize < c.bootloaderAddress := by
    rw [pointer]
    exact Nat.lt_of_not_le fun reached => sends (isLeft.mpr (spared reached))
  have sent : Total (flashLines (c := c) faults bcon image (block * c.pageSize) (c.pageSize / 16)
      (UInt8.ofNat (16 * 0))) := total_flashLines (by omega) (by omega)
  refine sent.bind fun _ => (total_send fun b => write_defined below b).bind fun _ => ?_
  exact (total_recv 2 hcanHmsFlashBufferWriteAck).bind fun _ => total_pure

theorem total_flashBlocks {cached : Option (List UInt8)} {blocks block : Nat}
    (addressed : (block + blocks) * c.pageSize ≤ 65536)
    (inImage : (block + blocks) * c.pageSize ≤ image.length)
    (inCached : WithinCached c cached (block + blocks))
    (spared : ∀ k, block ≤ k → k < block + blocks → Spared c image cached k) :
    Total (flashBlocks (c := c) faults bcon image cached blocks block) := by
  induction blocks generalizing block with
  | zero => exact total_pure
  | succ blocks ih =>
      have shift : block + 1 + blocks = block + (blocks + 1) := by omega
      have less : (block + 1) * c.pageSize ≤ (block + (blocks + 1)) * c.pageSize :=
        Nat.mul_le_mul_right _ (by omega)
      rw [← shift] at addressed inImage inCached
      rw [← shift] at less
      have first : Total (flashBlock (c := c) faults bcon image cached block) :=
        total_flashBlock (Nat.le_trans less addressed) (Nat.le_trans less inImage)
          (fun old isCached => Nat.le_trans less (inCached old isCached))
          (spared block (Nat.le_refl block) (by omega))
      exact first.bind fun _ => ih addressed inImage inCached fun k least most =>
        spared k (by omega) (by omega)

end Defined

section Answers

variable {flash : Memory c} {n : Net c} {request : CanixFrame}

/-- The boot loader listens and nothing is under way. -/
structure Quiet (bcon : BoardConnection) (flash : Memory c) (n : Net c) : Prop where
  listening : Listening bcon n.board
  flash : n.board.flash = flash
  inbox : n.inbox = []

theorem lossFree_sends (other : OtherFrame request) {board : BootLoader c}
    {reply : Option CanixFrame} (handled : n.board.handle request = some (board, reply)) :
    send lossFree request n = some (.ok ⟨⟩, { n with
      sent := n.sent + 1
      board := board
      inbox := n.inbox ++ reply.toList }) := by
  have sent : n.afterSend lossFree request = _ := afterSend_arrived rfl handled
  rw [note_other _ _ other.notFill, spoil_other _ _ other.notWrite] at sent
  exact send_run sent

/-- A request, the answer to it and what follows. -/
theorem exchange_ends {α : Type} {size command : UInt8} {rest : CanixFrame → Flasher c α}
    {after : α → Net c → Prop} {failed : FlashError → Net c → Prop} (other : OtherFrame request)
    (empty : n.inbox = []) {board : BootLoader c} {answer : CanixFrame}
    (handled : n.board.handle request = some (board, some answer))
    (isReply : IsReply bcon size command answer)
    (continues : Ends (rest answer) { n with sent := n.sent + 1, board := board, inbox := [] } after
      failed) :
    Ends (send lossFree request >>= fun _ => recv bcon size command >>= rest) n after failed := by
  unfold Ends at *
  rw [bind_ok (lossFree_sends other handled),
    bind_ok (recv_answer (by rw [empty]; rfl) isReply)]
  exact continues

theorem handle_query (quiet : Quiet bcon flash n) (hi lo : UInt8) :
    n.board.handle (queryFrame bcon hi lo) =
      (n.board.read (queryFrame bcon hi lo)).handleHms (queryFrame bcon hi lo) :=
  handle_listening quiet.listening rfl rfl (by decide : (2 : UInt8) ≤ 4)
    (by decide : (4 : UInt8) ≤ 8)

theorem loadCrc16_ends (built : c.hcanbl32) (quiet : Quiet bcon flash n) (size : UInt16) :
    Ends (loadCrc16FromBoard lossFree bcon size) n (fun _ => Quiet bcon flash)
      (fun _ _ => False) := by
  have listening := quiet.listening
  obtain ⟨data, answered, service, command, _⟩ := answer_query built (handle_query quiet _ _) rfl
  refine exchange_ends (queryFrame_other _ _) quiet.inbox answered
    ⟨rfl, listening.selfAddr, rfl, service, command⟩ (ends_pure ?_)
  exact ⟨⟨listening.inApp, listening.selfAddr, listening.home⟩, quiet.flash, rfl⟩

theorem writeEepromByte_ends (quiet : Quiet bcon flash n) {address : Nat} (above : 4 ≤ address)
    (inside : address < 65536) (value : UInt8) :
    Ends (writeEepromByte lossFree bcon address value) n (fun _ => Quiet bcon flash)
      (fun _ _ => False) := by
  have listening := quiet.listening
  have handled : n.board.handle (eepromFrame bcon (UInt8.ofNat address)
      (UInt8.ofNat (address / 256)) value) = _ :=
    handle_listening listening rfl rfl (by decide : (2 : UInt8) ≤ 5) (by decide : (5 : UInt8) ≤ 8)
  have place : framePointer (UInt8.ofNat (address / 256)) (UInt8.ofNat address) = address :=
    framePointer_bytes inside
  obtain ⟨data, answered, service, command⟩ := answer_eeprom handled
  refine exchange_ends (eepromFrame_other _ _ _) quiet.inbox answered
    ⟨rfl, listening.selfAddr, rfl, service, command⟩ (ends_pure ?_)
  refine ⟨⟨listening.inApp, listening.selfAddr, ?_⟩, quiet.flash, rfl⟩
  have below (a : Nat) (low : a < 4) :
      Function.update n.board.eeprom address value a = n.board.eeprom a :=
    Function.update_of_ne (by omega) _ _
  rw [BootLoader.eepromReadWord, place]
  dsimp only
  rw [below _ (by decide), below _ (by decide)]
  exact listening.home

theorem writeEepromWordLe_ends (quiet : Quiet bcon flash n) {address : Nat} (above : 4 ≤ address)
    (inside : address + 1 < 65536) (word : UInt16) :
    Ends (writeEepromWordLe lossFree bcon address word) n (fun _ => Quiet bcon flash)
      (fun _ _ => False) :=
  (writeEepromByte_ends quiet above (by omega) _).bind fun _ _ written =>
    writeEepromByte_ends written (by omega) inside _

/-- Without losses the test ends with its own error at most. -/
theorem verify_ends (built : c.hcanbl32) (quiet : Quiet bcon flash n) (image : List UInt8) :
    Ends (verify lossFree bcon image) n (fun _ => Quiet bcon flash)
      (fun error last => error = crcError ∧ Quiet bcon flash last) := by
  refine ((loadCrc16_ends built quiet _).mono (fun _ _ holds => holds)
    fun _ _ wrong => wrong.elim).bind fun crc loaded quiet => ?_
  have save : Ends (saveCrc16ToBoard lossFree bcon crc (sizeOf16 image)) loaded
      (fun _ => Quiet bcon flash) (fun _ _ => False) :=
    (writeEepromWordLe_ends quiet (by decide) (by decide) _).bind fun _ _ written =>
      writeEepromWordLe_ends written (by decide) (by decide) _
  refine (save.mono (fun _ _ holds => holds) fun _ _ wrong => wrong.elim).bind
    fun _ saved quiet => ?_
  exact ends_ite (fun _ => ends_throw ⟨rfl, quiet⟩) fun _ => ends_pure quiet

end Answers

section Attempts

variable {flash : Memory c} {n : Net c} {image : List UInt8}

theorem lossFree_onTime {n : Net c} (attending : Attending lossFree bcon flash n) :
    n.premature = false := by
  cases early : n.premature with
  | false => rfl
  | true =>
      obtain ⟨k, _, fault⟩ := attending.blamed early
      exact absurd rfl fault

/-- What an attempt without losses does to the board. -/
structure Flashed (image : List UInt8) (before : Memory c) (last : Net c) : Prop where
  written : Written image before ((sizeOf16 image).toNat / c.pageSize) last.board.flash
  accepted : last.board.checkFirmware = true

/-- The blocks lie within the images and the flash, and outside the boot section. -/
structure BlocksFit (flash : Memory c) (image : List UInt8) (cached : Option (List UInt8)) :
    Prop where
  inImage : (sizeOf16 image).toNat ≤ image.length
  inFlash : (sizeOf16 image).toNat ≤ c.flashSize
  inCached : WithinCached c cached ((sizeOf16 image).toNat / c.pageSize)
  spared : ∀ k, k < (sizeOf16 image).toNat / c.pageSize → Spared c image cached k
  stale : ∀ old, cached = some old → Holds flash old

/-- An attempt without losses inside the images. -/
theorem attempt_ends {cached : Option (List UInt8)} (built : c.hcanbl32)
    (between : Between lossFree bcon flash (fun _ => True) n)
    (fits : BlocksFit flash image cached) :
    Ends (attempt lossFree bcon image cached) n
      (fun _ last => Flashed image flash last ∧
        calculateCrc16OverFlash last.board.flash (sizeOf16 image) = crc16 image)
      (fun error last => error = crcError ∧ Flashed image flash last ∧
        calculateCrc16OverFlash last.board.flash (sizeOf16 image) ≠ crc16 image) := by
  have size := (sizeOf16 image).toNat_lt
  have whole := Nat.div_mul_le_self (sizeOf16 image).toNat c.pageSize
  have inImage := fits.inImage
  have inCached := fits.inCached
  have total : Total (flashBlocks (c := c) lossFree bcon image cached
      ((sizeOf16 image).toNat / c.pageSize) 0) :=
    total_flashBlocks (by rw [Nat.zero_add]; omega) (by rw [Nat.zero_add]; omega)
      (by rwa [Nat.zero_add]) fun k _ most => fits.spared k (by omega)
  have meets : Meets (flashBlocks lossFree bcon image cached
      ((sizeOf16 image).toNat / c.pageSize) 0) n _ _ :=
    flashBlocks_meets flash (by rw [Nat.zero_add]; omega) between
  have untouched : Written image flash 0 flash := fun a _ => by rw [Nat.zero_mul]; rfl
  have blocks : Ends (flashBlocks lossFree bcon image cached
      ((sizeOf16 image).toNat / c.pageSize) 0) n
      (fun _ last => Written image flash ((sizeOf16 image).toNat / c.pageSize) last.board.flash ∧
        Quiet bcon last.board.flash last) (fun _ _ => False) := by
    refine (meets.ends total).mono ?_ ?_
    · rintro _ last ⟨next, behind, writes⟩
      have written := (writes fun _ => rfl).written
        (by rw [Nat.zero_add]; exact Nat.le_trans whole fits.inFlash) fits.stale untouched
      rw [Nat.zero_add, ← behind.attending.flash] at written
      exact ⟨written, behind.attending.listening, rfl,
        behind.inbox (lossFree_onTime behind.attending)⟩
    · rintro error last failed
      obtain ⟨k, _, fault⟩ := failed.faulty
      exact fault rfl
  refine (blocks.mono (fun _ _ holds => holds) fun _ _ wrong => wrong.elim).bind ?_
  rintro _ flashed ⟨written, quiet⟩
  have tested := (verify_ends built quiet image).and
    (verify_meets image (foreign_of_empty quiet.inbox))
  have checked : Ends (tryCatch (verify lossFree bcon image) ignoreTransport) flashed
      (fun _ last => Quiet bcon flashed.board.flash last ∧ last.board.checkFirmware = true ∧
        calculateCrc16OverFlash last.board.flash (sizeOf16 image) = crc16 image)
      (fun error last => error = crcError ∧ Flashed image flash last ∧
        calculateCrc16OverFlash last.board.flash (sizeOf16 image) ≠ crc16 image) := by
    refine tested.tryCatch ?_
    rintro error last ⟨⟨rfl, quiet⟩, ⟨_, wrong⟩ | ⟨_, certified⟩⟩
    · cases wrong
    · refine ends_throw ⟨rfl, ⟨?_, certified.accepted⟩, certified.wrong⟩
      rw [quiet.flash]
      exact written
  refine checked.bind ?_
  rintro _ verified ⟨quiet, accepted, agree⟩
  obtain ⟨data, handled⟩ := answered_loadApp quiet.listening
  unfold Ends sendCommand
  rw [lossFree_sends (commandFrame_other (by decide) (by decide)) handled]
  refine ⟨⟨?_, accepted⟩, agree⟩
  change Written image flash _ verified.board.flash
  rw [quiet.flash]
  exact written

/-- The first attempt is the last one. -/
theorem tries_ends {cached : Option (List UInt8)} (built : c.hcanbl32) (left : Nat)
    (between : Between lossFree bcon flash (fun _ => True) n)
    (fits : BlocksFit flash image cached) :
    Ends (tries lossFree bcon image cached (left + 1)) n
      (fun done last => done = true ∧ Flashed image flash last ∧
        calculateCrc16OverFlash last.board.flash (sizeOf16 image) = crc16 image)
      (fun error last => error = crcError ∧ Flashed image flash last ∧
        calculateCrc16OverFlash last.board.flash (sizeOf16 image) ≠ crc16 image) := by
  have attempted : Ends (do attempt lossFree bcon image cached; pure true) n
      (fun done last => done = true ∧ Flashed image flash last ∧
        calculateCrc16OverFlash last.board.flash (sizeOf16 image) = crc16 image)
      (fun error last => error = crcError ∧ Flashed image flash last ∧
        calculateCrc16OverFlash last.board.flash (sizeOf16 image) ≠ crc16 image) :=
    (attempt_ends built between fits).bind fun _ _ flashed => ends_pure ⟨rfl, flashed⟩
  rw [tries]
  refine attempted.tryCatch ?_
  rintro error last ⟨rfl, flashed⟩
  exact ends_throw ⟨rfl, flashed⟩

theorem tries_stuck {faults : Faults} {old : Option (List UInt8)} {left : Nat}
    (stuck : flashBlocks faults bcon image old ((sizeOf16 image).toNat / c.pageSize) 0 n =
      none) : tries faults bcon image old (left + 1) n = none :=
  tryCatch_none (bind_none (bind_none stuck))

/-- A run with a result has got through the blocks. -/
theorem blocks_of_run {cached : Option (List UInt8)} (left : Nat)
    (between : Between lossFree bcon flash (fun _ => True) n) {outcome : Except FlashError Bool}
    {last : Net c} (result : tries lossFree bcon image cached (left + 1) n = some (outcome, last)) :
    ∃ flashed next, flashBlocks lossFree bcon image cached
        ((sizeOf16 image).toNat / c.pageSize) 0 n = some (.ok ⟨⟩, flashed) ∧
      BlocksEffect image cached flash flash next 0 ((sizeOf16 image).toNat / c.pageSize) := by
  have size := (sizeOf16 image).toNat_lt
  have whole := Nat.div_mul_le_self (sizeOf16 image).toNat c.pageSize
  have meets : Meets (flashBlocks lossFree bcon image cached
      ((sizeOf16 image).toNat / c.pageSize) 0) n _ _ :=
    flashBlocks_meets flash (by rw [Nat.zero_add]; omega) between
  cases run : flashBlocks lossFree bcon image cached
      ((sizeOf16 image).toNat / c.pageSize) 0 n with
  | none =>
      rw [tries_stuck run] at result
      cases result
  | some pair =>
      obtain ⟨blocks, flashed⟩ := pair
      cases blocks with
      | error error =>
          obtain ⟨k, _, fault⟩ := (meets.error run).faulty
          exact absurd rfl fault
      | ok done =>
          obtain ⟨next, _, effect⟩ := meets.ok run
          refine ⟨flashed, next, rfl, ?_⟩
          rw [Nat.zero_add] at effect
          exact effect fun _ => rfl

end Attempts

/-! ## The whole command -/

section Command

variable {flash : Memory c} {n : Net c} {image : List UInt8}

theorem sizeOf16_of_lt (small : image.length < 65536) :
    (sizeOf16 image).toNat = image.length := by
  rw [sizeOf16, UInt16.toNat_ofNat']
  exact Nat.mod_eq_of_lt small

theorem sizeOf16_le (image : List UInt8) : (sizeOf16 image).toNat ≤ image.length := by
  rw [sizeOf16, UInt16.toNat_ofNat']
  exact Nat.mod_le _ _

/-- The blocks cover the size of a padded image. -/
theorem blocks_cover (padded : image.length % c.pageSize = 0) :
    (sizeOf16 image).toNat / c.pageSize * c.pageSize = (sizeOf16 image).toNat := by
  have divides : c.pageSize ∣ 65536 := by cases c <;> decide
  refine Nat.div_mul_cancel ?_
  rw [sizeOf16, UInt16.toNat_ofNat']
  exact (Nat.dvd_mod_iff divides).mpr (Nat.dvd_of_mod_eq_zero padded)

theorem hcanbl32_of_pages (pages : c.pageSize = 128 ∨ c.pageSize = 256) : c.hcanbl32 := by
  cases c with
  | atmega8 => rcases pages with wrong | wrong <;> cases wrong
  | atmega32 => rfl
  | atmega644 => rfl

/-- Without the incremental mode the blocks of an image in front of the boot section fit. -/
theorem blocksFit_below (flash : Memory c) (below : image.length ≤ c.bootloaderAddress) :
    BlocksFit flash image none where
  inImage := sizeOf16_le image
  inFlash := (sizeOf16_le image).trans (below.trans (bootloaderAddress_le c))
  inCached := fun _ wrong => by cases wrong
  spared := fun k block reached => by
    have whole := Nat.div_mul_le_self (sizeOf16 image).toNat c.pageSize
    have before : (k + 1) * c.pageSize ≤ (sizeOf16 image).toNat / c.pageSize * c.pageSize :=
      Nat.mul_le_mul_right _ block
    have positive := pageSize_pos c
    have less := sizeOf16_le image
    have cell := Nat.mod_le (k * c.pageSize) c.flashSize
    rw [Nat.succ_mul] at before
    omega
  stale := fun _ wrong => by cases wrong

/-- Flashing an image in front of the boot section over a channel without losses: it is in the
flash behind the run, board and host agree about its checksum, and the boot loader accepts it. -/
theorem flash_end_to_end (bcon : BoardConnection) (image : List UInt8)
    (cacheFile : Option (List UInt8)) {n : Net c} (ready : Ready bcon n)
    (pages : c.pageSize = 128 ∨ c.pageSize = 256) (padded : image.length % c.pageSize = 0)
    (below : image.length ≤ c.bootloaderAddress) :
    ∃ last, cmdFlash lossFree bcon false image cacheFile n = some (.ok true, last) ∧
      Holds last.board.flash image ∧
      calculateCrc16OverFlash last.board.flash (sizeOf16 image) = crc16 image ∧
      last.board.checkFirmware = true := by
  have inFlash := below.trans (bootloaderAddress_le c)
  have length := sizeOf16_of_lt (Nat.lt_of_le_of_lt below (bootloaderAddress_lt c))
  have cover := blocks_cover padded
  have holds {last : Net c} (flashed : Flashed image n.board.flash last) :
      Holds last.board.flash image := by
    refine ⟨inFlash, fun i inside => ?_⟩
    have byte := flashed.written i (Nat.lt_of_lt_of_le inside inFlash)
    rw [cover, length, if_pos inside, List.getElem?_eq_getElem inside, Option.some.injEq] at byte
    exact byte.symm
  have ends : Ends (cmdFlash lossFree bcon false image cacheFile) n _ _ :=
    tries_ends (hcanbl32_of_pages pages) 2 ready.between (blocksFit_below n.board.flash below)
  unfold Ends at ends
  cases result : cmdFlash lossFree bcon false image cacheFile n with
  | none =>
      rw [result] at ends
      exact ends.elim
  | some pair =>
      obtain ⟨outcome, last⟩ := pair
      rw [result] at ends
      cases outcome with
      | ok done =>
          obtain ⟨rfl, flashed, agree⟩ := ends
          exact ⟨last, rfl, holds flashed, agree, flashed.accepted⟩
      | error error =>
          obtain ⟨_, flashed, differs⟩ := ends
          exact absurd (crc_agrees (holds flashed) length) differs

theorem flash_end_to_end_sample :
    ∃ last, cmdFlash lossFree sampleConnection false sampleImage none (sampleNet fun _ => 0xff) =
        some (.ok true, last) ∧
      Holds last.board.flash sampleImage ∧
      calculateCrc16OverFlash last.board.flash (sizeOf16 sampleImage) = crc16 sampleImage ∧
      last.board.checkFirmware = true :=
  flash_end_to_end sampleConnection sampleImage none (sampleNet_ready _) (.inl rfl)
    (by rw [sampleImage_length]; rfl) (by rw [sampleImage_length]; decide)

/-- An image that reaches the boot section makes the boot loader erase itself. -/
theorem cmdFlash_reaches (bcon : BoardConnection) (cacheFile : Option (List UInt8)) {n : Net c}
    (ready : Ready bcon n) (small : image.length < 65536)
    (reaches : c.bootloaderAddress + c.pageSize ≤ image.length) :
    cmdFlash lossFree bcon false image cacheFile n = none := by
  have length := sizeOf16_of_lt small
  have positive := pageSize_pos c
  have page : c.bootloaderAddress / c.pageSize * c.pageSize = c.bootloaderAddress := by
    cases c <;> rfl
  have cell : c.bootloaderAddress % c.flashSize = c.bootloaderAddress := by cases c <;> rfl
  rw [Option.eq_none_iff_forall_ne_some]
  rintro ⟨outcome, last⟩ result
  obtain ⟨_, _, _, effect⟩ := blocks_of_run 2 ready.between result
  have block : c.bootloaderAddress / c.pageSize < (sizeOf16 image).toNat / c.pageSize := by
    rw [length, Nat.lt_iff_add_one_le, Nat.le_div_iff_mul_le positive, Nat.succ_mul, page]
    exact reaches
  obtain ⟨_, wrong, _⟩ := effect.spared _ (Nat.zero_le _) block (by rw [page, cell])
  cases wrong

/-- One page more than there are in front of the boot section. -/
theorem loader_erased :
    let image : List UInt8 := List.replicate (0x7000 + 128) 0
    image.length % 128 = 0 ∧ image.length < 65536 ∧
      cmdFlash lossFree sampleConnection false image none (sampleNet fun _ => 0xff) = none := by
  refine ⟨by rw [List.length_replicate], by rw [List.length_replicate]; decide, ?_⟩
  exact cmdFlash_reaches sampleConnection none (sampleNet_ready _)
    (by rw [List.length_replicate]; decide) (by rw [List.length_replicate]; decide)

end Command

end Hcan.Flash
