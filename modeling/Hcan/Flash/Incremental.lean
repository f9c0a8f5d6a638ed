import Hcan.Flash.LossFree

/-!
# The incremental mode

The comparison of a block reads the cached image.  The run is without a result as soon
as the block lies behind the end of the cached image, or is to be written into the boot
section; otherwise it leaves the image in the flash as the full run does.
-/

namespace Hcan.Flash

open Hcan.Canix Hcan.Host Hcan.Library Hcan.Library.Program

variable {c : Controller} {faults : Faults} {bcon : BoardConnection}

section Reads

variable {image : List UInt8} {n : Net c} {cached : Option (List UInt8)}

theorem blocksEqual_reads {old : List UInt8} (offset bytes i : Nat) :
    Meets (blocksEqual image old offset (bytes + 1) i) n
      (fun _ _ => offset + i < old.length) (fun _ _ => True) := by
  rw [blocksEqual]
  refine byteOf_meets.bind ?_
  rintro fresh n ⟨_, rfl⟩
  refine byteOf_meets.bind ?_
  rintro byte n ⟨isByte, rfl⟩
  obtain ⟨inside, _⟩ := List.getElem?_eq_some_iff.mp isByte
  exact meets_any.mono (fun _ _ _ => inside) fun _ _ _ => trivial

theorem leaveOut_reads (block : Nat) :
    Meets (leaveOut image (block * c.pageSize) cached) n
      (fun _ _ => ∀ old, cached = some old → block * c.pageSize < old.length)
      (fun _ _ => True) := by
  cases cached with
  | none => exact meets_pure fun _ wrong => by cases wrong
  | some old =>
      obtain ⟨bytes, page⟩ : ∃ bytes, c.pageSize = bytes + 1 :=
        Nat.exists_eq_succ_of_ne_zero (Nat.ne_of_gt (pageSize_pos c))
      have reads : Meets (blocksEqual image old (block * c.pageSize) (bytes + 1) 0) n _ _ :=
        blocksEqual_reads _ bytes 0
      unfold leaveOut
      simp only
      rw [← page] at reads
      refine reads.mono ?_ fun _ _ holds => holds
      rintro equal last inside old ⟨rfl⟩
      exact inside

/-- Behind the comparisons every block has begun inside the cached image. -/
theorem flashBlocks_reads {blocks block : Nat} :
    Meets (flashBlocks faults bcon image cached blocks block) n
      (fun _ _ => ∀ old, cached = some old → ∀ k, block ≤ k → k < block + blocks →
        k * c.pageSize < old.length) (fun _ _ => True) := by
  induction blocks generalizing block n with
  | zero => exact meets_pure fun _ _ k least most => by omega
  | succ blocks ih =>
      have first : Meets (flashBlock faults bcon image cached block) n
          (fun _ _ => ∀ old, cached = some old → block * c.pageSize < old.length)
          (fun _ _ => True) := by
        refine (leaveOut_reads block).bind fun left _ inside => ?_
        exact meets_any.mono (fun _ _ _ => inside) fun _ _ _ => trivial
      rw [flashBlocks]
      refine first.bind fun _ middle inside => ?_
      refine ih.mono ?_ fun _ _ holds => holds
      intro _ last rest old isCached k least most
      rcases Nat.lt_or_eq_of_le least with more | rfl
      · exact rest old isCached k more (by omega)
      · exact inside old isCached

end Reads

section Check

variable {flash : Memory c} {n : Net c} {image : List UInt8}

theorem cmdGetstate_ends (quiet : Quiet bcon flash n) (stopped : n.board.bootCounter = 0) :
    Ends (cmdGetstate lossFree bcon) n (fun state last => state = 1 ∧ Quiet bcon flash last)
      (fun _ _ => False) := by
  have listening := quiet.listening
  have handled : n.board.handle (commandFrame bcon hcanHmsDeviceStateRequest) = _ :=
    handle_listening listening rfl rfl (by decide : (2 : UInt8) ≤ 2) (by decide : (2 : UInt8) ≤ 8)
  obtain ⟨data, answered, service, command, state⟩ := answer_deviceState handled
  refine exchange_ends (commandFrame_other (by decide) (by decide)) quiet.inbox answered
    ⟨rfl, listening.selfAddr, rfl, service, command⟩ (ends_pure ⟨?_, ?_⟩)
  · rw [state, if_pos stopped]
  · exact ⟨⟨listening.inApp, listening.selfAddr, listening.home⟩, quiet.flash, rfl⟩

/-- The boot loader is entered: it is reset and stopped. -/
theorem enterBootLoader_ends (quiet : Quiet bcon flash n) :
    Ends (enterBootLoader lossFree bcon) n (fun _ => Quiet bcon flash) (fun _ _ => False) := by
  obtain ⟨data, handled⟩ := answered_reset quiet.listening
  have home := quiet.listening.home
  have reset : Ends (sendCommand lossFree bcon hcanHmsDeviceReset) n (fun _ => Quiet bcon flash)
      (fun _ _ => False) := by
    unfold Ends sendCommand
    rw [lossFree_sends (commandFrame_other (by decide) (by decide)) handled]
    exact ⟨⟨rfl, home, home⟩, quiet.flash, by rw [quiet.inbox]; rfl⟩
  refine reset.bind fun _ behind quiet => ?_
  have listening := quiet.listening
  have handled : behind.board.handle (commandFrame bcon hcanHmsDeviceBootStop) = _ :=
    handle_listening listening rfl rfl (by decide : (2 : UInt8) ≤ 2) (by decide : (2 : UInt8) ≤ 8)
  obtain ⟨data, answered, service, command⟩ := answer_bootStop handled
  refine exchange_ends (commandFrame_other (by decide) (by decide)) quiet.inbox answered
    ⟨rfl, listening.selfAddr, rfl, service, command⟩ ?_
  have stopped : Quiet bcon flash { behind with
      sent := behind.sent + 1
      board := { behind.board with bootCounter := 0, data := data }
      inbox := [] } :=
    ⟨⟨listening.inApp, listening.selfAddr, listening.home⟩, quiet.flash, rfl⟩
  refine (cmdGetstate_ends stopped rfl).bind ?_
  rintro state last ⟨rfl, quiet⟩
  exact ends_ite (fun wrong => absurd rfl wrong) fun _ => ends_pure quiet

theorem checkCache_ends (built : c.hcanbl32) (quiet : Quiet bcon flash n) {cached : List UInt8}
    (enabled : calculateCrc16OverFlash flash (sizeOf16 image) = crc16 cached) :
    Ends (checkCache lossFree bcon image (some cached)) n
      (fun result last => result = some cached ∧ Quiet bcon flash last) (fun _ _ => False) := by
  refine (enterBootLoader_ends quiet).bind fun _ entered quiet => ?_
  have loaded := (loadCrc16_ends built quiet (sizeOf16 image)).and
    (loadCrc16_meets (sizeOf16 image) (foreign_of_empty quiet.inbox))
  refine (loaded.mono (fun _ _ holds => holds) fun _ _ wrong => wrong.1).bind ?_
  rintro crc last ⟨quiet, isCrc, _⟩
  rw [quiet.flash, enabled] at isCrc
  exact ends_ite (fun _ => ends_pure ⟨rfl, quiet⟩) fun differs => absurd isCrc differs

end Check

/-! ## Runs in the mode -/

section Incremental

variable {n : Net c} {image cached : List UInt8}

theorem Ready.quiet (ready : Ready bcon n) : Quiet bcon n.board.flash n :=
  ⟨ready.listening, rfl, ready.inbox⟩

/-- Where the mode is enabled, the run is that of the attempts with the cached image. -/
theorem cmdFlash_enabled (built : c.hcanbl32) (ready : Ready bcon n)
    (enabled : calculateCrc16OverFlash n.board.flash (sizeOf16 image) = crc16 cached) :
    ∃ entered, cmdFlash lossFree bcon true image (some cached) n =
        tries lossFree bcon image (some cached) 3 entered ∧
      Between lossFree bcon n.board.flash (fun _ => True) entered := by
  have meets : Meets (checkCache lossFree bcon image (some cached)) n _ _ :=
    checkCache_meets ready.between
  have checked := (checkCache_ends built ready.quiet enabled).and meets
  obtain ⟨result, entered, run, ⟨rfl, _⟩, between⟩ :=
    (checked.mono (fun _ _ holds => holds) fun _ _ wrong => wrong.1).ok
  exact ⟨entered, bind_ok run, between⟩

/-- A run with a result has compared no block behind the end of the cached image, and has left out
the blocks in the boot section. -/
theorem covered_of_run (padded : image.length % c.pageSize = 0)
    (paddedCached : cached.length % c.pageSize = 0) {entered : Net c}
    (between : Between lossFree bcon n.board.flash (fun _ => True) entered)
    {outcome : Except FlashError Bool} {last : Net c}
    (result : tries lossFree bcon image (some cached) 3 entered = some (outcome, last)) :
    (sizeOf16 image).toNat ≤ cached.length ∧
      ∀ k, k < (sizeOf16 image).toNat / c.pageSize → Spared c image (some cached) k := by
  have cover := blocks_cover padded
  have pages := Nat.div_mul_cancel (Nat.dvd_of_mod_eq_zero paddedCached)
  obtain ⟨flashed, next, run, effect⟩ := blocks_of_run 2 between result
  refine ⟨?_, fun k most => effect.spared k (Nat.zero_le k) most⟩
  have reads := flashBlocks_reads.ok run cached rfl
  rw [← cover, ← pages]
  refine Nat.mul_le_mul_right _ (Nat.le_of_not_lt fun more => ?_)
  have inside := reads (cached.length / c.pageSize) (Nat.zero_le _) (by rwa [Nat.zero_add])
  rw [pages] at inside
  exact absurd inside (Nat.lt_irrefl _)

/-- A block of an image that fits into the flash has its cells there. -/
theorem block_inFlash (inFlash : image.length ≤ c.flashSize) {k : Nat}
    (block : k < (sizeOf16 image).toNat / c.pageSize) :
    k * c.pageSize % c.flashSize = k * c.pageSize := by
  have positive := pageSize_pos c
  have less := sizeOf16_le image
  have whole := Nat.div_mul_le_self (sizeOf16 image).toNat c.pageSize
  have before : (k + 1) * c.pageSize ≤ (sizeOf16 image).toNat / c.pageSize * c.pageSize :=
    Nat.mul_le_mul_right _ block
  rw [Nat.succ_mul] at before
  exact Nat.mod_eq_of_lt (by omega)

/-- Without losses the incremental mode leaves the image in the flash if and only if it has room
there, is not longer than the cached one and agrees with it in the boot section; the bytes behind
the sixteen-bit size have to be there before. -/
theorem incremental_flash_iff (bcon : BoardConnection) (image cached : List UInt8) {n : Net c}
    (built : c.hcanbl32) (ready : Ready bcon n) (padded : image.length % c.pageSize = 0)
    (paddedCached : cached.length % c.pageSize = 0) (stale : Holds n.board.flash cached)
    (enabled : calculateCrc16OverFlash n.board.flash (sizeOf16 image) = crc16 cached) :
    (∃ outcome last, cmdFlash lossFree bcon true image (some cached) n = some (outcome, last) ∧
      Holds last.board.flash image) ↔
    image.length ≤ c.flashSize ∧ (sizeOf16 image).toNat ≤ cached.length ∧
      (∀ k, k < (sizeOf16 image).toNat / c.pageSize → c.bootloaderAddress ≤ k * c.pageSize →
        SameBlock c image cached k) ∧
      ∀ i, (sizeOf16 image).toNat ≤ i → (inside : i < image.length) →
        byteAt n.board.flash i = image[i] := by
  obtain ⟨entered, run, between⟩ := cmdFlash_enabled built ready enabled
  have cover := blocks_cover padded
  have flashes (inFlash : image.length ≤ c.flashSize)
      (within : (sizeOf16 image).toNat ≤ cached.length)
      (spared : ∀ k, k < (sizeOf16 image).toNat / c.pageSize → Spared c image (some cached) k) :
      Ends (tries lossFree bcon image (some cached) 3) entered
        (fun _ => Flashed image n.board.flash) (fun _ => Flashed image n.board.flash) := by
    have fits : BlocksFit n.board.flash image (some cached) := by
      refine ⟨sizeOf16_le image, (sizeOf16_le image).trans inFlash, ?_, spared, ?_⟩
      · rintro old ⟨rfl⟩
        rwa [cover]
      · rintro old ⟨rfl⟩
        exact stale
    exact (tries_ends built 2 between fits).mono (fun _ _ flashed => flashed.2.1)
      fun _ _ flashed => flashed.2.1
  rw [run]
  constructor
  · rintro ⟨outcome, last, result, inFlash, holds⟩
    obtain ⟨within, spared⟩ := covered_of_run padded paddedCached between result
    refine ⟨inFlash, within, fun k block reached => ?_, fun i behind inside => ?_⟩
    · rw [← block_inFlash inFlash block] at reached
      obtain ⟨old, isOld, same⟩ := spared k block reached
      obtain rfl : cached = old := Option.some.inj isOld
      exact same
    · have byte := ((flashes inFlash within spared).of_result result).written i
        (Nat.lt_of_lt_of_le inside inFlash)
      rw [cover, if_neg (Nat.not_lt.mpr behind)] at byte
      rw [← byte]
      exact holds i inside
  · rintro ⟨inFlash, within, same, behind⟩
    have spared (k : Nat) (block : k < (sizeOf16 image).toNat / c.pageSize) :
        Spared c image (some cached) k := fun reached => by
      rw [block_inFlash inFlash block] at reached
      exact ⟨cached, rfl, same k block reached⟩
    obtain ⟨outcome, last, result⟩ := (flashes inFlash within spared).result
    refine ⟨outcome, last, result, inFlash, fun i inside => ?_⟩
    have byte := ((flashes inFlash within spared).of_result result).written i
      (Nat.lt_of_lt_of_le inside inFlash)
    rw [cover] at byte
    by_cases sized : i < (sizeOf16 image).toNat
    · rw [if_pos sized, List.getElem?_eq_getElem inside, Option.some.injEq] at byte
      exact byte.symm
    · rw [if_neg sized] at byte
      rw [byte]
      exact behind i (Nat.not_lt.mp sized) inside

end Incremental

/-- Its checksum is zero, and stays zero over the zeros behind it. -/
def sampleCached : List UInt8 := 0xff :: 0xff :: List.replicate 126 0

def sampleFlash (address : Nat) : UInt8 := if address < 2 then 0xff else 0

theorem sampleCached_length : sampleCached.length = 128 := by
  rw [sampleCached, List.length_cons, List.length_cons, List.length_replicate]

theorem sampleFlash_holds : Holds (sampleNet sampleFlash).board.flash sampleCached := by
  refine ⟨by rw [sampleCached_length]; decide, ?_⟩
  decide +kernel

theorem incremental_flash_iff_sample :
    (∃ outcome last, cmdFlash lossFree sampleConnection true sampleImage (some sampleCached)
      (sampleNet sampleFlash) = some (outcome, last) ∧ Holds last.board.flash sampleImage) ↔
    sampleImage.length ≤ Controller.atmega32.flashSize ∧
      (sizeOf16 sampleImage).toNat ≤ sampleCached.length ∧
      (∀ k, k < (sizeOf16 sampleImage).toNat / Controller.atmega32.pageSize →
        Controller.atmega32.bootloaderAddress ≤ k * Controller.atmega32.pageSize →
        SameBlock .atmega32 sampleImage sampleCached k) ∧
      ∀ i, (sizeOf16 sampleImage).toNat ≤ i → (inside : i < sampleImage.length) →
        byteAt (sampleNet sampleFlash).board.flash i = sampleImage[i] :=
  incremental_flash_iff sampleConnection sampleImage sampleCached rfl (sampleNet_ready sampleFlash)
    (by rw [sampleImage_length]; rfl) (by rw [sampleCached_length]; rfl) sampleFlash_holds
    (by decide +kernel)

/-- The image is longer than the cached one, and the test enables the mode all the same. -/
theorem longer_image_stuck :
    Holds (sampleNet sampleFlash).board.flash sampleCached ∧
      calculateCrc16OverFlash (sampleNet sampleFlash).board.flash
        (sizeOf16 (sampleImage ++ sampleImage)) = crc16 sampleCached ∧
      cmdFlash lossFree sampleConnection true (sampleImage ++ sampleImage) (some sampleCached)
        (sampleNet sampleFlash) = none :=
  ⟨sampleFlash_holds, by decide +kernel, Option.isNone_iff_eq_none.mp (by decide +kernel)⟩

end Hcan.Flash
