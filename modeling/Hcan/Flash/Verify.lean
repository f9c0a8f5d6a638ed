import Mathlib.Logic.Function.Iterate
import Hcan.Flash.Attempt
import Hcan.Library.Bits

/-!
# The test of the written firmware

While blocks are sent no checksum and no acknowledgement of an EEPROM write is on the
way.  So the checksum that the host receives is the one it has asked for, and with it
the host stores in the EEPROM what the boot loader compares with.
-/

namespace Hcan.Flash

open Hcan.Canix Hcan.Host Hcan.Library Hcan.Library.Program

variable {c : Controller} {faults : Faults} {bcon : BoardConnection}

/-- No answer to a command of the test is under way. -/
def Foreign (n : Net c) : Prop :=
  ∀ frame ∈ n.inbox, frame.data[1] ≠ hcanHmsFlashCrc16Replay ∧
    frame.data[1] ≠ hcanHmsInternalEepromWriteAck

theorem foreign_of_empty {n : Net c} (empty : n.inbox = []) : Foreign n := by
  intro frame member
  rw [empty] at member
  cases member

/-- The errors other than the one of the test. -/
def OtherError (error : FlashError) : Prop := error ≠ crcError

theorem otherError_transport {error : FlashError}
    (transport : ∃ message, error = .transport message) : OtherError error := by
  obtain ⟨message, rfl⟩ := transport
  intro wrong
  cases wrong

section Foreign

variable {n : Net c} {frame : CanixFrame}

/-- What the inbox is behind a frame. -/
theorem sent_inbox (least : 2 ≤ frame.size.toNat) (most : frame.size.toNat ≤ 8) {next : Net c}
    (result : n.afterSend faults frame = some next) :
    next.inbox = n.inbox ∨
      ∃ answer, next.inbox = n.inbox ++ [answer] ∧ answer.data[1] = frame.data[1] + 1 := by
  obtain ⟨_, rfl⟩ | ⟨board, reply, handled, rfl⟩ := afterSend_cases result
  · rw [note_inbox]
    exact .inl rfl
  · cases reply with
    | none => exact .inl (by simp)
    | some answer =>
        cases gone : (faults n.sent).replyLost with
        | true => exact .inl (by simp)
        | false => exact .inr ⟨answer, by simp, handle_reply least most handled⟩

theorem send_foreign (least : 2 ≤ frame.size.toNat) (most : frame.size.toNat ≤ 8)
    (notCrc : frame.data[1] + 1 ≠ hcanHmsFlashCrc16Replay)
    (notEeprom : frame.data[1] + 1 ≠ hcanHmsInternalEepromWriteAck) :
    Preserves (Foreign (c := c)) OtherError (send faults frame) := by
  refine fun n foreign => meets_send fun next result => ?_
  intro later member
  rcases sent_inbox least most result with same | ⟨answer, same, command⟩
  · rw [same] at member
    exact foreign later member
  · rw [same] at member
    rcases List.mem_append.mp member with earlier | new
    · exact foreign later earlier
    · rw [List.mem_singleton.mp new, command]
      exact ⟨notCrc, notEeprom⟩

theorem recv_foreign (size command : UInt8) :
    Preserves (Foreign (c := c)) OtherError (recv bcon size command) := by
  refine fun n foreign => ((recv_ends size command n).mono ?_ ?_).meets
  · rintro _ last ⟨_, front, rest, same, rfl⟩ later member
    refine foreign later ?_
    rw [same]
    exact List.mem_append_right _ (List.mem_cons_of_mem _ member)
  · rintro error last ⟨transport, rest, less, rfl⟩
    exact ⟨otherError_transport transport, fun later member => foreign later (less later member)⟩

theorem byteOf_foreign (image : List UInt8) (i : Nat) :
    Preserves (Foreign (c := c)) OtherError (byteOf image i) :=
  fun _ foreign => byteOf_meets.mono (fun _ _ found => found.2 ▸ foreign) fun _ _ failed => failed

theorem fillFrames_foreign (image : List UInt8) (offset frames : Nat) (index : UInt8) :
    Preserves (Foreign (c := c)) OtherError (fillFrames faults bcon image offset frames index) := by
  induction frames generalizing index with
  | zero => exact preserves_pure
  | succ frames ih =>
      refine (byteOf_foreign image _).bind fun d0 => (byteOf_foreign image _).bind fun d1 =>
        (byteOf_foreign image _).bind fun d2 => (byteOf_foreign image _).bind fun d3 => ?_
      have fill : Preserves (Foreign (c := c)) OtherError
          (sendFlashBufferFill faults bcon index d0 d1 d2 d3) :=
        send_foreign (by decide : 2 ≤ (7 : UInt8).toNat) (by decide : (7 : UInt8).toNat ≤ 8)
          (by decide : hcanHmsFlashBufferFill + 1 ≠ hcanHmsFlashCrc16Replay)
          (by decide : hcanHmsFlashBufferFill + 1 ≠ hcanHmsInternalEepromWriteAck)
      exact fill.bind fun _ => ih (index + 4)

theorem flashLines_foreign (image : List UInt8) (offset lines : Nat) (index : UInt8) :
    Preserves (Foreign (c := c)) OtherError (flashLines faults bcon image offset lines index) := by
  induction lines generalizing index with
  | zero => exact preserves_pure
  | succ lines ih =>
      refine (fillFrames_foreign image offset 4 index).bind fun next => ?_
      refine (recv_foreign 2 hcanHmsFlashBufferFillAck).bind fun _ => ?_
      have noted : Preserves (Foreign (c := c)) OtherError
          (modify fun n => n.acknowledge image offset index) :=
        fun n foreign => (ends_modify foreign).meets
      exact noted.bind fun _ => ih next

theorem blocksEqual_foreign (image cached : List UInt8) (offset bytes i : Nat) :
    Preserves (Foreign (c := c)) OtherError (blocksEqual image cached offset bytes i) :=
  fun _ foreign => blocksEqual_meets.mono (fun _ _ found => found.1 ▸ foreign)
    fun _ _ failed => failed

theorem flashBlock_foreign (image : List UInt8) (cached : Option (List UInt8)) (block : Nat) :
    Preserves (Foreign (c := c)) OtherError (flashBlock faults bcon image cached block) := by
  have leaves : Preserves (Foreign (c := c)) OtherError
      (leaveOut image (block * c.pageSize) cached) := by
    cases cached with
    | none => exact preserves_pure
    | some old => exact blocksEqual_foreign image old _ _ _
  refine leaves.bind fun left => preserves_ite (fun _ => preserves_pure) fun _ => ?_
  refine (flashLines_foreign image _ _ _).bind fun _ => ?_
  have write : Preserves (Foreign (c := c)) OtherError
      (sendFlashBufferWrite faults bcon (UInt8.ofNat (block * c.pageSize))
        (UInt8.ofNat (block * c.pageSize / 256))) :=
    send_foreign (by decide : 2 ≤ (4 : UInt8).toNat) (by decide : (4 : UInt8).toNat ≤ 8)
      (by decide : hcanHmsFlashBufferWrite + 1 ≠ hcanHmsFlashCrc16Replay)
      (by decide : hcanHmsFlashBufferWrite + 1 ≠ hcanHmsInternalEepromWriteAck)
  exact write.bind fun _ => (recv_foreign 2 hcanHmsFlashBufferWriteAck).bind fun _ => preserves_pure

theorem flashBlocks_foreign (image : List UInt8) (cached : Option (List UInt8))
    (blocks block : Nat) :
    Preserves (Foreign (c := c)) OtherError
      (flashBlocks faults bcon image cached blocks block) := by
  induction blocks generalizing block with
  | zero => exact preserves_pure
  | succ blocks ih => exact (flashBlock_foreign image cached block).bind fun _ => ih (block + 1)

theorem sendCommand_foreign {command : UInt8} (notCrc : command + 1 ≠ hcanHmsFlashCrc16Replay)
    (notEeprom : command + 1 ≠ hcanHmsInternalEepromWriteAck) :
    Preserves (Foreign (c := c)) OtherError (sendCommand faults bcon command) :=
  send_foreign (by decide : 2 ≤ (2 : UInt8).toNat) (by decide : (2 : UInt8).toNat ≤ 8) notCrc
    notEeprom

theorem enterBootLoader_foreign :
    Preserves (Foreign (c := c)) OtherError (enterBootLoader faults bcon) := by
  have state : Preserves (Foreign (c := c)) OtherError (cmdGetstate faults bcon) :=
    (sendCommand_foreign (by decide) (by decide)).bind fun _ =>
      (recv_foreign 3 hcanHmsDeviceStateReplay).bind fun _ => preserves_pure
  refine (sendCommand_foreign (by decide) (by decide)).bind fun _ => ?_
  refine (sendCommand_foreign (by decide) (by decide)).bind fun _ => ?_
  refine (recv_foreign 2 hcanHmsDeviceBootStopAck).bind fun _ => state.bind fun value => ?_
  refine preserves_ite (fun _ => preserves_throw fun wrong => ?_) fun _ => preserves_pure
  cases wrong

end Foreign

section Test

variable {n : Net c}

theorem last_of_append {α : Type} {front rest earlier : List α} {x last : α}
    (same : earlier ++ [last] = front ++ x :: rest) (new : x ∉ earlier) :
    x = last ∧ rest = [] := by
  induction front generalizing earlier with
  | nil =>
      cases earlier with
      | nil =>
          cases same
          exact ⟨rfl, rfl⟩
      | cons first earlier =>
          rw [List.cons_append, List.nil_append, List.cons.injEq] at same
          exact absurd (same.1 ▸ List.mem_cons_self ..) new
  | cons first front ih =>
      cases earlier with
      | nil =>
          rw [List.nil_append, List.cons_append, List.cons.injEq] at same
          exact absurd same.2.symm (by simp)
      | cons other earlier =>
          rw [List.cons_append, List.cons_append, List.cons.injEq] at same
          exact ih same.2 fun member => new (List.mem_cons_of_mem _ member)

/-- An answer that no earlier frame can be taken for is the answer to the request. -/
theorem ownAnswer_meets {request : CanixFrame} {size command : UInt8} (other : OtherFrame request)
    (foreign : ∀ frame ∈ n.inbox, frame.data[1] ≠ command)
    {failed : FlashError → Net c → Prop} :
    Meets (send faults request) n (fun _ middle =>
      Meets (recv bcon size command) middle
        (fun answer last => n.board.handle request = some (last.board, some answer) ∧
          last.inbox = [])
        (fun error _ => ∃ message, error = .transport message)) failed := by
  refine meets_send fun middle result => ?_
  have unanswered (same : middle.inbox = n.inbox) :
      Meets (recv bcon size command) middle
        (fun answer last => n.board.handle request = some (last.board, some answer) ∧
          last.inbox = [])
        (fun error _ => ∃ message, error = .transport message) := by
    refine ((recv_ends size command middle).mono ?_ fun _ _ failed => failed.1).meets
    rintro answer last ⟨isAnswer, front, rest, waits, _⟩
    refine absurd isAnswer (foreign answer ?_)
    rw [← same, waits]
    exact List.mem_append_right _ (List.mem_cons_self ..)
  cases other_effect other result with
  | lost _ same => exact unanswered (by rw [same])
  | arrived board reply handled same =>
      cases reply with
      | none => exact unanswered (by rw [same]; simp)
      | some answer =>
          cases gone : (faults n.sent).replyLost with
          | true => exact unanswered (by rw [same]; simp [gone])
          | false =>
              refine ((recv_ends size command middle).mono ?_ fun _ _ failed => failed.1).meets
              rintro received last ⟨isReceived, front, rest, waits, rfl⟩
              have inbox : n.inbox ++ [answer] = front ++ received :: rest := by
                rw [← waits, same]
                simp [gone]
              obtain ⟨rfl, rfl⟩ := last_of_append inbox fun member =>
                foreign received member isReceived
              rw [same]
              exact ⟨handled, rfl⟩

theorem joined_bytes (word : UInt16) :
    ((word >>> 8).toUInt8.toUInt16 <<< 8) ||| (word &&& 0xff).toUInt8.toUInt16 = word := by
  have bound := word.toNat_lt
  have low : (word &&& 0xff).toNat = word.toNat % 256 := by
    rw [UInt16.toNat_and, show (0xff : UInt16).toNat = 2 ^ 8 - 1 from rfl,
      Nat.and_two_pow_sub_one_eq_mod]
  refine UInt16.toNat_inj.mp ?_
  rw [joined_toNat, UInt16.toNat_toUInt8, UInt16.toNat_toUInt8, low, UInt16.toNat_shiftRight,
    show (8 : UInt16).toNat % 16 = 8 from rfl, Nat.shiftRight_eq_div_pow]
  omega

theorem little_endian (word : UInt16) :
    word.toUInt8.toUInt16 ||| ((word >>> 8).toUInt8.toUInt16 <<< 8) = word := by
  have bound := word.toNat_lt
  refine UInt16.toNat_inj.mp ?_
  rw [UInt16.or_comm, joined_toNat, UInt16.toNat_toUInt8, UInt16.toNat_toUInt8,
    UInt16.toNat_shiftRight, show (8 : UInt16).toNat % 16 = 8 from rfl, Nat.shiftRight_eq_div_pow]
  omega

/-- The checksum that the host loads is that of the flash. -/
theorem loadCrc16_meets (size : UInt16) (foreign : Foreign n) :
    Meets (loadCrc16FromBoard faults bcon size) n
      (fun crc last => crc = calculateCrc16OverFlash last.board.flash size ∧ last.inbox = [])
      (fun error _ => ∃ message, error = .transport message) := by
  refine exchange_bind (ownAnswer_meets (queryFrame_other _ _) fun frame member =>
    (foreign frame member).1) fun answer last ⟨handled, empty⟩ => meets_pure ⟨?_, empty⟩
  have command := handle_command (by decide : (4 : UInt8).toNat ≤ 8) handled
  have built : c.hcanbl32 := by
    refine Decidable.byContradiction fun built => ?_
    rw [unanswered_query built command, Option.some.injEq, Prod.mk.injEq] at handled
    cases handled.2
  obtain ⟨data, answered, _, _, high, low⟩ := answer_query built command rfl
  rw [handled, Option.some.injEq, Prod.mk.injEq, Option.some.injEq] at answered
  obtain ⟨board, rfl⟩ := answered
  rw [high, low, joined_bytes, joined_bytes, board]

/-- A byte of the EEPROM that the host writes. -/
theorem writeEepromByte_meets {address : Nat} (inside : address < 65536) (value : UInt8)
    (foreign : Foreign n) :
    Meets (writeEepromByte faults bcon address value) n
      (fun _ last => last.inbox = [] ∧ last.board.flash = n.board.flash ∧
        last.board.eeprom = Function.update n.board.eeprom address value)
      (fun error _ => ∃ message, error = .transport message) := by
  refine exchange_bind (ownAnswer_meets (eepromFrame_other _ _ _) fun frame member =>
    (foreign frame member).2) fun answer last ⟨handled, empty⟩ => meets_pure ⟨empty, ?_⟩
  have command := handle_command (by decide : (5 : UInt8).toNat ≤ 8) handled
  obtain ⟨data, answered, _⟩ := answer_eeprom command
  rw [handled, Option.some.injEq, Prod.mk.injEq] at answered
  have place : framePointer (UInt8.ofNat (address / 256)) (UInt8.ofNat address) = address :=
    framePointer_bytes inside
  rw [answered.1, place]
  exact ⟨rfl, rfl⟩

theorem writeEepromWordLe_meets {address : Nat} (inside : address + 1 < 65536) (word : UInt16)
    (empty : n.inbox = []) :
    Meets (writeEepromWordLe faults bcon address word) n
      (fun _ last => last.inbox = [] ∧ last.board.flash = n.board.flash ∧
        last.board.eeprom = Function.update (Function.update n.board.eeprom address word.toUInt8)
          (address + 1) (word >>> 8).toUInt8)
      (fun error _ => ∃ message, error = .transport message) := by
  refine (writeEepromByte_meets (by omega) _ (foreign_of_empty empty)).bind ?_
  rintro _ middle ⟨emptied, flash, eeprom⟩
  refine (writeEepromByte_meets inside _ (foreign_of_empty emptied)).mono ?_
    fun _ _ failed => failed
  rintro _ last ⟨emptied, same, written⟩
  exact ⟨emptied, same.trans flash, by rw [written, eeprom]⟩

/-- The two words behind which the boot loader looks for its firmware. -/
theorem stored_words {eeprom : Nat → UInt8} {b : BootLoader c} {crc size : UInt16}
    (stored : b.eeprom =
      Function.update (Function.update (Function.update (Function.update eeprom
        eeprFirmwareCrc16 crc.toUInt8) (eeprFirmwareCrc16 + 1) (crc >>> 8).toUInt8)
        eeprFirmwareSize size.toUInt8) (eeprFirmwareSize + 1) (size >>> 8).toUInt8) :
    b.eepromReadWord eeprFirmwareCrc16 = crc ∧ b.eepromReadWord eeprFirmwareSize = size := by
  constructor
  · rw [BootLoader.eepromReadWord, stored, Function.update_of_ne (by decide),
      Function.update_of_ne (by decide), Function.update_of_ne (by decide), Function.update_self,
      Function.update_of_ne (by decide), Function.update_of_ne (by decide), Function.update_self,
      little_endian]
  · rw [BootLoader.eepromReadWord, stored, Function.update_of_ne (by decide),
      Function.update_self, Function.update_self, little_endian]

/-- The boot loader accepts its flash, which has not the checksum of the image. -/
structure Certified (image : List UInt8) (b : BootLoader c) : Prop where
  accepted : b.checkFirmware = true
  wrong : calculateCrc16OverFlash b.flash (sizeOf16 image) ≠ crc16 image

/-- What the host leaves in the EEPROM certifies the content of the flash. -/
theorem verify_meets (image : List UInt8) (foreign : Foreign n) :
    Meets (verify faults bcon image) n
      (fun _ last => last.board.checkFirmware = true ∧
        calculateCrc16OverFlash last.board.flash (sizeOf16 image) = crc16 image)
      (fun error last => (∃ message, error = .transport message) ∨
        error = crcError ∧ Certified image last.board) := by
  refine ((loadCrc16_meets _ foreign).mono (fun _ _ holds => holds)
    fun _ _ failed => .inl failed).bind ?_
  rintro crc loaded ⟨isCrc, empty⟩
  have save : Meets (saveCrc16ToBoard faults bcon crc (sizeOf16 image)) loaded
      (fun _ last => last.board.flash = loaded.board.flash ∧ last.board.checkFirmware = true)
      (fun error _ => ∃ message, error = .transport message) := by
    refine (writeEepromWordLe_meets (by decide) crc empty).bind ?_
    rintro _ middle ⟨emptied, flash, eeprom⟩
    refine (writeEepromWordLe_meets (by decide) (sizeOf16 image) emptied).mono ?_
      fun _ _ failed => failed
    rintro _ last ⟨_, same, written⟩
    rw [eeprom] at written
    obtain ⟨isSum, isSize⟩ := stored_words written
    refine ⟨same.trans flash, ?_⟩
    rw [BootLoader.checkFirmware, isSum, isSize, same, flash, ← isCrc]
    exact decide_eq_true rfl
  refine (save.mono (fun _ _ holds => holds) fun _ _ failed => .inl failed).bind ?_
  rintro _ last ⟨flash, certified⟩
  rw [← flash] at isCrc
  refine meets_ite (fun differs => meets_throw (.inr ⟨rfl, certified, ?_⟩)) fun same =>
    meets_pure ⟨certified, ?_⟩
  · rwa [← isCrc]
  · rw [← isCrc]
    exact not_not.mp same

/-- An attempt that ends with the error of the test leaves a certified firmware. -/
theorem attempt_certifies (image : List UInt8) (cached : Option (List UInt8))
    (foreign : Foreign n) :
    Meets (attempt faults bcon image cached) n (fun _ _ => True)
      (fun error last => error = crcError ∧ Certified image last.board ∨
        OtherError error ∧ Foreign last) := by
  refine ((flashBlocks_foreign image cached _ _ n foreign).mono (fun _ _ holds => holds)
    fun _ _ failed => .inr failed).bind fun _ flashed foreign => ?_
  have checked : Meets (tryCatch (verify faults bcon image) ignoreTransport) flashed
      (fun _ _ => True) (fun error last => error = crcError ∧ Certified image last.board ∨
        OtherError error ∧ Foreign last) := by
    refine ((verify_meets image foreign).mono (fun _ _ _ => trivial)
      fun _ _ failed => failed).tryCatch fun error last failed => ?_
    rcases failed with ⟨message, rfl⟩ | ⟨rfl, certified⟩
    · exact meets_pure trivial
    · exact meets_throw (.inl ⟨rfl, certified⟩)
  exact checked.bind fun _ _ _ => meets_send fun _ _ => trivial

theorem tries_certifies (image : List UInt8) (cached : Option (List UInt8)) (left : Nat)
    (foreign : Foreign n) :
    Meets (tries faults bcon image cached left) n (fun _ _ => True)
      (fun error last => error = crcError → Certified image last.board) := by
  induction left generalizing n with
  | zero => exact meets_pure trivial
  | succ left ih =>
      have attempted : Meets (do attempt faults bcon image cached; pure true) n (fun _ _ => True)
          (fun error last => error = crcError ∧ Certified image last.board ∨
            OtherError error ∧ Foreign last) :=
        (attempt_certifies image cached foreign).bind fun _ _ _ => meets_pure trivial
      rw [tries]
      refine attempted.tryCatch fun error last failed => ?_
      rcases failed with ⟨rfl, certified⟩ | ⟨other, foreign⟩
      · exact meets_throw fun _ => certified
      · cases error with
        | transport message =>
            refine ((enterBootLoader_foreign last foreign).mono (fun _ _ holds => holds)
              fun _ _ failed isCrc => absurd isCrc failed.1).bind fun _ entered foreign => ?_
            exact ih foreign
        | traceable message => exact meets_throw fun isCrc => absurd isCrc other
        | assertion => exact meets_throw fun isCrc => absurd isCrc other

theorem cmdFlash_certifies (incremental : Bool) (image : List UInt8)
    (cacheFile : Option (List UInt8)) (foreign : Foreign n) :
    Meets (cmdFlash faults bcon incremental image cacheFile) n (fun _ _ => True)
      (fun error last => error = crcError → Certified image last.board) := by
  cases incremental with
  | false => exact tries_certifies image none 3 foreign
  | true =>
      have checked : Meets (checkCache faults bcon image cacheFile) n (fun _ => Foreign)
          (fun error last => error = crcError → Certified image last.board) := by
        refine ((enterBootLoader_foreign n foreign).mono (fun _ _ holds => holds)
          fun _ _ failed isCrc => absurd isCrc failed.1).bind fun _ entered foreign => ?_
        cases cacheFile with
        | none => exact meets_pure foreign
        | some cached =>
            refine ((loadCrc16_meets _ foreign).mono (fun _ _ holds => holds)
              fun _ _ failed isCrc => absurd isCrc (otherError_transport failed)).bind ?_
            rintro crc loaded ⟨_, empty⟩
            exact meets_ite (fun _ => meets_pure (foreign_of_empty empty)) fun _ =>
              meets_pure (foreign_of_empty empty)
      exact checked.bind fun cached _ foreign => tries_certifies image cached 3 foreign

end Test

/-! ## The boot decision -/

theorem countDown_run (b : BootLoader c) {passes : Nat} (few : passes ≤ 49) :
    BootLoader.countDown^[passes] b.restart =
      { b.restart with bootCounter := UInt8.ofNat (passes + 1) } := by
  induction passes with
  | zero => rfl
  | succ passes ih =>
      have before : (UInt8.ofNat (passes + 1)).toNat = passes + 1 := by
        rw [UInt8.toNat_ofNat']
        exact Nat.mod_eq_of_lt (by omega)
      have next : UInt8.ofNat (passes + 1) + 1 = UInt8.ofNat (passes + 1 + 1) :=
        (UInt8.ofNat_add (passes + 1) 1).symm
      have after : (UInt8.ofNat (passes + 1 + 1)).toNat = passes + 1 + 1 := by
        rw [UInt8.toNat_ofNat']
        exact Nat.mod_eq_of_lt (by omega)
      have counts : 0 < UInt8.ofNat (passes + 1) := by
        rw [UInt8.lt_iff_toNat_lt, before]
        exact Nat.succ_pos passes
      have waits : ¬ 50 < UInt8.ofNat (passes + 1 + 1) := by
        rw [UInt8.lt_iff_toNat_lt, after]
        change ¬ 50 < passes + 1 + 1
        omega
      rw [Function.iterate_succ_apply', ih (by omega), BootLoader.countDown, if_pos counts]
      simp only [next]
      rw [if_neg waits]

/-- Behind a reset a firmware that passes the test is started. -/
theorem boot_starts {b : BootLoader c} (accepted : b.checkFirmware = true) :
    (BootLoader.countDown^[50] b.restart).inApp = true := by
  have same : ({ b.restart with bootCounter := UInt8.ofNat (49 + 1) + 1 } :
      BootLoader c).checkFirmware = true := accepted
  rw [Function.iterate_succ_apply', countDown_run b (Nat.le_refl 49), BootLoader.countDown,
    if_pos (by decide : (0 : UInt8) < UInt8.ofNat (49 + 1))]
  dsimp only
  rw [if_pos (by decide), if_neg fun refused => refused.2 same]

/-- A run of the flash command that ends because the checksums differ leaves a firmware with a
wrong checksum that the boot loader accepts and starts. -/
theorem failed_flash_starts (faults : Faults) (bcon : BoardConnection) (incremental : Bool)
    (image : List UInt8) (cacheFile : Option (List UInt8)) {n last : Net c}
    (empty : n.inbox = [])
    (result : cmdFlash faults bcon incremental image cacheFile n = some (.error crcError, last)) :
    calculateCrc16OverFlash last.board.flash (sizeOf16 image) ≠ crc16 image ∧
      last.board.checkFirmware = true ∧
      (BootLoader.countDown^[50] last.board.restart).inApp = true := by
  have certified := (cmdFlash_certifies incremental image cacheFile
    (foreign_of_empty empty)).error result rfl
  exact ⟨certified.wrong, certified.accepted, boot_starts certified.accepted⟩

/-- Every page write leaves zeros. -/
def spoilsWrites : Faults := fun _ => { Fault.absent with spoilt := some fun _ => 0 }

def endedWith (error : FlashError) : Except FlashError Bool → Bool
  | .error raised => raised = error
  | .ok _ => false

theorem failed_flash_starts_sample : ∃ last,
    cmdFlash spoilsWrites sampleConnection false sampleImage none (sampleNet fun _ => 0xff) =
      some (.error crcError, last) ∧
    calculateCrc16OverFlash last.board.flash (sizeOf16 sampleImage) ≠ crc16 sampleImage ∧
      last.board.checkFirmware = true ∧
      (BootLoader.countDown^[50] last.board.restart).inApp = true := by
  have evaluated : ((cmdFlash spoilsWrites sampleConnection false sampleImage none
      (sampleNet fun _ => 0xff)).any fun pair => endedWith crcError pair.1) = true := by
    decide +kernel
  obtain ⟨⟨outcome, last⟩, result, passed⟩ := exists_of_any evaluated
  cases outcome with
  | ok done => cases passed
  | error error =>
      obtain rfl : error = crcError := of_decide_eq_true passed
      exact ⟨last, result, failed_flash_starts spoilsWrites sampleConnection false sampleImage
        none rfl result⟩

/-- A failed page write: the boot loader accepts the zeros in the place of the image. -/
theorem zeros_accepted : ∃ last,
    cmdFlash spoilsWrites sampleConnection false sampleImage none (sampleNet fun _ => 0xff) =
      some (.error crcError, last) ∧
    ¬ Holds last.board.flash sampleImage ∧ last.board.checkFirmware = true := by
  have evaluated : ((cmdFlash spoilsWrites sampleConnection false sampleImage none
      (sampleNet fun _ => 0xff)).any fun pair => endedWith crcError pair.1 &&
        byteAt pair.2.board.flash 0 == 0 && pair.2.board.checkFirmware) = true := by decide +kernel
  obtain ⟨⟨outcome, last⟩, result, passed⟩ := exists_of_any evaluated
  rw [Bool.and_eq_true, Bool.and_eq_true, beq_iff_eq] at passed
  obtain ⟨⟨ended, zero⟩, accepted⟩ := passed
  cases outcome with
  | ok done => cases ended
  | error error =>
      obtain rfl : error = crcError := of_decide_eq_true ended
      refine ⟨last, result, fun holds => ?_, accepted⟩
      have first := holds.2 0 (by decide +kernel)
      rw [zero] at first
      exact absurd first (by decide)

end Hcan.Flash
