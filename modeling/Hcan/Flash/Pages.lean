import Hcan.Flash.Lines

/-!
# Pages and blocks

A page write puts the buffer into the flash.  A block of an image is sent in lines and
written as one page; in the incremental mode a block that is the cached one is left out.
-/

namespace Hcan.Flash

open Hcan.Canix Hcan.Host Hcan.Library Hcan.Library.Program

variable {c : Controller} {faults : Faults} {bcon : BoardConnection}

theorem word_toNat (low high : UInt8) :
    (low.toUInt16 + (high.toUInt16 <<< 8)).toNat = high.toNat * 256 + low.toNat := by
  have least := low.toNat_lt
  have most := high.toNat_lt
  rw [UInt16.toNat_add, UInt16.toNat_shiftLeft, UInt8.toNat_toUInt16, UInt8.toNat_toUInt16,
    show (8 : UInt16).toNat % 16 = 8 from rfl, Nat.shiftLeft_eq]
  omega

theorem word_low (low high : UInt8) :
    (low.toUInt16 + (high.toUInt16 <<< 8)).toUInt8 = low := by
  have least := low.toNat_lt
  refine UInt8.toNat_inj.mp ?_
  rw [UInt16.toNat_toUInt8, word_toNat]
  omega

theorem word_high (low high : UInt8) :
    ((low.toUInt16 + (high.toUInt16 <<< 8)) >>> 8).toUInt8 = high := by
  have least := low.toNat_lt
  have most := high.toNat_lt
  refine UInt8.toNat_inj.mp ?_
  rw [UInt16.toNat_toUInt8, UInt16.toNat_shiftRight, word_toNat,
    show (8 : UInt16).toNat % 16 = 8 from rfl, Nat.shiftRight_eq_div_pow]
  omega

theorem lines_pageSize (c : Controller) : 16 * (c.pageSize / 16) = c.pageSize := by
  cases c <;> rfl

theorem words_pageSize (c : Controller) : 2 * (c.pageSize / 2) = c.pageSize := by
  cases c <;> rfl

/-- The words of the buffer stand in the temporary buffer in their order. -/
theorem fillPage_apply (flashBuffer : Vector UInt8 c.pageSize) {address : Nat}
    (aligned : address % c.pageSize = 0) {words k : Nat} (inPage : 2 * words ≤ c.pageSize)
    (filled : k < 2 * words) :
    BootLoader.fillPage flashBuffer address words k = flashBuffer.toList.getD k 0 := by
  induction words with
  | zero => exact absurd filled (Nat.not_lt_zero k)
  | succ words ih =>
      have place : (address + 2 * words) % c.pageSize / 2 * 2 = 2 * words := by
        rw [Nat.add_mod, aligned, Nat.zero_add, Nat.mod_mod, Nat.mod_eq_of_lt (by omega)]
        omega
      rw [BootLoader.fillPage, bootPageFill, place, BootLoader.bufferWord]
      by_cases high : k = 2 * words + 1
      · rw [high, Function.update_self, word_high]
      · rw [Function.update_of_ne high]
        by_cases low : k = 2 * words
        · rw [low, Function.update_self, word_low]
        · rw [Function.update_of_ne low]
          exact ih (by omega) (by omega)

/-- A page write replaces the page by the buffer and nothing else. -/
theorem writePage_apply (flash : Memory c) (flashBuffer : Vector UInt8 c.pageSize)
    {block a : Nat} (inFlash : block * c.pageSize < c.flashSize) (cell : a < c.flashSize) :
    byteAt (BootLoader.writePage flash flashBuffer (block * c.pageSize)) a =
      if a / c.pageSize = block then flashBuffer.toList.getD (a % c.pageSize) 0
      else byteAt flash a := by
  have positive := pageSize_pos c
  have words := words_pageSize c
  have page : pageOf c (block * c.pageSize) = block := by
    rw [pageOf, Nat.mod_eq_of_lt inFlash, Nat.mul_div_cancel block positive]
  unfold byteAt BootLoader.writePage bootPageWrite bootPageErase
  simp only [page, Nat.mod_eq_of_lt cell]
  by_cases inside : a / c.pageSize = block
  · have within : a % c.pageSize < 2 * (c.pageSize / 2) := by
      rw [words]
      exact Nat.mod_lt a positive
    rw [if_pos inside, if_pos inside, if_pos inside,
      fillPage_apply flashBuffer (Nat.mul_mod_left block _) (Nat.le_of_eq words) within]
    exact UInt8.toBitVec_inj.mp (BitVec.allOnes_and)
  · rw [if_neg inside, if_neg inside, if_neg inside]

/-! ## Blocks -/

section Block

variable {flash before : Memory c} {image : List UInt8} {n : Net c} {block : Nat}

/-- The flash behind the first `done` blocks of an image. -/
def Written (image : List UInt8) (before : Memory c) (done : Nat) (flash : Memory c) : Prop :=
  ∀ a, a < c.flashSize →
    if a < done * c.pageSize then image[a]? = some (byteAt flash a)
    else byteAt flash a = byteAt before a

theorem spoil_listening (fault : Fault) (frame : CanixFrame) {b : BootLoader c}
    (listening : Listening bcon b) : Listening bcon (fault.spoil frame b) := by
  unfold Fault.spoil
  cases fault.spoilt with
  | none => exact listening
  | some flash =>
      simp only
      split
      · exact ⟨listening.inApp, listening.selfAddr, listening.home⟩
      · exact listening

/-- What sending a WRITE frame leads to. -/
structure WriteEffect (faults : Faults) (bcon : BoardConnection) (n : Net c) (lsb msb : UInt8)
    (next : Net c) : Prop where
  listening : Listening bcon next.board
  acked : next.acked = n.acked
  sent : next.sent = n.sent + 1
  premature : next.premature = n.premature
  /-- A frame that arrives does not reach the boot section. -/
  spared : (faults n.sent).requestLost = false →
    framePointer msb lsb % c.flashSize < c.bootloaderAddress
  flash : faults n.sent = Fault.absent → next.board.flash =
    BootLoader.writePage n.board.flash n.board.flashBuffer (framePointer msb lsb)
  answer : (next.inbox = n.inbox ∧ Faulty faults next) ∨
    ∃ ack, next.inbox = n.inbox ++ [ack] ∧ IsReply bcon 2 hcanHmsFlashBufferWriteAck ack

theorem write_effect (listening : Listening bcon n.board) {lsb msb : UInt8} {next : Net c}
    (result : n.afterSend faults (writeFrame bcon lsb msb) = some next) :
    WriteEffect faults bcon n lsb msb next := by
  have other : (writeFrame bcon lsb msb).data[1] ≠ hcanHmsFlashBufferFill := by
    change hcanHmsFlashBufferWrite ≠ hcanHmsFlashBufferFill
    decide
  cases lost : (faults n.sent).requestLost with
  | true =>
      rw [afterSend_lost lost, note_other _ _ other, Option.some.injEq] at result
      subst result
      refine ⟨listening, rfl, rfl, rfl, fun arrives => ?_, fun absent => ?_,
        .inl ⟨rfl, faulty_of_lost lost rfl⟩⟩
      · rw [lost] at arrives
        cases arrives
      · rw [absent] at lost
        cases lost
  | false =>
      have handled : n.board.handle (writeFrame bcon lsb msb) = _ :=
        handle_listening listening rfl rfl (by decide : (2 : UInt8) ≤ 4)
          (by decide : (4 : UInt8) ≤ 8)
      obtain ⟨data, answered, service, command⟩ := answer_write handled
      have spared : framePointer msb lsb % c.flashSize < c.bootloaderAddress := by
        refine Nat.lt_of_not_le fun reached => ?_
        rw [if_pos reached] at answered
        rcases afterSend_cases result with ⟨isLost, _⟩ | ⟨_, _, isHandled, _⟩
        · rw [lost] at isLost
          cases isLost
        · rw [answered] at isHandled
          cases isHandled
      rw [if_neg (Nat.not_le_of_lt spared)] at answered
      rw [afterSend_arrived lost answered, note_other _ _ other, Option.some.injEq] at result
      subst result
      refine ⟨spoil_listening _ _ ⟨listening.inApp, listening.selfAddr, listening.home⟩, rfl,
        rfl, rfl, fun _ => spared, fun absent => ?_, ?_⟩
      · rw [absent]
        rfl
      · cases gone : (faults n.sent).replyLost with
        | true => exact .inl ⟨by simp, faulty_of_replyLost gone rfl⟩
        | false => exact .inr ⟨_, rfl, rfl, listening.selfAddr, rfl, service, command⟩

theorem Written.next (written : Written image before block flash) {b : BootLoader c}
    (inFlash : block * c.pageSize < c.flashSize)
    (held : Held image (block * c.pageSize) c.pageSize b) :
    Written image before (block + 1)
      (BootLoader.writePage flash b.flashBuffer (block * c.pageSize)) := by
  intro a cell
  have positive := pageSize_pos c
  have within := Nat.mod_lt a positive
  have isWritten := written a cell
  rw [writePage_apply flash _ inFlash cell, Nat.succ_mul]
  rcases Nat.lt_trichotomy (a / c.pageSize) block with less | inside | more
  · have below : a < block * c.pageSize := (Nat.div_lt_iff_lt_mul positive).mp less
    rw [if_neg (Nat.ne_of_lt less), if_pos (by omega)]
    rwa [if_pos below] at isWritten
  · have place : block * c.pageSize + a % c.pageSize = a := by
      rw [← inside, Nat.mul_comm]
      exact Nat.div_add_mod a c.pageSize
    have byte := held (a % c.pageSize) within
    rw [place] at byte
    rw [if_pos inside, if_pos (by omega), ← byte, List.getD_eq_getElem?_getD,
      List.getElem?_eq_getElem (by rwa [Vector.length_toList]), Option.getD_some]
  · have above : (block + 1) * c.pageSize ≤ a := (Nat.le_div_iff_mul_le positive).mp more
    rw [Nat.succ_mul] at above
    rw [if_neg (Nat.ne_of_gt more), if_neg (by omega)]
    rwa [if_neg (by omega)] at isWritten

/-- Two images have the same bytes in a block. -/
def SameBlock (c : Controller) (image cached : List UInt8) (block : Nat) : Prop :=
  ∀ k, k < c.pageSize → ∃ byte, image[block * c.pageSize + k]? = some byte ∧
    cached[block * c.pageSize + k]? = some byte

/-- A block in the boot section is left out. -/
def Spared (c : Controller) (image : List UInt8) (cached : Option (List UInt8)) (block : Nat) :
    Prop :=
  c.bootloaderAddress ≤ block * c.pageSize % c.flashSize →
    ∃ old, cached = some old ∧ SameBlock c image old block

/-- What the blocks from one to another do to the flash when nothing goes wrong. -/
structure BlocksEffect (image : List UInt8) (cached : Option (List UInt8))
    (before flash next : Memory c) (block last : Nat) : Prop where
  spared : ∀ k, block ≤ k → k < last → Spared c image cached k
  written : last * c.pageSize ≤ c.flashSize → (∀ old, cached = some old → Holds before old) →
    Written image before block flash → Written image before last next

theorem BlocksEffect.refl (image : List UInt8) (cached : Option (List UInt8))
    (before flash : Memory c) (block : Nat) :
    BlocksEffect image cached before flash flash block block :=
  ⟨fun _ least most => absurd most (Nat.not_lt_of_le least), fun _ _ written => written⟩

theorem BlocksEffect.trans {cached : Option (List UInt8)} {middle next : Memory c}
    {between last : Nat} (first : BlocksEffect image cached before flash middle block between)
    (second : BlocksEffect image cached before middle next between last)
    (ordered : between ≤ last) : BlocksEffect image cached before flash next block last := by
  refine ⟨fun k least most => ?_, fun inFlash stale written => ?_⟩
  · rcases Nat.lt_or_ge k between with early | late
    · exact first.spared k least early
    · exact second.spared k late most
  · have less := Nat.le_trans (Nat.mul_le_mul_right c.pageSize ordered) inFlash
    exact second.written inFlash stale (first.written less stale written)

/-- A block that is not left out. -/
theorem sendBlock_meets (before : Memory c) (cached : Option (List UInt8))
    (addressed : (block + 1) * c.pageSize ≤ 65536)
    (between : Between faults bcon flash (fun _ => True) n) :
    Meets (do
      flashLines faults bcon image (block * c.pageSize) (c.pageSize / 16) 0
      sendFlashBufferWrite faults bcon (UInt8.ofNat (block * c.pageSize))
        (UInt8.ofNat (block * c.pageSize / 256))
      let _ ← recv bcon 2 hcanHmsFlashBufferWriteAck) n
      (fun _ last => ∃ next, Between faults bcon next (fun _ => True) last ∧
        ((∀ k, faults k = Fault.absent) →
          BlocksEffect image cached before flash next block (block + 1))) (Failed faults bcon) := by
  have positive := pageSize_pos c
  have lines := lines_pageSize c
  have empty : Between faults bcon flash (Held image (block * c.pageSize) (16 * 0)) n :=
    ⟨between.attending, between.inbox, fun _ k none => absurd none (Nat.not_lt_zero k)⟩
  have sent : Meets (flashLines faults bcon image (block * c.pageSize) (c.pageSize / 16)
      (UInt8.ofNat (16 * 0))) n _ _ := flashLines_meets (by omega) empty
  rw [Nat.zero_add, lines] at sent
  refine sent.bind ?_
  intro _ full held
  have write : Meets (sendFlashBufferWrite faults bcon (UInt8.ofNat (block * c.pageSize))
      (UInt8.ofNat (block * c.pageSize / 256))) full (fun _ last =>
        WriteEffect faults bcon full (pointerLo (block * c.pageSize))
          (pointerHi (block * c.pageSize)) last) (Failed faults bcon) :=
    meets_send fun last result => write_effect held.attending.listening result
  refine write.bind ?_
  intro _ written effect
  have later : full.sent ≤ written.sent := by
    rw [effect.sent]
    exact Nat.le_succ _
  have attending : Attending faults bcon written.board.flash written := by
    refine ⟨effect.listening, rfl, ?_, ?_⟩
    · rw [Sound, effect.premature, effect.acked]
      exact held.attending.sound
    · rw [effect.premature]
      exact fun early => (held.attending.blamed early).later later
  have awaited : Meets (recv bcon 2 hcanHmsFlashBufferWriteAck) written
      (fun _ => Between faults bcon written.board.flash (fun _ => True)) (Failed faults bcon) :=
    awaited_meets attending fun onTime => by
      rw [effect.premature] at onTime
      rcases effect.answer with ⟨same, faulty⟩ | ⟨ack, same, isReply⟩
      · exact .inl ⟨by rw [same, held.inbox onTime], faulty⟩
      · exact .inr ⟨trivial, ack, by rw [same, held.inbox onTime, List.nil_append], isReply⟩
  refine awaited.bind ?_
  intro _ last received
  refine meets_pure ⟨_, received, fun lossFree => ?_⟩
  have onTime : full.premature = false := by
    cases early : full.premature with
    | false => rfl
    | true =>
        obtain ⟨k, _, fault⟩ := held.attending.blamed early
        exact absurd (lossFree k) fault
  have pointer : framePointer (pointerHi (block * c.pageSize)) (pointerLo (block * c.pageSize)) =
      block * c.pageSize := framePointer_bytes (by rw [Nat.succ_mul] at addressed; omega)
  refine ⟨fun k least most reached => ?_, fun inFlash _ isWritten => ?_⟩
  · obtain rfl : k = block := by omega
    have spared := effect.spared (by rw [lossFree]; rfl)
    rw [pointer] at spared
    exact absurd reached (Nat.not_le_of_lt spared)
  · rw [effect.flash (lossFree _), pointer, held.attending.flash]
    rw [Nat.succ_mul] at inFlash
    exact isWritten.next (by omega) (held.kept onTime)

theorem blocksEqual_meets {cached : List UInt8} {offset bytes i : Nat}
    {failed : FlashError → Net c → Prop} :
    Meets (blocksEqual image cached offset bytes i) n
      (fun equal last => last = n ∧ (equal = true ↔ ∀ k, i ≤ k → k < i + bytes →
        ∃ byte, image[offset + k]? = some byte ∧ cached[offset + k]? = some byte)) failed := by
  induction bytes generalizing i with
  | zero => exact meets_pure ⟨rfl, iff_of_true rfl fun k least most => by omega⟩
  | succ bytes ih =>
      rw [blocksEqual]
      refine byteOf_meets.bind ?_
      rintro fresh n ⟨isFresh, rfl⟩
      refine byteOf_meets.bind ?_
      rintro old n ⟨isOld, rfl⟩
      refine meets_ite (fun differs => meets_pure ⟨rfl, iff_of_false Bool.false_ne_true ?_⟩)
        fun same => ?_
      · intro equal
        obtain ⟨byte, isByte, isCached⟩ := equal i (Nat.le_refl i) (by omega)
        rw [isFresh] at isByte
        rw [isOld] at isCached
        exact differs (Option.some.inj (isByte.trans isCached.symm))
      refine ih.mono ?_ fun _ _ holds => holds
      rintro equal last ⟨rfl, rest⟩
      refine ⟨rfl, rest.trans ⟨fun isEqual k least most => ?_, fun isEqual k least most =>
        isEqual k (by omega) (by omega)⟩⟩
      rcases Nat.lt_or_eq_of_le least with more | rfl
      · exact isEqual k more (by omega)
      · rw [not_not] at same
        exact ⟨fresh, isFresh, same ▸ isOld⟩

theorem leaveOut_meets {cached : Option (List UInt8)} {failed : FlashError → Net c → Prop} :
    Meets (leaveOut image (block * c.pageSize) cached) n
      (fun left last => last = n ∧ (left = true ↔
        ∃ old, cached = some old ∧ SameBlock c image old block)) failed := by
  cases cached with
  | none =>
      refine meets_pure ⟨rfl, iff_of_false Bool.false_ne_true ?_⟩
      rintro ⟨old, wrong, _⟩
      cases wrong
  | some old =>
      refine blocksEqual_meets.mono ?_ fun _ _ holds => holds
      rintro equal last ⟨rfl, same⟩
      refine ⟨rfl, same.trans ⟨fun isEqual => ⟨old, rfl, fun k inPage =>
        isEqual k (Nat.zero_le k) (by rwa [Nat.zero_add])⟩, ?_⟩⟩
      rintro ⟨other, isOther, isEqual⟩ k _ inPage
      obtain rfl : old = other := Option.some.inj isOther
      exact isEqual k (by rwa [Nat.zero_add] at inPage)

/-- A block that is left out is in the flash already. -/
theorem Written.leave {old : List UInt8} (written : Written image before block flash)
    (stale : Holds before old) (same : SameBlock c image old block) :
    Written image before (block + 1) flash := by
  intro a cell
  have isWritten := written a cell
  rw [Nat.succ_mul]
  by_cases below : a < block * c.pageSize
  · rw [if_pos (by omega)]
    rwa [if_pos below] at isWritten
  · rw [if_neg below] at isWritten
    split
    · obtain ⟨byte, isByte, isOld⟩ := same (a - block * c.pageSize) (by omega)
      rw [Nat.add_sub_of_le (by omega)] at isByte isOld
      obtain ⟨inside, isOld⟩ := List.getElem?_eq_some_iff.mp isOld
      rw [isWritten, stale.2 a inside, isOld, isByte]
    · exact isWritten

/-- One block of an attempt. -/
theorem flashBlock_meets (before : Memory c) {cached : Option (List UInt8)}
    (addressed : (block + 1) * c.pageSize ≤ 65536)
    (between : Between faults bcon flash (fun _ => True) n) :
    Meets (flashBlock faults bcon image cached block) n
      (fun _ last => ∃ next, Between faults bcon next (fun _ => True) last ∧
        ((∀ k, faults k = Fault.absent) →
          BlocksEffect image cached before flash next block (block + 1)))
      (Failed faults bcon) := by
  refine leaveOut_meets.bind ?_
  rintro left n ⟨rfl, isLeft⟩
  refine meets_ite (fun leaves => ?_) fun _ => sendBlock_meets before cached addressed between
  obtain ⟨old, isCached, same⟩ := isLeft.mp leaves
  refine meets_pure ⟨flash, between, fun _ => ⟨fun k least most _ => ?_, fun _ stale written =>
    written.leave (stale old isCached) same⟩⟩
  obtain rfl : k = block := by omega
  exact ⟨old, isCached, same⟩

/-- The blocks of an attempt from a block on. -/
theorem flashBlocks_meets (before : Memory c) {cached : Option (List UInt8)} {blocks : Nat}
    (addressed : (block + blocks) * c.pageSize ≤ 65536)
    (between : Between faults bcon flash (fun _ => True) n) :
    Meets (flashBlocks faults bcon image cached blocks block) n
      (fun _ last => ∃ next, Between faults bcon next (fun _ => True) last ∧
        ((∀ k, faults k = Fault.absent) →
          BlocksEffect image cached before flash next block (block + blocks)))
      (Failed faults bcon) := by
  induction blocks generalizing block flash n with
  | zero => exact meets_pure ⟨flash, between, fun _ => .refl ..⟩
  | succ blocks ih =>
      have first : (block + 1) * c.pageSize ≤ 65536 :=
        Nat.le_trans (Nat.mul_le_mul_right _ (by omega)) addressed
      rw [flashBlocks]
      refine (flashBlock_meets before first between).bind ?_
      rintro _ middle ⟨next, behind, writes⟩
      have shift : block + 1 + blocks = block + (blocks + 1) := by omega
      have rest : Meets (flashBlocks faults bcon image cached blocks (block + 1)) middle _ _ :=
        ih (by rwa [shift]) behind
      refine rest.mono ?_ fun _ _ failed => failed
      rintro _ last ⟨final, ends, rest⟩
      rw [shift] at rest
      exact ⟨final, ends, fun lossFree => (writes lossFree).trans (rest lossFree) (by omega)⟩

end Block

end Hcan.Flash
