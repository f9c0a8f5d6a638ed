import Hcan.Eds.Format
import Hcan.Eds.Requests
import Hcan.Library.Run

/-!
# Runs of the allocator

Allocations that find a block, releases of arbitrary pointers and
defragmentations, in any order and number.  An allocated block that no request
frees is kept by every `Progress` of the run.
-/

namespace Hcan.Eds

open Hcan.Canix Hcan.Library

variable {mcu : Mcu}

/-- A step of an allocator run.  Allocations ask for a type other than 0, which
is the mark of a free block. -/
structure AllocatorStep (selfaddr : UInt16) (ee : Eeprom mcu) (frame : CanixFrame)
    (later : Eeprom mcu) : Prop where
  request : AllocatorRequest ee frame
  typed : frame.data[1] = hcanEdsAllocateBlock → frame.data[2] ≠ 0
  served : ∃ answer, edsCanCallback selfaddr ee frame = some (later, answer)

/-- What a run keeps: the area stays well formed, and an allocated block that
no request frees stays on the chain while no write hits it. -/
theorem allocatorRun_keeps (keep : Nat → Prop) {self : UInt16} {ee last : Eeprom mcu}
    {frames : List CanixFrame} (run : Run (AllocatorStep self) ee frames last)
    (wellFormed : WellFormed mcu ee.cell)
    (kept : ∀ p, keep p → OnChain mcu ee.cell p ∧ ee.cell p ≠ 0 ∧
      ∀ frame ∈ frames, ¬ Frees frame p) :
    WellFormed mcu last.cell ∧ ∃ log, ee.Wrote log last ∧
      ∀ p, keep p → OnChain mcu last.cell p ∧
        ∀ write ∈ log, ¬ InBlock ee.cell p write.1 := by
  induction run with
  | nil ee =>
      exact ⟨wellFormed, [], .refl ee, fun p isKept =>
        ⟨(kept p isKept).1, fun _ member => nomatch member⟩⟩
  | @cons ee middle last frame frames taken rest ih =>
      obtain ⟨path, chain⟩ := wellFormed
      obtain ⟨answer, served⟩ := taken.served
      obtain ⟨later, answer', log, newPath, result, wrote, progress⟩ :=
        request_progress keep self ee taken.request chain fun p isKept =>
          ⟨⟨chain.onChain_iff.mp (kept p isKept).1, (kept p isKept).2.1⟩,
            (kept p isKept).2.2 frame List.mem_cons_self⟩
      have sameState : later = middle := by
        rw [served] at result
        cases result
        rfl
      subst sameState
      have chainThen : IsChain mcu later.cell newPath := wrote.cell ▸ progress.chain
      have sameBlock : ∀ p, keep p → ∀ address,
          InBlock later.cell p address ↔ InBlock ee.cell p address := by
        intro p isKept address
        rw [wrote.cell]
        exact progress.inBlock_iff isKept
      obtain ⟨endsWell, logRest, wroteRest, keptRest⟩ := ih ⟨newPath, chainThen⟩ fun p isKept => by
        refine ⟨⟨newPath, chainThen, progress.kept p isKept⟩, ?_, fun later member =>
          (kept p isKept).2.2 later (List.mem_cons_of_mem _ member)⟩
        rw [wrote.cell, progress.unchanged isKept (inBlock_type _ p)]
        exact (kept p isKept).2.1
      refine ⟨endsWell, log ++ logRest, wrote.trans wroteRest, fun p isKept =>
        ⟨(keptRest p isKept).1, fun write member => ?_⟩⟩
      rcases List.mem_append.mp member with early | late
      · exact progress.avoids write early p isKept
      · rw [← sameBlock p isKept]
        exact (keptRest p isKept).2 write late

/-- What the run behind an allocation leaves of the block it has returned. -/
theorem allocatorRun_keeps_block {self : UInt16} {ee last : Eeprom mcu}
    {frames : List CanixFrame} {p : Nat} (run : Run (AllocatorStep self) ee frames last)
    (onChain : OnChain mcu ee.cell p) (allocated : ee.cell p ≠ 0)
    (notFreed : ∀ frame ∈ frames, ¬ Frees frame p) :
    OnChain mcu last.cell p ∧ last.cell p = ee.cell p ∧ last.cell (p + 1) = ee.cell (p + 1) ∧
      ∃ log, last.log = ee.log ++ log ∧ ∀ write ∈ log, ¬ InBlock ee.cell p write.1 := by
  have wellFormed : WellFormed mcu ee.cell := by
    obtain ⟨path, chain, -⟩ := onChain
    exact ⟨path, chain⟩
  obtain ⟨-, log, wrote, kept⟩ :=
    allocatorRun_keeps (fun q => q = p) run wellFormed fun q same => by
      subst same
      exact ⟨onChain, allocated, notFreed⟩
  obtain ⟨stillThere, avoids⟩ := kept p rfl
  have unchanged : ∀ address, InBlock ee.cell p address →
      last.cell address = ee.cell address := by
    intro address inside
    rw [wrote.cell]
    exact replay_other fun write member same => avoids write member (same ▸ inside)
  exact ⟨stillThere, unchanged p (inBlock_type _ p), unchanged (p + 1) (inBlock_size _ p),
    log, wrote.log, avoids⟩

/-- The allocator invariant.  From a formatted area, every run of requests
keeps the area tiled by its chain and answers the next request; a block that an
allocation has returned stays as it is until it is freed; a release of anything
else than a block of the chain changes nothing. -/
theorem allocator_invariant {self : UInt16} {prior formated ee : Eeprom mcu}
    {requests : List CanixFrame} (format : edsFormat prior = some formated)
    (run : Run (AllocatorStep self) formated requests ee) :
    (WellFormed mcu ee.cell ∧ ∀ address, edsDataStart ≤ address → address ≤ edsEnd mcu →
      ∃! p, OnChain mcu ee.cell p ∧ InBlock ee.cell p address) ∧
    (∀ frame, AllocatorRequest ee frame →
      ∃ later answer, edsCanCallback self ee frame = some (later, answer)) ∧
    (∀ front frame back before after answer, requests = front ++ frame :: back →
      Run (AllocatorStep self) formated front before →
      frame.data[1] = hcanEdsAllocateBlock → frame.data[2] ≠ 0 →
      FindsBlock before frame.data[3] →
      edsCanCallback self before frame = some (after, answer) →
      Run (AllocatorStep self) after back ee →
      ∃ p, AnswersBlock answer p ∧ ((∀ later ∈ back, ¬ Frees later p) →
        OnChain mcu ee.cell p ∧ ee.cell p = frame.data[2] ∧ ee.cell (p + 1) = frame.data[3] ∧
        ∃ log, ee.log = after.log ++ log ∧ ∀ write ∈ log, ¬ InBlock after.cell p write.1)) ∧
    (∀ frame, frame.data[1] = hcanEdsFreeBlock →
      ¬ OnChain mcu ee.cell (framePointer frame.data[2] frame.data[3]) →
      ∃ answer, edsCanCallback self ee frame = some (ee, answer)) := by
  have formatedWell := edsFormat_wellFormed format
  obtain ⟨⟨path, chain⟩, -⟩ := allocatorRun_keeps (fun _ => False) run formatedWell
    fun _ impossible => impossible.elim
  refine ⟨⟨⟨path, chain⟩, fun address low high => chain.tiles low high⟩, ?_, ?_, ?_⟩
  · intro frame request
    obtain ⟨later, answer, -, -, served, -⟩ :=
      request_progress (fun _ => False) self ee request chain
        fun _ impossible => impossible.elim
    exact ⟨later, answer, served⟩
  · intro front frame back before after answer _ runFront command type finds served runBack
    obtain ⟨⟨pathThen, chainThen⟩, -⟩ := allocatorRun_keeps (fun _ => False) runFront formatedWell
      fun _ impossible => impossible.elim
    obtain ⟨later, answer', log, newPath, p, result, wrote, progress, answers, member,
      typed, sized, -⟩ := allocate_progress (fun _ => False) self before command finds
        chainThen fun _ impossible => impossible.elim
    rw [served] at result
    cases result
    have chainAfter : IsChain mcu after.cell newPath := wrote.cell ▸ progress.chain
    refine ⟨p, answers, fun notFreed => ?_⟩
    obtain ⟨onChain, sameType, sameSize, log, logged, avoids⟩ :=
      allocatorRun_keeps_block runBack (chainAfter.onChain_iff.mpr member) (typed ▸ type) notFreed
    exact ⟨onChain, sameType.trans typed, sameSize.trans sized, log, logged, avoids⟩
  · intro frame command notOnChain
    rw [edsCanCallback_free self ee command, edsFree_spec ee _ chain,
      if_neg fun member => notOnChain (chain.onChain_iff.mpr member)]
    exact ⟨_, rfl⟩

/-! ## A run on 1 KiB -/

/-- Serves a request of an allocator run, if it is one. -/
def serveRequest (self : UInt16) (ee : Eeprom mcu) (frame : CanixFrame) : Option (Eeprom mcu) :=
  if frame.data[1] = hcanEdsAllocateBlock then do
    let allocated ← edsAlloc ee frame.data[3]
    if allocated.2 ≠ 0 ∧ frame.data[2] ≠ 0 then (edsCanCallback self ee frame).map Prod.fst
    else none
  else if frame.data[1] = hcanEdsFreeBlock ∨ frame.data[1] = hcanEdsDefragment then
    (edsCanCallback self ee frame).map Prod.fst
  else none

theorem serveRequest_step {self : UInt16} {ee later : Eeprom mcu} {frame : CanixFrame}
    (served : serveRequest self ee frame = some later) : AllocatorStep self ee frame later := by
  have answered (callback : (edsCanCallback self ee frame).map Prod.fst = some later) :
      ∃ answer, edsCanCallback self ee frame = some (later, answer) := by
    obtain ⟨⟨_, answer⟩, result, rfl⟩ := Option.map_eq_some_iff.mp callback
    exact ⟨answer, result⟩
  unfold serveRequest at served
  split_ifs at served with allocate others
  · obtain ⟨⟨split, p⟩, allocated, callback⟩ := Option.bind_eq_some_iff.mp served
    split_ifs at callback with typed
    exact ⟨.allocate allocate ⟨split, p, allocated, typed.1⟩, fun _ => typed.2,
      answered callback⟩
  · refine ⟨?_, fun command => absurd command allocate, answered served⟩
    cases others with
    | inl free => exact .free free
    | inr defragment => exact .defragment defragment

/-- A request of the block structure. -/
def sampleRequest (command first second : UInt8) : CanixFrame :=
  { allocateRolladen with data := #v[hcanSrvEds, command, first, second, 0, 0, 0, 0] }

/-- A block is allocated and freed. -/
def sampleFront : List CanixFrame := [allocateRolladen, sampleRequest hcanEdsFreeBlock 0 34]

/-- A greater block is allocated. -/
def allocateGreater : CanixFrame := sampleRequest hcanEdsAllocateBlock 13 6

/-- A pointer into the greater block is freed and the area defragmented. -/
def sampleBack : List CanixFrame :=
  [sampleRequest hcanEdsFreeBlock 0 45, sampleRequest hcanEdsDefragment 0 0]

theorem served_run {self : UInt16} {ee last : Eeprom mcu} {frames : List CanixFrame}
    (executed : frames.foldlM (serveRequest self) ee = some last) :
    Run (AllocatorStep self) ee frames last :=
  (Run.of_execute executed).mono fun _ _ _ taken => serveRequest_step taken

/-- Behind the requests the greater block is on the chain of the area. -/
theorem allocator_invariant_rolladen :
    ∃ formated ee : Eeprom atmega32, edsFormat (.powerUp fun _ => 255) = some formated ∧
      Run (AllocatorStep 7) formated (sampleFront ++ allocateGreater :: sampleBack) ee ∧
      WellFormed atmega32 ee.cell ∧
      OnChain atmega32 ee.cell 41 ∧ ee.cell 41 = 13 ∧ ee.cell 42 = 6 := by
  have served : ((edsFormat (Eeprom.powerUp fun _ => 255 : Eeprom atmega32)).bind fun formated =>
      (sampleFront.foldlM (serveRequest 7) formated).bind fun before =>
        (serveRequest 7 before allocateGreater).bind fun after =>
          (sampleBack.foldlM (serveRequest 7) after).bind fun _ =>
            (edsCanCallback 7 before allocateGreater).bind fun called =>
              called.2.map fun reply => framePointer reply.data[2] reply.data[3]) =
      some 41 := by decide +kernel
  obtain ⟨formated, format, served⟩ := Option.bind_eq_some_iff.mp served
  obtain ⟨before, front, served⟩ := Option.bind_eq_some_iff.mp served
  obtain ⟨after, taken, served⟩ := Option.bind_eq_some_iff.mp served
  obtain ⟨ee, back, served⟩ := Option.bind_eq_some_iff.mp served
  obtain ⟨⟨_, answer⟩, called, served⟩ := Option.bind_eq_some_iff.mp served
  obtain ⟨reply, rfl, pointer⟩ := Option.map_eq_some_iff.mp served
  have step := serveRequest_step taken
  obtain ⟨_, answered⟩ := step.served
  cases called.symm.trans answered
  have finds : FindsBlock before 6 := by
    cases step.request with
    | allocate _ finds => exact finds
    | free command => exact absurd command (by decide)
    | defragment command => exact absurd command (by decide)
  have run : Run (AllocatorStep 7) formated (sampleFront ++ allocateGreater :: sampleBack) ee :=
    Run.append_iff.mpr ⟨before, served_run front, .cons step (served_run back)⟩
  obtain ⟨tiled, -, stays, -⟩ := allocator_invariant format run
  obtain ⟨p, ⟨_, same, its⟩, kept⟩ :=
    stays _ _ _ _ _ _ rfl (served_run front) rfl (by decide) finds answered (served_run back)
  cases same
  obtain rfl : 41 = p := pointer.symm.trans its
  obtain ⟨onChain, type, size, -⟩ := kept (by unfold Frees; decide)
  exact ⟨formated, ee, format, run, tiled.1, onChain, type, size⟩

end Hcan.Eds
