import Hcan.Eds.Format
import Hcan.Eds.Requests
import Mathlib.Data.List.Induction

/-!
# The directory of an area

What the area is for: a directory of the allocated blocks with their types and
sizes.  Every request refines an operation on the directory, an update at one
address or none, and leaves the bytes before the area as they are.
-/

namespace Hcan.Eds

open Hcan.Canix Hcan.Library

variable {mcu : Mcu} {content later : Nat → UInt8} {path newPath : List Nat}

open Classical in
/-- Type and size of the allocated block at an address. -/
noncomputable def directory (mcu : Mcu) (content : Nat → UInt8) (p : Nat) :
    Option (UInt8 × UInt8) :=
  if OnChain mcu content p ∧ content p ≠ 0 then some (content p, content (p + 1)) else none

theorem directory_eq_some (chain : IsChain mcu content path) {p : Nat} {entry : UInt8 × UInt8} :
    directory mcu content p = some entry ↔
      p ∈ path ∧ content p ≠ 0 ∧ content p = entry.1 ∧ content (p + 1) = entry.2 := by
  rw [directory, chain.onChain_iff]
  by_cases here : p ∈ path ∧ content p ≠ 0
  · rw [if_pos here]
    constructor
    · rintro ⟨⟩
      exact ⟨here.1, here.2, rfl, rfl⟩
    · rintro ⟨-, -, type, size⟩
      rw [type, size]
  · rw [if_neg here]
    constructor
    · intro impossible
      cases impossible
    · rintro ⟨member, allocated, -, -⟩
      exact absurd ⟨member, allocated⟩ here

theorem directory_eq_none (chain : IsChain mcu content path) {p : Nat}
    (free : p ∈ path → content p = 0) : directory mcu content p = none := by
  rw [directory, chain.onChain_iff]
  exact if_neg fun here => here.2 (free here.1)

/-- An entry survives when its block keeps its header, and appears from nowhere. -/
theorem directory_agrees (chain : IsChain mcu content path) (chainThen : IsChain mcu later newPath)
    {q : Nat}
    (survives : q ∈ path → content q ≠ 0 →
      q ∈ newPath ∧ later q = content q ∧ later (q + 1) = content (q + 1))
    (old : q ∈ newPath → later q ≠ 0 → q ∈ path ∧ content q ≠ 0) :
    directory mcu later q = directory mcu content q := by
  by_cases here : q ∈ path ∧ content q ≠ 0
  · obtain ⟨member, type, size⟩ := survives here.1 here.2
    have entry : directory mcu content q = some (content q, content (q + 1)) :=
      (directory_eq_some chain).mpr ⟨here.1, here.2, rfl, rfl⟩
    rw [entry]
    exact (directory_eq_some chainThen).mpr ⟨member, type ▸ here.2, type, size⟩
  · have gone : q ∈ newPath → later q = 0 := by
      intro member
      by_contra allocated
      exact here (old member allocated)
    rw [directory_eq_none chainThen gone, directory_eq_none chain fun member => by
      by_contra allocated
      exact here ⟨member, allocated⟩]

/-- The state behind a request: a well-formed area with this directory, and the
bytes before the area as they were. -/
structure Serves (ee last : Eeprom mcu) (entries : Nat → Option (UInt8 × UInt8)) : Prop where
  wellFormed : WellFormed mcu last.cell
  directory : directory mcu last.cell = entries
  identity : ∀ address < edsStart, last.cell address = ee.cell address

section Requests

variable {self : UInt16} {ee : Eeprom mcu} {frame : CanixFrame}

theorem Progress.identity {keep : Nat → Prop} {log : List (Nat × UInt8)} {last : Eeprom mcu}
    (progress : Progress mcu ee.cell keep log newPath) (wrote : ee.Wrote log last) :
    ∀ address < edsStart, last.cell address = ee.cell address := by
  intro address before
  have start : edsDataStart = edsStart + 2 := rfl
  have outside : address < edsDataStart := by omega
  have kept := progress.outside_take log.length outside
  rw [List.take_length] at kept
  rw [wrote.cell, kept]

/-- The header of an allocated block that is kept. -/
theorem Progress.header {keep : Nat → Prop} {log : List (Nat × UInt8)} {last : Eeprom mcu}
    (progress : Progress mcu ee.cell keep log newPath) (wrote : ee.Wrote log last) {q : Nat}
    (isKept : keep q) : q ∈ newPath ∧ last.cell q = ee.cell q ∧
      last.cell (q + 1) = ee.cell (q + 1) := by
  rw [wrote.cell]
  exact ⟨progress.kept q isKept, progress.unchanged isKept (inBlock_type _ q),
    progress.unchanged isKept (inBlock_size _ q)⟩

/-- ALLOCATE enters a block of the wanted type and size. -/
theorem allocate_serves (wellFormed : WellFormed mcu ee.cell)
    (command : frame.data[1] = hcanEdsAllocateBlock) (finds : FindsBlock ee frame.data[3])
    (typed : frame.data[2] ≠ 0) :
    ∃ last hi lo p, edsCanCallback self ee frame =
        some (last, some (edsAnswer self frame 4 hcanEdsAllocateBlockReplay hi lo 0 0)) ∧
      framePointer hi lo = p ∧ directory mcu ee.cell p = none ∧
      Serves ee last (Function.update (directory mcu ee.cell) p
        (some (frame.data[2], frame.data[3]))) := by
  obtain ⟨path, chain⟩ := wellFormed
  obtain ⟨last, answer, log, newPath, p, result, wrote, progress, ⟨reply, rfl, pointer⟩, member,
    type, size, free, onlyNew⟩ := allocate_progress (fun q => q ∈ path ∧ ee.cell q ≠ 0) self ee
      command finds chain fun q isKept => isKept
  have chainThen : IsChain mcu last.cell newPath := wrote.cell ▸ progress.chain
  have answered := result
  rw [edsCanCallback_allocate self ee command] at answered
  obtain ⟨allocated, -, same⟩ := Option.map_eq_some_iff.mp answered
  cases same
  refine ⟨_, pointerHi allocated.2, pointerLo allocated.2, p, result, pointer,
    directory_eq_none chain fun _ => free, ⟨newPath, chainThen⟩, ?_, progress.identity wrote⟩
  funext q
  by_cases same : q = p
  · subst same
    rw [Function.update_self]
    exact (directory_eq_some chainThen).mpr
      ⟨member, fun zero => typed (type.symm.trans zero), type, size⟩
  · rw [Function.update_of_ne same]
    exact directory_agrees chain chainThen
      (fun inside allocated => progress.header wrote ⟨inside, allocated⟩)
      (fun inside allocated => onlyNew q inside same allocated)

/-- FREE of an allocated block removes its entry. -/
theorem free_serves (wellFormed : WellFormed mcu ee.cell)
    (command : frame.data[1] = hcanEdsFreeBlock) {entry : UInt8 × UInt8}
    (found : directory mcu ee.cell (framePointer frame.data[2] frame.data[3]) = some entry) :
    ∃ last, edsCanCallback self ee frame =
        some (last, some (edsAnswer self frame 3 hcanEdsFreeBlockReplay edsOk 0 0 0)) ∧
      Serves ee last (Function.update (directory mcu ee.cell)
        (framePointer frame.data[2] frame.data[3]) none) := by
  obtain ⟨path, chain⟩ := wellFormed
  have member := ((directory_eq_some chain).mp found).1
  rw [edsCanCallback_free self ee command, edsFree_spec ee _ chain, if_pos member]
  generalize framePointer frame.data[2] frame.data[3] = p at member
  have wrote := eepromWriteByte_wrote ee (chain.below p member).le 0
  have cells : (edsSetBlockType ee p 0).cell = Function.update ee.cell p 0 := wrote.cell
  have chainThen : IsChain mcu (edsSetBlockType ee p 0).cell path :=
    cells ▸ chain.update_type member 0
  refine ⟨_, rfl, ⟨path, chainThen⟩, ?_, fun address before => ?_⟩
  · funext q
    by_cases same : q = p
    · subst same
      rw [Function.update_self]
      refine directory_eq_none chainThen fun _ => ?_
      rw [cells, Function.update_self]
    · rw [Function.update_of_ne same]
      have type : (edsSetBlockType ee p 0).cell q = ee.cell q := by
        rw [cells, Function.update_of_ne same]
      refine directory_agrees chain chainThen (fun inside _ => ⟨inside, type, ?_⟩)
        fun inside allocated => ⟨inside, type ▸ allocated⟩
      rw [cells, Function.update_of_ne]
      rintro rfl
      exact chain.not_inBlock member inside (Ne.symm same) (inBlock_type _ _) (inBlock_size _ q)
  · have low := chain.dataStart_le member
    have start : edsDataStart = edsStart + 2 := rfl
    rw [cells, Function.update_of_ne (by omega)]

/-- DEFRAGMENT leaves the directory as it is. -/
theorem defragment_serves (wellFormed : WellFormed mcu ee.cell)
    (command : frame.data[1] = hcanEdsDefragment) :
    ∃ last, edsCanCallback self ee frame = some (last, none) ∧
      Serves ee last (directory mcu ee.cell) := by
  obtain ⟨path, chain⟩ := wellFormed
  obtain ⟨last, log, newPath, result, wrote, progress, onlyOld⟩ := defragment_progress
    (fun q => q ∈ path ∧ ee.cell q ≠ 0) self ee command chain fun q isKept => isKept
  have chainThen : IsChain mcu last.cell newPath := wrote.cell ▸ progress.chain
  refine ⟨last, result, ⟨newPath, chainThen⟩, ?_, progress.identity wrote⟩
  funext q
  exact directory_agrees chain chainThen
    (fun inside allocated => progress.header wrote ⟨inside, allocated⟩)
    (fun inside allocated => onlyOld q inside id allocated)

/-- FORMAT empties the directory. -/
theorem format_serves (command : frame.data[1] = hcanEdsFormat) :
    ∃ last, edsCanCallback self ee frame = some (last, none) ∧ Serves ee last fun _ => none := by
  obtain ⟨last, format, -⟩ := edsFormat_spec ee
  obtain ⟨path, chain⟩ := edsFormat_wellFormed format
  refine ⟨last, ?_, ⟨path, chain⟩, ?_, edsFormat_identity format⟩
  · rw [edsCanCallback_format self ee command, format, Option.map_some]
  · funext q
    exact directory_eq_none chain fun member => edsFormat_free format chain q member

/-- WRITE into the payload of an allocated block leaves the directory as it is. -/
theorem write_serves (wellFormed : WellFormed mcu ee.cell)
    (command : frame.data[1] = hcanEdsWriteToBlock) {entry : UInt8 × UInt8}
    (found : directory mcu ee.cell (framePointer frame.data[2] frame.data[3]) = some entry)
    (low : 2 ≤ frame.data[4].toNat) (high : frame.data[4].toNat < 2 + entry.2.toNat) :
    ∃ last, edsCanCallback self ee frame =
        some (last, some (edsAnswer self frame 2 hcanEdsWriteToBlockReplay 0 0 0 0)) ∧
      Serves ee last (directory mcu ee.cell) := by
  obtain ⟨path, chain⟩ := wellFormed
  obtain ⟨member, -, -, size⟩ := (directory_eq_some chain).mp found
  rw [edsCanCallback_write self ee command]
  generalize framePointer frame.data[2] frame.data[3] = p at member size
  generalize frame.data[4].toNat = index at low high
  have stop := chain.blockStop_le member
  have limit := edsEnd_le mcu
  have start := chain.dataStart_le member
  have area : edsDataStart = edsStart + 2 := rfl
  unfold blockStop at stop
  rw [size] at stop
  have inside : InBlock ee.cell p (p + index) := by
    unfold InBlock blockStop
    rw [size]
    omega
  have wrote := eepromWriteByte_wrote ee (p := p + index) (by
    change _ ≤ edsEnd mcu
    omega) frame.data[5]
  rw [ptrAdd_of_lt (show p + index < 65536 by omega)]
  generalize eepromWriteByte ee (p + index) frame.data[5] = last at wrote
  have cells : last.cell = Function.update ee.cell (p + index) frame.data[5] := wrote.cell
  have chainThen : IsChain mcu last.cell path := by
    rw [cells]
    refine chain.update_payload member (by omega) ?_ _
    rw [blockStop, size]
    omega
  have misses : ∀ q ∈ path, q ≠ p + index ∧ q + 1 ≠ p + index := by
    intro q there
    by_cases same : q = p
    · omega
    · have outside := chain.not_inBlock member there (Ne.symm same) inside
      exact ⟨fun hit => outside (hit ▸ inBlock_type _ q),
        fun hit => outside (hit ▸ inBlock_size _ q)⟩
  refine ⟨last, rfl, ⟨path, chainThen⟩, ?_, fun address before => ?_⟩
  · funext q
    refine directory_agrees chain chainThen (fun there _ => ⟨there, ?_, ?_⟩)
      fun there allocated => ⟨there, ?_⟩
    · rw [cells, Function.update_of_ne (misses q there).1]
    · rw [cells, Function.update_of_ne (misses q there).2]
    · rwa [cells, Function.update_of_ne (misses q there).1] at allocated
  · rw [cells, Function.update_of_ne (by omega)]

/-- The pointer behind the blocks `front`, as GET_NEXT_BLOCK computes it. -/
theorem next_pointer {front back : List Nat} (chain : IsChain mcu ee.cell (front ++ back)) :
    (if front.getLastD 0 = 0 then edsDataStart else edsNextBlock ee (front.getLastD 0)) =
      back.headD (edsEnd mcu + 1) := by
  induction front using List.reverseRecOn with
  | nil =>
      have walk := chain.walk
      cases back with
      | nil => exact Walk.nil_iff.mp walk
      | cons p back => exact (Walk.cons_iff.mp walk).1.symm
  | append_singleton front q _ =>
      rw [List.append_assoc, List.singleton_append] at chain
      have member : q ∈ front ++ q :: back := by simp
      have low := chain.dataStart_le member
      have start : edsDataStart = 34 := rfl
      rw [List.getLastD_concat, if_neg (by omega), edsNextBlock_eq ee (chain.below q member),
        chain.blockStop_eq]

/-- The answer of GET_NEXT_BLOCK names the next block of the chain with its type,
and is 0 behind the last one. -/
theorem next_serves {front back : List Nat} (chain : IsChain mcu ee.cell (front ++ back))
    (command : frame.data[1] = hcanEdsGetNextBlock)
    (pointer : framePointer frame.data[2] frame.data[3] = front.getLastD 0) :
    ∃ hi lo type size, edsCanCallback self ee frame =
        some (ee, some (edsAnswer self frame 6 hcanEdsGetNextBlockReplay hi lo type size)) ∧
      framePointer hi lo = back.headD 0 ∧ ∀ p rest, back = p :: rest → type = ee.cell p := by
  have limit := edsEnd_le mcu
  rw [edsCanCallback_next self ee command]
  simp only [pointer, next_pointer chain]
  cases back with
  | nil =>
      rw [List.headD_nil, if_pos (Nat.le_succ _)]
      exact ⟨_, _, _, _, rfl, framePointer_bytes (Nat.succ_pos 65535),
        fun p rest same => nomatch same⟩
  | cons p back =>
      have below := chain.below p (by simp)
      rw [List.headD_cons, if_neg (by omega)]
      refine ⟨_, _, _, _, rfl, framePointer_bytes (by omega), ?_⟩
      rintro _ _ ⟨⟩
      exact edsBlockType_eq ee below.le

/-- READ with the index 0 answers the byte at the pointer. -/
theorem read_header (self : UInt16) (ee : Eeprom mcu)
    (command : frame.data[1] = hcanEdsReadFromBlock) (header : frame.data[4] = 0) :
    ∃ d1 d2 d3, edsCanCallback self ee frame =
      some (ee, some (edsAnswer self frame 6 hcanEdsReadFromBlockReplay
        (eepromReadByte ee (framePointer frame.data[2] frame.data[3])) d1 d2 d3)) := by
  have here : ptrAdd (framePointer frame.data[2] frame.data[3]) frame.data[4].toNat =
      framePointer frame.data[2] frame.data[3] := by
    rw [header, UInt8.toNat_zero, ptrAdd, Nat.add_zero, Nat.mod_eq_of_lt (framePointer_lt _ _)]
  have answered := congrArg (eepromReadByte ee) here
  rw [edsCanCallback_read self ee command, ← answered]
  exact ⟨_, _, _, rfl⟩

/-- READ at the start of an allocated block answers its type. -/
theorem read_serves (wellFormed : WellFormed mcu ee.cell)
    (command : frame.data[1] = hcanEdsReadFromBlock) {entry : UInt8 × UInt8}
    (found : directory mcu ee.cell (framePointer frame.data[2] frame.data[3]) = some entry)
    (header : frame.data[4] = 0) :
    ∃ d1 d2 d3, edsCanCallback self ee frame =
      some (ee, some (edsAnswer self frame 6 hcanEdsReadFromBlockReplay entry.1 d1 d2 d3)) := by
  obtain ⟨path, chain⟩ := wellFormed
  obtain ⟨member, -, type, -⟩ := (directory_eq_some chain).mp found
  have stored := eepromReadByte_of_le ee (chain.below _ member).le
  rw [type] at stored
  rw [← stored]
  exact read_header self ee command header

end Requests

end Hcan.Eds
