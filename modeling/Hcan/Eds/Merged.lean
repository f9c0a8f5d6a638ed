import Hcan.Eds.Defragment
import Mathlib.Algebra.Ring.Nat

/-!
# What defragmentation leaves behind

Neighbours that are still free do not fit into one block, the allocated blocks stay as they
are, and only the size bytes of free blocks are written.  A second defragmentation finds
nothing to merge.
-/

namespace Hcan.Eds

open Hcan.Canix Hcan.Library

variable {mcu : Mcu} {content : Nat → UInt8} {path : List Nat}

/-- Two neighbouring free blocks of the path would be longer than a block may be. -/
def FullyMerged (content : Nat → UInt8) (path : List Nat) : Prop :=
  ∀ front p q back, path = front ++ p :: q :: back → content p = 0 → content q = 0 →
    255 < jointSize content p q

/-- The bytes of all blocks with their headers. -/
def totalSize (content : Nat → UInt8) (path : List Nat) : Nat :=
  (path.map fun p => 2 + (content (p + 1)).toNat).sum

/-- The blocks in use, in the order of the path. -/
def allocatedBlocks (content : Nat → UInt8) (path : List Nat) : List Nat :=
  path.filter fun p => content p != 0

/-- The blocks of an area add up to its length. -/
theorem IsChain.totalSize_eq (chain : IsChain mcu content path) :
    edsDataStart + totalSize content path = edsEnd mcu + 1 := by
  have below := chain.below
  have walk := chain.walk
  generalize edsDataStart = first at walk
  clear chain
  induction path generalizing first with
  | nil => exact Walk.nil_iff.mp walk
  | cons p path ih =>
      obtain ⟨rfl, rest⟩ := Walk.cons_iff.mp walk
      rw [edsNextBlock_eq _ (below p List.mem_cons_self)] at rest
      have later := ih (fun q member => below q (List.mem_cons_of_mem _ member)) _ rest
      rw [blockStop, Eeprom.powerUp_cell] at later
      rw [totalSize, List.map_cons, List.sum_cons]
      rw [totalSize] at later
      omega

/-! ## The invariant of the loop -/

/-- What holds of the writes so far, of the blocks behind the pointer and of those before it. -/
structure Merging (content : Nat → UInt8) (path : List Nat) (log : List (Nat × UInt8))
    (front back : List Nat) : Prop where
  kept : (front ++ back).Sublist path
  allocated : allocatedBlocks content (front ++ back) = allocatedBlocks content path
  types : ∀ p ∈ front ++ back, replay log content p = content p
  sizes : ∀ write ∈ log, ∃ p ∈ front, content p = 0 ∧ write.1 = p + 1
  merged : FullyMerged (replay log content) front

theorem Merging.start (content : Nat → UInt8) (path : List Nat) :
    Merging content path [] [] path where
  kept := List.Sublist.refl _
  allocated := rfl
  types _ _ := rfl
  sizes _ member := nomatch member
  merged front p q back same := by simp at same

/-- The pointer passes a block that does not fit to the one before it. -/
theorem Merging.passes {log : List (Nat × UInt8)} {front back : List Nat} {q : Nat}
    (merging : Merging content path log front (q :: back))
    (apart : ∀ blocks f, front = blocks ++ [f] → replay log content f = 0 →
      replay log content q = 0 → 255 < jointSize (replay log content) f q) :
    Merging content path log (front ++ [q]) back := by
  have same : front ++ [q] ++ back = front ++ q :: back := List.append_cons .. |>.symm
  refine ⟨same ▸ merging.kept, same ▸ merging.allocated, same ▸ merging.types,
    fun write member => ?_, ?_⟩
  · obtain ⟨p, inside, written⟩ := merging.sizes write member
    exact ⟨p, List.mem_append_left _ inside, written⟩
  intro before p r behind split free freeNext
  rcases List.eq_nil_or_concat behind with rfl | ⟨others, last, rfl⟩
  · have parts : front ++ [q] = (before ++ [p]) ++ [r] := by simpa using split
    obtain ⟨rfl, one⟩ := List.append_inj' parts rfl
    cases one
    exact apart before p rfl free freeNext
  · have parts : front ++ [q] = (before ++ p :: r :: others) ++ [last] := by simpa using split
    obtain ⟨rfl, -⟩ := List.append_inj' parts rfl
    exact merging.merged before p r others rfl free freeNext

theorem jointSize_mono {other : Nat → UInt8}
    (larger : ∀ r, (content (r + 1)).toNat ≤ (other (r + 1)).toNat) (p q : Nat) :
    jointSize content p q ≤ jointSize other p q := by
  have first := larger p
  have second := larger q
  unfold jointSize
  omega

/-- The block behind the pointer takes in the next one. -/
theorem Merging.merges {log : List (Nat × UInt8)} {blocks back : List Nat} {f q : Nat}
    (chain : IsChain mcu (replay log content) (blocks ++ f :: q :: back))
    (free : replay log content f = 0) (freeNext : replay log content q = 0)
    (fits : jointSize (replay log content) f q ≤ 255)
    (merging : Merging content path log (blocks ++ [f]) (q :: back)) :
    Merging content path (log ++ [(f + 1, UInt8.ofNat (jointSize (replay log content) f q))])
      (blocks ++ [f]) back := by
  have whole : blocks ++ [f] ++ q :: back = blocks ++ f :: q :: back := List.append_cons .. |>.symm
  have fewer : (blocks ++ [f] ++ back).Sublist (blocks ++ [f] ++ q :: back) :=
    (List.Sublist.refl _).append (List.sublist_cons_self q back)
  have freeBefore : content f = 0 := by rw [← merging.types f (by simp), free]
  have nextBefore : content q = 0 := by rw [← merging.types q (by simp), freeNext]
  have unchanged : ∀ r ∈ blocks ++ [f] ++ back,
      replay (log ++ [(f + 1, UInt8.ofNat (jointSize (replay log content) f q))]) content r =
        replay log content r := by
    intro r member
    exact merge_unchanged chain _ (whole ▸ fewer.subset member)
  have larger : ∀ r, (replay log content (r + 1)).toNat ≤
      (replay (log ++ [(f + 1, UInt8.ofNat (jointSize (replay log content) f q))]) content
        (r + 1)).toNat := by
    intro r
    rw [replay_snoc]
    by_cases same : r = f
    · subst same
      rw [Function.update_self, UInt8.toNat_ofNat', Nat.mod_eq_of_lt (Nat.lt_succ_of_le fits)]
      unfold jointSize
      omega
    · rw [Function.update_of_ne (by omega)]
  refine ⟨fewer.trans merging.kept, ?_, ?_, ?_, ?_⟩
  · rw [← merging.allocated]
    unfold allocatedBlocks
    rw [List.filter_append, List.filter_append, List.filter_append, List.filter_append]
    rw [List.filter_cons_of_neg (a := q) (l := back) (by simp [nextBefore])]
  · intro r member
    rw [unchanged r member, merging.types r (fewer.subset member)]
  · intro write member
    rcases List.mem_append.mp member with before | last
    · exact merging.sizes write before
    · rw [List.mem_singleton.mp last]
      exact ⟨f, by simp, freeBefore, rfl⟩
  · intro before p r behind split freeP freeR
    have insideP : p ∈ blocks ++ [f] ++ back := by simp [split]
    have insideR : r ∈ blocks ++ [f] ++ back := by simp [split]
    rw [unchanged p insideP] at freeP
    rw [unchanged r insideR] at freeR
    have large := merging.merged before p r behind split freeP freeR
    exact Nat.lt_of_lt_of_le large (jointSize_mono larger p r)

/-- On a fully merged area there is nothing to do. -/
theorem edsDefragment_merged (ee : Eeprom mcu) (chain : IsChain mcu ee.cell path)
    (merged : FullyMerged ee.cell path) : edsDefragment ee = some ee := by
  obtain ⟨later, log, newPath, result, wrote, -, empty, -⟩ := edsDefragment_rule ee chain
    (fun log front back => log = [] ∧ front ++ back = path)
    (by
      rintro log front q back - - ⟨rfl, whole⟩
      exact ⟨rfl, by rwa [← List.append_cons]⟩)
    (by
      rintro log blocks f q back - free freeNext fits ⟨rfl, whole⟩
      have large := merged blocks f q back (by rw [← whole, List.append_assoc]; rfl) free freeNext
      exact absurd fits (Nat.not_le_of_lt large))
    ⟨rfl, rfl⟩
  subst empty
  rw [result]
  have cell : later.cell = ee.cell := wrote.cell
  have log : later.log = ee.log := wrote.log.trans (List.append_nil _)
  obtain ⟨cells, entries⟩ := later
  cases cell
  cases log
  rfl

/-- Defragmentation ends and merges all that fits. -/
theorem edsDefragment_merges_fully (ee : Eeprom mcu) (chain : IsChain mcu ee.cell path) :
    ∃ later newPath, edsDefragment ee = some later ∧ IsChain mcu later.cell newPath ∧
      FullyMerged later.cell newPath ∧
      allocatedBlocks later.cell newPath = allocatedBlocks ee.cell path ∧
      (∀ address, later.cell address ≠ ee.cell address →
        ∃ p ∈ newPath, p ∈ path ∧ ee.cell p = 0 ∧ later.cell p = 0 ∧ address = p + 1) ∧
      totalSize later.cell newPath = totalSize ee.cell path ∧
      edsDefragment later = some later := by
  obtain ⟨later, log, newPath, result, wrote, chainLater, merging⟩ :=
    edsDefragment_rule ee chain (Merging ee.cell path)
      (fun log front q back _ apart merging => merging.passes apart)
      (fun log blocks f q back chain free freeNext fits merging =>
        merging.merges chain free freeNext fits)
      (.start ee.cell path)
  have merged := merging.merged
  have types := merging.types
  have allocated := merging.allocated
  have kept := merging.kept
  rw [← wrote.cell] at merged types
  rw [List.append_nil] at types allocated kept
  refine ⟨later, newPath, result, chainLater, merged, ?_, ?_, ?_,
    edsDefragment_merged later chainLater merged⟩
  · rw [← allocated]
    unfold allocatedBlocks
    exact List.filter_congr fun p member => by rw [types p member]
  · intro address changed
    rw [wrote.cell] at changed
    obtain ⟨write, member, same⟩ : ∃ write ∈ log, write.1 = address := by
      by_contra none_
      exact changed (replay_other fun write member same => none_ ⟨write, member, same⟩)
    obtain ⟨p, inside, free, place⟩ := merging.sizes write member
    exact ⟨p, inside, kept.subset inside, free, (types p inside).trans free, same ▸ place⟩
  · have before := chain.totalSize_eq
    have after := chainLater.totalSize_eq
    omega

/-- A 1 KiB area with two free blocks before its allocated ones. -/
def looseArea (address : Nat) : UInt8 :=
  if address = 35 then 10
  else if address = 47 then 20
  else if address = 69 then 221
  else if address = 68 ∨ address = 291 ∨ address = 548 ∨ address = 805 then 12
  else if address = 292 ∨ address = 549 then 255
  else if address = 806 then 217
  else 0

theorem looseArea_isChain : IsChain atmega32 looseArea [34, 46, 68, 291, 548, 805] where
  walk := .step (.step (.step (.step (.step (.step (.arrived _))))))
  below := by decide

theorem looseArea_merges_fully :
    IsChain atmega32 looseArea [34, 46, 68, 291, 548, 805] ∧
      ∃ later newPath, edsDefragment (Eeprom.powerUp looseArea : Eeprom atmega32) = some later ∧
        IsChain atmega32 later.cell newPath ∧ FullyMerged later.cell newPath ∧
        allocatedBlocks later.cell newPath =
          allocatedBlocks looseArea [34, 46, 68, 291, 548, 805] ∧
        (∀ address, later.cell address ≠ looseArea address → ∃ p ∈ newPath,
          p ∈ [34, 46, 68, 291, 548, 805] ∧ looseArea p = 0 ∧ later.cell p = 0 ∧
            address = p + 1) ∧
        totalSize later.cell newPath = totalSize looseArea [34, 46, 68, 291, 548, 805] ∧
        edsDefragment later = some later :=
  ⟨looseArea_isChain, edsDefragment_merges_fully (Eeprom.powerUp looseArea) looseArea_isChain⟩

end Hcan.Eds
