import Hcan.Eds.Operations

/-!
# Defragmentation

`edsDefragment_rule` is the invariant rule of the loop: what holds of the log,
of the blocks behind the pointer and of the blocks before it is kept when the
pointer passes a block and when two free neighbours are merged.
-/

namespace Hcan.Eds

open Hcan.Canix Hcan.Library

variable {mcu : Mcu} {content : Nat → UInt8} {path : List Nat} {keep : Nat → Prop}

/-- `last_free` is the block the pointer has just left when that block is free,
and 0 otherwise. -/
def IsLastFree (content : Nat → UInt8) (front : List Nat) (lastFree : Nat) : Prop :=
  (lastFree = 0 ∧ ∀ blocks f, front = blocks ++ [f] → content f ≠ 0) ∨
    ∃ blocks, front = blocks ++ [lastFree] ∧ content lastFree = 0

/-- The successor of a block of the chain is the next one, or the end. -/
theorem IsChain.blockStop_eq {front back : List Nat} {p : Nat}
    (chain : IsChain mcu content (front ++ p :: back)) :
    blockStop content p = back.headD (edsEnd mcu + 1) := by
  have member : p ∈ front ++ p :: back := by simp
  obtain ⟨-, last⟩ := chain.walk.split
  rw [chain.next_eq member] at last
  cases back with
  | nil => exact Walk.nil_iff.mp last
  | cons q back => exact (Walk.cons_iff.mp last).1.symm

/-- The two sizes of neighbouring blocks and the header between them. -/
def jointSize (content : Nat → UInt8) (p q : Nat) : Nat :=
  (content (p + 1)).toNat + 2 + (content (q + 1)).toNat

/-- The pointer passes a block. -/
theorem isLastFree_concat (content : Nat → UInt8) (front : List Nat) (q : Nat) :
    IsLastFree content (front ++ [q]) (if content q = 0 then q else 0) := by
  by_cases free : content q = 0
  · rw [if_pos free]
    exact .inr ⟨front, rfl, free⟩
  · rw [if_neg free]
    refine .inl ⟨rfl, fun blocks f same => ?_⟩
    have sameLast : q = f := List.singleton_inj.mp (List.append_inj' same rfl).2
    rwa [← sameLast]

section Merge

variable {front blocks back : List Nat} {f q lastFree : Nat} (ee : Eeprom mcu)

theorem edsMerge_passes (chain : IsChain mcu ee.cell (front ++ q :: back))
    (last : IsLastFree ee.cell front lastFree)
    (apart : ∀ blocks f, front = blocks ++ [f] → ee.cell f = 0 → ee.cell q = 0 →
      255 < jointSize ee.cell f q) :
    edsMerge ee lastFree q = (ee, q) := by
  have below := chain.below q (by simp)
  rcases last with ⟨rfl, -⟩ | ⟨blocks, rfl, free⟩
  · rw [edsMerge, if_neg fun both => both.1 rfl]
  · have lastBelow := chain.below lastFree (by simp)
    by_cases freeNext : edsBlockType ee q = 0
    · rw [edsBlockType_eq ee below.le] at freeNext
      have large := apart blocks lastFree rfl free freeNext
      unfold jointSize at large
      unfold edsMerge
      split
      · exact if_neg (by
          rw [edsBlockSize_eq ee lastBelow, edsBlockSize_eq ee below]
          omega)
      · rfl
    · rw [edsMerge, if_neg fun both => freeNext both.2]

theorem edsMerge_joins (chain : IsChain mcu ee.cell (blocks ++ f :: q :: back))
    (freeNext : ee.cell q = 0) (fits : jointSize ee.cell f q ≤ 255) :
    edsMerge ee f q =
      (eepromWriteByte ee (f + 1) (UInt8.ofNat (jointSize ee.cell f q)), f) := by
  have below := chain.below q (by simp)
  have lastBelow := chain.below f (by simp)
  have lastStart := chain.dataStart_le (p := f) (by simp)
  have limit := edsEnd_le mcu
  have start : edsDataStart = 34 := rfl
  have freeType : edsBlockType ee q = 0 := (edsBlockType_eq ee below.le).trans freeNext
  unfold jointSize at fits
  rw [edsMerge, if_pos ⟨by omega, freeType⟩]
  simp only [edsBlockSize_eq ee lastBelow, edsBlockSize_eq ee below, if_pos fits, edsSetBlockSize,
    ptrAdd_of_lt (show f + 1 < 65536 by omega), jointSize]

end Merge

theorem edsDefragmentLoop_succ {ee merged : Eeprom mcu} {fuel lastFree p here : Nat}
    (below : p < edsEnd mcu) (body : edsMerge ee lastFree p = (merged, here)) :
    edsDefragmentLoop (fuel + 1) lastFree p ee =
      edsDefragmentLoop fuel (if edsBlockType merged here = 0 then here else 0)
        (edsNextBlock merged here) merged := by
  rw [edsDefragmentLoop, if_pos below, body]

/-- The invariant rule of the defragmentation loop. -/
theorem edsDefragmentLoop_rule (content : Nat → UInt8)
    (invariant : List (Nat × UInt8) → List Nat → List Nat → Prop)
    (passes : ∀ log front q back, IsChain mcu (replay log content) (front ++ q :: back) →
      (∀ blocks f, front = blocks ++ [f] → replay log content f = 0 → replay log content q = 0 →
        255 < jointSize (replay log content) f q) →
      invariant log front (q :: back) → invariant log (front ++ [q]) back)
    (merges : ∀ log blocks f q back,
      IsChain mcu (replay log content) (blocks ++ f :: q :: back) →
      replay log content f = 0 → replay log content q = 0 →
      jointSize (replay log content) f q ≤ 255 →
      invariant log (blocks ++ [f]) (q :: back) →
      invariant (log ++ [(f + 1, UInt8.ofNat (jointSize (replay log content) f q))])
        (blocks ++ [f]) back)
    {log : List (Nat × UInt8)} {front back : List Nat} {lastFree fuel : Nat} (ee : Eeprom mcu)
    (cells : ee.cell = replay log content)
    (chain : IsChain mcu (replay log content) (front ++ back))
    (last : IsLastFree (replay log content) front lastFree)
    (holds : invariant log front back) (enough : back.length < fuel) :
    ∃ later newLog newPath,
      edsDefragmentLoop fuel lastFree (back.headD (edsEnd mcu + 1)) ee = some later ∧
        ee.Wrote newLog later ∧ IsChain mcu (replay (log ++ newLog) content) newPath ∧
        invariant (log ++ newLog) newPath [] := by
  induction back generalizing log front lastFree fuel ee with
  | nil =>
      obtain ⟨fuel, rfl⟩ := Nat.exists_eq_add_of_lt enough
      refine ⟨ee, [], front, ?_, .refl ee, ?_, ?_⟩
      · rw [List.length_nil, Nat.zero_add, edsDefragmentLoop, List.headD_nil, if_neg (by omega)]
      · rwa [List.append_nil, ← List.append_nil front]
      · rwa [List.append_nil]
  | cons q back ih =>
      obtain ⟨fuel, rfl⟩ : ∃ rest, fuel = rest + 1 := ⟨fuel - 1, by omega⟩
      have shorter : back.length < fuel := by simpa using enough
      have member : q ∈ front ++ q :: back := by simp
      have below := chain.below q member
      rw [List.headD_cons]
      by_cases join : ∃ blocks f, front = blocks ++ [f] ∧ replay log content f = 0 ∧
          replay log content q = 0 ∧ jointSize (replay log content) f q ≤ 255
      · -- the block behind the pointer absorbs `q`
        obtain ⟨blocks, f, rfl, free, freeNext, fits⟩ := join
        have sameLast : lastFree = f := by
          rcases last with ⟨-, notFree⟩ | ⟨others, same, -⟩
          · exact absurd free (notFree blocks f rfl)
          · exact (List.singleton_inj.mp (List.append_inj' same rfl).2).symm
        subst sameLast
        have chainAt : IsChain mcu (replay log content) (blocks ++ lastFree :: q :: back) := by
          rwa [List.append_assoc] at chain
        have lastBelow := chainAt.below lastFree (by simp)
        have merged := edsMerge_joins ee (cells ▸ chainAt) (cells ▸ freeNext) (cells ▸ fits)
        have wrote := eepromWriteByte_wrote ee (p := lastFree + 1) lastBelow
          (UInt8.ofNat (jointSize ee.cell lastFree q))
        generalize eepromWriteByte ee (lastFree + 1)
          (UInt8.ofNat (jointSize ee.cell lastFree q)) = written at merged wrote
        rw [cells] at wrote
        have after := merges log blocks lastFree q back chainAt free freeNext fits holds
        generalize entry : (lastFree + 1,
          UInt8.ofNat (jointSize (replay log content) lastFree q)) = write at wrote after
        have cells' : written.cell = replay (log ++ [write]) content := by
          rw [wrote.cell, cells, replay_append]
        have chain' : IsChain mcu (replay (log ++ [write]) content)
            (blocks ++ lastFree :: back) := by
          rw [← entry, replay_snoc]
          refine chainAt.merge ?_
          rw [UInt8.toNat_ofNat', Nat.mod_eq_of_lt (by omega), jointSize]
        have stillFree : replay (log ++ [write]) content lastFree = 0 := by
          rw [← entry, replay_snoc, Function.update_of_ne (by omega), free]
        have next : edsNextBlock written lastFree = back.headD (edsEnd mcu + 1) := by
          rw [edsNextBlock_eq written lastBelow, cells', chain'.blockStop_eq]
        have typeThen : edsBlockType written lastFree = 0 := by
          rw [edsBlockType_eq written lastBelow.le, cells', stillFree]
        obtain ⟨later, newLog, newPath, loop, wroteLater, chainLater, holdsLater⟩ :=
          ih written cells'
            (show IsChain mcu _ ((blocks ++ [lastFree]) ++ back) by rwa [List.append_assoc])
            (.inr ⟨blocks, rfl, stillFree⟩) after shorter
        refine ⟨later, _, newPath, ?_, wrote.trans wroteLater, ?_, ?_⟩
        · rw [edsDefragmentLoop_succ below merged, typeThen, if_pos rfl, next]
          exact loop
        · rwa [← List.append_assoc]
        · rwa [← List.append_assoc]
      · -- the pointer passes `q`
        have apart : ∀ blocks f, front = blocks ++ [f] → replay log content f = 0 →
            replay log content q = 0 → 255 < jointSize (replay log content) f q :=
          fun blocks f same free freeNext =>
            Nat.lt_of_not_le fun fits => join ⟨blocks, f, same, free, freeNext, fits⟩
        have unmerged : edsMerge ee lastFree q = (ee, q) :=
          edsMerge_passes ee (cells ▸ chain) (cells ▸ last) (cells ▸ apart)
        have next : edsNextBlock ee q = back.headD (edsEnd mcu + 1) := by
          rw [edsNextBlock_eq ee below, cells, chain.blockStop_eq]
        rw [edsDefragmentLoop_succ below unmerged, next, edsBlockType_eq ee below.le, cells]
        exact ih ee cells (by rwa [List.append_assoc]) (isLastFree_concat _ front q)
          (passes log front q back chain apart holds) shorter

/-- The invariant rule of a whole defragmentation. -/
theorem edsDefragment_rule (ee : Eeprom mcu) (chain : IsChain mcu ee.cell path)
    (invariant : List (Nat × UInt8) → List Nat → List Nat → Prop)
    (passes : ∀ log front q back, IsChain mcu (replay log ee.cell) (front ++ q :: back) →
      (∀ blocks f, front = blocks ++ [f] → replay log ee.cell f = 0 → replay log ee.cell q = 0 →
        255 < jointSize (replay log ee.cell) f q) →
      invariant log front (q :: back) → invariant log (front ++ [q]) back)
    (merges : ∀ log blocks f q back,
      IsChain mcu (replay log ee.cell) (blocks ++ f :: q :: back) →
      replay log ee.cell f = 0 → replay log ee.cell q = 0 →
      jointSize (replay log ee.cell) f q ≤ 255 →
      invariant log (blocks ++ [f]) (q :: back) →
      invariant (log ++ [(f + 1, UInt8.ofNat (jointSize (replay log ee.cell) f q))])
        (blocks ++ [f]) back)
    (start : invariant [] [] path) :
    ∃ later log newPath, edsDefragment ee = some later ∧ ee.Wrote log later ∧
      IsChain mcu later.cell newPath ∧ invariant log newPath [] := by
  have head : edsDataStart = path.headD (edsEnd mcu + 1) := by
    have walk := chain.walk
    cases path with
    | nil => exact Walk.nil_iff.mp walk
    | cons p path => exact (Walk.cons_iff.mp walk).1.symm
  obtain ⟨later, log, newPath, loop, wrote, chainLater, holds⟩ :=
    edsDefragmentLoop_rule ee.cell invariant passes merges ee (replay_nil ee.cell).symm
      (show IsChain mcu _ ([] ++ path) from chain)
      (.inl ⟨rfl, fun blocks f same => absurd same (by simp)⟩) start chain.length_lt
  refine ⟨later, log, newPath, ?_, wrote, ?_, holds⟩
  · rw [edsDefragment, head]
    exact loop
  · rwa [wrote.cell]

/-- The write of a merge hits no type byte of the chain. -/
theorem merge_unchanged {log : List (Nat × UInt8)} {blocks back : List Nat} {f q r : Nat}
    (chainAt : IsChain mcu (replay log content) (blocks ++ f :: q :: back)) (value : UInt8)
    (member : r ∈ blocks ++ f :: q :: back) :
    replay (log ++ [(f + 1, value)]) content r = replay log content r := by
  have inside : f ∈ blocks ++ f :: q :: back := by simp
  rw [replay_snoc, Function.update_of_ne]
  rintro rfl
  exact chainAt.not_inBlock member inside (Nat.succ_ne_self f) (inBlock_type _ _)
    (inBlock_size _ f)

/-- Defragmentation ends on every well-formed area.  Each prefix of its writes
leaves the area well formed with all blocks to be kept, and no block is new. -/
theorem edsDefragment_spec (ee : Eeprom mcu) (chain : IsChain mcu ee.cell path)
    (kept : ∀ p, keep p → p ∈ path ∧ ee.cell p ≠ 0) :
    ∃ later log newPath, edsDefragment ee = some later ∧ ee.Wrote log later ∧
      Progress mcu ee.cell keep log newPath ∧
      OnlyNew ee.cell later.cell path newPath fun _ => False := by
  obtain ⟨later, log, newPath, result, wrote, -, progress, onlyOld⟩ :=
    edsDefragment_rule ee chain
      (fun log front back => Progress mcu ee.cell keep log (front ++ back) ∧
        OnlyNew ee.cell (replay log ee.cell) path (front ++ back) fun _ => False)
      (fun log front q back _ _ holds => by rwa [List.append_assoc])
      (fun log blocks f q back chainAt free freeNext fits ⟨progress, onlyOld⟩ => by
        have loose : ∀ p, replay log ee.cell p = 0 → ¬ keep p := by
          intro p isFree isKept
          rw [progress.unchanged isKept (inBlock_type _ p)] at isFree
          exact (kept p isKept).2 isFree
        have member : f ∈ (blocks ++ [f]) ++ q :: back := by simp
        refine ⟨progress.write member (loose f free) (inBlock_size _ f) ?_ ?_, ?_⟩
        · rw [List.append_assoc]
          refine chainAt.merge ?_
          rw [UInt8.toNat_ofNat', Nat.mod_eq_of_lt (by omega), jointSize]
        · intro p isKept
          have before := progress.kept p isKept
          have different : p ≠ q := by
            rintro rfl
            exact loose p freeNext isKept
          rcases List.mem_append.mp before with inFront | inBack
          · exact List.mem_append_left _ inFront
          · exact List.mem_append_right _ ((List.mem_cons.mp inBack).resolve_left different)
        · intro r inside old notFree
          have before : r ∈ (blocks ++ [f]) ++ q :: back := by
            rcases List.mem_append.mp inside with inFront | inBack
            · exact List.mem_append_left _ inFront
            · exact List.mem_append_right _ (List.mem_cons_of_mem _ inBack)
          rw [merge_unchanged chainAt _ (by rwa [List.append_assoc] at before)] at notFree
          exact onlyOld r before old notFree)
      ⟨.start chain fun p isKept => (kept p isKept).1, fun q inside _ notFree => ⟨inside, notFree⟩⟩
  refine ⟨later, log, newPath, result, wrote, ?_, ?_⟩
  · rwa [List.append_nil] at progress
  · rw [wrote.cell]
    rwa [List.append_nil] at onlyOld

end Hcan.Eds
