import Hcan.Eds.Chain

/-!
# What the EDS operations do to a chain

`Progress` follows an operation write by write: after every prefix of the log
the area is well formed, the blocks to be kept are on its chain and no write
has hit one of their bytes.  Allocation, release and defragmentation are
sequences of steps of `Progress`.
-/

namespace Hcan.Eds

open Hcan.Canix Hcan.Library

variable {mcu : Mcu} {content : Nat → UInt8} {path : List Nat} {keep : Nat → Prop}
  {log : List (Nat × UInt8)}

/-- The area is well formed and every kept block is on its chain. -/
def KeepsBlocks (mcu : Mcu) (keep : Nat → Prop) (after : Nat → UInt8) : Prop :=
  ∃ path, IsChain mcu after path ∧ ∀ p, keep p → p ∈ path

/-- `log`, written over `content`, has led to the chain `path`. -/
structure Progress (mcu : Mcu) (content : Nat → UInt8) (keep : Nat → Prop)
    (log : List (Nat × UInt8)) (path : List Nat) : Prop where
  prefixes : Prefixwise (KeepsBlocks mcu keep) content log
  avoids : ∀ write ∈ log, ∀ p, keep p → ¬ InBlock content p write.1
  inArea : ∀ write ∈ log, edsDataStart ≤ write.1 ∧ write.1 ≤ edsEnd mcu
  chain : IsChain mcu (replay log content) path
  kept : ∀ p, keep p → p ∈ path

namespace Progress

theorem start (chain : IsChain mcu content path) (kept : ∀ p, keep p → p ∈ path) :
    Progress mcu content keep [] path where
  prefixes := .nil ⟨path, chain, kept⟩
  avoids := fun _ member => nomatch member
  inArea := fun _ member => nomatch member
  chain := chain
  kept := kept

/-- The bytes of a kept block are the original ones. -/
theorem unchanged (progress : Progress mcu content keep log path) {p address : Nat}
    (isKept : keep p) (inside : InBlock content p address) :
    replay log content address = content address := by
  refine replay_other fun write member same => ?_
  exact progress.avoids write member p isKept (same ▸ inside)

/-- The same after a power failure. -/
theorem unchanged_take (progress : Progress mcu content keep log path) (count : Nat)
    {p address : Nat} (isKept : keep p) (inside : InBlock content p address) :
    replay (log.take count) content address = content address := by
  refine replay_other fun write member same => ?_
  exact progress.avoids write (List.mem_of_mem_take member) p isKept (same ▸ inside)

/-- The bytes before the area, the magic bytes among them, are the original ones. -/
theorem outside_take (progress : Progress mcu content keep log path) (count : Nat)
    {address : Nat} (outside : address < edsDataStart) :
    replay (log.take count) content address = content address := by
  refine replay_other fun write member same => ?_
  have low := (progress.inArea write (List.mem_of_mem_take member)).1
  omega

theorem inBlock_iff (progress : Progress mcu content keep log path) {p address : Nat}
    (isKept : keep p) : InBlock (replay log content) p address ↔ InBlock content p address := by
  simp only [InBlock, blockStop, progress.unchanged isKept (inBlock_size content p)]

/-- One more write, inside a block that need not be kept. -/
theorem write (progress : Progress mcu content keep log path) {b address : Nat} {value : UInt8}
    {newPath : List Nat} (member : b ∈ path) (loose : ¬ keep b)
    (inside : InBlock (replay log content) b address)
    (chain : IsChain mcu (Function.update (replay log content) address value) newPath)
    (kept : ∀ p, keep p → p ∈ newPath) :
    Progress mcu content keep (log ++ [(address, value)]) newPath := by
  refine ⟨progress.prefixes.snoc _ ?_, ?_, ?_, ?_, kept⟩
  · rw [replay_snoc]
    exact ⟨newPath, chain, kept⟩
  · intro write inLog p isKept hit
    rcases List.mem_append.mp inLog with earlier | last
    · exact progress.avoids write earlier p isKept hit
    · rw [List.mem_singleton.mp last] at hit
      have different : b ≠ p := by
        rintro rfl
        exact loose isKept
      exact progress.chain.not_inBlock member (progress.kept p isKept) different inside
        ((progress.inBlock_iff isKept).mpr hit)
  · intro write inLog
    rcases List.mem_append.mp inLog with earlier | last
    · exact progress.inArea write earlier
    · have low := progress.chain.dataStart_le member
      have high := progress.chain.blockStop_le member
      obtain ⟨behindStart, beforeStop⟩ := inside
      rw [List.mem_singleton.mp last]
      exact ⟨by omega, by omega⟩
  · rw [replay_snoc]
    exact chain

/-- A write to the type byte of a block that need not be kept. -/
theorem writeType (progress : Progress mcu content keep log path) {b : Nat} (member : b ∈ path)
    (loose : ¬ keep b) (value : UInt8) :
    Progress mcu content keep (log ++ [(b, value)]) path :=
  progress.write member loose (inBlock_type _ b) (progress.chain.update_type member value)
    progress.kept

/-- A write into the payload of a block that need not be kept. -/
theorem writePayload (progress : Progress mcu content keep log path) {b address : Nat}
    (member : b ∈ path) (loose : ¬ keep b) (low : b + 2 ≤ address)
    (high : address < blockStop (replay log content) b) (value : UInt8) :
    Progress mcu content keep (log ++ [(address, value)]) path :=
  progress.write member loose ⟨by omega, high⟩
    (progress.chain.update_payload member low high value) progress.kept

end Progress

/-- The test of `eds_alloc`: the block is free and its size is the wanted one or
leaves room for the header of the rest. -/
def Fits (content : Nat → UInt8) (size : UInt8) (p : Nat) : Prop :=
  content p = 0 ∧ (content (p + 1) = size ∨ size.toNat + 2 ≤ (content (p + 1)).toNat)

/-- What `eds_alloc` does with the block it has found. -/
def edsTake (ee : Eeprom mcu) (p : Nat) (size : UInt8) : Eeprom mcu :=
  if edsBlockSize ee p = size then ee else edsSplit ee p size

/-- The search stops at a fitting block, or there is none. -/
theorem edsAllocLoop_spec (ee : Eeprom mcu) (size : UInt8) {p fuel : Nat}
    (walk : Walk (edsNextBlock ee) p path (edsEnd mcu + 1))
    (below : ∀ q ∈ path, q < edsEnd mcu) (enough : path.length < fuel) :
    (edsAllocLoop ee size fuel p = some (ee, 0) ∧ ∀ q ∈ path, ¬ Fits ee.cell size q) ∨
      ∃ q ∈ path, Fits ee.cell size q ∧
        edsAllocLoop ee size fuel p = some (edsTake ee q size, q) := by
  induction path generalizing p fuel with
  | nil =>
      obtain ⟨fuel, rfl⟩ := Nat.exists_eq_add_of_lt enough
      have stop : p = edsEnd mcu + 1 := Walk.nil_iff.mp walk
      refine .inl ⟨?_, fun _ member => nomatch member⟩
      rw [List.length_nil, Nat.zero_add, edsAllocLoop, if_neg (by omega)]
  | cons q path ih =>
      obtain ⟨fuel, rfl⟩ : ∃ rest, fuel = rest + 1 := ⟨fuel - 1, by omega⟩
      obtain ⟨rfl, rest⟩ := Walk.cons_iff.mp walk
      have here := below q List.mem_cons_self
      have later := ih rest (fun r member => below r (List.mem_cons_of_mem _ member))
        (by simpa using enough)
      have typeEq := edsBlockType_eq ee here.le
      have sizeEq := edsBlockSize_eq ee here
      rw [edsAllocLoop, if_pos here, typeEq, sizeEq]
      by_cases fits : Fits ee.cell size q
      · refine .inr ⟨q, List.mem_cons_self, fits, ?_⟩
        obtain ⟨free, room⟩ := fits
        rw [edsTake, sizeEq]
        rcases room with exact_ | room
        · rw [if_pos ⟨free, exact_ ▸ UInt8.le_refl _⟩, if_pos exact_, if_pos exact_]
        · have larger : ee.cell (q + 1) ≥ size := UInt8.le_iff_toNat_le.mpr (by omega)
          have different : ee.cell (q + 1) ≠ size := by
            intro same
            rw [same] at room
            omega
          rw [if_pos ⟨free, larger⟩, if_neg different, if_pos room, if_neg different]
      · have skip : (if ee.cell q = 0 ∧ ee.cell (q + 1) ≥ size then
            if ee.cell (q + 1) = size then some (ee, q)
            else if (ee.cell (q + 1)).toNat ≥ size.toNat + 2 then some (edsSplit ee q size, q)
            else edsAllocLoop ee size fuel (edsNextBlock ee q)
          else edsAllocLoop ee size fuel (edsNextBlock ee q)) =
            edsAllocLoop ee size fuel (edsNextBlock ee q) := by
          by_cases free : ee.cell q = 0
          · have notSame : ee.cell (q + 1) ≠ size := fun same => fits ⟨free, .inl same⟩
            have noRoom : ¬ (ee.cell (q + 1)).toNat ≥ size.toNat + 2 :=
              fun room => fits ⟨free, .inr room⟩
            rw [if_neg notSame, if_neg noRoom, ite_self]
          · rw [if_neg fun both => free both.1]
        rw [skip]
        rcases later with ⟨result, none_⟩ | ⟨r, member, found⟩
        · refine .inl ⟨result, fun r member => ?_⟩
          rcases List.mem_cons.mp member with rfl | member
          · exact fits
          · exact none_ r member
        · exact .inr ⟨r, List.mem_cons_of_mem _ member, found⟩

/-- `eds_alloc` on a well-formed area: 0 and no change when nothing fits, else
a fitting block of the chain. -/
theorem edsAlloc_spec (ee : Eeprom mcu) (size : UInt8) (chain : IsChain mcu ee.cell path) :
    (edsAlloc ee size = some (ee, 0) ∧ ∀ q ∈ path, ¬ Fits ee.cell size q) ∨
      ∃ q ∈ path, Fits ee.cell size q ∧ edsAlloc ee size = some (edsTake ee q size, q) :=
  edsAllocLoop_spec ee size chain.walk chain.below chain.length_lt

/-- The writes of `eds_alloc`, in program order. -/
def takeLog (content : Nat → UInt8) (p : Nat) (size : UInt8) : List (Nat × UInt8) :=
  if content (p + 1) = size then []
  else [(p + 2 + size.toNat, 0),
    (p + 2 + size.toNat + 1, UInt8.ofNat ((content (p + 1)).toNat - size.toNat - 2)),
    (p + 1, size)]

theorem edsTake_wrote (ee : Eeprom mcu) {p : Nat} {size : UInt8} (chain : IsChain mcu ee.cell path)
    (member : p ∈ path) (fits : Fits ee.cell size p) :
    ee.Wrote (takeLog ee.cell p size) (edsTake ee p size) := by
  have below := chain.below p member
  have stop := chain.blockStop_le member
  have limit := edsEnd_le mcu
  unfold blockStop at stop
  rw [edsTake, takeLog, edsBlockSize_eq ee below]
  by_cases same : ee.cell (p + 1) = size
  · rw [if_pos same, if_pos same]
    exact .refl ee
  · rw [if_neg same, if_neg same]
    have room : size.toNat + 2 ≤ (ee.cell (p + 1)).toNat := fits.2.resolve_left same
    have typeAt : ptrAdd p (2 + size.toNat) = p + 2 + size.toNat := by
      rw [ptrAdd_of_lt (by omega)]
      omega
    have sizeAt : ptrAdd p (2 + size.toNat + 1) = p + 2 + size.toNat + 1 := by
      rw [ptrAdd_of_lt (by omega)]
      omega
    have ownAt : ptrAdd p 1 = p + 1 := ptrAdd_of_lt (by omega)
    have typed := eepromWriteByte_wrote ee (p := p + 2 + size.toNat) (by
      change _ ≤ edsEnd mcu
      omega) 0
    have stillSize : edsBlockSize (eepromWriteByte ee (p + 2 + size.toNat) 0) p =
        ee.cell (p + 1) := by
      rw [edsBlockSize_eq _ below, typed.cell]
      exact replay_other fun write inLog => by
        rw [List.mem_singleton.mp inLog]
        change p + 2 + size.toNat ≠ p + 1
        omega
    have sized := eepromWriteByte_wrote (eepromWriteByte ee (p + 2 + size.toNat) 0)
      (p := p + 2 + size.toNat + 1) (by
        change _ ≤ edsEnd mcu
        omega) (UInt8.ofNat ((ee.cell (p + 1)).toNat - size.toNat - 2))
    have owned := eepromWriteByte_wrote (eepromWriteByte (eepromWriteByte ee (p + 2 + size.toNat) 0)
      (p + 2 + size.toNat + 1) (UInt8.ofNat ((ee.cell (p + 1)).toNat - size.toNat - 2)))
      (p := p + 1) (by
        change _ ≤ edsEnd mcu
        omega) size
    simp only [edsSplit, typeAt, sizeAt, ownAt, stillSize]
    exact (typed.trans sized).trans owned

/-- Every allocated block of the new chain that is not `new` was one of the old chain. -/
def OnlyNew (content later : Nat → UInt8) (path newPath : List Nat) (new : Nat → Prop) : Prop :=
  ∀ q ∈ newPath, ¬ new q → later q ≠ 0 → q ∈ path ∧ content q ≠ 0

theorem takeLog_inBlock {p : Nat} {size : UInt8} (fits : Fits content size p) :
    ∀ write ∈ takeLog content p size, InBlock content p write.1 := by
  intro write member
  unfold takeLog at member
  split at member
  · cases member
  case isFalse different =>
    have room : size.toNat + 2 ≤ (content (p + 1)).toNat := fits.2.resolve_left different
    simp only [List.mem_cons, List.not_mem_nil, or_false] at member
    unfold InBlock blockStop
    rcases member with rfl | rfl | rfl
    · change p ≤ p + 2 + size.toNat ∧ p + 2 + size.toNat < _
      omega
    · change p ≤ p + 2 + size.toNat + 1 ∧ p + 2 + size.toNat + 1 < _
      omega
    · change p ≤ p + 1 ∧ p + 1 < _
      omega

/-- Taking a free block that fits: every prefix of the writes keeps the area
well formed, and afterwards the block is on the chain with the wanted size. -/
theorem take_progress (chain : IsChain mcu content path) (kept : ∀ p, keep p → p ∈ path)
    {p : Nat} {size : UInt8} (member : p ∈ path) (loose : ¬ keep p)
    (fits : Fits content size p) :
    ∃ newPath, Progress mcu content keep (takeLog content p size) newPath ∧ p ∈ newPath ∧
      replay (takeLog content p size) content (p + 1) = size ∧
      OnlyNew content (replay (takeLog content p size) content) path newPath fun q => q = p := by
  have started : Progress mcu content keep [] path := .start chain kept
  have others : ∀ q ∈ path, q ≠ p →
      replay (takeLog content p size) content q = content q := by
    intro q inside different
    refine replay_other fun write inLog hit => ?_
    exact chain.not_inBlock member inside different.symm (takeLog_inBlock fits write inLog)
      (hit ▸ inBlock_type content q)
  by_cases same : content (p + 1) = size
  · have empty : takeLog content p size = [] := if_pos same
    rw [empty] at others ⊢
    exact ⟨path, started, member, same, fun q inside _ notFree => ⟨inside, notFree⟩⟩
  · have room : size.toNat + 2 ≤ (content (p + 1)).toNat := fits.2.resolve_left same
    rw [takeLog, if_neg same]
    have typed := started.writePayload member loose
      (show p + 2 ≤ p + 2 + size.toNat by omega)
      (by rw [replay_nil, blockStop]; omega) 0
    have stillSize : replay ([] ++ [(p + 2 + size.toNat, (0 : UInt8))]) content (p + 1) =
        content (p + 1) := by
      refine replay_other fun write inLog => ?_
      rw [List.mem_singleton.mp inLog]
      change p + 2 + size.toNat ≠ p + 1
      omega
    have sized := typed.writePayload member loose
      (show p + 2 ≤ p + 2 + size.toNat + 1 by omega)
      (by rw [blockStop, stillSize]; omega)
      (UInt8.ofNat ((content (p + 1)).toNat - size.toNat - 2))
    generalize written : [] ++ [(p + 2 + size.toNat, (0 : UInt8))] ++ [(p + 2 + size.toNat + 1,
      UInt8.ofNat ((content (p + 1)).toNat - size.toNat - 2))] = front at sized
    have sizeThen : replay front content (p + 1) = content (p + 1) := by
      rw [← written]
      refine replay_other fun write inLog => ?_
      simp only [List.nil_append, List.cons_append, List.mem_cons, List.not_mem_nil,
        or_false] at inLog
      rcases inLog with rfl | rfl
      · change p + 2 + size.toNat ≠ p + 1
        omega
      · change p + 2 + size.toNat + 1 ≠ p + 1
        omega
    have restThen : (replay front content (p + 2 + size.toNat + 1)).toNat =
        (content (p + 1)).toNat - size.toNat - 2 := by
      have bound := (content (p + 1)).toNat_lt
      rw [← written, replay_snoc, Function.update_self, UInt8.toNat_ofNat',
        Nat.mod_eq_of_lt (by omega)]
    obtain ⟨left, right, rfl⟩ := List.append_of_mem member
    have shortened := sized.chain.cut
      (show size.toNat + 2 ≤ _ by rw [sizeThen]; exact room)
      (by rw [sizeThen, restThen]; omega)
    have stillKept : ∀ q, keep q → q ∈ left ++ p :: (p + 2 + size.toNat) :: right := by
      intro q isKept
      rcases List.mem_append.mp (kept q isKept) with inLeft | inRight
      · exact List.mem_append_left _ inLeft
      · rcases List.mem_cons.mp inRight with rfl | inRight
        · exact absurd isKept loose
        · exact List.mem_append_right _ (List.mem_cons_of_mem _ (List.mem_cons_of_mem _ inRight))
    have owned := sized.write member loose (inBlock_size _ p) shortened stillKept
    refine ⟨left ++ p :: (p + 2 + size.toNat) :: right, ?_, by simp, ?_, ?_⟩
    · rw [← written] at owned
      exact owned
    · exact congrFun (replay_snoc [(p + 2 + size.toNat, 0), (p + 2 + size.toNat + 1, _)]
        (p + 1) size content) (p + 1) |>.trans (Function.update_self _ _ _)
    · intro q inside different notFree
      have restFree : replay [(p + 2 + size.toNat, (0 : UInt8)), (p + 2 + size.toNat + 1,
          UInt8.ofNat ((content (p + 1)).toNat - size.toNat - 2)), (p + 1, size)] content
            (p + 2 + size.toNat) = 0 := by
        simp only [replay_cons, replay_nil]
        rw [Function.update_of_ne (by omega), Function.update_of_ne (by omega),
          Function.update_self]
      have notRest : q ≠ p + 2 + size.toNat := by
        rintro rfl
        exact notFree restFree
      have before : q ∈ left ++ p :: right := by
        rcases List.mem_append.mp inside with inLeft | inRight
        · exact List.mem_append_left _ inLeft
        · have beyond := (List.mem_cons.mp inRight).resolve_left different
          have inBack := (List.mem_cons.mp beyond).resolve_left notRest
          exact List.mem_append_right _ (List.mem_cons_of_mem _ inBack)
      rw [takeLog, if_neg same] at others
      rw [others q before different] at notFree
      exact ⟨before, notFree⟩

/-! ## Release -/

theorem edsFreeLoop_spec (ee : Eeprom mcu) (block : Nat) {p fuel : Nat}
    (walk : Walk (edsNextBlock ee) p path (edsEnd mcu + 1))
    (below : ∀ q ∈ path, q < edsEnd mcu) (enough : path.length < fuel) :
    edsFreeLoop ee block fuel p =
      if block ∈ path then some (edsSetBlockType ee block 0, edsOk)
      else some (ee, edsInvalidPointer) := by
  induction path generalizing p fuel with
  | nil =>
      obtain ⟨fuel, rfl⟩ := Nat.exists_eq_add_of_lt enough
      have stop : p = edsEnd mcu + 1 := Walk.nil_iff.mp walk
      rw [List.length_nil, Nat.zero_add, edsFreeLoop, if_neg (by omega), if_neg List.not_mem_nil]
  | cons q path ih =>
      obtain ⟨fuel, rfl⟩ : ∃ rest, fuel = rest + 1 := ⟨fuel - 1, by omega⟩
      obtain ⟨rfl, rest⟩ := Walk.cons_iff.mp walk
      have later := ih rest (fun r member => below r (List.mem_cons_of_mem _ member))
        (by simpa using enough)
      rw [edsFreeLoop, if_pos (below q List.mem_cons_self)]
      by_cases same : q = block
      · rw [if_pos same, if_pos (same ▸ List.mem_cons_self), same]
      · have split : block ∈ q :: path ↔ block ∈ path := by
          rw [List.mem_cons]
          constructor
          · exact fun member => member.resolve_left (Ne.symm same)
          · exact Or.inr
        rw [if_neg same, later]
        simp only [split]

/-- `eds_free` writes the type byte of a block of the chain and nothing else. -/
theorem edsFree_spec (ee : Eeprom mcu) (block : Nat) (chain : IsChain mcu ee.cell path) :
    edsFree ee block =
      if block ∈ path then some (edsSetBlockType ee block 0, edsOk)
      else some (ee, edsInvalidPointer) :=
  edsFreeLoop_spec ee block chain.walk chain.below chain.length_lt

end Hcan.Eds
