import Hcan.Eds.Code
import Hcan.Library.Walk
import Mathlib.Data.List.Perm.Subperm
import Mathlib.Data.Nat.Basic
import Mathlib.Tactic.Tauto

/-!
# Well-formed EDS areas

An area is well formed when the walk `p ↦ p + 2 + size p` from the first block
arrives exactly behind the last byte.  The blocks met on the way tile the area.
Three edits of a chain are all that the EDS operations do to it: a write that
misses every size byte, the cut of a block and the merge of two neighbours.
-/

namespace Hcan.Eds

open Hcan.Canix Hcan.Library

/-- The blocks of `path` are the chain of the area: the walk of the source's
`eds_next_block` over this content ends exactly at `EDS_END + 1`. -/
structure IsChain (mcu : Mcu) (content : Nat → UInt8) (path : List Nat) : Prop where
  walk : Walk (edsNextBlock (Eeprom.powerUp content : Eeprom mcu)) edsDataStart path
    (edsEnd mcu + 1)
  below : ∀ p ∈ path, p < edsEnd mcu

def WellFormed (mcu : Mcu) (content : Nat → UInt8) : Prop :=
  ∃ path, IsChain mcu content path

/-- `p` is the start of a block on the chain. -/
def OnChain (mcu : Mcu) (content : Nat → UInt8) (p : Nat) : Prop :=
  ∃ path, IsChain mcu content path ∧ p ∈ path

/-- First address behind the block that starts at `p`. -/
def blockStop (content : Nat → UInt8) (p : Nat) : Nat := p + 2 + (content (p + 1)).toNat

/-- `address` is a header or payload byte of the block that starts at `p`. -/
def InBlock (content : Nat → UInt8) (p address : Nat) : Prop :=
  p ≤ address ∧ address < blockStop content p

variable {mcu : Mcu} {content : Nat → UInt8} {path : List Nat}

theorem edsEnd_le (mcu : Mcu) : edsEnd mcu ≤ 2047 := mcu.edsDataEnd_le

theorem le_edsEnd (mcu : Mcu) : 1023 ≤ edsEnd mcu := mcu.le_edsDataEnd

/-- Below the end of the area the source functions read the cells themselves. -/
theorem edsBlockType_eq (ee : Eeprom mcu) {p : Nat} (bound : p ≤ edsEnd mcu) :
    edsBlockType ee p = ee.cell p :=
  eepromReadByte_of_le ee bound

theorem edsBlockSize_eq (ee : Eeprom mcu) {p : Nat} (bound : p < edsEnd mcu) :
    edsBlockSize ee p = ee.cell (p + 1) := by
  have limit := edsEnd_le mcu
  rw [edsBlockSize, ptrAdd_of_lt (by omega)]
  exact eepromReadByte_of_le ee bound

theorem edsNextBlock_eq (ee : Eeprom mcu) {p : Nat} (bound : p < edsEnd mcu) :
    edsNextBlock ee p = blockStop ee.cell p := by
  have limit := edsEnd_le mcu
  have size := (ee.cell (p + 1)).toNat_lt
  rw [edsNextBlock, edsBlockSize_eq ee bound, ptrAdd_of_lt (by omega), blockStop]
  omega

theorem lt_blockStop (content : Nat → UInt8) (p : Nat) : p + 1 < blockStop content p := by
  unfold blockStop
  omega

theorem inBlock_type (content : Nat → UInt8) (p : Nat) : InBlock content p p :=
  ⟨Nat.le_refl p, (Nat.lt_succ_self p).trans (lt_blockStop content p)⟩

theorem inBlock_size (content : Nat → UInt8) (p : Nat) : InBlock content p (p + 1) :=
  ⟨Nat.le_succ p, lt_blockStop content p⟩

namespace IsChain

theorem next_eq (chain : IsChain mcu content path) {p : Nat} (member : p ∈ path) :
    edsNextBlock (Eeprom.powerUp content : Eeprom mcu) p = blockStop content p :=
  edsNextBlock_eq _ (chain.below p member)

theorem increasing (chain : IsChain mcu content path) :
    ∀ p ∈ path, p < edsNextBlock (Eeprom.powerUp content : Eeprom mcu) p := by
  intro p member
  rw [chain.next_eq member]
  exact (Nat.lt_succ_self p).trans (lt_blockStop content p)

theorem dataStart_le (chain : IsChain mcu content path) {p : Nat} (member : p ∈ path) :
    edsDataStart ≤ p :=
  ((chain.walk.bounds chain.increasing).2 p member).1

theorem blockStop_le (chain : IsChain mcu content path) {p : Nat} (member : p ∈ path) :
    blockStop content p ≤ edsEnd mcu + 1 := by
  rw [← chain.next_eq member]
  exact ((chain.walk.bounds chain.increasing).2 p member).2

/-- Different blocks of a chain share no byte. -/
theorem apart (chain : IsChain mcu content path) {p q : Nat} (inLeft : p ∈ path)
    (inRight : q ∈ path) (different : p ≠ q) :
    blockStop content p ≤ q ∨ blockStop content q ≤ p := by
  have order := chain.walk.disjoint chain.increasing inLeft inRight different
  rwa [chain.next_eq inLeft, chain.next_eq inRight] at order

theorem not_inBlock (chain : IsChain mcu content path) {p q address : Nat} (inLeft : p ∈ path)
    (inRight : q ∈ path) (different : p ≠ q) (inside : InBlock content p address) :
    ¬ InBlock content q address := by
  rintro ⟨low, high⟩
  obtain ⟨lowLeft, highLeft⟩ := inside
  rcases chain.apart inLeft inRight different with order | order <;> omega

/-- Every byte of the area lies in a block. -/
theorem covers (chain : IsChain mcu content path) {address : Nat}
    (low : edsDataStart ≤ address) (high : address ≤ edsEnd mcu) :
    ∃ p ∈ path, InBlock content p address := by
  obtain ⟨p, member, between⟩ :=
    chain.walk.covers chain.increasing low (Nat.lt_succ_of_le high)
  rw [chain.next_eq member] at between
  exact ⟨p, member, between⟩

theorem unique {again : List Nat} (chain : IsChain mcu content path)
    (second : IsChain mcu content again) : path = again :=
  chain.walk.unique chain.increasing second.walk second.increasing

theorem nodup (chain : IsChain mcu content path) : path.Nodup := by
  refine (chain.walk.separated chain.increasing).imp_of_mem ?_
  intro p q inLeft _ order same
  rw [chain.next_eq inLeft, same] at order
  have := lt_blockStop content q
  omega

theorem onChain_iff (chain : IsChain mcu content path) {p : Nat} :
    OnChain mcu content p ↔ p ∈ path := by
  constructor
  · rintro ⟨again, second, member⟩
    rwa [chain.unique second]
  · intro member
    exact ⟨path, chain, member⟩

/-- The blocks tile the area: every byte of it lies in exactly one block. -/
theorem tiles (chain : IsChain mcu content path) {address : Nat}
    (low : edsDataStart ≤ address) (high : address ≤ edsEnd mcu) :
    ∃! p, OnChain mcu content p ∧ InBlock content p address := by
  obtain ⟨p, member, inside⟩ := chain.covers low high
  refine ⟨p, ⟨chain.onChain_iff.mpr member, inside⟩, ?_⟩
  rintro q ⟨onChain, insideAgain⟩
  by_contra different
  exact chain.not_inBlock (chain.onChain_iff.mp onChain) member different insideAgain inside

theorem length_add_le (chain : IsChain mcu content path) :
    path.length + edsDataStart ≤ edsEnd mcu := by
  have order : path.length ≤ (List.range' edsDataStart (edsEnd mcu - edsDataStart)).length := by
    refine (List.subperm_of_subset chain.nodup ?_).length_le
    intro p member
    have low := chain.dataStart_le member
    have high := chain.below p member
    rw [List.mem_range'_1]
    omega
  have size := le_edsEnd mcu
  simp only [List.length_range', edsDataStart, edsStart] at order ⊢
  omega

/-- The chain is shorter than the fuel the loops get. -/
theorem length_lt (chain : IsChain mcu content path) : path.length < edsEnd mcu := by
  have bound := chain.length_add_le
  have start : edsDataStart = 34 := rfl
  omega

/-! ## The edits -/

/-- A write that misses every size byte leaves the chain as it is. -/
theorem update_of_ne (chain : IsChain mcu content path) {address : Nat} (value : UInt8)
    (misses : ∀ p ∈ path, p + 1 ≠ address) :
    IsChain mcu (Function.update content address value) path where
  walk := by
    refine chain.walk.congr fun p member => ?_
    rw [chain.next_eq member, edsNextBlock_eq _ (chain.below p member)]
    simp only [blockStop, Eeprom.powerUp_cell, Function.update_of_ne (misses p member)]
  below := chain.below

/-- A write to the type byte of a block leaves the chain as it is. -/
theorem update_type (chain : IsChain mcu content path) {p : Nat} (member : p ∈ path)
    (value : UInt8) : IsChain mcu (Function.update content p value) path := by
  refine chain.update_of_ne value fun q inside same => ?_
  by_cases different : q = p
  · omega
  · exact chain.not_inBlock inside member different (inBlock_size content q)
      (same ▸ inBlock_type content p)

/-- A write into the payload of a block leaves the chain as it is. -/
theorem update_payload (chain : IsChain mcu content path) {p address : Nat} (member : p ∈ path)
    (low : p + 2 ≤ address) (high : address < blockStop content p) (value : UInt8) :
    IsChain mcu (Function.update content address value) path := by
  refine chain.update_of_ne value fun q inside same => ?_
  by_cases different : q = p
  · omega
  · refine chain.not_inBlock inside member different (inBlock_size content q) ?_
    rw [same]
    exact ⟨by omega, high⟩

/-- Rewriting one size byte replaces a segment of the chain by any other
segment between the same two addresses. -/
private theorem resize {front new back : List Nat} {p stop : Nat} {size : UInt8} (old : List Nat)
    (chain : IsChain mcu content (front ++ (old ++ back)))
    (start : p ∈ old) (first : Walk (edsNextBlock (Eeprom.powerUp content : Eeprom mcu))
      edsDataStart front p)
    (last : Walk (edsNextBlock (Eeprom.powerUp content : Eeprom mcu)) stop back
      (edsEnd mcu + 1))
    (segment : Walk (edsNextBlock
      (Eeprom.powerUp (Function.update content (p + 1) size) : Eeprom mcu)) p new stop)
    (newBelow : ∀ q ∈ new, q < edsEnd mcu) :
    IsChain mcu (Function.update content (p + 1) size) (front ++ (new ++ back)) := by
  have distinct := chain.nodup
  have agree : ∀ q, q ∈ front ∨ q ∈ back →
      edsNextBlock (Eeprom.powerUp (Function.update content (p + 1) size) : Eeprom mcu) q =
        edsNextBlock (Eeprom.powerUp content : Eeprom mcu) q := by
    intro q outside
    have member : q ∈ front ++ (old ++ back) := by
      simp only [List.mem_append]
      tauto
    have different : q + 1 ≠ p + 1 := by
      intro same
      have same' : q = p := by omega
      subst same'
      simp only [List.nodup_append, List.mem_append] at distinct
      rcases outside with inFront | inBack
      · exact distinct.2.2 q inFront q (.inl start) rfl
      · exact distinct.2.1.2.2 q start q inBack rfl
    rw [chain.next_eq member, edsNextBlock_eq _ (chain.below q member)]
    simp only [blockStop, Eeprom.powerUp_cell, Function.update_of_ne different]
  constructor
  · exact first.splice segment last (fun q inside => agree q (.inl inside))
      fun q inside => agree q (.inr inside)
  · intro q inside
    simp only [List.mem_append] at inside
    rcases inside with inFront | inNew | inBack
    · exact chain.below q (List.mem_append_left _ inFront)
    · exact newBelow q inNew
    · exact chain.below q (List.mem_append_right _ (List.mem_append_right _ inBack))

/-- Shortening a block whose payload holds the header of the rest cuts it in two. -/
theorem cut {front back : List Nat} {p : Nat} {size : UInt8}
    (chain : IsChain mcu content (front ++ p :: back))
    (room : size.toNat + 2 ≤ (content (p + 1)).toNat)
    (rest : (content (p + 2 + size.toNat + 1)).toNat + size.toNat + 2 =
      (content (p + 1)).toNat) :
    IsChain mcu (Function.update content (p + 1) size)
      (front ++ p :: (p + 2 + size.toNat) :: back) := by
  have member : p ∈ front ++ p :: back := by simp
  obtain ⟨first, last⟩ := chain.walk.split
  have stopBound := chain.blockStop_le member
  have belowEnd := chain.below p member
  rw [chain.next_eq member] at last
  unfold blockStop at stopBound
  have cutBelow : p + 2 + size.toNat < edsEnd mcu := by omega
  have different : p + 2 + size.toNat + 1 ≠ p + 1 := by omega
  have segment : Walk (edsNextBlock
      (Eeprom.powerUp (Function.update content (p + 1) size) : Eeprom mcu)) p
      [p, p + 2 + size.toNat] (blockStop content p) := by
    simp only [Walk.cons_iff, Walk.nil_iff, true_and]
    rw [edsNextBlock_eq _ belowEnd]
    simp only [blockStop, Eeprom.powerUp_cell, Function.update_self, true_and]
    rw [edsNextBlock_eq _ cutBelow]
    simp only [blockStop, Eeprom.powerUp_cell, Function.update_of_ne different]
    omega
  refine chain.resize [p] (List.mem_singleton_self p) first last segment ?_
  intro q inside
  simp only [List.mem_cons, List.not_mem_nil, or_false] at inside
  rcases inside with rfl | rfl
  · exact belowEnd
  · exact cutBelow

/-- Enlarging a block by its right neighbour removes the neighbour from the chain. -/
theorem merge {front back : List Nat} {p q : Nat} {size : UInt8}
    (chain : IsChain mcu content (front ++ p :: q :: back))
    (whole : size.toNat = (content (p + 1)).toNat + 2 + (content (q + 1)).toNat) :
    IsChain mcu (Function.update content (p + 1) size) (front ++ p :: back) := by
  have member : p ∈ front ++ p :: q :: back := by simp
  have neighbour : q ∈ front ++ p :: q :: back := by simp
  have belowEnd := chain.below p member
  obtain ⟨first, later⟩ := chain.walk.split
  rw [chain.next_eq member, Walk.cons_iff] at later
  obtain ⟨adjacent, last⟩ := later
  rw [← adjacent, chain.next_eq neighbour] at last
  have segment : Walk (edsNextBlock
      (Eeprom.powerUp (Function.update content (p + 1) size) : Eeprom mcu)) p
      [p] (blockStop content q) := by
    simp only [Walk.cons_iff, Walk.nil_iff, true_and]
    have place : q = p + 2 + (content (p + 1)).toNat := adjacent
    rw [edsNextBlock_eq _ belowEnd]
    simp only [blockStop, Eeprom.powerUp_cell, Function.update_self, whole]
    omega
  refine chain.resize [p, q] List.mem_cons_self first last segment ?_
  intro r inside
  rw [List.mem_singleton.mp inside]
  exact belowEnd

end IsChain

end Hcan.Eds
