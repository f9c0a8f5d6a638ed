import Hcan.Hauselektrik.WriteFrames

/-!
# Records and their blocks

The load copies the payload of a block to the record byte by byte; a write frame changes
single fields of the record and writes bytes at offsets counted from the header.  Both
layouts agree: a record that holds the configuration of its block still holds it behind a
write, and the written bytes lie in the payload of the block.
-/

namespace Hcan.Hauselektrik

open Hcan.Canix Hcan.Eds Hcan.Controller Hcan.Library

variable {mcu : Mcu}

/-- An address of the payload of a block. -/
def InPayload (content : Nat → UInt8) (it address : Nat) : Prop :=
  it + 2 ≤ address ∧ address < blockStop content it

theorem InPayload.inBlock {content : Nat → UInt8} {it address : Nat}
    (payload : InPayload content it address) : InBlock content it address :=
  ⟨(Nat.le_add_right _ _).trans payload.1, payload.2⟩

/-- The record holds the configuration of its block; other records belong to other types. -/
def Agrees (ee : Eeprom mcu) (it : Nat) : Device → Prop
  | .heizung p => edsBlockType ee it = edsHeizungBlockId ∧ p.it = it ∧
      p.config = edsHeizungBlock ee it
  | .zeitzone p => edsBlockType ee it = edsZeitzoneBlockId ∧ p.it = it ∧
      p.config = edsZeitzoneBlock ee it
  | _ => edsBlockType ee it ≠ edsHeizungBlockId ∧ edsBlockType ee it ≠ edsZeitzoneBlockId

theorem edsHeizungBlock_congr {ee later : Eeprom mcu} {it : Nat}
    (bytes : ∀ k < 38, configByte later it k = configByte ee it k) :
    edsHeizungBlock later it = edsHeizungBlock ee it := by
  have lines : ∀ k : Fin 8,
      (⟨configByte later it (4 + k * 3), configWord later it (4 + k * 3 + 1)⟩ : SolltempLine) =
        ⟨configByte ee it (4 + k * 3), configWord ee it (4 + k * 3 + 1)⟩ := by
    intro k
    have bound := k.isLt
    rw [configWord, configWord, bytes _ (by omega), bytes _ (by omega), bytes _ (by omega)]
  have reed : configBytes later it 30 8 = configBytes ee it 30 8 := by
    unfold configBytes
    congr 1
    funext k
    have bound := k.isLt
    exact bytes _ (by omega)
  rw [edsHeizungBlock, edsHeizungBlock, funext lines, reed, bytes 0 (by omega), bytes 1 (by omega),
    bytes 2 (by omega), bytes 3 (by omega), bytes 28 (by omega), bytes 29 (by omega)]

theorem edsZeitzoneBlock_congr {ee later : Eeprom mcu} {it : Nat}
    (bytes : ∀ k < 6, configByte later it k = configByte ee it k) :
    edsZeitzoneBlock later it = edsZeitzoneBlock ee it := by
  rw [edsZeitzoneBlock, edsZeitzoneBlock, bytes 0 (by omega), bytes 1 (by omega),
    bytes 2 (by omega), bytes 3 (by omega), bytes 4 (by omega), bytes 5 (by omega)]

section Writes

variable {path : List Nat} {ee : Eeprom mcu} {it : Nat} {writes : List (Nat × UInt8)}

/-- The writes to a block, in the log under the cells that are selected. -/
theorem writeBlock_wroteCells (ee : Eeprom mcu) (it : Nat) (writes : List (Nat × UInt8)) :
    ee.Wrote (writes.map fun write => (mcu.cellOf (ptrAdd it write.1), write.2))
      (writeBlock ee it writes) := by
  induction writes generalizing ee with
  | nil => exact .refl ee
  | cons write writes ih =>
      have first : ee.Wrote [(mcu.cellOf (ptrAdd it write.1), write.2)]
          (eepromWriteByte ee (ptrAdd it write.1) write.2) := ⟨rfl, rfl⟩
      exact first.trans (ih _)

/-- Inside the area the cells are those of the addresses. -/
theorem writeBlock_wrote (bound : ∀ write ∈ writes, it + write.1 ≤ edsEnd mcu) :
    ee.Wrote (writes.map fun write => (it + write.1, write.2)) (writeBlock ee it writes) := by
  have cells : (writes.map fun write => (mcu.cellOf (ptrAdd it write.1), write.2)) =
      writes.map fun write => (it + write.1, write.2) := by
    apply List.map_congr_left
    intro write member
    have limit := edsEnd_le mcu
    have below := bound write member
    rw [ptrAdd_of_lt (by omega), mcu.cellOf_of_le _ below]
  rw [← cells]
  exact writeBlock_wroteCells ee it writes

/-- A block seen as a memory of its own. -/
theorem replay_shift (cell : Nat → UInt8) (offset : Nat) :
    replay (writes.map fun write => (it + write.1, write.2)) cell (it + offset) =
      replay writes (fun o => cell (it + o)) offset := by
  induction writes generalizing cell with
  | nil => rfl
  | cons write writes ih =>
      rw [List.map_cons, replay_cons, replay_cons, ih]
      congr 1
      exact Function.update_comp_eq_of_injective cell (add_right_injective it) write.1 write.2

theorem configByte_eq {k : Nat} (bound : it + (2 + k) ≤ edsEnd mcu) :
    configByte ee it k = ee.cell (it + (2 + k)) := by
  have limit := edsEnd_le mcu
  rw [configByte, ptrAdd_of_lt (by omega)]
  exact eepromReadByte_of_le ee bound

theorem configByte_writeBlock {k : Nat} (inside : ∀ write ∈ writes, it + write.1 ≤ edsEnd mcu)
    (bound : it + (2 + k) ≤ edsEnd mcu) :
    configByte (writeBlock ee it writes) it k =
      replay writes (fun o => ee.cell (it + o)) (2 + k) := by
  rw [configByte_eq bound, (writeBlock_wrote inside).cell, replay_shift]

theorem word_of_parts (word : UInt16) :
    UInt16.ofNat ((wordLo word).toNat + 256 * (wordHi word).toNat) = word := by
  have bound := word.toNat_lt
  apply UInt16.toNat_inj.mp
  simp only [wordLo, wordHi, UInt8.toNat_ofNat', UInt16.toNat_ofNat']
  omega

/-- The two bytes that a heating writes are those of the temperature of the line. -/
theorem edsHeizungBlock_write (whole : it + 40 ≤ edsEnd mcu + 1) (idx : Fin 8) (temp : UInt16) :
    edsHeizungBlock (writeBlock ee it [(6 + idx.val * 3 + 1, wordLo temp),
      (6 + idx.val * 3 + 1 + 1, wordHi temp)]) it = (edsHeizungBlock ee it).setTemp idx temp := by
  have index := idx.isLt
  have inside : ∀ write ∈ [(6 + idx.val * 3 + 1, wordLo temp),
      (6 + idx.val * 3 + 1 + 1, wordHi temp)], it + write.1 ≤ edsEnd mcu := by
    simp only [List.forall_mem_cons, List.not_mem_nil]
    refine ⟨by omega, by omega, nofun⟩
  have bytes : ∀ k < 38, configByte (writeBlock ee it [(6 + idx.val * 3 + 1, wordLo temp),
      (6 + idx.val * 3 + 1 + 1, wordHi temp)]) it k =
        if k = 4 + idx.val * 3 + 2 then wordHi temp
        else if k = 4 + idx.val * 3 + 1 then wordLo temp else configByte ee it k := by
    intro k small
    rw [configByte_writeBlock inside (by omega), configByte_eq (by omega)]
    simp only [replay_cons, replay_nil, Function.update_apply]
    split_ifs <;> first | rfl | omega
  generalize writeBlock ee it _ = later at bytes
  have kept : ∀ k < 38, k ≠ 4 + idx.val * 3 + 2 → k ≠ 4 + idx.val * 3 + 1 →
      configByte later it k = configByte ee it k := by
    intro k small high low
    rw [bytes k small, if_neg high, if_neg low]
  have reed : configBytes later it 30 8 = configBytes ee it 30 8 := by
    unfold configBytes
    congr 1
    funext k
    have bound := k.isLt
    exact kept _ (by omega) (by omega) (by omega)
  have lines : (Vector.ofFn fun k : Fin 8 =>
      (⟨configByte later it (4 + k * 3), configWord later it (4 + k * 3 + 1)⟩ : SolltempLine)) =
        ((edsHeizungBlock ee it).setTemp idx temp).solltempLine := by
    apply Vector.ext
    intro k small
    rw [EdsHeizungBlock.setTemp, edsHeizungBlock, Vector.getElem_ofFn]
    dsimp only
    rw [Vector.getElem_set, kept _ (by omega) (by omega) (by omega)]
    by_cases here : idx.val = k
    · subst here
      rw [if_pos rfl, configWord, bytes _ (by omega), bytes _ (by omega), if_neg (by omega),
        if_pos rfl, if_pos rfl, word_of_parts]
      simp
    · rw [if_neg here, configWord, kept _ (by omega) (by omega) (by omega),
        kept _ (by omega) (by omega) (by omega), Vector.getElem_ofFn, configWord]
  rw [edsHeizungBlock, lines, reed, kept 0 (by omega) (by omega) (by omega),
    kept 1 (by omega) (by omega) (by omega), kept 2 (by omega) (by omega) (by omega),
    kept 3 (by omega) (by omega) (by omega), kept 28 (by omega) (by omega) (by omega),
    kept 29 (by omega) (by omega) (by omega)]
  rfl

/-- The five bytes that a time zone writes are the fields behind its group. -/
theorem edsZeitzoneBlock_write (whole : it + 8 ≤ edsEnd mcu + 1) (frame : CanixFrame) :
    edsZeitzoneBlock (writeBlock ee it [(3, frame.data[3]), (4, frame.data[4]),
      (5, frame.data[5]), (6, frame.data[6]), (7, frame.data[7])]) it =
        zeitzoneDetails frame (edsZeitzoneBlock ee it) := by
  have inside : ∀ write ∈ [(3, frame.data[3]), (4, frame.data[4]), (5, frame.data[5]),
      (6, frame.data[6]), (7, frame.data[7])], it + write.1 ≤ edsEnd mcu := by
    simp only [List.forall_mem_cons, List.not_mem_nil]
    refine ⟨by omega, by omega, by omega, by omega, by omega, nofun⟩
  rw [edsZeitzoneBlock, configByte_writeBlock inside (by omega),
    configByte_writeBlock inside (by omega), configByte_writeBlock inside (by omega),
    configByte_writeBlock inside (by omega), configByte_writeBlock inside (by omega),
    configByte_writeBlock inside (by omega), zeitzoneDetails, edsZeitzoneBlock,
    configByte_eq (by omega)]
  simp only [replay_cons, replay_nil, Function.update_apply]
  rfl

/-- What is not written keeps its value. -/
theorem writeBlock_confined {content : Nat → UInt8} (stop : blockStop content it ≤ edsEnd mcu + 1)
    (inside : ∀ write ∈ writes, InPayload content it (it + write.1)) {address : Nat}
    (outside : ¬ InPayload content it address) :
    (writeBlock ee it writes).cell address = ee.cell address := by
  have bound : ∀ write ∈ writes, it + write.1 ≤ edsEnd mcu := by
    intro write member
    have below := (inside write member).2
    omega
  rw [(writeBlock_wrote bound).cell]
  apply replay_other
  intro write member same
  obtain ⟨source, stored, rfl⟩ := List.mem_map.mp member
  exact outside (same ▸ inside source stored)

end Writes

theorem agrees_ite {ee : Eeprom mcu} {it : Nat} {p : Prop} [Decidable p] {yes no : Device}
    (inYes : Agrees ee it yes) (inNo : Agrees ee it no) : Agrees ee it (if p then yes else no) := by
  by_cases chosen : p
  · rw [if_pos chosen]
    exact inYes
  · rw [if_neg chosen]
    exact inNo

theorem agrees_deviceInitOther (env : Environment mcu) (b : Board mcu) {ee : Eeprom mcu} {it : Nat}
    (noHeizung : edsBlockType ee it ≠ edsHeizungBlockId)
    (noZeitzone : edsBlockType ee it ≠ edsZeitzoneBlockId) :
    Agrees ee it (deviceInitOther env b it) := by
  have types : edsBlockType ee it ≠ edsHeizungBlockId ∧ edsBlockType ee it ≠ edsZeitzoneBlockId :=
    ⟨noHeizung, noZeitzone⟩
  dsimp only [deviceInitOther]
  repeat' apply agrees_ite
  all_goals exact types

theorem agrees_deviceInit (env : Environment mcu) (b : Board mcu) (it : Nat) :
    Agrees b.eeprom it (deviceInit env b it) := by
  rw [deviceInit]
  by_cases isHeizung : edsBlockType b.eeprom it = edsHeizungBlockId
  · rw [if_pos isHeizung]
    exact ⟨isHeizung, rfl, rfl⟩
  · rw [if_neg isHeizung]
    by_cases isZeitzone : edsBlockType b.eeprom it = edsZeitzoneBlockId
    · rw [if_pos isZeitzone]
      exact ⟨isZeitzone, rfl, rfl⟩
    · rw [if_neg isZeitzone]
      exact agrees_deviceInitOther env b isHeizung isZeitzone

/-- The configuration that a heating or a time zone holds in memory. -/
def configPart : Device → Option (EdsHeizungBlock ⊕ EdsZeitzoneBlock)
  | .heizung p => some (.inl p.config)
  | .zeitzone p => some (.inr p.config)
  | _ => none

/-- The configuration that is stored in a block. -/
def blockConfig (ee : Eeprom mcu) (it : Nat) : Option (EdsHeizungBlock ⊕ EdsZeitzoneBlock) :=
  if edsBlockType ee it = edsHeizungBlockId then some (.inl (edsHeizungBlock ee it))
  else if edsBlockType ee it = edsZeitzoneBlockId then some (.inr (edsZeitzoneBlock ee it))
  else none

theorem Agrees.configPart_eq {ee : Eeprom mcu} {it : Nat} {device : Device}
    (agrees : Agrees ee it device) : configPart device = blockConfig ee it := by
  have other : edsZeitzoneBlockId ≠ edsHeizungBlockId := by decide
  cases device with
  | heizung p =>
      obtain ⟨type, -, config⟩ := agrees
      rw [configPart, blockConfig, if_pos type, config]
  | zeitzone p =>
      obtain ⟨type, -, config⟩ := agrees
      rw [configPart, blockConfig, type, if_neg other, if_pos rfl, config]
  | _ =>
      obtain ⟨noHeizung, noZeitzone⟩ := agrees
      change none = _
      rw [blockConfig, if_neg noHeizung, if_neg noZeitzone]

/-! ## The rewrite of a record -/

/-- A rewrite belongs to a block: it stays in the payload, and the new record holds what the
block holds behind it. -/
structure Fits (ee : Eeprom mcu) (it : Nat) (r : Rewrite) : Prop where
  place : r.it = it
  type : edsBlockType ee it = r.type
  inside : ∀ write ∈ r.writes, InPayload ee.cell it (it + write.1)
  agrees : Agrees (writeBlock ee it r.writes) it r.device

theorem Agrees.fits {path : List Nat} {ee : Eeprom mcu} {it : Nat} {self : UInt16}
    {frame : CanixFrame} {device : Device} {r : Rewrite} (agrees : Agrees ee it device)
    (chain : IsChain mcu ee.cell path) (member : it ∈ path) (matching : MatchingSize ee it)
    (found : rewriteOf self frame device = some r) : Fits ee it r := by
  have below := chain.below it member
  have stop := chain.blockStop_le member
  have kept : ∀ {writes : List (Nat × UInt8)},
      (∀ write ∈ writes, InPayload ee.cell it (it + write.1)) →
        edsBlockType (writeBlock ee it writes) it = edsBlockType ee it := by
    intro writes inside
    rw [edsBlockType_eq _ below.le, edsBlockType_eq _ below.le]
    apply writeBlock_confined stop inside
    exact fun payload => absurd payload.1 (by omega)
  cases device with
  | heizung p =>
      obtain ⟨type, rfl, config⟩ := agrees
      have size := matching (38, 61) (by rw [type]; rfl)
      rw [edsBlockSize_eq ee below] at size
      have room : blockStop ee.cell p.it = p.it + 2 + 38 := by
        rw [blockStop, ← size]
        rfl
      rw [rewriteOf] at found
      split_ifs at found with same index
      cases found
      have inside : ∀ write ∈ [(6 + frame.data[3].toNat * 3 + 1,
          wordLo (frameWord frame.data[4] frame.data[5])), (6 + frame.data[3].toNat * 3 + 1 + 1,
            wordHi (frameWord frame.data[4] frame.data[5]))],
          InPayload ee.cell p.it (p.it + write.1) := by
        simp only [List.forall_mem_cons, InPayload, room]
        exact ⟨⟨by omega, by omega⟩, ⟨by omega, by omega⟩, List.forall_mem_nil _⟩
      constructor
      · rfl
      · exact type
      · exact inside
      · constructor
        · exact (kept inside).trans type
        · refine ⟨rfl, ?_⟩
          dsimp only
          rw [config]
          exact (edsHeizungBlock_write (by omega) ⟨_, index⟩ _).symm
  | zeitzone p =>
      obtain ⟨type, rfl, config⟩ := agrees
      have size := matching (6, 9) (by rw [type]; rfl)
      rw [edsBlockSize_eq ee below] at size
      have room : blockStop ee.cell p.it = p.it + 2 + 6 := by
        rw [blockStop, ← size]
        rfl
      rw [rewriteOf] at found
      split_ifs at found with same
      cases found
      have inside : ∀ write ∈ [(3, frame.data[3]), (4, frame.data[4]), (5, frame.data[5]),
          (6, frame.data[6]), (7, frame.data[7])], InPayload ee.cell p.it (p.it + write.1) := by
        simp only [List.forall_mem_cons, InPayload, room]
        exact ⟨⟨by omega, by omega⟩, ⟨by omega, by omega⟩, ⟨by omega, by omega⟩,
          ⟨by omega, by omega⟩, ⟨by omega, by omega⟩, List.forall_mem_nil _⟩
      constructor
      · rfl
      · exact type
      · exact inside
      · constructor
        · exact (kept inside).trans type
        · refine ⟨rfl, ?_⟩
          dsimp only
          rw [config]
          exact (edsZeitzoneBlock_write (by omega) frame).symm
  | _ => cases found

/-- A record goes on holding what its block holds while the bytes of the block stay. -/
theorem Agrees.congr {ee later : Eeprom mcu} {it : Nat} {device : Device}
    (agrees : Agrees ee it device) (matching : MatchingSize ee it)
    (type : edsBlockType later it = edsBlockType ee it)
    (bytes : edsBlockType ee it = edsHeizungBlockId ∨ edsBlockType ee it = edsZeitzoneBlockId →
      ∀ k < (edsBlockSize ee it).toNat, configByte later it k = configByte ee it k) :
    Agrees later it device := by
  cases device with
  | heizung p =>
      obtain ⟨isHeizung, place, config⟩ := agrees
      have size := matching (38, 61) (by rw [isHeizung]; rfl)
      have same := bytes (.inl isHeizung)
      rw [← size] at same
      exact ⟨type.trans isHeizung, place, config.trans (edsHeizungBlock_congr same).symm⟩
  | zeitzone p =>
      obtain ⟨isZeitzone, place, config⟩ := agrees
      have size := matching (6, 9) (by rw [isZeitzone]; rfl)
      have same := bytes (.inr isZeitzone)
      rw [← size] at same
      exact ⟨type.trans isZeitzone, place, config.trans (edsZeitzoneBlock_congr same).symm⟩
  | _ =>
      change edsBlockType later it ≠ _ ∧ edsBlockType later it ≠ _
      rw [type]
      exact agrees

end Hcan.Hauselektrik
