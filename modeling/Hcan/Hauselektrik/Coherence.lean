import Hcan.Hauselektrik.Records
import Hcan.Library.Run

/-!
# Configuration in memory and in the EEPROM

Two frames write the configuration of a heating or a time zone to its record and, with
offsets computed by hand, to its EDS block.  A loaded table and the blocks stay the same
through every sequence of these frames, so that a new load finds what the records hold; the
exception is a record that the load took from the bytes behind the EDS area.
-/

namespace Hcan.Hauselektrik

open Hcan.Canix Hcan.Eds Hcan.Controller Hcan.Library

variable {mcu : Mcu}

/-- The delivery of a write frame ends in a board, however deep calls may be nested beyond
some depth. -/
def Written (env : Environment mcu) (b : Board mcu) (frame : CanixFrame) (next : Board mcu) :
    Prop :=
  IsWriteFrame frame ∧ ∃ depth, ∀ deeper ≥ depth, deliver env deeper frame b = some ((), next)

/-- The block of a device that a frame matches. -/
def matchedBlock (frame : CanixFrame) : Device → Option Nat
  | .heizung p =>
      if frame.data[1] = hcanHesHeizungSolltempWriteLine ∧ p.config.id = frame.data[2] ∧
        frame.data[3].toNat < 8 then some p.it
      else none
  | .zeitzone p =>
      if frame.data[1] = hcanHesZeitzoneWriteDetails ∧ frame.data[2] = p.config.gruppe then
        some p.it
      else none
  | _ => none

/-- All bytes written between two boards lie in the blocks of devices that match. -/
def WritesInside (frame : CanixFrame) (b next : Board mcu) : Prop :=
  ∃ writes, b.eeprom.Wrote writes next.eeprom ∧ ∀ write ∈ writes, ∃ device ∈ b.devices,
    ∃ it, matchedBlock frame device = some it ∧ OnChain mcu b.eeprom.cell it ∧
      InPayload b.eeprom.cell it write.1

/-- What is guaranteed about every sequence of write frames to a loaded board: each frame
is handled, it writes to the blocks of the devices that match, and a new load finds the
configuration that the records hold. -/
structure Coherent (env : Environment mcu) (loaded : Board mcu) : Prop where
  handled : ∀ frames last, Run (Written env) loaded frames last →
    ∀ frame, IsWriteFrame frame → ∃ next, Written env last frame next
  inside : ∀ frames last frame next, Run (Written env) loaded frames last →
    Written env last frame next → WritesInside frame last next
  reload : ∀ frames last, Run (Written env) loaded frames last →
    ∃ reloaded, devicesLoadConfig env last = some reloaded ∧
      reloaded.devices.map configPart = last.devices.map configPart

/-- The load takes the bytes behind the EDS area for the block of a heating or a time zone. -/
def LoadsBehind (ee : Eeprom mcu) (path : List Nat) : Prop :=
  (edsBlockType ee (edsEnd mcu + 1) = edsHeizungBlockId ∨
    edsBlockType ee (edsEnd mcu + 1) = edsZeitzoneBlockId) ∧
  ∀ it ∈ path ++ [edsEnd mcu + 1], MatchingSize ee it

theorem written_iff {env : Environment mcu} {b next : Board mcu} {frame : CanixFrame} :
    Written env b frame next ↔ IsWriteFrame frame ∧ next = configWrite env.self frame b := by
  constructor
  · rintro ⟨write, depth, ends⟩
    have deep := ends (depth + 2) (Nat.le_add_right _ _)
    rw [deliver_write depth b write] at deep
    cases deep
    exact ⟨write, rfl⟩
  · rintro ⟨write, rfl⟩
    refine ⟨write, 2, ?_⟩
    intro deeper enough
    obtain ⟨depth, rfl⟩ := Nat.exists_eq_add_of_le' enough
    exact deliver_write depth b write

/-! ## The invariant -/

section Invariant

variable {base : Eeprom mcu} {path its : List Nat} {b next : Board mcu} {frame : CanixFrame}
variable {self : UInt16} {it i : Nat} {device : Device}

/-- Addresses behind the memory are decoded from the start again. -/
theorem cellOf_behind (target : mcu = atmega32 ∨ mcu = atmega644) {k : Nat} (small : k < 34) :
    mcu.cellOf (edsEnd mcu + 1 + k) = k := by
  rcases target with rfl | rfl
  · change (1023 + 1 + k) % 1024 = k
    omega
  · change (2047 + 1 + k) % 2048 = k
    omega

/-- Writes into the payload of a block keep all headers, also the one read behind the area. -/
theorem sameHeaders_writeBlock {ee : Eeprom mcu} {writes : List (Nat × UInt8)}
    (target : mcu = atmega32 ∨ mcu = atmega644) (chain : IsChain mcu ee.cell path)
    (member : it ∈ path) (inside : ∀ write ∈ writes, InPayload ee.cell it (it + write.1)) :
    SameHeaders path ee (writeBlock ee it writes) := by
  have stop := chain.blockStop_le member
  have start := chain.dataStart_le member
  have first : edsDataStart = 34 := rfl
  have kept : ∀ address, ¬ InPayload ee.cell it address →
      (writeBlock ee it writes).cell address = ee.cell address :=
    fun _ outside => writeBlock_confined stop inside outside
  intro q header
  rcases List.mem_append.mp header with onPath | behind
  · have below := chain.below q onPath
    rw [edsBlockType_eq _ below.le, edsBlockType_eq _ below.le, edsBlockSize_eq _ below,
      edsBlockSize_eq _ below]
    by_cases same : q = it
    · subst same
      exact ⟨kept _ fun payload => absurd payload.1 (by omega),
        kept _ fun payload => absurd payload.1 (by omega)⟩
    · have apart : ∀ address, InBlock ee.cell q address → ¬ InBlock ee.cell it address :=
        fun _ => chain.not_inBlock onPath member same
      exact ⟨kept _ fun payload => apart _ (inBlock_type _ q) payload.inBlock,
        kept _ fun payload => apart _ (inBlock_size _ q) payload.inBlock⟩
  · have limit := edsEnd_le mcu
    rw [List.mem_singleton.mp behind, edsBlockType, edsBlockType, edsBlockSize, edsBlockSize,
      ptrAdd_of_lt (by omega)]
    have cellType := cellOf_behind target (show 0 < 34 by decide)
    have cellSize := cellOf_behind target (show 1 < 34 by decide)
    rw [Nat.add_zero] at cellType
    unfold eepromReadByte
    rw [cellType, cellSize]
    exact ⟨kept _ fun payload => absurd payload.1 (by omega),
      kept _ fun payload => absurd payload.1 (by omega)⟩

/-- The blocks whose records are followed: each heating and each time zone among them is a
block of the chain. -/
structure Tracked (base : Eeprom mcu) (path its : List Nat) : Prop where
  target : mcu = atmega32 ∨ mcu = atmega644
  chain : IsChain mcu base.cell path
  nodup : its.Nodup
  blocks : ∀ it ∈ its, it ∈ path ++ [edsEnd mcu + 1]
  onChain : ∀ it ∈ its, edsBlockType base it = edsHeizungBlockId ∨
    edsBlockType base it = edsZeitzoneBlockId → it ∈ path
  matching : ∀ it ∈ its, MatchingSize base it

/-- The headers are those of the loaded content, and every record followed holds what its
block holds. -/
structure Steady (base : Eeprom mcu) (path its : List Nat) (b : Board mcu) : Prop where
  headers : SameHeaders path base b.eeprom
  table : ∀ (i it : Nat), its[i]? = some it →
    ∃ device, b.devices[i]? = some device ∧ Agrees b.eeprom it device

theorem rewriteOf_matched {r : Rewrite} (found : rewriteOf self frame device = some r) :
    matchedBlock frame device = some r.it ∧ matchedBlock frame r.device = some r.it := by
  cases device with
  | heizung p =>
      rw [rewriteOf] at found
      split_ifs at found with same index
      cases found
      have matched : frame.data[1] = hcanHesHeizungSolltempWriteLine ∧
          p.config.id = frame.data[2] ∧ frame.data[3].toNat < 8 := ⟨same.1, same.2, index⟩
      exact ⟨if_pos matched, if_pos matched⟩
  | zeitzone p =>
      rw [rewriteOf] at found
      split_ifs at found with same
      cases found
      exact ⟨if_pos same, if_pos same⟩
  | _ => cases found

/-- Only a heating or a time zone is rewritten. -/
theorem Agrees.isConfig {ee : Eeprom mcu} {r : Rewrite} (agrees : Agrees ee it device)
    (found : rewriteOf self frame device = some r) :
    edsBlockType ee it = edsHeizungBlockId ∨ edsBlockType ee it = edsZeitzoneBlockId := by
  cases device with
  | heizung p => exact .inl agrees.1
  | zeitzone p => exact .inr agrees.1
  | _ => cases found

/-- What one or more writes do to a board: they stay in the payloads of blocks of devices
that match, and they change neither the headers nor which devices match. -/
structure Progress (frame : CanixFrame) (path : List Nat) (b next : Board mcu) : Prop where
  headers : SameHeaders path b.eeprom next.eeprom
  matched : next.devices.map (matchedBlock frame) = b.devices.map (matchedBlock frame)
  writes : ∃ writes, b.eeprom.Wrote writes next.eeprom ∧ ∀ write ∈ writes,
    ∃ it ∈ path, some it ∈ b.devices.map (matchedBlock frame) ∧
      InPayload b.eeprom.cell it write.1

theorem Progress.length (progress : Progress frame path b next) :
    next.devices.length = b.devices.length := by
  have same := congrArg List.length progress.matched
  rwa [List.length_map, List.length_map] at same

theorem Progress.refl : Progress frame path b b where
  headers _ _ := ⟨rfl, rfl⟩
  matched := rfl
  writes := ⟨[], .refl _, nofun⟩

theorem blockStop_congr {ee later : Eeprom mcu} (chain : IsChain mcu ee.cell path)
    (headers : SameHeaders path ee later) (member : it ∈ path) :
    blockStop later.cell it = blockStop ee.cell it := by
  have below := chain.below it member
  have size := (headers it (List.mem_append_left _ member)).2
  rw [edsBlockSize_eq _ below, edsBlockSize_eq _ below] at size
  rw [blockStop, blockStop, size]

theorem Progress.trans {middle : Board mcu} (chain : IsChain mcu b.eeprom.cell path)
    (first : Progress frame path b middle) (rest : Progress frame path middle next) :
    Progress frame path b next := by
  obtain ⟨front, wroteFront, insideFront⟩ := first.writes
  obtain ⟨back, wroteBack, insideBack⟩ := rest.writes
  constructor
  · intro q header
    exact ⟨(rest.headers q header).1.trans (first.headers q header).1,
      (rest.headers q header).2.trans (first.headers q header).2⟩
  · exact rest.matched.trans first.matched
  · refine ⟨front ++ back, wroteFront.trans wroteBack, ?_⟩
    intro write member
    rcases List.mem_append.mp member with inFront | inBack
    · exact insideFront write inFront
    · obtain ⟨q, onPath, matched, payload⟩ := insideBack write inBack
      refine ⟨q, onPath, first.matched ▸ matched, payload.1, ?_⟩
      rw [← blockStop_congr chain first.headers onPath]
      exact payload.2

theorem Progress.writesInside (chain : IsChain mcu b.eeprom.cell path)
    (progress : Progress frame path b next) : WritesInside frame b next := by
  obtain ⟨writes, wrote, inside⟩ := progress.writes
  refine ⟨writes, wrote, ?_⟩
  intro write member
  obtain ⟨q, onPath, matched, payload⟩ := inside write member
  obtain ⟨device, stored, isBlock⟩ := List.mem_map.mp matched
  exact ⟨device, stored, q, isBlock, chain.onChain_iff.mpr onPath, payload⟩

/-- Records of other blocks go on holding what their blocks hold. -/
theorem Agrees.writeBlock {ee : Eeprom mcu} {writes : List (Nat × UInt8)} {q : Nat}
    (agrees : Agrees ee q device) (tracked : Tracked base path its) (member : q ∈ its)
    (headers : SameHeaders path base ee) (onPath : it ∈ path) (different : q ≠ it)
    (inside : ∀ write ∈ writes, InPayload ee.cell it (it + write.1)) :
    Agrees (writeBlock ee it writes) q device := by
  have chain := headers.chain tracked.chain
  have later := sameHeaders_writeBlock tracked.target chain onPath inside
  have block := tracked.blocks q member
  apply agrees.congr
  · exact (headers.matching block).mpr (tracked.matching q member)
  · exact (later q block).1
  · intro isConfig k small
    rw [(headers q block).1] at isConfig
    have onChain := tracked.onChain q member isConfig
    have below := chain.below q onChain
    have stop := chain.blockStop_le onChain
    rw [edsBlockSize_eq _ below] at small
    have content : InBlock ee.cell q (q + (2 + k)) := by
      unfold InBlock blockStop
      omega
    have bound : q + (2 + k) ≤ edsEnd mcu := Nat.le_of_lt_succ (content.2.trans_le stop)
    rw [configByte_eq bound, configByte_eq bound]
    apply writeBlock_confined (chain.blockStop_le onPath) inside
    exact fun payload => chain.not_inBlock onChain onPath different content payload.inBlock

/-- A rewrite of a record that is followed. -/
theorem steady_applyRewrite {r : Rewrite} (tracked : Tracked base path its)
    (steady : Steady base path its b) (slot : its[i]? = some it)
    (stored : b.devices[i]? = some device) (agrees : Agrees b.eeprom it device)
    (found : rewriteOf self frame device = some r) :
    Steady base path its (applyRewrite b i r) ∧
      Progress frame path b (applyRewrite b i r) := by
  have member : it ∈ its := List.mem_of_getElem? slot
  have block := tracked.blocks it member
  have chain := steady.headers.chain tracked.chain
  have isConfig := agrees.isConfig found
  rw [(steady.headers it block).1] at isConfig
  have onPath := tracked.onChain it member isConfig
  have fits := agrees.fits chain onPath
    ((steady.headers.matching block).mpr (tracked.matching it member)) found
  obtain ⟨matched, matchedLater⟩ := rewriteOf_matched found
  rw [applyRewrite]
  by_cases valid : r.it ≠ 0 ∧ edsBlockType b.eeprom r.it = r.type
  · rw [if_pos valid, fits.place]
    have kept := sameHeaders_writeBlock tracked.target chain onPath fits.inside
    have bound : ∀ write ∈ r.writes, it + write.1 ≤ edsEnd mcu := by
      intro write inWrites
      have below := (fits.inside write inWrites).2
      have stop := chain.blockStop_le onPath
      omega
    constructor
    · constructor
      · intro q header
        exact ⟨(kept q header).1.trans (steady.headers q header).1,
          (kept q header).2.trans (steady.headers q header).2⟩
      · intro k q slotLater
        dsimp only
        by_cases here : i = k
        · subst here
          rw [slot] at slotLater
          cases slotLater
          refine ⟨r.device, ?_, fits.agrees⟩
          exact List.getElem?_set_self (List.getElem?_eq_some_iff.mp stored).1
        · obtain ⟨other, storedOther, agreesOther⟩ := steady.table k q slotLater
          refine ⟨other, ?_, ?_⟩
          · rw [List.getElem?_set_ne here]
            exact storedOther
          · have different : q ≠ it := by
              intro same
              subst same
              obtain ⟨inside, atIndex⟩ := List.getElem?_eq_some_iff.mp slot
              exact here ((List.getElem?_inj inside tracked.nodup).mp (slot.trans slotLater.symm))
            exact agreesOther.writeBlock tracked (List.mem_of_getElem? slotLater) steady.headers
              onPath different fits.inside
    · constructor
      · exact kept
      · exact map_set_same stored (matchedLater.trans matched.symm)
      · refine ⟨_, writeBlock_wrote bound, ?_⟩
        intro write inWrites
        obtain ⟨source, inSource, rfl⟩ := List.mem_map.mp inWrites
        refine ⟨it, onPath, ?_, fits.inside source inSource⟩
        rw [← fits.place, ← matched]
        exact List.mem_map_of_mem (List.mem_of_getElem? stored)
  · rw [if_neg valid]
    exact ⟨steady, .refl⟩

theorem steady_deviceWrite (tracked : Tracked base path its) (steady : Steady base path its b)
    (followed : i < b.devices.length → i < its.length) :
    Steady base path its (deviceWrite self frame b i) ∧
      Progress frame path b (deviceWrite self frame b i) := by
  rw [deviceWrite]
  cases found : b.devices[i]?.bind (rewriteOf self frame) with
  | none => exact ⟨steady, .refl⟩
  | some r =>
      obtain ⟨device, stored, rewrites⟩ := Option.bind_eq_some_iff.mp found
      have inside := followed (List.getElem?_eq_some_iff.mp stored).1
      have slot := List.getElem?_eq_getElem inside
      obtain ⟨again, storedAgain, agrees⟩ := steady.table i _ slot
      rw [stored] at storedAgain
      cases storedAgain
      exact steady_applyRewrite tracked steady slot stored agrees rewrites

/-- The devices of a list of indices, one after the other. -/
theorem steady_foldl (tracked : Tracked base path its) {indices : List Nat}
    (steady : Steady base path its b)
    (followed : ∀ i ∈ indices, i < b.devices.length → i < its.length) :
    Steady base path its (indices.foldl (deviceWrite self frame) b) ∧
      Progress frame path b (indices.foldl (deviceWrite self frame) b) := by
  induction indices generalizing b with
  | nil => exact ⟨steady, .refl⟩
  | cons i indices ih =>
      have step : Steady base path its (deviceWrite self frame b i) ∧
          Progress frame path b (deviceWrite self frame b i) :=
        steady_deviceWrite tracked steady (followed i List.mem_cons_self)
      have later : ∀ k ∈ indices, k < (deviceWrite self frame b i).devices.length →
          k < its.length := by
        intro k member bound
        rw [step.2.length] at bound
        exact followed k (List.mem_cons_of_mem _ member) bound
      obtain ⟨last, rest⟩ := ih step.1 later
      exact ⟨last, step.2.trans (steady.headers.chain tracked.chain) rest⟩

/-- A frame keeps the invariant when all records are followed. -/
theorem steady_configWrite (tracked : Tracked base path its) (steady : Steady base path its b)
    (followed : b.devices.length = its.length) :
    Steady base path its (configWrite self frame b) ∧
      Progress frame path b (configWrite self frame b) := by
  rw [configWrite]
  by_cases accepts : hauselektrikAccepts self frame = true
  · rw [if_pos accepts]
    exact steady_foldl tracked steady fun _ _ bound => followed ▸ bound
  · rw [if_neg accepts]
    exact ⟨steady, .refl⟩

/-- Whatever a device writes is in the log. -/
theorem deviceWrite_wrote (self : UInt16) (frame : CanixFrame) (b : Board mcu) (i : Nat) :
    ∃ writes, b.eeprom.Wrote writes (deviceWrite self frame b i).eeprom := by
  rw [deviceWrite]
  cases b.devices[i]?.bind (rewriteOf self frame) with
  | none => exact ⟨[], .refl _⟩
  | some r =>
      dsimp only
      rw [applyRewrite]
      by_cases valid : r.it ≠ 0 ∧ edsBlockType b.eeprom r.it = r.type
      · rw [if_pos valid]
        exact ⟨_, writeBlock_wroteCells b.eeprom r.it r.writes⟩
      · rw [if_neg valid]
        exact ⟨[], .refl _⟩

theorem foldl_wrote (self : UInt16) (frame : CanixFrame) (indices : List Nat) (b : Board mcu) :
    ∃ writes, b.eeprom.Wrote writes (indices.foldl (deviceWrite self frame) b).eeprom := by
  induction indices generalizing b with
  | nil => exact ⟨[], .refl _⟩
  | cons i indices ih =>
      obtain ⟨front, first⟩ := deviceWrite_wrote self frame b i
      obtain ⟨back, rest⟩ := ih (deviceWrite self frame b i)
      exact ⟨front ++ back, first.trans rest⟩

/-- A device leaves the records of the others as they are. -/
theorem deviceWrite_getElem?_ne {k : Nat} (other : i ≠ k) :
    (deviceWrite self frame b i).devices[k]? = b.devices[k]? := by
  rw [deviceWrite]
  cases b.devices[i]?.bind (rewriteOf self frame) with
  | none => rfl
  | some r =>
      dsimp only
      rw [applyRewrite]
      by_cases valid : r.it ≠ 0 ∧ edsBlockType b.eeprom r.it = r.type
      · rw [if_pos valid]
        exact List.getElem?_set_ne other
      · rw [if_neg valid]

theorem foldl_getElem?_ne {k : Nat} {indices : List Nat} (other : k ∉ indices) :
    (indices.foldl (deviceWrite self frame) b).devices[k]? = b.devices[k]? := by
  induction indices generalizing b with
  | nil => rfl
  | cons i indices ih =>
      rw [List.mem_cons, not_or] at other
      rw [List.foldl_cons, ih other.2, deviceWrite_getElem?_ne (Ne.symm other.1)]

/-- A frame that matches a record behind those that are followed writes to its block. -/
theorem foldl_rewrites {r : Rewrite} {rest : List Nat} (tracked : Tracked base path its)
    (steady : Steady base path its b) (stored : b.devices[its.length]? = some device)
    (found : rewriteOf self frame device = some r) (header : r.it ∈ path ++ [edsEnd mcu + 1])
    (valid : r.it ≠ 0 ∧ edsBlockType base r.it = r.type) :
    ∃ writes, b.eeprom.Wrote writes
        ((List.range its.length ++ its.length :: rest).foldl (deviceWrite self frame) b).eeprom ∧
      ∀ write ∈ r.writes, (mcu.cellOf (ptrAdd r.it write.1), write.2) ∈ writes := by
  have before : Steady base path its ((List.range its.length).foldl (deviceWrite self frame) b) ∧
      Progress frame path b ((List.range its.length).foldl (deviceWrite self frame) b) :=
    steady_foldl tracked steady fun i member _ => List.mem_range.mp member
  have still : ((List.range its.length).foldl (deviceWrite self frame) b).devices[its.length]? =
      some device := by
    rw [foldl_getElem?_ne List.not_mem_range_self]
    exact stored
  obtain ⟨front, wroteFront, -⟩ := before.2.writes
  rw [List.foldl_append, List.foldl_cons]
  generalize (List.range its.length).foldl (deviceWrite self frame) b = middle at *
  have here : deviceWrite self frame middle its.length = applyRewrite middle its.length r := by
    rw [deviceWrite, still, Option.bind_some, found]
  have validNow : r.it ≠ 0 ∧ edsBlockType middle.eeprom r.it = r.type :=
    ⟨valid.1, (before.1.headers r.it header).1.trans valid.2⟩
  have wroteHere : middle.eeprom.Wrote
      (r.writes.map fun write => (mcu.cellOf (ptrAdd r.it write.1), write.2))
      (deviceWrite self frame middle its.length).eeprom := by
    rw [here, applyRewrite, if_pos validNow]
    exact writeBlock_wroteCells middle.eeprom r.it r.writes
  obtain ⟨back, wroteBack⟩ := foldl_wrote self frame rest (deviceWrite self frame middle its.length)
  refine ⟨front ++ _ ++ back, (wroteFront.trans wroteHere).trans wroteBack, ?_⟩
  intro write member
  apply List.mem_append_left
  apply List.mem_append_right
  exact List.mem_map_of_mem member

end Invariant

/-! ## The loaded board -/

section Loaded

variable {env : Environment mcu} {path : List Nat} {start loaded : Board mcu}

theorem loadedBlocks_mem {ee : Eeprom mcu} {it : Nat} (member : it ∈ loadedBlocks ee path) :
    it ∈ path ++ [edsEnd mcu + 1] ∧ ∀ q ∈ path ++ [edsEnd mcu + 1], MatchingSize ee q := by
  rw [loadedBlocks] at member
  split_ifs at member with matching
  · exact ⟨List.mem_of_mem_filter member, matching⟩
  · exact absurd member List.not_mem_nil

theorem nodup_points (chain : IsChain mcu start.eeprom.cell path) :
    (path ++ [edsEnd mcu + 1]).Nodup := by
  apply chain.nodup.append (List.nodup_singleton _)
  intro p onPath behind
  have below := chain.below p onPath
  rw [List.mem_singleton.mp behind] at below
  omega

theorem loadedBlocks_nodup (chain : IsChain mcu start.eeprom.cell path) :
    (loadedBlocks start.eeprom path).Nodup := by
  rw [loadedBlocks]
  split_ifs
  · exact (nodup_points chain).filter _
  · exact List.nodup_nil

/-- The records of a table that the load builds over a list of blocks. -/
theorem steady_of_load {its rest : List Nat}
    (blocks : loadedBlocks start.eeprom path = its ++ rest)
    (chain : IsChain mcu start.eeprom.cell path)
    (load : devicesLoadConfig env start = some loaded) :
    Steady start.eeprom path its loaded := by
  obtain ⟨eeprom, table⟩ := devicesLoadConfig_table chain load
  constructor
  · rw [eeprom]
    exact fun _ _ => ⟨rfl, rfl⟩
  · intro i it slot
    refine ⟨deviceInit env { start with devices := [] } it, ?_, ?_⟩
    · rw [table, blocks, List.getElem?_map, List.getElem?_append_left
        (List.getElem?_eq_some_iff.mp slot).1, slot]
      rfl
    · rw [eeprom]
      exact agrees_deviceInit env { start with devices := [] } it

/-- Without a record from behind the area all records are followed. -/
theorem tracked_of_load (target : mcu = atmega32 ∨ mcu = atmega644)
    (chain : IsChain mcu start.eeprom.cell path) (inside : ¬ LoadsBehind start.eeprom path) :
    Tracked start.eeprom path (loadedBlocks start.eeprom path) := by
  constructor
  · exact target
  · exact chain
  · exact loadedBlocks_nodup chain
  · exact fun it member => (loadedBlocks_mem member).1
  · intro it member isConfig
    obtain ⟨point, matching⟩ := loadedBlocks_mem member
    rcases List.mem_append.mp point with onPath | behind
    · exact onPath
    · rw [List.mem_singleton.mp behind] at isConfig
      exact absurd ⟨isConfig, matching⟩ inside
  · intro it member
    obtain ⟨point, matching⟩ := loadedBlocks_mem member
    exact matching it point

/-- A new load finds what the records hold. -/
theorem reload_of_steady {last : Board mcu} (chain : IsChain mcu start.eeprom.cell path)
    (load : devicesLoadConfig env start = some loaded)
    (steady : Steady start.eeprom path (loadedBlocks start.eeprom path) last)
    (followed : last.devices.length = (loadedBlocks start.eeprom path).length) :
    ∃ reloaded, devicesLoadConfig env last = some reloaded ∧
      reloaded.devices.map configPart = last.devices.map configPart := by
  have built : (devicesLoadConfig env last).isSome = true := by
    apply devicesLoadConfig_isSome chain steady.headers
    rw [load]
    rfl
  obtain ⟨reloaded, again⟩ := Option.isSome_iff_exists.mp built
  refine ⟨reloaded, again, ?_⟩
  obtain ⟨-, table⟩ := devicesLoadConfig_table (steady.headers.chain chain) again
  rw [table, steady.headers.loadedBlocks, List.map_map]
  apply List.ext_getElem?
  intro i
  rw [List.getElem?_map, List.getElem?_map]
  by_cases inside : i < (loadedBlocks start.eeprom path).length
  · have slot := List.getElem?_eq_getElem inside
    obtain ⟨device, stored, agrees⟩ := steady.table i _ slot
    have loadedAgrees := agrees_deviceInit env { last with devices := [] }
      ((loadedBlocks start.eeprom path)[i])
    rw [slot, stored, Option.map_some, Option.map_some, Function.comp_apply,
      loadedAgrees.configPart_eq, agrees.configPart_eq]
  · rw [List.getElem?_eq_none (Nat.le_of_not_lt inside),
      List.getElem?_eq_none (followed ▸ Nat.le_of_not_lt inside)]
    rfl

theorem coherent_of_inside (target : mcu = atmega32 ∨ mcu = atmega644)
    (chain : IsChain mcu start.eeprom.cell path) (load : devicesLoadConfig env start = some loaded)
    (inside : ¬ LoadsBehind start.eeprom path) : Coherent env loaded := by
  have tracked := tracked_of_load target chain inside
  have first := steady_of_load (List.append_nil _).symm chain load
  have length : loaded.devices.length = (loadedBlocks start.eeprom path).length := by
    rw [(devicesLoadConfig_table chain load).2, List.length_map]
  have kept : ∀ frames last, Run (Written env) loaded frames last →
      Steady start.eeprom path (loadedBlocks start.eeprom path) last ∧
        last.devices.length = (loadedBlocks start.eeprom path).length := by
    intro frames last run
    apply run.invariant _ _ ⟨first, length⟩
    rintro b frame next taken ⟨steady, followed⟩
    obtain ⟨-, rfl⟩ := written_iff.mp taken
    obtain ⟨later, progress⟩ := steady_configWrite tracked steady followed
    exact ⟨later, progress.length.trans followed⟩
  constructor
  · intro frames last _ frame write
    exact ⟨_, written_iff.mpr ⟨write, rfl⟩⟩
  · intro frames last frame next run taken
    obtain ⟨steady, followed⟩ := kept frames last run
    obtain ⟨-, rfl⟩ := written_iff.mp taken
    obtain ⟨-, progress⟩ := steady_configWrite tracked steady followed
    exact progress.writesInside (steady.headers.chain chain)
  · intro frames last run
    obtain ⟨steady, followed⟩ := kept frames last run
    exact reload_of_steady chain load steady followed

/-- A frame for a heating or a time zone that rewrites its record. -/
theorem exists_rewrite (env : Environment mcu) {b : Board mcu} {it : Nat}
    (isConfig : edsBlockType b.eeprom it = edsHeizungBlockId ∨
      edsBlockType b.eeprom it = edsZeitzoneBlockId) :
    ∃ frame r, IsWriteFrame frame ∧ hauselektrikAccepts env.self frame = true ∧
      rewriteOf env.self frame (deviceInit env b it) = some r ∧ r.it = it ∧
      edsBlockType b.eeprom it = r.type ∧ ∃ write ∈ r.writes, write.1 < 34 := by
  have multicast : ∀ size command d2 : UInt8, hauselektrikAccepts env.self
      (hesFrame 0 hcanMulticastControl size command d2 0 0 0 0 0) = true := by
    intro size command d2
    rw [hauselektrikAccepts, Bool.and_eq_true, Bool.or_eq_true, Bool.or_eq_true]
    exact ⟨rfl, .inl (.inr rfl)⟩
  rcases isConfig with isHeizung | isZeitzone
  · have record : deviceInit env b it =
        .heizung (heizungInit (edsHeizungBlock b.eeprom it) it) := by
      rw [deviceInit, if_pos isHeizung]
    rw [record]
    refine ⟨hesFrame 0 hcanMulticastControl 7 hcanHesHeizungSolltempWriteLine
      (configByte b.eeprom it 0) 0 0 0 0 0, ?_⟩
    have index : (hesFrame 0 hcanMulticastControl 7 hcanHesHeizungSolltempWriteLine
        (configByte b.eeprom it 0) 0 0 0 0 0).data[3].toNat < 8 := show 0 < 8 by decide
    simp only [rewriteOf]
    rw [if_pos ⟨rfl, rfl⟩, dif_pos index]
    exact ⟨_, ⟨rfl, rfl, .inl ⟨rfl, UInt8.le_refl _⟩⟩, multicast _ _ _, rfl, rfl, isHeizung, _,
      List.mem_cons_self, show 7 < 34 by decide⟩
  · have other : edsZeitzoneBlockId ≠ edsHeizungBlockId := by decide
    have record : deviceInit env b it =
        .zeitzone (zeitzoneInit (edsZeitzoneBlock b.eeprom it) it) := by
      rw [deviceInit, isZeitzone, if_neg other, if_pos rfl]
    rw [record]
    refine ⟨hesFrame 0 hcanMulticastControl 8 hcanHesZeitzoneWriteDetails
      (configByte b.eeprom it 0) 0 0 0 0 0, ?_⟩
    simp only [rewriteOf]
    rw [if_pos ⟨rfl, rfl⟩]
    exact ⟨_, ⟨rfl, rfl, .inr ⟨rfl, UInt8.le_refl _⟩⟩, multicast _ _ _, rfl, rfl, isZeitzone, _,
      List.mem_cons_self, show 3 < 34 by decide⟩

/-- A record from behind the area is the last one, and all before it are followed. -/
theorem tracked_before_behind (target : mcu = atmega32 ∨ mcu = atmega644)
    (chain : IsChain mcu start.eeprom.cell path) (behind : LoadsBehind start.eeprom path) :
    loadedBlocks start.eeprom path =
        path.filter (isKnown start.eeprom) ++ [edsEnd mcu + 1] ∧
      Tracked start.eeprom path (path.filter (isKnown start.eeprom)) := by
  obtain ⟨isConfig, matching⟩ := behind
  have known : isKnown start.eeprom (edsEnd mcu + 1) = true := by
    rw [isKnown]
    rcases isConfig with type | type
    · rw [type]
      rfl
    · rw [type]
      rfl
  constructor
  · rw [loadedBlocks, if_pos matching, List.filter_append, List.filter_cons_of_pos known]
    rfl
  · constructor
    · exact target
    · exact chain
    · exact chain.nodup.filter _
    · exact fun it member => List.mem_append_left _ (List.mem_of_mem_filter member)
    · exact fun it member _ => List.mem_of_mem_filter member
    · exact fun it member => matching it (List.mem_append_left _ (List.mem_of_mem_filter member))

/-- A record from behind the area writes below the EDS area. -/
theorem not_coherent_of_behind (target : mcu = atmega32 ∨ mcu = atmega644)
    (chain : IsChain mcu start.eeprom.cell path) (load : devicesLoadConfig env start = some loaded)
    (behind : LoadsBehind start.eeprom path) : ¬ Coherent env loaded := by
  intro coherent
  obtain ⟨blocks, tracked⟩ := tracked_before_behind target chain behind
  obtain ⟨eeprom, table⟩ := devicesLoadConfig_table chain load
  have steady := steady_of_load blocks chain load
  have few := devicesLoadConfig_length chain load
  rw [blocks, List.map_append, List.map_singleton] at table
  obtain ⟨frame, r, write, accepts, rewrites, place, type, entry, inWrites, low⟩ :=
    exists_rewrite env (b := { start with devices := [] }) behind.1
  have stored : loaded.devices[(path.filter (isKnown start.eeprom)).length]? =
      some (deviceInit env { start with devices := [] } (edsEnd mcu + 1)) := by
    rw [table, List.getElem?_append_right (by rw [List.length_map]), List.length_map, Nat.sub_self]
    rfl
  -- the devices before the last one, the last one, and the empty slots
  obtain ⟨slots, limit⟩ : ∃ slots,
      maxPdeviceData mcu = (path.filter (isKnown start.eeprom)).length + 1 + slots := by
    rw [table, List.length_append, List.length_map, List.length_singleton] at few
    exact Nat.exists_eq_add_of_le few
  have indices : List.range (maxPdeviceData mcu) =
      List.range (path.filter (isKnown start.eeprom)).length ++
        (path.filter (isKnown start.eeprom)).length :: (List.range slots).map
          ((path.filter (isKnown start.eeprom)).length + 1 + ·) := by
    rw [limit, List.range_add, List.range_succ, List.append_assoc]
    rfl
  have delivered : Written env loaded frame (configWrite env.self frame loaded) :=
    written_iff.mpr ⟨write, rfl⟩
  obtain ⟨writes, wrote, inside⟩ := coherent.inside [] loaded frame _ (.nil loaded) delivered
  have header : r.it ∈ path ++ [edsEnd mcu + 1] := by
    rw [place]
    exact List.mem_append_right _ List.mem_cons_self
  obtain ⟨found, wroteFound, has⟩ := foldl_rewrites tracked steady stored rewrites header
    ⟨by rw [place]; exact Nat.succ_ne_zero _, by rw [place]; exact type⟩
  rw [← indices] at wroteFound
  have same : writes = found := by
    have log := wrote.log
    rw [configWrite, if_pos accepts, wroteFound.log] at log
    exact (List.append_cancel_left log).symm
  have bound := edsEnd_le mcu
  have cell : mcu.cellOf (ptrAdd r.it entry.1) = entry.1 := by
    rw [place, ptrAdd_of_lt (by omega)]
    exact cellOf_behind target low
  obtain ⟨device, -, it, -, onChain, payload⟩ := inside _ (same ▸ has entry inWrites)
  obtain ⟨again, chainAgain, member⟩ := onChain
  have first := chainAgain.dataStart_le member
  have dataStart : edsDataStart = 34 := rfl
  have above := payload.1
  rw [cell] at above
  omega

/-- A loaded table stays coherent with the blocks exactly when no heating and no time zone is
loaded from behind the EDS area. -/
theorem configuration_coherent_iff (env : Environment mcu)
    (target : mcu = atmega32 ∨ mcu = atmega644) (chain : IsChain mcu start.eeprom.cell path)
    (load : devicesLoadConfig env start = some loaded) :
    Coherent env loaded ↔ ¬ LoadsBehind start.eeprom path := by
  constructor
  · intro coherent behind
    exact not_coherent_of_behind target chain load behind coherent
  · exact coherent_of_inside target chain load

end Loaded

/-- A board before its first load. -/
def emptyBoard (content : Nat → UInt8) : Board atmega32 where
  devices := []
  ramUsage := 0
  out := Outputs.reset 0 0 0 0
  tasterport _ := false
  eeprom := .powerUp content
  clock := ⟨1, 12, 0, 0, 1, 1, 8⟩
  sent := []

/-- A heating block, a time zone block and free blocks. -/
def heizungZeitzoneArea (address : Nat) : UInt8 :=
  if address = 34 then 13
  else if address = 35 then 38
  else if address = 74 then 18
  else if address = 75 then 6
  else if address = 83 ∨ address = 340 ∨ address = 597 then 255
  else if address = 854 then 169
  else 0

theorem heizungZeitzoneArea_isChain :
    IsChain atmega32 heizungZeitzoneArea [34, 74, 82, 339, 596, 853] where
  walk := .step (.step (.step (.step (.step (.step (.arrived _))))))
  below := by decide

theorem configuration_coherent_iff_heizungZeitzone :
    ∃ loaded, devicesLoadConfig quietEnvironment (emptyBoard heizungZeitzoneArea) = some loaded ∧
      (Coherent quietEnvironment loaded ↔
        ¬ LoadsBehind (emptyBoard heizungZeitzoneArea).eeprom [34, 74, 82, 339, 596, 853]) := by
  have built : (devicesLoadConfig quietEnvironment (emptyBoard heizungZeitzoneArea)).isSome =
      true := by
    decide +kernel
  obtain ⟨loaded, load⟩ := Option.isSome_iff_exists.mp built
  exact ⟨loaded, load,
    configuration_coherent_iff quietEnvironment (.inl rfl) heizungZeitzoneArea_isChain load⟩

/-- The first two bytes of the memory, below the area, read as the header of a heating. -/
def heizungBehindArea (address : Nat) : UInt8 :=
  if address = 0 then 13
  else if address = 1 then 38
  else if address < 34 then 0
  else if address = 35 ∨ address = 292 ∨ address = 549 then 255
  else if address = 806 then 217
  else 0

theorem heizungBehindArea_isChain : IsChain atmega32 heizungBehindArea [34, 291, 548, 805] where
  walk := .step (.step (.step (.step (.arrived _))))
  below := by decide

/-- An area of free blocks, of which the load makes a heating that writes outside of it. -/
theorem heizungBehindArea_incoherent :
    IsChain atmega32 heizungBehindArea [34, 291, 548, 805] ∧
      ∃ loaded, devicesLoadConfig quietEnvironment (emptyBoard heizungBehindArea) = some loaded ∧
        ¬ Coherent quietEnvironment loaded := by
  refine ⟨heizungBehindArea_isChain, ?_⟩
  have built : (devicesLoadConfig quietEnvironment (emptyBoard heizungBehindArea)).isSome =
      true := by
    decide +kernel
  obtain ⟨loaded, load⟩ := Option.isSome_iff_exists.mp built
  have behind : LoadsBehind (emptyBoard heizungBehindArea).eeprom [34, 291, 548, 805] := by
    have isHeizung : edsBlockType (emptyBoard heizungBehindArea).eeprom 1024 =
        edsHeizungBlockId := rfl
    have size : edsBlockSize (emptyBoard heizungBehindArea).eeprom 1024 = 38 := rfl
    have free : ∀ it ∈ [34, 291, 548, 805],
        ¬ Matches isUsed (emptyBoard heizungBehindArea).eeprom it = true := by decide
    constructor
    · exact .inl isHeizung
    · intro it member
      rcases List.mem_append.mp member with block | last
      · exact matching_of_free (free it block)
      · intro sizes known
        rw [List.mem_singleton.mp last] at known ⊢
        rw [show edsEnd atmega32 + 1 = 1024 from rfl, isHeizung] at known
        cases known
        exact size.symm
  exact ⟨loaded, load,
    not_coherent_of_behind (.inl rfl) heizungBehindArea_isChain load behind⟩

end Hcan.Hauselektrik
