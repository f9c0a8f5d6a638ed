import Hcan.Eds.Directory
import Hcan.Host.Commands

/-!
# Sessions of the host

What a session must not do to the board, and the invariant that shows it: the
blocks that the host lists are allocated blocks of the area, each with the type
of its description and each listed once.  Every request of the host has a
specification by the directory of the board.
-/

namespace Hcan.Host

open Hcan.Canix Hcan.Eds Hcan.Library Hcan.Library.Program

variable {mcu : Mcu}

/-- `address` is a payload byte of the allocated block that starts at `p`. -/
def InPayload (mcu : Mcu) (content : Nat → UInt8) (p address : Nat) : Prop :=
  OnChain mcu content p ∧ content p ≠ 0 ∧ p + 2 ≤ address ∧ address < blockStop content p

/-- A WRITE request lands in the payload of the block being edited. -/
def SentFrame.LandsInside (sent : SentFrame mcu) : Prop :=
  sent.context.mode = .edit ∧
    InPayload mcu sent.board.cell sent.context.edsBlockAddress.toNat
      (ptrAdd (framePointer sent.frame.data[2] sent.frame.data[3]) sent.frame.data[4].toNat)

/-- The area is well formed, the bytes before it are the original ones, now and at
every frame sent, and every WRITE has landed inside the block being edited. -/
structure Unharmed (original : Nat → UInt8) (s : Session mcu) : Prop where
  wellFormed : WellFormed mcu s.board.cell
  identity : ∀ address < edsStart, s.board.cell address = original address
  identityBefore : ∀ sent ∈ s.sent, ∀ address < edsStart,
    sent.board.cell address = original address
  writes : ∀ sent ∈ s.sent, sent.frame.data[1] = hcanEdsWriteToBlock → sent.LandsInside

/-- The listed blocks are different allocated blocks with the types of their descriptions. -/
structure Knows (ee : Eeprom mcu) (blocks : List EdsBlock) : Prop where
  known : ∀ block ∈ blocks, ∃ size,
    directory mcu ee.cell block.address.toNat = some (block.desc.type, size) ∧
      descByType block.desc.type = some block.desc
  apart : (blocks.map EdsBlock.address).Nodup

structure Coherent (original : Nat → UInt8) (s : Session mcu) : Prop where
  unharmed : Unharmed original s
  knows : Knows s.board s.blocks

/-- The session `t` has the board `last`, and the context and the blocks of `s`. -/
structure Moved (s : Session mcu) (last : Eeprom mcu) (t : Session mcu) : Prop where
  board : t.board = last
  context : t.context = s.context
  blocks : t.blocks = s.blocks

/-- The session `t` is unharmed, its board has the directory `entries`, and its
context and blocks are those of `s`. -/
structure Serving (original : Nat → UInt8) (s : Session mcu)
    (entries : Nat → Option (UInt8 × UInt8)) (t : Session mcu) : Prop where
  unharmed : Unharmed original t
  directory : directory mcu t.board.cell = entries
  context : t.context = s.context
  blocks : t.blocks = s.blocks

theorem Knows.nil (ee : Eeprom mcu) : Knows ee [] :=
  ⟨fun _ impossible => (List.not_mem_nil impossible).elim, List.nodup_nil⟩

/-- A further allocated block with a known type is listed. -/
theorem Knows.append {ee : Eeprom mcu} {blocks : List EdsBlock} (knows : Knows ee blocks)
    {block : EdsBlock} {size : UInt8}
    (found : directory mcu ee.cell block.address.toNat = some (block.desc.type, size))
    (described : descByType block.desc.type = some block.desc)
    (fresh : ∀ other ∈ blocks, other.address ≠ block.address) : Knows ee (blocks ++ [block]) where
  known other member := by
    rcases List.mem_append.mp member with old | new
    · exact knows.known other old
    · rw [List.mem_singleton.mp new]
      exact ⟨size, found, described⟩
  apart := by
    rw [List.map_append, List.map_singleton, List.nodup_append]
    refine ⟨knows.apart, List.nodup_singleton _, ?_⟩
    rintro _ old _ new rfl
    obtain ⟨other, member, same⟩ := List.mem_map.mp old
    exact fresh other member (same.trans (List.mem_singleton.mp new))

/-- Blocks that keep their entries stay known. -/
theorem Knows.of_entries {ee last : Eeprom mcu} {blocks left : List EdsBlock}
    (knows : Knows ee blocks) (fewer : left.Sublist blocks)
    (same : ∀ block ∈ left, directory mcu last.cell block.address.toNat =
      directory mcu ee.cell block.address.toNat) : Knows last left where
  known block member := by
    rw [same block member]
    exact knows.known block (fewer.mem member)
  apart := knows.apart.sublist (fewer.map _)

/-- Blocks, context and output do not matter for the board. -/
theorem Unharmed.of_same {original : Nat → UInt8} {s t : Session mcu}
    (unharmed : Unharmed original s) (board : t.board = s.board) (sent : t.sent = s.sent) :
    Unharmed original t where
  wellFormed := board ▸ unharmed.wellFormed
  identity := board ▸ unharmed.identity
  identityBefore := sent ▸ unharmed.identityBefore
  writes := sent ▸ unharmed.writes

/-! ## Requests -/

section Requests

variable {original : Nat → UInt8} {s : Session mcu} {bcon : BoardConnection}
  {failed : HostError → Session mcu → Prop}

theorem Serves.refl {ee : Eeprom mcu} (wellFormed : WellFormed mcu ee.cell) :
    Serves ee ee (directory mcu ee.cell) :=
  ⟨wellFormed, rfl, fun _ _ => rfl⟩

theorem send_ends {frame : CanixFrame} {last : Eeprom mcu} {reply : Option CanixFrame}
    (result : edsCanCallback frame.dst s.board frame = some (last, reply)) :
    Ends (send frame) s (fun answer t => answer = reply ∧ t = s.sending frame last) failed := by
  have next : (edsCanCallback frame.dst s.board frame).map
      (fun result => (result.2, s.sending frame result.1)) =
        some (reply, s.sending frame last) := by
    rw [result, Option.map_some]
  exact ends_step next ⟨rfl, rfl⟩

/-- A served request leaves the session unharmed, where a WRITE lands inside. -/
theorem Unharmed.sending (unharmed : Unharmed original s) {frame : CanixFrame}
    {last : Eeprom mcu} {entries : Nat → Option (UInt8 × UInt8)}
    (serves : Serves s.board last entries)
    (lands : frame.data[1] = hcanEdsWriteToBlock →
      (⟨s.board, s.context, frame⟩ : SentFrame mcu).LandsInside) :
    Unharmed original (s.sending frame last) where
  wellFormed := serves.wellFormed
  identity address before :=
    (serves.identity address before).trans (unharmed.identity address before)
  identityBefore sent member := by
    rcases List.mem_append.mp member with old | new
    · exact unharmed.identityBefore sent old
    · rw [List.mem_singleton.mp new]
      exact unharmed.identity
  writes sent member := by
    rcases List.mem_append.mp member with old | new
    · exact unharmed.writes sent old
    · rw [List.mem_singleton.mp new]
      exact lands

theorem recv_answer {frame : CanixFrame} (source : frame.src = bcon.src)
    (size command d2 d3 d4 d5 : UInt8) :
    recv bcon size command (some (edsAnswer bcon.dst frame size command d2 d3 d4 d5)) =
      (pure (edsAnswer bcon.dst frame size command d2 d3 d4 d5) : Shell mcu CanixFrame) := by
  have addressed : ¬ (edsAnswer bcon.dst frame size command d2 d3 d4 d5).dst ≠ bcon.src :=
    not_not_intro source
  have sized : ¬ (edsAnswer bcon.dst frame size command d2 d3 d4 d5).size ≠ size :=
    not_not_intro rfl
  have service : ¬ (edsAnswer bcon.dst frame size command d2 d3 d4 d5).data[0] ≠ hcanSrvEds :=
    not_not_intro rfl
  have answers : ¬ (edsAnswer bcon.dst frame size command d2 d3 d4 d5).data[1] ≠ command :=
    not_not_intro rfl
  rw [recv, if_neg addressed, if_neg fun wrong => wrong.2 rfl, if_neg sized, if_neg service,
    if_neg answers]

/-- The answer to a request passes the tests of the host. -/
theorem answered_ends {frame : CanixFrame} {last : Eeprom mcu}
    {size command d2 d3 d4 d5 : UInt8} (source : frame.src = bcon.src)
    (target : frame.dst = bcon.dst) (result : edsCanCallback bcon.dst s.board frame =
      some (last, some (edsAnswer bcon.dst frame size command d2 d3 d4 d5))) :
    Ends (send frame >>= recv bcon size command) s
      (fun answer t => answer = edsAnswer bcon.dst frame size command d2 d3 d4 d5 ∧
        t = s.sending frame last) failed := by
  refine (send_ends (by rw [target]; exact result)).bind ?_
  rintro _ t ⟨rfl, sent⟩
  rw [recv_answer source]
  exact ends_pure ⟨rfl, sent⟩

theorem exchange_ends (unharmed : Unharmed original s) {frame : CanixFrame} {last : Eeprom mcu}
    {size command d2 d3 d4 d5 : UInt8} {entries : Nat → Option (UInt8 × UInt8)}
    (source : frame.src = bcon.src) (target : frame.dst = bcon.dst)
    (result : edsCanCallback bcon.dst s.board frame =
      some (last, some (edsAnswer bcon.dst frame size command d2 d3 d4 d5)))
    (serves : Serves s.board last entries)
    (lands : frame.data[1] = hcanEdsWriteToBlock →
      (⟨s.board, s.context, frame⟩ : SentFrame mcu).LandsInside) :
    Ends (send frame >>= recv bcon size command) s
      (fun answer t => answer = edsAnswer bcon.dst frame size command d2 d3 d4 d5 ∧
        Unharmed original t ∧ Moved s last t) failed := by
  refine (answered_ends source target result).weaken ?_
  rintro _ _ ⟨rfl, rfl⟩
  exact ⟨rfl, unharmed.sending serves lands, ⟨rfl, rfl, rfl⟩⟩

theorem framePointer_handle (handle : UInt16) :
    framePointer (pointerHi handle.toNat) (pointerLo handle.toNat) = handle.toNat :=
  framePointer_bytes handle.toNat_lt

/-- READ leaves the board as it is. -/
theorem readFromBlock_ends (unharmed : Unharmed original s) (handle : UInt16) (index : UInt8) :
    Ends (readFromBlock bcon handle index) s
      (fun _ t => Unharmed original t ∧ Moved s s.board t) failed := by
  have result := edsCanCallback_read bcon.dst s.board
    (show (handleFrame bcon 5 hcanEdsReadFromBlock handle index 0).data[1] = hcanEdsReadFromBlock
      from rfl)
  refine (exchange_ends unharmed rfl rfl result (Serves.refl unharmed.wellFormed)
    fun wrong => ?_).weaken fun _ _ after => after.2
  exact absurd wrong (by decide : hcanEdsReadFromBlock ≠ hcanEdsWriteToBlock)

/-- The header of an allocated block as the host reads it. -/
theorem readHeader_ends (unharmed : Unharmed original s) {handle : UInt16} {entry : UInt8 × UInt8}
    (found : directory mcu s.board.cell handle.toNat = some entry) :
    Ends (readFromBlock bcon handle 0) s
      (fun answer t => answer.data[2] = entry.1 ∧ Unharmed original t ∧ Moved s s.board t)
      failed := by
  rw [← framePointer_handle handle] at found
  have reads : ∃ d1 d2 d3, edsCanCallback bcon.dst s.board
      (handleFrame bcon 5 hcanEdsReadFromBlock handle 0 0) =
      some (s.board, some (edsAnswer bcon.dst (handleFrame bcon 5 hcanEdsReadFromBlock handle 0 0) 6
        hcanEdsReadFromBlockReplay entry.1 d1 d2 d3)) :=
    read_serves unharmed.wellFormed rfl found rfl
  obtain ⟨d1, d2, d3, result⟩ := reads
  refine (exchange_ends unharmed rfl rfl result (Serves.refl unharmed.wellFormed)
    fun wrong => ?_).weaken ?_
  · exact absurd wrong (by decide : hcanEdsReadFromBlock ≠ hcanEdsWriteToBlock)
  · rintro _ t ⟨rfl, after⟩
    exact ⟨rfl, after⟩

theorem answerHandle_toNat (frame : CanixFrame) :
    (answerHandle frame).toNat = framePointer frame.data[2] frame.data[3] :=
  Nat.mod_eq_of_lt (framePointer_lt _ _)

/-- GET_NEXT_BLOCK behind the blocks `front` of the chain. -/
theorem getNextBlock_ends (unharmed : Unharmed original s) {front back : List Nat}
    (chain : IsChain mcu s.board.cell (front ++ back)) {handle : UInt16}
    (here : handle.toNat = front.getLastD 0) :
    Ends (getNextBlock bcon handle) s
      (fun answer t => (answerHandle answer).toNat = back.headD 0 ∧
        (∀ p rest, back = p :: rest → answer.data[4] = s.board.cell p) ∧
        Unharmed original t ∧ Moved s s.board t) failed := by
  have answers : ∃ hi lo type size, edsCanCallback bcon.dst s.board
      (handleFrame bcon 4 hcanEdsGetNextBlock handle 0 0) =
      some (s.board, some (edsAnswer bcon.dst (handleFrame bcon 4 hcanEdsGetNextBlock handle 0 0) 6
        hcanEdsGetNextBlockReplay hi lo type size)) ∧ framePointer hi lo = back.headD 0 ∧
      ∀ p rest, back = p :: rest → type = s.board.cell p :=
    next_serves chain rfl ((framePointer_handle handle).trans here)
  obtain ⟨hi, lo, type, size, result, pointer, typed⟩ := answers
  refine (exchange_ends unharmed rfl rfl result (Serves.refl unharmed.wellFormed)
    fun wrong => ?_).weaken ?_
  · exact absurd wrong (by decide : hcanEdsGetNextBlock ≠ hcanEdsWriteToBlock)
  · rintro _ t ⟨rfl, after⟩
    exact ⟨(answerHandle_toNat _).trans pointer, typed, after⟩

theorem Moved.serving {last : Eeprom mcu} {t : Session mcu} (moved : Moved s last t)
    (unharmed : Unharmed original t) {entries : Nat → Option (UInt8 × UInt8)}
    (serves : Serves s.board last entries) : Serving original s entries t :=
  ⟨unharmed, by rw [moved.board, serves.directory], moved.context, moved.blocks⟩

/-- ALLOCATE with a free block that fits answers a new address. -/
theorem allocateBlock_ends (unharmed : Unharmed original s) {type size : UInt8} (typed : type ≠ 0)
    (finds : FindsBlock s.board size) :
    Ends (allocateBlock bcon type size) s
      (fun answer t => directory mcu s.board.cell (answerHandle answer).toNat = none ∧
        Serving original s (Function.update (directory mcu s.board.cell)
          (answerHandle answer).toNat (some (type, size))) t) failed := by
  have answers : ∃ last hi lo p, edsCanCallback bcon.dst s.board
      (hostFrame bcon 4 hcanEdsAllocateBlock type size 0 0) =
      some (last, some (edsAnswer bcon.dst (hostFrame bcon 4 hcanEdsAllocateBlock type size 0 0) 4
        hcanEdsAllocateBlockReplay hi lo 0 0)) ∧ framePointer hi lo = p ∧
      directory mcu s.board.cell p = none ∧ Serves s.board last
        (Function.update (directory mcu s.board.cell) p (some (type, size))) :=
    allocate_serves unharmed.wellFormed rfl finds typed
  obtain ⟨last, hi, lo, p, result, rfl, new, serves⟩ := answers
  refine (exchange_ends unharmed rfl rfl result serves fun wrong => ?_).weaken ?_
  · exact absurd wrong (by decide : hcanEdsAllocateBlock ≠ hcanEdsWriteToBlock)
  · rintro _ t ⟨rfl, after, moved⟩
    rw [answerHandle_toNat]
    exact ⟨new, moved.serving after serves⟩

/-- FREE of an allocated block succeeds. -/
theorem freeBlock_ends (unharmed : Unharmed original s) {handle : UInt16} {entry : UInt8 × UInt8}
    (found : directory mcu s.board.cell handle.toNat = some entry) :
    Ends (freeBlock bcon handle) s
      (fun answer t => answer.data[2] = edsOk ∧
        Serving original s (Function.update (directory mcu s.board.cell) handle.toNat none) t)
      failed := by
  rw [← framePointer_handle handle] at found ⊢
  have answers : ∃ last, edsCanCallback bcon.dst s.board
      (handleFrame bcon 4 hcanEdsFreeBlock handle 0 0) =
      some (last, some (edsAnswer bcon.dst (handleFrame bcon 4 hcanEdsFreeBlock handle 0 0) 3
        hcanEdsFreeBlockReplay edsOk 0 0 0)) ∧ Serves s.board last
        (Function.update (directory mcu s.board.cell)
          (framePointer (pointerHi handle.toNat) (pointerLo handle.toNat)) none) :=
    free_serves unharmed.wellFormed rfl found
  obtain ⟨last, result, serves⟩ := answers
  refine (exchange_ends unharmed rfl rfl result serves fun wrong => ?_).weaken ?_
  · exact absurd wrong (by decide : hcanEdsFreeBlock ≠ hcanEdsWriteToBlock)
  · rintro _ t ⟨rfl, after, moved⟩
    exact ⟨rfl, moved.serving after serves⟩

/-- WRITE to a payload byte of the block being edited. -/
theorem writeToBlock_ends (unharmed : Unharmed original s) {index : UInt8} (d0 : UInt8)
    {entry : UInt8 × UInt8} (editing : s.context.mode = .edit)
    (found : directory mcu s.board.cell s.context.edsBlockAddress.toNat = some entry)
    (low : 2 ≤ index.toNat) (high : index.toNat < 2 + entry.2.toNat) :
    Ends (writeToBlock bcon s.context.edsBlockAddress index d0) s
      (fun _ t => Serving original s (directory mcu s.board.cell) t) failed := by
  generalize address : s.context.edsBlockAddress = handle at found
  have pointed := found
  rw [← framePointer_handle handle] at pointed
  have answers : ∃ last, edsCanCallback bcon.dst s.board
      (handleFrame bcon 6 hcanEdsWriteToBlock handle index d0) =
      some (last, some (edsAnswer bcon.dst
        (handleFrame bcon 6 hcanEdsWriteToBlock handle index d0) 2 hcanEdsWriteToBlockReplay
          0 0 0 0)) ∧ Serves s.board last (directory mcu s.board.cell) :=
    write_serves unharmed.wellFormed rfl pointed low high
  obtain ⟨last, result, serves⟩ := answers
  refine (exchange_ends unharmed rfl rfl result serves fun _ => ⟨editing, ?_⟩).weaken
    fun _ t after => after.2.2.serving after.2.1 serves
  obtain ⟨path, chain⟩ := unharmed.wellFormed
  obtain ⟨member, allocated, -, size⟩ := (directory_eq_some chain).mp found
  have stop := chain.blockStop_le member
  have limit := edsEnd_le mcu
  change InPayload mcu s.board.cell s.context.edsBlockAddress.toNat (ptrAdd
    (framePointer (pointerHi handle.toNat) (pointerLo handle.toNat)) index.toNat)
  unfold blockStop at stop
  rw [size] at stop
  rw [address, framePointer_handle, ptrAdd_of_lt (by omega)]
  refine ⟨⟨path, chain, member⟩, allocated, Nat.add_le_add_left low _, ?_⟩
  rw [blockStop, size, Nat.add_assoc]
  exact Nat.add_lt_add_left high _

theorem sendDefragment_ends (unharmed : Unharmed original s) :
    Ends (sendDefragment bcon) s
      (fun _ t => Serving original s (directory mcu s.board.cell) t) failed := by
  have answers : ∃ last, edsCanCallback bcon.dst s.board
      (hostFrame bcon 2 hcanEdsDefragment 0 0 0 0) = some (last, none) ∧
      Serves s.board last (directory mcu s.board.cell) :=
    defragment_serves unharmed.wellFormed rfl
  obtain ⟨last, result, serves⟩ := answers
  refine (send_ends result).bind ?_
  rintro _ _ ⟨rfl, rfl⟩
  have moved : Moved s last (s.sending (hostFrame bcon 2 hcanEdsDefragment 0 0 0 0) last) :=
    ⟨rfl, rfl, rfl⟩
  refine ends_pure (moved.serving (unharmed.sending serves fun wrong => ?_) serves)
  exact absurd wrong (by decide : hcanEdsDefragment ≠ hcanEdsWriteToBlock)

theorem sendFormat_ends (unharmed : Unharmed original s) :
    Ends (sendFormat bcon) s (fun _ t => Serving original s (fun _ => none) t) failed := by
  have answers : ∃ last, edsCanCallback bcon.dst s.board
      (hostFrame bcon 2 hcanEdsFormat 0 0 0 0) = some (last, none) ∧
      Serves s.board last fun _ => none :=
    format_serves rfl
  obtain ⟨last, result, serves⟩ := answers
  refine (send_ends result).bind ?_
  rintro _ _ ⟨rfl, rfl⟩
  have moved : Moved s last (s.sending (hostFrame bcon 2 hcanEdsFormat 0 0 0 0) last) :=
    ⟨rfl, rfl, rfl⟩
  refine ends_pure (moved.serving (unharmed.sending serves fun wrong => ?_) serves)
  exact absurd wrong (by decide : hcanEdsFormat ≠ hcanEdsWriteToBlock)

end Requests

end Hcan.Host
