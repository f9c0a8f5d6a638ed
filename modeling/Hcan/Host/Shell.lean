import Hcan.Host.Session

/-!
# The shell leaves the board unharmed

Every command keeps the session coherent, provided that each `create` finds a
free block that fits and each `set` stays within the stored size of its block.
-/

namespace Hcan.Host

open Hcan.Canix Hcan.Eds Hcan.Library Hcan.Library.Program

variable {mcu : Mcu} {original : Nat → UInt8} {bcon : BoardConnection} {s t : Session mcu}

theorem Coherent.moved (coherent : Coherent original s) (unharmed : Unharmed original t)
    (moved : Moved s s.board t) : Coherent original t :=
  ⟨unharmed, by rw [moved.board, moved.blocks]; exact coherent.knows⟩

theorem readFromBlock_keeps (handle : UInt16) (index : UInt8) :
    Keeps (Coherent original) (readFromBlock bcon handle index : Shell mcu CanixFrame) :=
  fun _ coherent => (readFromBlock_ends coherent.unharmed handle index).weaken
    fun _ _ after => coherent.moved after.1 after.2

theorem print_keeps (message : Text) :
    Keeps (Coherent original) (print message : Shell mcu PUnit) :=
  keeps_modify fun _ coherent => ⟨coherent.unharmed.of_same rfl rfl, coherent.knows⟩

theorem setContext_keeps (context : Context) :
    Keeps (Coherent original) (setContext context : Shell mcu PUnit) :=
  keeps_modify fun _ coherent => ⟨coherent.unharmed.of_same rfl rfl, coherent.knows⟩

theorem getBlockFieldDescByKey_keeps (desc : EdsBlockDesc) (key : Text) :
    Keeps (Coherent original) (getBlockFieldDescByKey desc key : Shell mcu EdsBlockFieldDesc) := by
  unfold getBlockFieldDescByKey
  cases desc.fieldByKey key with
  | none => exact keeps_throw
  | some field => exact keeps_pure

theorem requireNumber_keeps (function key : Text) (field : EdsBlockFieldDesc) :
    Keeps (Coherent original) (requireNumber function key field : Shell mcu PUnit) :=
  keeps_ite (fun _ => keeps_throw) fun _ => keeps_pure

theorem requireChar_keeps (function key : Text) (field : EdsBlockFieldDesc) :
    Keeps (Coherent original) (requireChar function key field : Shell mcu PUnit) :=
  keeps_ite (fun _ => keeps_throw) fun _ => keeps_pure

theorem blockByAddress_keeps (address : UInt16) :
    Keeps (Coherent original) (blockByAddress address : Shell mcu EdsBlock) := by
  refine keeps_get.bind fun s => ?_
  cases s.blocks.find? fun block => block.address == address with
  | none => exact keeps_throw
  | some block => exact keeps_pure

theorem strfieldLoop_keeps (address : UInt16) (rounds p : Nat) :
    Keeps (Coherent original) (strfieldLoop bcon address rounds p : Shell mcu Text) := by
  induction rounds generalizing p with
  | zero => exact keeps_pure
  | succ rounds ih =>
      refine (readFromBlock_keeps _ _).bind fun answer => ?_
      exact keeps_ite (fun _ => keeps_pure) fun _ => (ih (p + 4)).bind fun _ => keeps_pure

/-- A function that looks up a field, tests its type and reads a number. -/
theorem readNumber_keeps {α : Type} (block : EdsBlock) (function key : Text)
    (value : CanixFrame → α) :
    Keeps (Coherent original) (getBlockFieldDescByKey block.desc key >>= fun field =>
      requireNumber function key field >>= fun _ =>
        readFromBlock bcon block.address (UInt8.ofNat (field.pos + 2)) >>= fun answer =>
          pure (value answer) : Shell mcu α) :=
  (getBlockFieldDescByKey_keeps _ _).bind fun _ => (requireNumber_keeps _ _ _).bind fun _ =>
    (readFromBlock_keeps _ _).bind fun _ => keeps_pure

theorem fieldValue_keeps (block : EdsBlock) (field : EdsBlockFieldDesc) :
    Keeps (Coherent original) (fieldValue bcon block field : Shell mcu Text) := by
  unfold fieldValue
  cases field.datatype with
  | char =>
      exact (getBlockFieldDescByKey_keeps _ _).bind fun _ =>
        (requireChar_keeps _ _ _).bind fun _ => strfieldLoop_keeps _ _ _
  | uint16 => exact (readNumber_keeps block _ _ _).bind fun _ => keeps_pure
  | uint8 => exact (readNumber_keeps block _ _ _).bind fun _ => keeps_pure

theorem edsCmdList_keeps : Keeps (Coherent original) (edsCmdList bcon : Shell mcu PUnit) := by
  refine keeps_get.bind fun s => ?_
  cases s.context.mode with
  | normal => exact keeps_forM fun _ _ => print_keeps _
  | edit =>
      refine (blockByAddress_keeps _).bind fun block => keeps_forM fun field _ => ?_
      refine (fieldValue_keeps _ _).bind fun value => ?_
      cases field.datatype <;> exact print_keeps _
  | oap => exact keeps_pure

theorem edsCmdShowConf_keeps :
    Keeps (Coherent original) (edsCmdShowConf bcon : Shell mcu PUnit) := by
  refine keeps_get.bind fun s => keeps_forM fun block _ => ?_
  refine (print_keeps _).bind fun _ => (print_keeps _).bind fun _ => ?_
  refine Keeps.bind (keeps_forM fun field _ => ?_) fun _ => print_keeps _
  exact (fieldValue_keeps _ _).bind fun value => print_keeps _

/-- `edit` changes the context only. -/
theorem edsCmdEdit_keeps (address : UInt16) :
    Keeps (Coherent original) (edsCmdEdit address : Shell mcu PUnit) :=
  (blockByAddress_keeps address).bind fun _ => keeps_get.bind fun _ => setContext_keeps _

theorem getBlockDescByType_known {type : UInt8} {desc : EdsBlockDesc}
    (described : descByType type = some desc) :
    getBlockDescByType type = (pure desc : Shell mcu EdsBlockDesc) := by
  rw [getBlockDescByType, described]

/-- The constructor of a block fails only where no description has the stored type. -/
theorem edsBlock_ends (unharmed : Unharmed original s) {handle : UInt16} {entry : UInt8 × UInt8}
    (found : directory mcu s.board.cell handle.toNat = some entry) :
    Ends (edsBlock bcon handle) s
      (fun block t => block.address = handle ∧ block.desc.type = entry.1 ∧
        descByType block.desc.type = some block.desc ∧ Unharmed original t ∧ Moved s s.board t)
      (fun _ t => descByType entry.1 = none ∧ Unharmed original t ∧ Moved s s.board t) := by
  refine (readHeader_ends unharmed found).bind ?_
  rintro header t ⟨type, after⟩
  cases described : descByType entry.1 with
  | none =>
      rw [getBlockDescByType, type, described]
      exact ends_throw ⟨rfl, after⟩
  | some desc =>
      rw [type, getBlockDescByType_known described]
      have same := (descByType_spec described).1
      exact ends_pure ⟨rfl, same, by rw [same, described], after⟩

theorem pushBlock_ends (coherent : Coherent original s) {handle : UInt16} {entry : UInt8 × UInt8}
    (found : directory mcu s.board.cell handle.toNat = some entry)
    (fresh : ∀ other ∈ s.blocks, other.address ≠ handle) :
    Ends (pushBlock bcon handle) s
      (fun _ t => Coherent original t ∧ t.board = s.board ∧ t.context = s.context ∧
        ∃ block, t.blocks = s.blocks ++ [block] ∧ block.address = handle)
      (fun _ t => descByType entry.1 = none ∧ Coherent original t) := by
  refine ((edsBlock_ends coherent.unharmed found).weakenFailed fun _ t failed =>
    ⟨failed.1, coherent.moved failed.2.1 failed.2.2⟩).bind ?_
  rintro block t ⟨rfl, type, described, unharmed, moved⟩
  have here : directory mcu t.board.cell block.address.toNat =
      some (block.desc.type, entry.2) := by
    rw [moved.board, found, type]
  have knows := (coherent.moved unharmed moved).knows.append here described
    (by rw [moved.blocks]; exact fresh)
  refine ends_modify ⟨⟨unharmed.of_same rfl rfl, knows⟩, moved.board, moved.context, block, ?_, rfl⟩
  rw [← moved.blocks]

/-- The loop of `update` behind the blocks `front` of the chain. -/
theorem updateLoop_ends {front back : List Nat} {fuel : Nat} {it : UInt16}
    (coherent : Coherent original s) (chain : IsChain mcu s.board.cell (front ++ back))
    (here : it.toNat = front.getLastD 0)
    (listed : ∀ block ∈ s.blocks, block.address.toNat ∈ front) (enough : back.length < fuel) :
    Ends (updateLoop bcon fuel it) s (fun _ => Coherent original) fun _ => Coherent original := by
  induction fuel generalizing s it front back with
  | zero => exact absurd enough (Nat.not_lt_zero _)
  | succ fuel ih =>
      refine (getNextBlock_ends coherent.unharmed chain here).bind ?_
      rintro answer t ⟨pointer, typed, unharmed, moved⟩
      have now := coherent.moved unharmed moved
      dsimp only
      generalize answerHandle answer = next at pointer
      cases back with
      | nil =>
          -- behind the last block the handle is 0, which ends the loop
          have last : next = 0 := UInt16.toNat_inj.mp pointer
          rw [if_neg fun more => more.1 last, if_neg (not_not_intro last)]
          exact ends_pure now
      | cons p back =>
          have member : p ∈ front ++ p :: back := by simp
          have more : next ≠ 0 := by
            rintro rfl
            have low := chain.dataStart_le member
            rw [List.headD_cons] at pointer
            exact absurd (pointer.symm ▸ low) (by decide)
          have there : next.toNat = (front ++ [p]).getLastD 0 := by
            rw [List.getLastD_concat]
            exact pointer
          have onward : IsChain mcu t.board.cell ((front ++ [p]) ++ back) := by
            rw [List.append_assoc, List.singleton_append, moved.board]
            exact chain
          have shorter : back.length < fuel := Nat.lt_of_succ_lt_succ enough
          have earlier : ∀ block ∈ t.blocks, block.address.toNat ∈ front ++ [p] := by
            intro block old
            exact List.mem_append_left _ (listed block (moved.blocks ▸ old))
          by_cases free : answer.data[4] = 0
          · rw [if_neg fun allocated => allocated.2 free, if_pos more]
            exact ih now onward there earlier shorter
          · -- an allocated block is listed; an unknown type ends the loop with an error
            have found : directory mcu t.board.cell next.toNat =
                some (s.board.cell p, s.board.cell (p + 1)) := by
              rw [moved.board, pointer]
              refine (directory_eq_some chain).mpr ⟨member, ?_, rfl, rfl⟩
              rw [List.headD_cons, ← typed p back rfl]
              exact free
            have fresh : ∀ other ∈ t.blocks, other.address ≠ next := by
              rintro other old rfl
              have repeated := listed other (moved.blocks ▸ old)
              rw [pointer] at repeated
              exact (List.nodup_append.mp chain.nodup).2.2 _ repeated _ (List.mem_cons_self ..) rfl
            rw [if_pos ⟨more, free⟩]
            refine ((pushBlock_ends now found fresh).weakenFailed
              fun _ _ failed => failed.2).bind ?_
            rintro _ u ⟨coherentThen, board, -, block, blocks, address⟩
            rw [if_pos more]
            refine ih coherentThen (board ▸ onward) there ?_ shorter
            intro other inside
            rw [blocks] at inside
            rcases List.mem_append.mp inside with old | new
            · exact earlier other old
            · rw [List.mem_singleton.mp new, address, pointer]
              simp

theorem update_ends (unharmed : Unharmed original s) :
    Ends (update bcon) s (fun _ => Coherent original) fun _ => Coherent original := by
  obtain ⟨path, chain⟩ := unharmed.wellFormed
  have emptied : Ends (setBlocks []) s (fun _ t => t = { s with blocks := [] })
      fun _ => Coherent original := ends_modify rfl
  refine emptied.bind ?_
  rintro _ _ rfl
  have nothing : Coherent original { s with blocks := [] } := ⟨unharmed.of_same rfl rfl, .nil _⟩
  refine updateLoop_ends nothing (List.nil_append path ▸ chain) rfl ?_ chain.length_lt
  intro block impossible
  exact (List.not_mem_nil impossible).elim

theorem blockByAddress_ends (address : UInt16) :
    Ends (blockByAddress address) s
      (fun block t => s = t ∧ s.blocks.find? (fun block => block.address == address) = some block)
      fun _ t => s = t := by
  refine ends_get_bind ?_
  cases s.blocks.find? fun block => block.address == address with
  | none => exact ends_throw rfl
  | some block => exact ends_pure ⟨rfl, rfl⟩

/-- A block is created where ALLOCATE finds one. -/
theorem createBlock_ends (coherent : Coherent original s) {typeName : Text}
    (finds : ∀ desc, descByName typeName = some desc →
      FindsBlock s.board (UInt8.ofNat desc.size)) :
    Ends (createBlock bcon typeName) s (fun _ => Coherent original) fun _ => Coherent original := by
  unfold createBlock
  cases found : descByName typeName with
  | none => exact ends_throw coherent
  | some desc =>
      obtain ⟨-, fits⟩ := descByName_spec found
      refine (allocateBlock_ends coherent.unharmed fits.type (finds desc found)).bind ?_
      rintro answer t ⟨new, serving⟩
      generalize answerHandle answer = handle at new serving
      have other : ∀ block ∈ s.blocks, block.address ≠ handle := by
        rintro block member rfl
        obtain ⟨size, entry, -⟩ := coherent.knows.known block member
        rw [new] at entry
        cases entry
      have knows : Knows t.board t.blocks := by
        rw [serving.blocks]
        refine coherent.knows.of_entries (List.Sublist.refl _) fun block member => ?_
        rw [serving.directory, Function.update_of_ne]
        exact fun same => other block member (UInt16.toNat_inj.mp same)
      have entry : directory mcu t.board.cell handle.toNat =
          some (desc.type, UInt8.ofNat desc.size) := by
        rw [serving.directory, Function.update_self]
      refine ((pushBlock_ends ⟨serving.unharmed, knows⟩ entry
        (by rw [serving.blocks]; exact other)).mono (fun _ _ after => after.1)
          fun _ _ failed => failed.2).bind ?_
      exact fun _ u coherentThen => blockByAddress_keeps handle u coherentThen

theorem setBlocks_ends (unharmed : Unharmed original s) (blocks : List EdsBlock)
    {failed : HostError → Session mcu → Prop} :
    Ends (setBlocks blocks) s (fun _ t => Unharmed original t ∧ t.board = s.board ∧
      t.blocks = blocks) failed :=
  ends_modify ⟨unharmed.of_same rfl rfl, rfl, rfl⟩

/-- A block of the list is replaced by one with its address and description. -/
theorem Knows.replace {ee : Eeprom mcu} {front rest : List EdsBlock} {block other : EdsBlock}
    (knows : Knows ee (front ++ block :: rest)) (address : other.address = block.address)
    (desc : other.desc = block.desc) : Knows ee ((front ++ [other]) ++ rest) where
  known this member := by
    rw [List.append_assoc, List.singleton_append] at member
    rcases List.mem_append.mp member with inFront | inRest
    · exact knows.known this (List.mem_append_left _ inFront)
    · rcases List.mem_cons.mp inRest with rfl | later
      · rw [address, desc]
        exact knows.known block (by simp)
      · exact knows.known this (List.mem_append_right _ (List.mem_cons_of_mem _ later))
  apart := by
    have apart := knows.apart
    rw [List.map_append, List.map_cons] at apart
    rw [List.append_assoc, List.singleton_append, List.map_append, List.map_cons, address]
    exact apart

/-- `vector::erase` of `block` leaves the blocks before and behind it. -/
theorem eraseLoop_ends {front rest : List EdsBlock} {block : EdsBlock}
    (unharmed : Unharmed original s) (knows : Knows s.board (front ++ rest)) :
    Ends (eraseLoop bcon front (block :: rest)) s (fun _ => Coherent original)
      fun _ => Coherent original := by
  induction rest generalizing s front block with
  | nil =>
      refine (setBlocks_ends unharmed front).weaken ?_
      rintro _ t ⟨unharmedThen, board, blocks⟩
      rw [List.append_nil] at knows
      exact ⟨unharmedThen, by rw [board, blocks]; exact knows⟩
  | cons next rest ih =>
      obtain ⟨size, found, described⟩ := knows.known next (by simp)
      -- the moved block gets its description from the header that is read again
      refine (setBlocks_ends unharmed _).bind ?_
      rintro _ t ⟨unharmed₁, board₁, -⟩
      refine (readHeader_ends unharmed₁ (board₁ ▸ found)).bind ?_
      rintro header u ⟨type, unharmed₂, moved⟩
      refine (setBlocks_ends unharmed₂ _).bind ?_
      rintro _ v ⟨unharmed₃, board₃, -⟩
      rw [type, getBlockDescByType_known described, pure_bind]
      refine (setBlocks_ends unharmed₃ _).bind ?_
      rintro _ w ⟨unharmed₄, board₄, -⟩
      have same : w.board = s.board := by rw [board₄, board₃, moved.board, board₁]
      exact ih unharmed₄ (same ▸ knows.replace rfl rfl)

theorem deleteBlock_ends (coherent : Coherent original s) (address : UInt16) :
    Ends (deleteBlock bcon address) s (fun _ => Coherent original) fun _ => Coherent original := by
  refine ends_get_bind ?_
  cases place : s.blocks.findIdx? fun block => block.address == address with
  | none => exact ends_throw coherent
  | some i =>
      obtain ⟨inside, here, -⟩ := List.findIdx?_eq_some_iff_getElem.mp place
      have parts : s.blocks = s.blocks.take i ++ s.blocks[i] :: s.blocks.drop (i + 1) := by
        rw [List.getElem_cons_drop, List.take_append_drop]
      have start : s.blocks.drop i = s.blocks[i] :: s.blocks.drop (i + 1) :=
        (List.getElem_cons_drop inside).symm
      generalize s.blocks[i] = block at here parts start
      generalize first : s.blocks.take i = front at parts
      generalize s.blocks.drop (i + 1) = rest at parts start
      have same := beq_iff_eq.mp here
      have knows := coherent.knows
      rw [parts] at knows
      obtain ⟨size, found, -⟩ := knows.known block (by simp)
      refine (freeBlock_ends coherent.unharmed (same ▸ found)).bind ?_
      rintro answer t ⟨success, serving⟩
      rw [if_pos (show answer.data[2] = 0 from success), start, first]
      refine eraseLoop_ends serving.unharmed (knows.of_entries
        ((List.Sublist.refl front).append (List.sublist_cons_self block rest)) ?_)
      intro other member
      rw [serving.directory, Function.update_of_ne]
      intro clash
      have apart := knows.apart
      rw [List.map_append, List.map_cons, List.nodup_middle, List.nodup_cons, ← List.map_append]
        at apart
      exact apart.1 (List.mem_map.mpr ⟨other, member, (UInt16.toNat_inj.mp clash).trans same.symm⟩)

/-- The bytes that `set` writes for a value. -/
def EdsBlockFieldDesc.written (field : EdsBlockFieldDesc) (value : Text) : Nat :=
  match field.datatype with
  | .uint8 => 1
  | .uint16 => 2
  | .char => min (value.length + 1) field.size

theorem strBytes_length {field : EdsBlockFieldDesc} (value : Text) (some_ : 0 < field.size) :
    (strBytes field value).length = min (value.length + 1) field.size := by
  unfold strBytes
  split
  · rw [List.length_append, List.length_take, List.length_singleton]
    omega
  · rw [List.length_append, List.length_singleton]
    omega

theorem written_le_width (field : EdsBlockFieldDesc) (value : Text) :
    field.written value ≤ field.width := by
  unfold EdsBlockFieldDesc.written EdsBlockFieldDesc.width
  cases field.datatype with
  | uint8 => exact Nat.le_refl _
  | uint16 => exact Nat.le_refl _
  | char => exact Nat.min_le_right _ _

/-- Writing bytes into the payload of the block being edited. -/
theorem writeBytes_ends {handle : UInt16} {entry : UInt8 × UInt8} {index : Nat}
    {bytes : List UInt8} (coherent : Coherent original s) (editing : s.context.mode = .edit)
    (address : s.context.edsBlockAddress = handle)
    (found : directory mcu s.board.cell handle.toNat = some entry) (low : 2 ≤ index)
    (high : index + bytes.length ≤ 2 + entry.2.toNat) (small : index + bytes.length ≤ 256)
    {failed : HostError → Session mcu → Prop} :
    Ends (writeBytes bcon handle index bytes) s (fun _ => Coherent original) failed := by
  induction bytes generalizing s index with
  | nil => exact ends_pure coherent
  | cons byte bytes ih =>
      rw [List.length_cons] at high small
      have exact_ : (UInt8.ofNat index).toNat = index := Nat.mod_eq_of_lt (by omega)
      subst address
      refine (writeToBlock_ends coherent.unharmed byte editing found (exact_.symm ▸ low)
        (exact_.symm ▸ by omega)).bind ?_
      rintro _ t serving
      have knows : Knows t.board t.blocks := by
        rw [serving.blocks]
        exact coherent.knows.of_entries (List.Sublist.refl _) fun _ _ => by rw [serving.directory]
      exact ih ⟨serving.unharmed, knows⟩ (serving.context ▸ editing) (by rw [serving.context])
        (by rw [serving.directory, found]) (by omega) (by omega) (by omega)

theorem getBlockFieldDescByKey_ends (desc : EdsBlockDesc) (key : Text) :
    Ends (getBlockFieldDescByKey desc key) s
      (fun field t => s = t ∧ desc.fieldByKey key = some field) fun _ t => s = t := by
  unfold getBlockFieldDescByKey
  cases desc.fieldByKey key with
  | none => exact ends_throw rfl
  | some field => exact ends_pure ⟨rfl, rfl⟩

/-- A function that looks up a field, tests its type and writes its bytes. -/
theorem setField_ends {handle : UInt16} {entry : UInt8 × UInt8} {desc : EdsBlockDesc}
    {field : EdsBlockFieldDesc} {key value : Text} {bytes : EdsBlockFieldDesc → List UInt8}
    {require : EdsBlockFieldDesc → Shell mcu PUnit} (coherent : Coherent original s)
    (editing : s.context.mode = .edit) (address : s.context.edsBlockAddress = handle)
    (found : directory mcu s.board.cell handle.toNat = some entry) (fits : desc.Fits)
    (here : desc.fieldByKey key = some field)
    (requires : ∀ field, Ends (require field) s (fun _ t => s = t) fun _ t => s = t)
    (length : (bytes field).length = field.written value)
    (inside : field.pos + field.written value ≤ entry.2.toNat) :
    Ends (getBlockFieldDescByKey desc key >>= fun field => require field >>= fun _ =>
      writeBytes bcon handle (field.pos + 2) (bytes field)) s (fun _ => Coherent original)
        fun _ => Coherent original := by
  refine ((getBlockFieldDescByKey_ends desc key).weakenFailed
    fun _ _ failed => failed ▸ coherent).bind ?_
  rintro other _ ⟨rfl, there⟩
  obtain rfl : field = other := Option.some.inj (here.symm.trans there)
  refine ((requires field).weakenFailed fun _ _ failed => failed ▸ coherent).bind ?_
  rintro _ _ rfl
  have limit := fits.size
  have last := (fits.fields field (fieldByKey_mem here)).2
  have narrow := written_le_width field value
  exact writeBytes_ends coherent editing address found (by omega) (by omega) (by omega)

theorem requireNumber_ends (function key : Text) (field : EdsBlockFieldDesc) :
    Ends (requireNumber function key field) s (fun _ t => s = t) fun _ t => s = t :=
  ends_ite (fun _ => ends_throw rfl) fun _ => ends_pure rfl

theorem requireChar_ends (function key : Text) (field : EdsBlockFieldDesc) :
    Ends (requireChar function key field) s (fun _ t => s = t) fun _ t => s = t :=
  ends_ite (fun _ => ends_throw rfl) fun _ => ends_pure rfl

/-- The bytes that `set` would write lie in the stored size of the block being edited. -/
def SetFits (s : Session mcu) (key value : Text) : Prop :=
  ∀ block, s.blocks.find? (fun block => block.address == s.context.edsBlockAddress) = some block →
    ∀ field, block.desc.fieldByKey key = some field →
      field.pos + field.written value ≤ (s.board.cell (block.address.toNat + 1)).toNat

theorem edsCmdSetField_ends (coherent : Coherent original s) (editing : s.context.mode = .edit)
    (stale : Int) {key value : Text} (setFits : SetFits s key value) :
    Ends (edsCmdSetField bcon stale s.context.edsBlockAddress key value) s
      (fun _ => Coherent original) fun _ => Coherent original := by
  refine ((blockByAddress_ends s.context.edsBlockAddress).weakenFailed
    fun _ _ failed => failed ▸ coherent).bind ?_
  rintro block _ ⟨rfl, listed⟩
  have same : block.address = s.context.edsBlockAddress := by
    have found := List.find?_some listed
    exact beq_iff_eq.mp found
  obtain ⟨size, found, described⟩ := coherent.knows.known block (List.mem_of_find?_eq_some listed)
  have fits := (descByType_spec described).2
  have stored : s.board.cell (block.address.toNat + 1) = size := by
    obtain ⟨path, chain⟩ := coherent.unharmed.wellFormed
    exact ((directory_eq_some chain).mp found).2.2.2
  refine ((getBlockFieldDescByKey_ends block.desc key).weakenFailed
    fun _ _ failed => failed ▸ coherent).bind ?_
  rintro field _ ⟨rfl, here⟩
  have inside := stored ▸ setFits block listed field here
  cases datatype : field.datatype with
  | char =>
      have some_ : 0 < field.size := by
        have positive := (fits.fields field (fieldByKey_mem here)).1
        unfold EdsBlockFieldDesc.width at positive
        rwa [datatype] at positive
      have length : (strBytes field value).length = field.written value := by
        rw [strBytes_length value some_, EdsBlockFieldDesc.written, datatype]
      exact setField_ends coherent editing same.symm found fits here
        (fun _ => requireChar_ends _ _ _) length inside
  | uint16 =>
      have length : field.written value = 2 := by rw [EdsBlockFieldDesc.written, datatype]
      exact setField_ends coherent editing same.symm found fits here
        (fun _ => requireNumber_ends _ _ _) length.symm inside
  | uint8 =>
      have length : field.written value = 1 := by rw [EdsBlockFieldDesc.written, datatype]
      exact setField_ends coherent editing same.symm found fits here
        (fun _ => requireNumber_ends _ _ _) length.symm inside

/-! ## Whole lines -/

/-- A word with its text is careful in a session: `create` finds a free block that
fits, and `set` stays within the stored size of the block being edited. -/
structure CarefulWord (s : Session mcu) (word rest : Text) : Prop where
  create : word = text "create" → ∀ desc, descByName (extractWord word rest).1 = some desc →
    FindsBlock s.board (UInt8.ofNat desc.size)
  set : word = text "set" → s.context.mode = .edit →
    SetFits s (extractWord word rest).1 (setValue (extractWord word rest).2)

/-- The word of a line that selects the command, and the text behind it. -/
def commandWord (cmd : Text) : Text × Text :=
  let first := extractWord [] cmd
  if first.1 = text "show" then extractWord first.1 first.2 else first

def CarefulLine (s : Session mcu) (cmd : Text) : Prop :=
  CarefulWord s (commandWord cmd).1 (commandWord cmd).2

theorem edsExecWord_ends (coherent : Coherent original s) (stale : Int) {word rest : Text}
    (careful : CarefulWord s word rest) :
    Ends (edsExecWord bcon stale word rest) s (fun _ => Coherent original)
      fun _ => Coherent original := by
  have done : ∀ {prog : Shell mcu PUnit}, Ends prog s (fun _ => Coherent original)
      (fun _ => Coherent original) → Ends (prog >>= fun _ => pure true) s
        (fun _ => Coherent original) fun _ => Coherent original :=
    fun ends => ends.bind fun _ _ after => ends_pure after
  -- the branches in the order of the source: list, edit, create, delete, defragment,
  -- Format, exit, set
  refine ends_get_bind (ends_ite (fun _ => done (edsCmdList_keeps s coherent)) fun _ => ?_)
  refine ends_ite (fun _ => done (edsCmdEdit_keeps _ s coherent)) fun _ => ?_
  refine ends_ite (fun creates => done ?_) fun _ => ?_
  · refine (createBlock_ends coherent (careful.create creates)).bind fun block t after => ?_
    exact ((print_keeps _).bind fun _ => keeps_get.bind fun _ => setContext_keeps _) t after
  refine ends_ite (fun _ => done ?_) fun _ => ?_
  · refine ((blockByAddress_ends _).weakenFailed
    fun _ _ failed => failed ▸ coherent).bind ?_
    rintro block _ ⟨rfl, -⟩
    exact deleteBlock_ends coherent block.address
  have updates : ∀ {entries : Nat → Option (UInt8 × UInt8)} {t : Session mcu},
      Serving original s entries t → Ends (update bcon) t (fun _ => Coherent original)
        fun _ => Coherent original :=
    fun serving => update_ends serving.unharmed
  refine ends_ite (fun _ => ?_) fun _ => ?_
  · refine Ends.bind ((sendDefragment_ends coherent.unharmed).bind fun _ _ => updates) ?_
    exact fun _ t after => (update_ends after.unharmed).bind fun _ _ last => ends_pure last
  refine ends_ite (fun _ => ?_) fun _ => ?_
  · refine (sendFormat_ends coherent.unharmed).bind fun _ t serving => ?_
    exact (updates serving).bind fun _ _ last => ends_pure last
  refine ends_ite (fun _ => done (setContext_keeps _ s coherent)) fun _ => ?_
  refine ends_ite (fun sets => ?_) fun _ => ends_pure coherent
  exact done (edsCmdSetField_ends coherent sets.1 stale (careful.set sets.2 sets.1))

/-- A careful line keeps the session coherent. -/
theorem edsExecCmd_ends (coherent : Coherent original s) (stale : Int) {cmd : Text}
    (careful : CarefulLine s cmd) :
    Ends (edsExecCmd bcon stale cmd) s (fun _ => Coherent original)
      fun _ => Coherent original := by
  unfold CarefulLine commandWord at careful
  unfold edsExecCmd
  refine ends_ite (fun shows => ?_) fun other => ?_
  · rw [if_pos shows] at careful
    refine ends_ite (fun _ => ?_) fun _ => edsExecWord_ends coherent stale careful
    exact Ends.bind (edsCmdShowConf_keeps s coherent) fun _ _ after => ends_pure after
  · rw [if_neg other] at careful
    exact edsExecWord_ends coherent stale careful

end Hcan.Host
