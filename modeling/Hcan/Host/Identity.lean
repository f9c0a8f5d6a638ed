import Hcan.Host.Shell
import Hcan.Library.Run

/-!
# Runs of the shell and the identity of the board

A host connects to a board and executes command lines, one after the other, also
behind a line that failed.  In every run of careful lines the bytes before the
EDS area stay as they are and each WRITE lands in the block being edited.  A full
area shows what a `create` without a free block does.
-/

namespace Hcan.Host

open Hcan.Canix Hcan.Eds Hcan.Library Hcan.Library.Program

variable {mcu : Mcu} {bcon : BoardConnection}

/-- A session before the first frame; `unset` is the address in a fresh context. -/
def Session.start (ee : Eeprom mcu) (unset : UInt16) : Session mcu where
  board := ee
  context := ⟨text "> ", text "> ", .normal, unset⟩
  blocks := []
  sent := []
  out := []

/-- The constructor of the EDS connection has succeeded with the session `s`. -/
def Connects (bcon : BoardConnection) (ee : Eeprom mcu) (s : Session mcu) : Prop :=
  ∃ unset, edsConnection bcon (.start ee unset) = some (.ok ⟨⟩, s)

/-- A line of the shell, and what its number variable held before. -/
structure CommandLine where
  cmd : Text
  stale : Int

/-- A line has been executed, with success or with an error. -/
def ShellStep (bcon : BoardConnection) (s : Session mcu) (line : CommandLine) (t : Session mcu) :
    Prop :=
  ∃ outcome, edsExecCmd bcon line.stale line.cmd s = some (outcome, t)

structure CarefulStep (bcon : BoardConnection) (s : Session mcu) (line : CommandLine)
    (t : Session mcu) : Prop where
  careful : CarefulLine s line.cmd
  taken : ShellStep bcon s line t

theorem connection_ends (bcon : BoardConnection) {ee : Eeprom mcu}
    (wellFormed : WellFormed mcu ee.cell) (unset : UInt16) :
    Ends (edsConnection bcon) (.start ee unset) (fun _ => Coherent ee.cell)
      fun _ => Coherent ee.cell :=
  update_ends ⟨wellFormed, fun _ _ => rfl, fun _ impossible => (List.not_mem_nil impossible).elim,
    fun _ impossible => (List.not_mem_nil impossible).elim⟩

theorem CarefulStep.coherent {original : Nat → UInt8} {s t : Session mcu} {line : CommandLine}
    (step : CarefulStep bcon s line t) (coherent : Coherent original s) : Coherent original t := by
  obtain ⟨outcome, result⟩ := step.taken
  exact (edsExecCmd_ends coherent line.stale step.careful).of_result result

/-- In every run of careful lines on a well-formed area the board is unharmed, and
every further careful line ends. -/
theorem shell_keeps_identity {ee : Eeprom mcu} (wellFormed : WellFormed mcu ee.cell)
    {start last : Session mcu} (connects : Connects bcon ee start) {lines : List CommandLine}
    (run : Run (CarefulStep bcon) start lines last) :
    Unharmed ee.cell last ∧
      ∀ line, CarefulLine last line.cmd → ∃ next, ShellStep bcon last line next := by
  obtain ⟨unset, connected⟩ := connects
  have coherent : Coherent ee.cell last :=
    run.invariant (Coherent ee.cell) (fun _ _ _ step => step.coherent)
      ((connection_ends bcon wellFormed unset).of_result connected)
  refine ⟨coherent.unharmed, fun line careful => ?_⟩
  obtain ⟨outcome, next, result⟩ := (edsExecCmd_ends coherent line.stale careful).result
  exact ⟨next, outcome, result⟩

/-- A block with any address is listed when the byte there is a known type. -/
theorem pushBlock_of_header {s : Session mcu} {handle : UInt16} {desc : EdsBlockDesc}
    (stored : eepromReadByte s.board handle.toNat = desc.type)
    (described : descByType desc.type = some desc) :
    Ends (pushBlock bcon handle) s
      (fun _ t => t.board = s.board ∧ ∃ block ∈ t.blocks, block.address = handle)
      fun _ _ => False := by
  have headers : ∃ d1 d2 d3, edsCanCallback bcon.dst s.board
      (handleFrame bcon 5 hcanEdsReadFromBlock handle 0 0) =
      some (s.board, some (edsAnswer bcon.dst (handleFrame bcon 5 hcanEdsReadFromBlock handle 0 0) 6
        hcanEdsReadFromBlockReplay desc.type d1 d2 d3)) := by
    rw [← stored, ← framePointer_handle handle]
    exact read_header bcon.dst s.board rfl rfl
  obtain ⟨d1, d2, d3, header⟩ := headers
  have built : Ends (edsBlock bcon handle) s
      (fun block t => block.address = handle ∧ t.board = s.board) fun _ _ => False := by
    refine (answered_ends rfl rfl header).bind ?_
    rintro _ _ ⟨rfl, rfl⟩
    change Ends (getBlockDescByType desc.type >>= _) _ _ _
    rw [getBlockDescByType_known described]
    exact ends_pure ⟨rfl, rfl⟩
  refine built.bind ?_
  rintro block t ⟨address, board⟩
  exact ends_modify ⟨board, block, List.mem_append_right _ (List.mem_singleton.mpr rfl), address⟩

/-- The condition on `create` cannot be dropped: where no free block fits, the type
overwrites byte 0, and the shell edits the address 0, at which no block starts. -/
theorem create_without_block {s : Session mcu} (wellFormed : WellFormed mcu s.board.cell)
    {typeName : Text} {desc : EdsBlockDesc} (described : descByName typeName = some desc)
    (refused : ¬ FindsBlock s.board (UInt8.ofNat desc.size)) :
    Ends (edsCmdCreate bcon typeName) s
      (fun _ t => t.board.cell = Function.update s.board.cell 0 desc.type ∧
        t.context.mode = .edit ∧ t.context.edsBlockAddress = 0 ∧ ¬ OnChain mcu t.board.cell 0)
      fun _ _ => False := by
  generalize written : edsSetBlockType s.board 0 desc.type = ee
  have cells : ee.cell = Function.update s.board.cell 0 desc.type := by
    rw [← written]
    exact (eepromWriteByte_wrote s.board (Nat.zero_le _) desc.type).cell
  have stored : eepromReadByte ee (0 : UInt16).toNat = desc.type := by
    rw [UInt16.toNat_zero, eepromReadByte, mcu.cellOf_of_le 0 (Nat.zero_le _), cells,
      Function.update_self]
  have allocated : edsCanCallback bcon.dst s.board
      (hostFrame bcon 4 hcanEdsAllocateBlock desc.type (UInt8.ofNat desc.size) 0 0) =
      some (ee, some (edsAnswer bcon.dst
        (hostFrame bcon 4 hcanEdsAllocateBlock desc.type (UInt8.ofNat desc.size) 0 0) 4
          hcanEdsAllocateBlockReplay (pointerHi 0) (pointerLo 0) 0 0)) := by
    rw [edsCanCallback_allocate _ _ rfl]
    change (edsAlloc s.board (UInt8.ofNat desc.size)).map _ = _
    rw [edsAlloc_refused wellFormed refused, Option.map_some, ← written]
    rfl
  have created : Ends (createBlock bcon typeName) s
      (fun block t => block.address = 0 ∧ t.board = ee) fun _ _ => False := by
    unfold createBlock
    rw [described]
    refine (answered_ends rfl rfl allocated).bind ?_
    rintro answer _ ⟨rfl, rfl⟩
    have handle : ∀ frame : CanixFrame, answerHandle (edsAnswer bcon.dst frame 4
        hcanEdsAllocateBlockReplay (pointerHi 0) (pointerLo 0) 0 0) = 0 := by
      intro frame
      apply UInt16.toNat_inj.mp
      exact (answerHandle_toNat _).trans (framePointer_bytes (Nat.succ_pos 65535))
    dsimp only
    rw [handle]
    refine (pushBlock_of_header stored (descByName_spec described).1).bind ?_
    rintro _ t ⟨board, block, member, address⟩
    have listed : (t.blocks.find? fun block => block.address == 0).isSome :=
      List.find?_isSome.mpr ⟨block, member, beq_iff_eq.mpr address⟩
    obtain ⟨first, found⟩ := Option.isSome_iff_exists.mp listed
    refine ends_get_bind ?_
    rw [found]
    have same := List.find?_some found
    exact ends_pure ⟨beq_iff_eq.mp same, board⟩
  refine created.bind ?_
  rintro block t ⟨address, board⟩
  refine ends_modify ⟨?_, rfl, address, ?_⟩
  · exact board ▸ cells
  · rintro ⟨path, chain, onPath⟩
    exact absurd (chain.dataStart_le onPath) (by decide)

/-! ## Executing careful lines -/

instance (ee : Eeprom mcu) (size : UInt8) : Decidable (FindsBlock ee size) :=
  decidable_of_iff ((edsAlloc ee size).any fun allocated => allocated.2 ≠ 0) (by
    rw [Option.any_eq_true]
    constructor
    · rintro ⟨allocated, result, found⟩
      exact ⟨allocated.1, allocated.2, result, of_decide_eq_true found⟩
    · rintro ⟨later, p, result, found⟩
      exact ⟨(later, p), result, decide_eq_true found⟩)

instance decidableFoundAll {α : Type} (found : Option α) (p : α → Prop) [DecidablePred p] :
    Decidable (∀ a, found = some a → p a) :=
  match found with
  | none => isTrue fun _ impossible => nomatch impossible
  | some a => decidable_of_iff (p a) ⟨fun holds _ same => Option.some.inj same ▸ holds,
      fun holds => holds a rfl⟩

instance (s : Session mcu) (key value : Text) : Decidable (SetFits s key value) :=
  inferInstanceAs (Decidable (∀ block, s.blocks.find? _ = some block →
    ∀ field, block.desc.fieldByKey key = some field → _ ≤ _))

instance (s : Session mcu) (word rest : Text) : Decidable (CarefulWord s word rest) :=
  decidable_of_iff ((word = text "create" →
      ∀ desc, descByName (extractWord word rest).1 = some desc →
        FindsBlock s.board (UInt8.ofNat desc.size)) ∧ (word = text "set" → s.context.mode = .edit →
      SetFits s (extractWord word rest).1 (setValue (extractWord word rest).2)))
    ⟨fun ⟨create, set⟩ => ⟨create, set⟩, fun careful => ⟨careful.create, careful.set⟩⟩

instance (s : Session mcu) (cmd : Text) : Decidable (CarefulLine s cmd) :=
  inferInstanceAs (Decidable (CarefulWord s _ _))

/-- The session behind a line. -/
def Session.after (bcon : BoardConnection) (s : Session mcu) (line : CommandLine) :
    Option (Session mcu) :=
  (edsExecCmd bcon line.stale line.cmd s).map fun result => result.2

theorem shellStep {s t : Session mcu} {line : CommandLine} (taken : s.after bcon line = some t) :
    ShellStep bcon s line t := by
  obtain ⟨result, executed, rfl⟩ := Option.map_eq_some_iff.mp taken
  exact ⟨result.1, executed⟩

/-- The session behind a careful line. -/
def Session.afterCareful (bcon : BoardConnection) (s : Session mcu) (line : CommandLine) :
    Option (Session mcu) :=
  if CarefulLine s line.cmd then s.after bcon line else none

theorem carefulStep {s t : Session mcu} {line : CommandLine}
    (taken : s.afterCareful bcon line = some t) : CarefulStep bcon s line t := by
  unfold Session.afterCareful at taken
  split at taken
  case isTrue careful => exact ⟨careful, shellStep taken⟩
  case isFalse => cases taken

/-- The session of a host that connects to a board. -/
def connect (bcon : BoardConnection) (ee : Eeprom mcu) : Option (Session mcu) :=
  match edsConnection bcon (.start ee 0) with
  | some (.ok _, s) => some s
  | _ => none

theorem connect_connects {ee : Eeprom mcu} {s : Session mcu} (result : connect bcon ee = some s) :
    Connects bcon ee s := by
  unfold connect at result
  split at result
  case h_1 connected =>
      cases result
      exact ⟨0, connected⟩
  case h_2 => cases result

/-- The full area with its first block freed. -/
def spareArea : Nat → UInt8 := Function.update fullArea 34 0

theorem spareArea_wellFormed : WellFormed atmega32 spareArea :=
  ⟨_, fullArea_isChain.update_type (by decide) 0⟩

def kitchenConnection : BoardConnection := ⟨900, 7⟩

def createTaster : CommandLine := ⟨text "create taster", 0⟩
def setPort : CommandLine := ⟨text "set port 5", 0⟩

theorem shell_keeps_identity_spare :
    ∃ start last next, Connects kitchenConnection (.powerUp spareArea : Eeprom atmega32) start ∧
      Run (CarefulStep kitchenConnection) start
        [createTaster, setPort, ⟨text "delete 291", 0⟩] last ∧
      Unharmed spareArea last ∧ ShellStep kitchenConnection last createTaster next := by
  have executes : ((connect kitchenConnection (.powerUp spareArea : Eeprom atmega32)).bind
      fun start => [createTaster, setPort, ⟨text "delete 291", 0⟩].foldlM
        (Session.afterCareful kitchenConnection) start).any
          (fun last => CarefulLine last createTaster.cmd) = true := by decide +kernel
  obtain ⟨last, result, careful⟩ := (Option.any_eq_true _ _).mp executes
  obtain ⟨start, connected, executed⟩ := Option.bind_eq_some_iff.mp result
  have connects := connect_connects connected
  have run := (Run.of_execute executed).mono fun _ _ _ => carefulStep
  have proved := shell_keeps_identity spareArea_wellFormed connects run
  obtain ⟨next, taken⟩ := proved.2 createTaster (of_decide_eq_true careful)
  exact ⟨start, last, next, connects, run, proved.1, taken⟩

/-- In a full area `create` overwrites byte 0, and the next `set` writes before
the area. -/
theorem fullArea_identity_lost :
    WellFormed atmega32 fullArea ∧
      ∃ start last, Connects kitchenConnection (.powerUp fullArea : Eeprom atmega32) start ∧
        Run (ShellStep kitchenConnection) start [createTaster, setPort] last ∧
        last.board.cell 0 ≠ fullArea 0 ∧
        ∃ sent ∈ last.sent, sent.frame.data[1] = hcanEdsWriteToBlock ∧ ¬ sent.LandsInside := by
  have executes : ((connect kitchenConnection (.powerUp fullArea : Eeprom atmega32)).bind
      fun start => [createTaster, setPort].foldlM (Session.after kitchenConnection) start).any
        (fun last => last.board.cell 0 ≠ fullArea 0 ∧ last.sent.any fun sent =>
          sent.frame.data[1] = hcanEdsWriteToBlock ∧ sent.context.edsBlockAddress = 0) = true := by
    decide +kernel
  obtain ⟨last, result, harmed⟩ := (Option.any_eq_true _ _).mp executes
  obtain ⟨start, connected, executed⟩ := Option.bind_eq_some_iff.mp result
  obtain ⟨changed, wrote⟩ := of_decide_eq_true harmed
  obtain ⟨sent, member, written⟩ := List.any_eq_true.mp wrote
  obtain ⟨command, address⟩ := of_decide_eq_true written
  refine ⟨⟨_, fullArea_isChain⟩, start, last, connect_connects connected,
    (Run.of_execute executed).mono fun _ _ _ => shellStep, changed, sent, member, command, ?_⟩
  rintro ⟨-, ⟨path, chain, onPath⟩, -⟩
  have low := chain.dataStart_le onPath
  rw [address] at low
  exact absurd low (by decide)

end Hcan.Host
