import Hcan.Flash.Pages

/-!
# Soundness of the acknowledgements

Frames other than FILL leave the notes of the channel alone, and an answered frame
leaves the channel as it was.  So the acknowledgements of a whole run of the flash
command are sound, unless one has fallen due too early.
-/

namespace Hcan.Flash

open Hcan.Canix Hcan.Host Hcan.Library Hcan.Library.Program

variable {c : Controller} {faults : Faults} {bcon : BoardConnection}

/-- The command starts with an empty channel, and the boot loader has been stopped. -/
structure Ready (bcon : BoardConnection) (n : Net c) : Prop where
  listening : Listening bcon n.board
  stopped : n.board.bootCounter = 0
  inbox : n.inbox = []
  acked : n.acked = []
  premature : n.premature = false

/-- A frame that is neither FILL nor WRITE. -/
structure OtherFrame (frame : CanixFrame) : Prop where
  notFill : frame.data[1] ≠ hcanHmsFlashBufferFill
  notWrite : frame.data[1] ≠ hcanHmsFlashBufferWrite

theorem commandFrame_other {command : UInt8} (notFill : command ≠ hcanHmsFlashBufferFill)
    (notWrite : command ≠ hcanHmsFlashBufferWrite) : OtherFrame (commandFrame bcon command) :=
  ⟨notFill, notWrite⟩

theorem queryFrame_other (hi lo : UInt8) : OtherFrame (queryFrame bcon hi lo) where
  notFill := (by decide : hcanHmsFlashCrc16Query ≠ hcanHmsFlashBufferFill)
  notWrite := (by decide : hcanHmsFlashCrc16Query ≠ hcanHmsFlashBufferWrite)

theorem eepromFrame_other (lsb msb value : UInt8) :
    OtherFrame (eepromFrame bcon lsb msb value) where
  notFill := (by decide : hcanHmsInternalEepromWrite ≠ hcanHmsFlashBufferFill)
  notWrite := (by decide : hcanHmsInternalEepromWrite ≠ hcanHmsFlashBufferWrite)

section Other

variable {n : Net c} {frame : CanixFrame}

/-- What sending a frame other than FILL and WRITE leads to. -/
inductive OtherEffect (faults : Faults) (n : Net c) (frame : CanixFrame) (next : Net c) : Prop where
  | lost (isLost : (faults n.sent).requestLost = true)
      (same : next = { n with sent := n.sent + 1 })
  | arrived (board : BootLoader c) (reply : Option CanixFrame)
      (handled : n.board.handle frame = some (board, reply))
      (same : next = { n with
        sent := n.sent + 1
        board := board
        inbox := n.inbox ++ if (faults n.sent).replyLost then [] else reply.toList })

theorem other_effect (other : OtherFrame frame) {next : Net c}
    (result : n.afterSend faults frame = some next) : OtherEffect faults n frame next := by
  obtain ⟨lost, same⟩ | ⟨board, reply, handled, same⟩ := afterSend_cases result
  · rw [note_other _ _ other.notFill] at same
    exact .lost lost same
  · rw [note_other _ _ other.notFill, spoil_other _ _ other.notWrite] at same
    exact .arrived board reply handled same

theorem send_sound {failed : FlashError → Net c → Prop} (other : OtherFrame frame)
    (sound : Sound n) : Meets (send faults frame) n (fun _ => Sound) failed := by
  refine meets_send fun next result => ?_
  cases other_effect other result with
  | lost _ same =>
      rw [same]
      exact sound
  | arrived _ _ _ same =>
      rw [same]
      exact sound

theorem recv_sound (size command : UInt8) :
    Preserves (Sound (c := c)) (fun _ => True) (recv bcon size command) := by
  refine fun n sound => ((recv_ends size command n).mono ?_ ?_).meets
  · rintro _ last ⟨_, _, rest, _, rfl⟩
    exact sound
  · rintro error last ⟨_, rest, _, rfl⟩
    exact ⟨trivial, sound⟩

/-- A frame that leaves the notes of the channel alone. -/
theorem Attending.other {flash : Memory c} {next : Net c}
    (attending : Attending faults bcon flash n) (listening : Listening bcon next.board)
    (same : next.board.flash = n.board.flash) (sent : next.sent = n.sent + 1)
    (acked : next.acked = n.acked) (premature : next.premature = n.premature) :
    Attending faults bcon flash next := by
  refine ⟨listening, same.trans attending.flash, ?_, ?_⟩
  · rw [Sound, premature, acked]
    exact attending.sound
  · rw [premature]
    exact fun early => (attending.blamed early).later (by rw [sent]; exact Nat.le_succ _)

/-- A frame and the answer to it. -/
theorem exchange_meets {flash : Memory c} {size command : UInt8}
    (other : OtherFrame frame) (between : Between faults bcon flash (fun _ => True) n)
    {board : BootLoader c}
    {answer : CanixFrame} (handled : n.board.handle frame = some (board, some answer))
    (listening : Listening bcon board) (same : board.flash = n.board.flash)
    (isReply : IsReply bcon size command answer) :
    Meets (send faults frame) n (fun _ middle =>
      Meets (recv bcon size command) middle (fun _ => Between faults bcon flash (fun _ => True))
        (Failed faults bcon)) (Failed faults bcon) := by
  refine meets_send fun next result => ?_
  cases other_effect other result with
  | lost isLost sent =>
      refine awaited_meets (between.attending.other ?_ ?_ ?_ ?_ ?_) fun onTime => ?_
      all_goals rw [sent]
      · exact between.attending.listening
      · rw [sent] at onTime
        exact .inl ⟨between.inbox onTime, faulty_of_lost isLost rfl⟩
  | arrived next reply isHandled sent =>
      rw [handled, Option.some.injEq, Prod.mk.injEq] at isHandled
      obtain ⟨rfl, rfl⟩ := isHandled
      refine awaited_meets (between.attending.other ?_ ?_ ?_ ?_ ?_) fun onTime => ?_
      all_goals rw [sent]
      · exact listening
      · exact same
      · rw [sent] at onTime
        have inbox := between.inbox onTime
        cases gone : (faults n.sent).replyLost with
        | true => exact .inl ⟨by simp [inbox], faulty_of_replyLost gone rfl⟩
        | false => exact .inr ⟨trivial, answer, by simp [inbox], isReply⟩

/-- A frame without an answer. -/
theorem unanswered_meets {flash : Memory c} {failed : FlashError → Net c → Prop}
    (other : OtherFrame frame) (between : Between faults bcon flash (fun _ => True) n)
    {board : BootLoader c}
    (handled : n.board.handle frame = some (board, none)) (listening : Listening bcon board)
    (same : board.flash = n.board.flash) :
    Meets (send faults frame) n (fun _ => Between faults bcon flash (fun _ => True)) failed := by
  refine meets_send fun next result => ?_
  cases other_effect other result with
  | lost isLost sent =>
      rw [sent]
      exact ⟨between.attending.other between.attending.listening rfl rfl rfl rfl, between.inbox,
        fun _ => trivial⟩
  | arrived next reply isHandled sent =>
      rw [handled, Option.some.injEq, Prod.mk.injEq] at isHandled
      obtain ⟨rfl, rfl⟩ := isHandled
      rw [sent]
      refine ⟨between.attending.other listening same rfl rfl rfl, fun onTime => ?_,
        fun _ => trivial⟩
      have inbox := between.inbox onTime
      simp [inbox]

end Other

/-! ## The parts of the command -/

section Parts

variable {flash : Memory c} {n : Net c}

theorem Failed.sound {error : FlashError} (failed : Failed faults bcon error n) : Sound n := by
  obtain ⟨_, between⟩ := failed.between
  exact between.attending.sound

theorem answered_reset {b : BootLoader c} (listening : Listening bcon b) :
    ∃ data, b.handle (commandFrame bcon hcanHmsDeviceReset) =
      some ({ b with data := data }.restart, none) := by
  have handled : b.handle (commandFrame bcon hcanHmsDeviceReset) = _ :=
    handle_listening listening rfl rfl (by decide : (2 : UInt8) ≤ 2) (by decide : (2 : UInt8) ≤ 8)
  have isReset : (b.read (commandFrame bcon hcanHmsDeviceReset)).data[1] = hcanHmsDeviceReset :=
    read_data b _ (by decide) (by decide : 1 < 2)
  exact ⟨_, by rw [handled, handleHms_reset _ isReset]; rfl⟩

theorem answered_loadApp {b : BootLoader c} (listening : Listening bcon b) :
    ∃ data, b.handle (commandFrame bcon hcanHmsDeviceLoadApp) =
      some ({ b with data := data, inApp := true }, none) := by
  have handled : b.handle (commandFrame bcon hcanHmsDeviceLoadApp) = _ :=
    handle_listening listening rfl rfl (by decide : (2 : UInt8) ≤ 2) (by decide : (2 : UInt8) ≤ 8)
  have isLoad : (b.read (commandFrame bcon hcanHmsDeviceLoadApp)).data[1] = hcanHmsDeviceLoadApp :=
    read_data b _ (by decide) (by decide : 1 < 2)
  exact ⟨_, by rw [handled, handleHms_loadApp _ isLoad]; rfl⟩

theorem cmdGetstate_meets (between : Between faults bcon flash (fun _ => True) n) :
    Meets (cmdGetstate faults bcon) n (fun _ => Between faults bcon flash (fun _ => True))
      (Failed faults bcon) := by
  have listening := between.attending.listening
  have handled : n.board.handle (commandFrame bcon hcanHmsDeviceStateRequest) = _ :=
    handle_listening listening rfl rfl (by decide : (2 : UInt8) ≤ 2) (by decide : (2 : UInt8) ≤ 8)
  obtain ⟨data, answered, service, command, _⟩ := answer_deviceState handled
  have sent : Meets (sendCommand faults bcon hcanHmsDeviceStateRequest) n _ _ :=
    exchange_meets (commandFrame_other (by decide) (by decide)) between answered
      ⟨listening.inApp, listening.selfAddr, listening.home⟩ rfl
      ⟨rfl, listening.selfAddr, rfl, service, command⟩
  refine Meets.bind sent fun _ middle received => ?_
  exact received.bind fun _ last behind => meets_pure behind

theorem enterBootLoader_meets (between : Between faults bcon flash (fun _ => True) n) :
    Meets (enterBootLoader faults bcon) n (fun _ => Between faults bcon flash (fun _ => True))
      (fun _ => Sound) := by
  have reset : Meets (sendCommand faults bcon hcanHmsDeviceReset) n
      (fun _ => Between faults bcon flash (fun _ => True)) (fun _ => Sound) := by
    obtain ⟨data, handled⟩ := answered_reset between.attending.listening
    have home := between.attending.listening.home
    exact unanswered_meets (commandFrame_other (by decide) (by decide)) between handled
      ⟨rfl, home, home⟩ rfl
  refine reset.bind fun _ behind between => ?_
  have listening := between.attending.listening
  have handled : behind.board.handle (commandFrame bcon hcanHmsDeviceBootStop) = _ :=
    handle_listening listening rfl rfl (by decide : (2 : UInt8) ≤ 2) (by decide : (2 : UInt8) ≤ 8)
  obtain ⟨data, answered, service, command⟩ := answer_bootStop handled
  have stop : Meets (sendCommand faults bcon hcanHmsDeviceBootStop) behind _ _ :=
    exchange_meets (commandFrame_other (by decide) (by decide)) between answered
      ⟨listening.inApp, listening.selfAddr, listening.home⟩ rfl
      ⟨rfl, listening.selfAddr, rfl, service, command⟩
  refine Meets.bind (stop.mono (fun _ _ holds => holds) fun _ _ failed => failed.sound) ?_
  intro _ middle received
  refine Meets.bind (received.mono (fun _ _ holds => holds) fun _ _ failed => failed.sound) ?_
  intro _ stopped between
  refine Meets.bind ((cmdGetstate_meets between).mono (fun _ _ holds => holds)
    fun _ _ failed => failed.sound) ?_
  intro state last between
  exact meets_ite (fun _ => meets_throw between.attending.sound) fun _ => meets_pure between

/-- Waiting for an answer when no frame is awaited. -/
theorem recv_between (size command : UInt8)
    (between : Between faults bcon flash (fun _ => True) n) :
    Meets (recv bcon size command) n (fun _ => Between faults bcon flash (fun _ => True))
      (fun _ => Sound) := by
  refine ((recv_ends size command n).mono ?_ ?_).meets
  · rintro frame last ⟨_, front, rest, waits, rfl⟩
    refine ⟨between.attending.received rest, fun onTime => ?_, fun _ => trivial⟩
    have empty := between.inbox onTime
    rw [waits] at empty
    exact absurd empty (by simp)
  · rintro _ last ⟨_, rest, _, rfl⟩
    exact between.attending.sound

/-- The boot loader answers the query of the checksum, or does not know it. -/
theorem loadCrc16_between (size : UInt16)
    (between : Between faults bcon flash (fun _ => True) n) :
    Meets (loadCrc16FromBoard faults bcon size) n
      (fun _ => Between faults bcon flash (fun _ => True)) (fun _ => Sound) := by
  have listening := between.attending.listening
  have handled : n.board.handle (queryFrame bcon (size >>> 8).toUInt8 (size &&& 0xff).toUInt8) =
      _ := handle_listening listening rfl rfl (by decide : (2 : UInt8) ≤ 4)
        (by decide : (4 : UInt8) ≤ 8)
  by_cases built : c.hcanbl32
  · obtain ⟨data, answered, service, command, _⟩ := answer_query built handled rfl
    have query : Meets (sendFlashCrc16Query faults bcon _ _) n _ _ :=
      exchange_meets (queryFrame_other _ _) between answered
        ⟨listening.inApp, listening.selfAddr, listening.home⟩ rfl
        ⟨rfl, listening.selfAddr, rfl, service, command⟩
    refine Meets.bind (query.mono (fun _ _ received => received.mono (fun _ _ behind => behind)
      fun _ _ failed => failed.sound) fun _ _ failed => failed.sound) fun _ _ received => ?_
    exact received.bind fun _ _ behind => meets_pure behind
  · have unanswered : Meets (sendFlashCrc16Query faults bcon _ _) n _ (fun _ => Sound) :=
      unanswered_meets (queryFrame_other _ _) between (unanswered_query built handled)
        ⟨listening.inApp, listening.selfAddr, listening.home⟩ rfl
    refine Meets.bind unanswered fun _ middle between => ?_
    exact (recv_between 4 hcanHmsFlashCrc16Replay between).bind fun _ _ behind => meets_pure behind

theorem checkCache_meets {image : List UInt8} {cacheFile : Option (List UInt8)}
    (between : Between faults bcon flash (fun _ => True) n) :
    Meets (checkCache faults bcon image cacheFile) n
      (fun _ => Between faults bcon flash (fun _ => True)) (fun _ => Sound) := by
  refine (enterBootLoader_meets between).bind fun _ entered between => ?_
  cases cacheFile with
  | none => exact meets_pure between
  | some cached =>
      refine (loadCrc16_between (sizeOf16 image) between).bind ?_
      intro crc last between
      exact meets_ite (fun _ => meets_pure between) fun _ => meets_pure between

theorem writeEepromByte_sound (address : Nat) (data : UInt8) :
    Preserves (Sound (c := c)) (fun _ => True) (writeEepromByte faults bcon address data) :=
  fun _ sound => (send_sound (eepromFrame_other _ _ _) sound).bind fun _ sent sound =>
    ((recv_sound 2 hcanHmsInternalEepromWriteAck).bind fun _ => preserves_pure) sent sound

theorem writeEepromWordLe_sound (address : Nat) (data : UInt16) :
    Preserves (Sound (c := c)) (fun _ => True) (writeEepromWordLe faults bcon address data) :=
  (writeEepromByte_sound address _).bind fun _ => writeEepromByte_sound (address + 1) _

theorem verify_sound (image : List UInt8) :
    Preserves (Sound (c := c)) (fun _ => True) (verify faults bcon image) := by
  have load : Preserves (Sound (c := c)) (fun _ => True)
      (loadCrc16FromBoard faults bcon (sizeOf16 image)) :=
    fun _ sound => (send_sound (queryFrame_other _ _) sound).bind fun _ sent sound =>
      ((recv_sound 4 hcanHmsFlashCrc16Replay).bind fun _ => preserves_pure) sent sound
  refine load.bind fun crc => ?_
  refine ((writeEepromWordLe_sound _ _).bind fun _ => writeEepromWordLe_sound _ _).bind fun _ => ?_
  exact preserves_ite (fun _ => preserves_throw trivial) fun _ => preserves_pure

/-- One attempt: an error of the transport comes from the blocks. -/
theorem attempt_meets {image : List UInt8} {cached : Option (List UInt8)}
    (between : Between faults bcon flash (fun _ => True) n) :
    Meets (attempt faults bcon image cached) n (fun _ => Sound) (fun error last => Sound last ∧
      ((∃ message, error = .transport message) →
        ∃ next, Between faults bcon next (fun _ => True) last)) := by
  have size := (sizeOf16 image).toNat_lt
  have blocks := Nat.div_mul_le_self (sizeOf16 image).toNat c.pageSize
  have sent : Meets (flashBlocks faults bcon image cached
      ((sizeOf16 image).toNat / c.pageSize) 0) n _ _ :=
    flashBlocks_meets flash (by rw [Nat.zero_add]; omega) between
  refine Meets.bind (sent.mono (fun _ _ holds => holds) fun error last failed =>
    ⟨failed.sound, fun _ => failed.between⟩) ?_
  rintro _ flashed ⟨_, behind, _⟩
  have checked : Meets (tryCatch (verify faults bcon image) ignoreTransport) flashed
      (fun _ => Sound) (fun error last => Sound last ∧ ((∃ message, error = .transport message) →
        ∃ next, Between faults bcon next (fun _ => True) last)) := by
    refine (verify_sound image flashed behind.attending.sound).tryCatch fun error last failed => ?_
    cases error with
    | transport message => exact meets_pure failed.2
    | traceable message => exact meets_throw ⟨failed.2, fun ⟨_, wrong⟩ => by cases wrong⟩
    | assertion => exact meets_throw ⟨failed.2, fun ⟨_, wrong⟩ => by cases wrong⟩
  exact checked.bind fun _ verified sound =>
    send_sound (commandFrame_other (by decide) (by decide)) sound

theorem tries_meets {image : List UInt8} {cached : Option (List UInt8)} {left : Nat}
    (between : Between faults bcon flash (fun _ => True) n) :
    Meets (tries faults bcon image cached left) n (fun _ => Sound) (fun _ => Sound) := by
  induction left generalizing flash n with
  | zero => exact meets_pure between.attending.sound
  | succ left ih =>
      rw [tries]
      have attempted : Meets (do attempt faults bcon image cached; pure true) n
          (fun _ => Sound) _ :=
        (attempt_meets between).bind fun _ _ sound => meets_pure sound
      refine attempted.tryCatch fun error last failed => ?_
      cases error with
      | transport message =>
          obtain ⟨next, behind⟩ := failed.2 ⟨message, rfl⟩
          exact (enterBootLoader_meets behind).bind fun _ _ entered => ih entered
      | traceable message => exact meets_throw failed.1
      | assertion => exact meets_throw failed.1

theorem cmdFlash_meets {incremental : Bool} {image : List UInt8}
    {cacheFile : Option (List UInt8)} (between : Between faults bcon flash (fun _ => True) n) :
    Meets (cmdFlash faults bcon incremental image cacheFile) n (fun _ => Sound)
      (fun _ => Sound) := by
  cases incremental with
  | false => exact tries_meets between
  | true => exact (checkCache_meets between).bind fun _ _ entered => tries_meets entered

end Parts

theorem Ready.between {n : Net c} (ready : Ready bcon n) :
    Between faults bcon n.board.flash (fun _ => True) n where
  attending := by
    refine ⟨ready.listening, rfl, fun _ line member => ?_, fun early => ?_⟩
    · rw [ready.acked] at member
      cases member
    · rw [ready.premature] at early
      cases early
  inbox := fun _ => ready.inbox
  kept := fun _ => trivial

/-- In a run without a premature acknowledgement the buffer held every line whose
acknowledgement the host has received. -/
theorem acknowledged_lines (faults : Faults) (bcon : BoardConnection) (incremental : Bool)
    (image : List UInt8) (cacheFile : Option (List UInt8)) {n last : Net c} (ready : Ready bcon n)
    {outcome : Except FlashError Bool}
    (result : cmdFlash faults bcon incremental image cacheFile n = some (outcome, last))
    (onTime : last.premature = false) : ∀ line ∈ last.acked, line.held = line.sent := by
  have meets : Meets (cmdFlash faults bcon incremental image cacheFile) n _ _ :=
    cmdFlash_meets ready.between
  cases outcome with
  | ok done => exact meets.ok result onTime
  | error error => exact meets.error result onTime

def sampleConnection : BoardConnection := ⟨0x3f, 5⟩

def sampleLoader (flash : Nat → UInt8) : BootLoader .atmega32 where
  flash := memoryOf flash
  eeprom := fun address => if address = eeprSelfAddr then 5 else 0
  selfAddr := 5
  flashBuffer := Vector.replicate 128 0
  lineCounter := 0
  bootCounter := 0
  data := Vector.replicate 8 0
  inApp := false

def sampleNet (flash : Nat → UInt8) : Net .atmega32 where
  board := sampleLoader flash
  inbox := []
  sent := 0
  begun := false
  premature := false
  acked := []

def sampleImage : List UInt8 := (List.range 128).map fun i => UInt8.ofNat (i + 1)

theorem sampleImage_length : sampleImage.length = 128 := by
  rw [sampleImage, List.length_map, List.length_range]

theorem sampleNet_ready (flash : Nat → UInt8) : Ready sampleConnection (sampleNet flash) where
  listening := ⟨rfl, rfl,
    (by decide : ((5 : UInt8).toUInt16 ||| ((0 : UInt8).toUInt16 <<< 8)) &&& 0x3ff = 5)⟩
  stopped := rfl
  inbox := rfl
  acked := rfl
  premature := rfl

/-- The line breaks down behind the first `frames` frames. -/
def breaksDown (frames : Nat) : Faults := fun k =>
  if k < frames then Fault.absent else { Fault.absent with requestLost := true }

/-- One frame is lost. -/
def loses (number : Nat) : Faults := fun k => { Fault.absent with requestLost := k == number }

theorem acknowledged_lines_sample : ∃ outcome last,
    cmdFlash (breaksDown 4) sampleConnection false sampleImage none (sampleNet fun _ => 0xff) =
      some (outcome, last) ∧
    last.acked.length = 1 ∧ ∀ line ∈ last.acked, line.held = line.sent := by
  have evaluated : ((cmdFlash (breaksDown 4) sampleConnection false sampleImage none
      (sampleNet fun _ => 0xff)).any fun pair =>
        pair.2.acked.length == 1 && !pair.2.premature) = true := by decide +kernel
  obtain ⟨⟨outcome, last⟩, result, passed⟩ := exists_of_any evaluated
  rw [Bool.and_eq_true, beq_iff_eq, Bool.not_eq_true'] at passed
  exact ⟨outcome, last, result, passed.1, acknowledged_lines (breaksDown 4) sampleConnection false
    sampleImage none (sampleNet_ready _) result passed.2⟩

/-- The first frame of the second line is lost, and its second frame is acknowledged. -/
theorem line_acknowledged_too_early : ∃ outcome last,
    attempt (loses 4) sampleConnection sampleImage none (sampleNet fun _ => 0xff) =
      some (outcome, last) ∧
    ∃ line ∈ last.acked, line.held ≠ line.sent := by
  have evaluated : ((attempt (loses 4) sampleConnection sampleImage none
      (sampleNet fun _ => 0xff)).any fun pair =>
        pair.2.acked.any fun line => line.held != line.sent) = true := by decide +kernel
  obtain ⟨⟨outcome, last⟩, result, passed⟩ := exists_of_any evaluated
  obtain ⟨line, member, differs⟩ := List.any_eq_true.mp passed
  exact ⟨outcome, last, result, line, member, bne_iff_ne.mp differs⟩

end Hcan.Flash
