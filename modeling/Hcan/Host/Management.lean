import Hcan.Canix.Hms
import Hcan.Host.Connection
import Hcan.Library.Overdue

/-!
# The management requests of the host

The functions of the board driver that talk to the management service of a board, over a line that
may lose frames, delay them and change their order, and that also carries the frames of other
boards.  A function that returns has done to the EEPROM what it does on the board alone.  After an
answer that did not come in time the connection stays behind: a read then returns the byte of an
earlier request.
-/

namespace Hcan.Host

open Hcan.Canix Hcan.Library

variable {mcu : Mcu}

/-- A connection to one board; with the destination 0 the sender of a frame is not checked. -/
structure ManagedBoard extends BoardConnection where
  addressed : dst ≠ 0

/-- The requests to the management service that wait for an answer. -/
inductive HmsRequest where
  | ping
  | deviceState
  | deviceType
  | eepromWrite (address : UInt16) (value : UInt8)
  | eepromRead (address : UInt16)
  | uptime
  | buildVersion
  deriving DecidableEq, Repr

namespace HmsRequest

/-- The size and the bytes of the frame that the `send_…` function sends. -/
def payload : HmsRequest → UInt8 × Vector UInt8 8
  | .ping => (2, hmsBytes hcanHmsPingRequest 0 0 0 0 0 0)
  | .deviceState => (2, hmsBytes hcanHmsDeviceStateRequest 0 0 0 0 0 0)
  | .deviceType => (2, hmsBytes hcanHmsDeviceTypeRequest 0 0 0 0 0 0)
  | .eepromWrite address value => (5, hmsBytes hcanHmsInternalEepromWrite
      (pointerLo address.toNat) (pointerHi address.toNat) value 0 0 0)
  | .eepromRead address => (4, hmsBytes hcanHmsInternalEepromReadRequest
      (pointerLo address.toNat) (pointerHi address.toNat) 0 0 0 0)
  | .uptime => (2, hmsBytes hcanHmsUptimeQuery 0 0 0 0 0 0)
  | .buildVersion => (2, hmsBytes hcanHmsBuildVersionQuery 0 0 0 0 0 0)

def frame (bcon : BoardConnection) (request : HmsRequest) : CanixFrame where
  src := bcon.src
  dst := bcon.dst
  proto := hcanProtoSfp
  size := request.payload.1
  data := request.payload.2

/-- The size and the command that the `recv_…` function of the request expects. -/
def expected : HmsRequest → UInt8 × UInt8
  | .ping => (2, hcanHmsPingReplay)
  | .deviceState => (3, hcanHmsDeviceStateReplay)
  | .deviceType => (4, hcanHmsDeviceTypeReplay)
  | .eepromWrite _ _ => (2, hcanHmsInternalEepromWriteAck)
  | .eepromRead _ => (3, hcanHmsInternalEepromReadReplay)
  | .uptime => (6, hcanHmsUptimeReplay)
  | .buildVersion => (4, hcanHmsBuildVersionReplay)

/-- The tests of the `recv_…` functions on the frame they have taken. -/
def accepts (bcon : BoardConnection) (request : HmsRequest) (frame : CanixFrame) :
    Except HostError CanixFrame :=
  if bcon.dst ≠ 0 ∧ frame.src ≠ bcon.dst then
    .error (.transport (text "unexpected packet received: src is wrong"))
  else if frame.size ≠ request.expected.1 then
    .error (.transport (text "unexpected size in packet received"))
  else if frame.data[0] ≠ hcanSrvHms then
    .error (.transport (text "unexpected packet received: service id is wrong"))
  else if frame.data[1] ≠ request.expected.2 then
    .error (.transport (text "unexpected packet received: commmand id is wrong"))
  else .ok frame

/-- The write that a request asks for. -/
def change (mcu : Mcu) (cell : Nat → UInt8) : HmsRequest → Nat → UInt8
  | .eepromWrite address value => Function.update cell (mcu.cellOf address.toNat) value
  | .ping | .deviceState | .deviceType | .eepromRead _ | .uptime | .buildVersion => cell

/-- The memory after the requests. -/
def memory (mcu : Mcu) (cell : Nat → UInt8) (requests : List HmsRequest) : Nat → UInt8 :=
  requests.foldl (change mcu) cell

/-- The board behind the request. -/
def served (b : HmsBoard mcu) : HmsRequest → HmsBoard mcu
  | .eepromWrite address value => { b with ee := eepromChangeByte b.ee address.toNat value }
  | .ping | .deviceState | .deviceType | .eepromRead _ | .uptime | .buildVersion => b

/-- The bytes of the answer. -/
def answerBytes (firmware : Firmware) (b : HmsBoard mcu) : HmsRequest → Vector UInt8 8
  | .ping => hmsBytes hcanHmsPingReplay 0 0 0 0 0 0
  | .deviceState => hmsBytes hcanHmsDeviceStateReplay hcanHmsDevStateApplication 0 0 0 0 0
  | .deviceType => hmsBytes hcanHmsDeviceTypeReplay firmware.mcuType
      (eepromReadByte b.ee eeprBoardType) 0 0 0 0
  | .eepromWrite _ _ => hmsBytes hcanHmsInternalEepromWriteAck 0 0 0 0 0 0
  | .eepromRead address => hmsBytes hcanHmsInternalEepromReadReplay
      (eepromReadByte b.ee address.toNat) 0 0 0 0 0
  | .uptime => hmsBytes hcanHmsUptimeReplay (b.counters.uptimeSec >>> 24).toUInt8
      (b.counters.uptimeSec >>> 16).toUInt8 (b.counters.uptimeSec >>> 8).toUInt8
      b.counters.uptimeSec.toUInt8 0 0
  | .buildVersion => hmsBytes hcanHmsBuildVersionReplay (firmware.buildver >>> 8).toUInt8
      firmware.buildver.toUInt8 0 0 0 0

/-- The answer has the size and the command that the client waits for. -/
def answer (firmware : Firmware) (bcon : BoardConnection) (b : HmsBoard mcu)
    (request : HmsRequest) : CanixFrame where
  src := bcon.dst
  dst := bcon.src
  proto := hcanProtoSfp
  size := request.expected.1
  data := request.answerBytes firmware b

variable {firmware : Firmware} {bcon : BoardConnection} {b : HmsBoard mcu} {request : HmsRequest}

theorem handler_request : canixSfpHmsHandler firmware bcon.dst b (request.frame bcon) =
    some (request.served b, some (request.answer firmware bcon b)) := by
  have address_bytes : ∀ address : UInt16,
      framePointer (pointerHi address.toNat) (pointerLo address.toNat) = address.toNat :=
    fun address => framePointer_bytes address.toNat_lt
  cases request with
  | eepromWrite address value =>
      change some (_, _) = some (({ b with ee := eepromChangeByte b.ee address.toNat value } :
        HmsBoard mcu), _)
      rw [← address_bytes address]
      rfl
  | eepromRead address =>
      change some (b, some (hmsAnswer bcon.dst ((eepromRead address).frame bcon) 3
        (hmsBytes hcanHmsInternalEepromReadReplay (eepromReadByte b.ee
          (framePointer (pointerHi address.toNat) (pointerLo address.toNat))) 0 0 0 0 0))) = _
      rw [address_bytes address]
      rfl
  | ping => rfl
  | deviceState => rfl
  | deviceType => rfl
  | uptime => rfl
  | buildVersion => rfl

theorem served_cell : (request.served b).ee.cell = change mcu b.ee.cell request := by
  cases request with
  | eepromWrite address value => exact eepromChangeByte_cell b.ee address.toNat value
  | ping | deviceState | deviceType | eepromRead _ | uptime | buildVersion => rfl

theorem answerBytes_service : (request.answerBytes firmware b)[0] = hcanSrvHms := by
  cases request <;> rfl

theorem answerBytes_command : (request.answerBytes firmware b)[1] = request.expected.2 := by
  cases request <;> rfl

theorem answer_kind : ((request.answer firmware bcon b).size,
    (request.answer firmware bcon b).data[1]) = request.expected :=
  Prod.ext rfl answerBytes_command

/-- An answer passes the tests of every request that expects one of its kind. -/
theorem accepts_answer {asker : HmsRequest} (same : request.expected = asker.expected) :
    asker.accepts bcon (request.answer firmware bcon b) = .ok (request.answer firmware bcon b) := by
  have service : (request.answer firmware bcon b).data[0] = hcanSrvHms := answerBytes_service
  obtain ⟨size, command⟩ := Prod.ext_iff.mp (answer_kind.trans same)
  rw [accepts, if_neg fun wrong => wrong.2 rfl, if_neg (not_not.mpr size),
    if_neg (not_not.mpr service), if_neg (not_not.mpr command)]

/-- A frame that passes is returned as it is, and has the size and the command expected. -/
theorem accepts_ok {taken frame : CanixFrame} (passed : request.accepts bcon frame = .ok taken) :
    taken = frame ∧ (frame.size, frame.data[1]) = request.expected := by
  unfold accepts at passed
  split_ifs at passed with source size service command
  cases passed
  exact ⟨rfl, Prod.ext (not_not.mp size) (not_not.mp command)⟩

theorem accepts_stray (board : ManagedBoard) {frame : CanixFrame}
    (foreign : frame.src ≠ board.dst) :
    request.accepts board.toBoardConnection frame =
      .error (.transport (text "unexpected packet received: src is wrong")) :=
  if_pos ⟨board.addressed, foreign⟩

/-- Only a read expects the answer of a read. -/
theorem read_of_expected (same : request.expected.2 = hcanHmsInternalEepromReadReplay) :
    ∃ address, request = .eepromRead address := by
  cases request with
  | eepromRead address => exact ⟨address, rfl⟩
  | eepromWrite address value =>
      have other : hcanHmsInternalEepromWriteAck ≠ hcanHmsInternalEepromReadReplay := by decide
      exact absurd same other
  | ping | deviceState | deviceType | uptime | buildVersion => exact absurd same (by decide)

end HmsRequest

/-! ## The line -/

/-- The management service of a board.  Between two frames its counters change, not its EEPROM,
which only this host writes; other frames on the line come from other boards or are for other
receivers. -/
def hmsService (mcu : Mcu) (firmware : Firmware) (board : ManagedBoard) :
    Service (HmsBoard mcu) HmsRequest CanixFrame HostError where
  message := HmsRequest.frame board.toBoardConnection
  serves b message later answer :=
    canixSfpHmsHandler firmware board.dst b message = some (later, some answer)
  drifts b later := later.ee = b.ee
  taken message := message.dst == board.src
  accepts := HmsRequest.accepts board.toBoardConnection
  stray message := message.src ≠ board.dst ∨ message.dst ≠ board.src
  taken_answer := by
    intro b request later answer served
    rw [HmsRequest.handler_request] at served
    cases served
    exact beq_self_eq_true board.src
  stray_rejected := by
    rintro request other (foreign | elsewhere) taken
    · exact ⟨_, request.accepts_stray board foreign⟩
    · exact absurd (beq_iff_eq.mp taken) elsewhere

abbrev HmsLine (mcu : Mcu) := Line (HmsBoard mcu) HmsRequest CanixFrame HostError

section Line

variable {firmware : Firmware} {board : ManagedBoard} {first last : HmsBoard mcu}
  {turns : List (HmsRequest × CanixFrame)}

theorem serves_request {b later : HmsBoard mcu} {request : HmsRequest} {answer : CanixFrame}
    (served : (hmsService mcu firmware board).serves b
      ((hmsService mcu firmware board).message request) later answer) :
    later = request.served b ∧ answer = request.answer firmware board.toBoardConnection b := by
  change canixSfpHmsHandler firmware board.dst b (request.frame board.toBoardConnection) = _
    at served
  rw [HmsRequest.handler_request] at served
  cases served
  exact ⟨rfl, rfl⟩

theorem memory_snoc (cell : Nat → UInt8) (requests : List HmsRequest) (request : HmsRequest) :
    HmsRequest.memory mcu cell (requests ++ [request]) =
      HmsRequest.change mcu (HmsRequest.memory mcu cell requests) request := by
  rw [HmsRequest.memory, List.foldl_append, List.foldl_cons, List.foldl_nil, HmsRequest.memory]

/-- The board has made the changes of the requests, in their order. -/
theorem dialogue_memory (done : (hmsService mcu firmware board).Dialogue first turns last) :
    last.ee.cell = HmsRequest.memory mcu first.ee.cell (turns.map Prod.fst) := by
  induction done with
  | nil => rfl
  | drift before changed ih => rw [← ih, show _ = _ from changed]
  | @turn middle last turns request answer before served ih =>
      obtain ⟨rfl, -⟩ := serves_request served
      rw [HmsRequest.served_cell, ih, List.map_append, List.map_singleton, memory_snoc]

/-- Each answer is given on the memory that the requests before it have left. -/
theorem dialogue_answers (done : (hmsService mcu firmware board).Dialogue first turns last)
    {k : Nat} {turn : HmsRequest × CanixFrame} (at_k : turns[k]? = some turn) :
    ∃ b : HmsBoard mcu,
      b.ee.cell = HmsRequest.memory mcu first.ee.cell ((turns.take k).map Prod.fst) ∧
        turn.2 = turn.1.answer firmware board.toBoardConnection b := by
  induction done with
  | nil => cases at_k
  | drift before changed ih => exact ih at_k
  | @turn middle last turns request answer before served ih =>
      rcases lt_or_ge k turns.length with old | late
      · rw [List.getElem?_append_left old] at at_k
        rw [List.take_append_of_le_length (Nat.le_of_lt old)]
        exact ih at_k
      · rw [List.getElem?_append_right late] at at_k
        obtain ⟨at_end, -⟩ := List.getElem?_eq_some_iff.mp at_k
        rw [List.length_singleton] at at_end
        obtain rfl : k = turns.length := by omega
        rw [Nat.sub_self, List.getElem?_cons_zero, Option.some.injEq] at at_k
        subst at_k
        refine ⟨middle, ?_, (serves_request served).2⟩
        rw [List.take_left, dialogue_memory before]

end Line

end Hcan.Host
