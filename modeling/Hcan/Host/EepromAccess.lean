import Hcan.Host.Management

/-!
# EEPROM access over the line

The functions of the board driver as programs of requests, what they do to the memory of the board
when they return, and which bytes the reads return after an answer has come too late.
-/

namespace Hcan.Host

open Hcan.Canix Hcan.Library

variable {mcu : Mcu}

/-- A function of the driver: it returns a value, or sends a request and goes on with the frame
that has passed the tests.  An exception of these ends the function. -/
inductive Driver (α : Type) where
  | done (value : α)
  | call (request : HmsRequest) (next : CanixFrame → Driver α)

namespace Driver

variable {α β : Type}

def bind : Driver α → (α → Driver β) → Driver β
  | .done value, rest => rest value
  | .call request next, rest => .call request fun frame => (next frame).bind rest

instance : Monad Driver where
  pure := .done
  bind := Driver.bind

/-- The function sends the requests, gets the frames and returns the value. -/
inductive Follows : Driver α → List (HmsRequest × CanixFrame) → α → Prop where
  | done (value : α) : Follows (.done value) [] value
  | call {request : HmsRequest} {next : CanixFrame → Driver α} {frame : CanixFrame}
      {turns : List (HmsRequest × CanixFrame)} {value : α}
      (rest : Follows (next frame) turns value) :
      Follows (.call request next) ((request, frame) :: turns) value

/-- On the line every request of the function has been answered, and it has returned the value. -/
def Returns (p : Driver α) (line : HmsLine mcu) (value : α) : Prop :=
  ∃ turns, line.asked = turns.map Prod.fst ∧
    line.results = turns.map (fun turn => some (.ok turn.2)) ∧ p.Follows turns value

/-- What holds of the value and the memory whenever the function runs on the board alone. -/
def Ensures (mcu : Mcu) (firmware : Firmware) (board : ManagedBoard) (p : Driver α)
    (cell : Nat → UInt8)
    (after : α → (Nat → UInt8) → Prop) : Prop :=
  ∀ (first last : HmsBoard mcu) (turns : List (HmsRequest × CanixFrame)) (value : α),
    first.ee.cell = cell → (hmsService mcu firmware board).Dialogue first turns last →
      p.Follows turns value → after value last.ee.cell

end Driver

def readEepromByte (address : UInt16) : Driver UInt8 :=
  .call (.eepromRead address) fun frame => .done frame.data[2]

def writeEepromByte (address : UInt16) (data : UInt8) : Driver PUnit :=
  .call (.eepromWrite address data) fun _ => .done ⟨⟩

def readEepromWordLe (address : UInt16) : Driver UInt16 := do
  let low ← readEepromByte address
  let high ← readEepromByte (address + 1)
  pure (UInt16.ofNat (framePointer high low))

def writeEepromWordLe (address data : UInt16) : Driver PUnit := do
  writeEepromByte address (pointerLo data.toNat)
  writeEepromByte (address + 1) (pointerHi data.toNat)

def cmdGetaddress : Driver UInt16 := readEepromWordLe eeprSelfAddr

/-- The text is what the function prints. -/
def cmdSetaddress (address : UInt16) : Driver Text := do
  writeEepromWordLe eeprSelfAddr address
  let written ← readEepromWordLe eeprSelfAddr
  pure (if written ≠ address then text "error: value written to eeprom does not match read"
    else [])

/-- The bytes of one line of a dump. -/
def dumpBytes : Nat → UInt16 → Driver (List UInt8)
  | 0, _ => pure []
  | count + 1, address => do
      let byte ← readEepromByte address
      let bytes ← dumpBytes count (address + 1)
      pure (byte :: bytes)

/-- The lines of `cmd_dump_ee`: the address in front of sixteen bytes. -/
def dumpLines : Nat → UInt16 → Driver (List (UInt16 × List UInt8))
  | 0, _ => pure []
  | count + 1, address => do
      let bytes ← dumpBytes 16 address
      let lines ← dumpLines count (address + 16)
      pure ((address, bytes) :: lines)

def cmdDumpEe (address : UInt16) : Driver (List (UInt16 × List UInt8)) := dumpLines 20 address

/-! ## The memory -/

section Memory

variable {cell : Nat → UInt8}

/-- The two bytes of a word in the memory, low byte first. -/
def wordLe (mcu : Mcu) (cell : Nat → UInt8) (address : UInt16) : UInt16 :=
  UInt16.ofNat (framePointer (cell (mcu.cellOf (address + 1).toNat))
    (cell (mcu.cellOf address.toNat)))

def putWordLe (mcu : Mcu) (cell : Nat → UInt8) (address data : UInt16) : Nat → UInt8 :=
  Function.update (Function.update cell (mcu.cellOf address.toNat) (pointerLo data.toNat))
    (mcu.cellOf (address + 1).toNat) (pointerHi data.toNat)

theorem wordLe_putWordLe (address data : UInt16)
    (apart : mcu.cellOf address.toNat ≠ mcu.cellOf (address + 1).toNat) :
    wordLe mcu (putWordLe mcu cell address data) address = data := by
  rw [wordLe, putWordLe, Function.update_self, Function.update_of_ne apart, Function.update_self,
    framePointer_bytes data.toNat_lt, UInt16.ofNat_toNat]

/-- The bytes of the memory from an address on; behind the last address it starts again. -/
def bytesAt (mcu : Mcu) (cell : Nat → UInt8) (count : Nat) (address : UInt16) : List UInt8 :=
  (List.range count).map fun i => cell (mcu.cellOf (address + UInt16.ofNat i).toNat)

theorem bytesAt_succ (count : Nat) (address : UInt16) :
    bytesAt mcu cell (count + 1) address =
      cell (mcu.cellOf address.toNat) :: bytesAt mcu cell count (address + 1) := by
  rw [bytesAt, List.range_succ_eq_map, List.map_cons, List.map_map, bytesAt]
  congr 1
  · rw [show UInt16.ofNat 0 = 0 from rfl, UInt16.add_zero]
  · refine List.map_congr_left fun i _ => ?_
    rw [Function.comp_apply, Nat.succ_eq_add_one, UInt16.ofNat_add, UInt16.add_assoc,
      UInt16.add_comm 1]
    rfl

/-- The first two EEPROM cells behind the start flag are cells of their own. -/
theorem selfAddr_apart : mcu.cellOf eeprSelfAddr.toNat ≠ mcu.cellOf (eeprSelfAddr + 1).toNat := by
  have small := mcu.le_edsDataEnd
  have low : eeprSelfAddr.toNat = 2 := rfl
  have high : (eeprSelfAddr + 1).toNat = 3 := rfl
  rw [low, high, mcu.cellOf_of_le 2 (by omega), mcu.cellOf_of_le 3 (by omega)]
  decide

end Memory

namespace Driver

variable {α β : Type} {firmware : Firmware} {board : ManagedBoard} {cell : Nat → UInt8}
  {after : α → (Nat → UInt8) → Prop}

theorem follows_bind {p : Driver α} {rest : α → Driver β} {turns : List (HmsRequest × CanixFrame)}
    {result : β} (follows : (p >>= rest).Follows turns result) :
    ∃ front back value, turns = front ++ back ∧ p.Follows front value ∧
      (rest value).Follows back result := by
  change (p.bind rest).Follows turns result at follows
  induction p generalizing turns with
  | done value => exact ⟨[], turns, value, rfl, .done value, follows⟩
  | call request next ih =>
      cases follows with
      | @call _ _ frame turns _ later =>
          obtain ⟨front, back, value, rfl, inFront, inBack⟩ := ih frame later
          exact ⟨(request, frame) :: front, back, value, rfl, .call inFront, inBack⟩

theorem ensures_pure {value : α} (holds : after value cell) :
    (pure value : Driver α).Ensures mcu firmware board cell after := by
  intro first last turns result start done follows
  cases follows with
  | done => rwa [dialogue_memory done, start]

/-- The sequence rule. -/
theorem Ensures.bind {p : Driver α} {rest : α → Driver β} {afterwards : β → (Nat → UInt8) → Prop}
    (ensures : p.Ensures mcu firmware board cell after)
    (continues : ∀ value later, after value later →
      (rest value).Ensures mcu firmware board later afterwards) :
    (p >>= rest).Ensures mcu firmware board cell afterwards := by
  intro first last turns result start done follows
  obtain ⟨front, back, value, rfl, inFront, inBack⟩ := follows_bind follows
  obtain ⟨middle, doneFront, doneBack⟩ := done.split
  have between := ensures first middle front value start doneFront inFront
  exact continues value middle.ee.cell between middle last back result rfl doneBack inBack

theorem Ensures.mono {p : Driver α} {afterwards : α → (Nat → UInt8) → Prop}
    (ensures : p.Ensures mcu firmware board cell after)
    (weaker : ∀ value later, after value later → afterwards value later) :
    p.Ensures mcu firmware board cell afterwards :=
  fun first last turns value start done follows =>
    weaker value last.ee.cell (ensures first last turns value start done follows)

theorem ensures_readEepromByte (address : UInt16) :
    (readEepromByte address).Ensures mcu firmware board cell fun value later =>
      later = cell ∧ value = cell (mcu.cellOf address.toNat) := by
  intro first last turns value start done follows
  cases follows with
  | @call _ _ frame turns _ rest =>
      cases rest with
      | done =>
          obtain ⟨b, memory, answer⟩ := dialogue_answers done (k := 0) rfl
          have before : b.ee.cell = cell := memory.trans start
          have byte : frame.data[2] = cell (mcu.cellOf address.toNat) := by
            rw [show frame = _ from answer, ← before]
            rfl
          refine ⟨?_, byte⟩
          rw [dialogue_memory done, start]
          rfl

theorem ensures_writeEepromByte (address : UInt16) (data : UInt8) :
    (writeEepromByte address data).Ensures mcu firmware board cell fun _ later =>
      later = Function.update cell (mcu.cellOf address.toNat) data := by
  intro first last turns value start done follows
  cases follows with
  | @call _ _ frame turns _ rest =>
      cases rest with
      | done =>
          rw [dialogue_memory done, start]
          rfl

theorem ensures_readEepromWordLe (address : UInt16) :
    (readEepromWordLe address).Ensures mcu firmware board cell fun value later =>
      later = cell ∧ value = wordLe mcu cell address := by
  refine (ensures_readEepromByte address).bind ?_
  rintro low _ ⟨rfl, rfl⟩
  refine (ensures_readEepromByte (address + 1)).bind ?_
  rintro high _ ⟨rfl, rfl⟩
  exact ensures_pure ⟨rfl, rfl⟩

theorem ensures_writeEepromWordLe (address data : UInt16) :
    (writeEepromWordLe address data).Ensures mcu firmware board cell fun _ later =>
      later = putWordLe mcu cell address data := by
  refine (ensures_writeEepromByte address (pointerLo data.toNat)).bind ?_
  rintro _ _ rfl
  exact ensures_writeEepromByte (address + 1) (pointerHi data.toNat)

theorem ensures_dumpBytes (count : Nat) (address : UInt16) :
    (dumpBytes count address).Ensures mcu firmware board cell fun bytes later =>
      later = cell ∧ bytes = bytesAt mcu cell count address := by
  induction count generalizing address with
  | zero => exact ensures_pure ⟨rfl, rfl⟩
  | succ count ih =>
      refine (ensures_readEepromByte address).bind ?_
      rintro byte _ ⟨rfl, rfl⟩
      refine (ih (address + 1)).bind ?_
      rintro bytes _ ⟨rfl, rfl⟩
      exact ensures_pure ⟨rfl, (bytesAt_succ count address).symm⟩

theorem ensures_dumpLines (count : Nat) (address : UInt16) :
    (dumpLines count address).Ensures mcu firmware board cell fun lines later =>
      later = cell ∧ lines = (List.range count).map fun i =>
        (address + UInt16.ofNat (16 * i),
          bytesAt mcu cell 16 (address + UInt16.ofNat (16 * i))) := by
  induction count generalizing address with
  | zero => exact ensures_pure ⟨rfl, rfl⟩
  | succ count ih =>
      refine (ensures_dumpBytes 16 address).bind ?_
      rintro bytes _ ⟨rfl, rfl⟩
      refine (ih (address + 16)).bind ?_
      rintro lines _ ⟨rfl, rfl⟩
      refine ensures_pure ⟨rfl, ?_⟩
      rw [List.range_succ_eq_map, List.map_cons, List.map_map, Nat.mul_zero,
        show UInt16.ofNat 0 = 0 from rfl, UInt16.add_zero]
      congr 1
      refine List.map_congr_left fun i _ => ?_
      have next : address + 16 + UInt16.ofNat (16 * i) =
          address + UInt16.ofNat (16 * (i + 1)) := by
        rw [Nat.mul_add, Nat.mul_one, UInt16.ofNat_add, UInt16.add_assoc,
          UInt16.add_comm (UInt16.ofNat (16 * i))]
        rfl
      rw [Function.comp_apply, Nat.succ_eq_add_one, next]

theorem ensures_cmdSetaddress (address : UInt16) :
    (cmdSetaddress address).Ensures mcu firmware board cell fun message later =>
      message = [] ∧ later = putWordLe mcu cell eeprSelfAddr address := by
  refine (ensures_writeEepromWordLe eeprSelfAddr address).bind ?_
  rintro _ _ rfl
  refine (ensures_readEepromWordLe eeprSelfAddr).bind ?_
  rintro written _ ⟨rfl, rfl⟩
  refine ensures_pure ⟨?_, rfl⟩
  rw [wordLe_putWordLe eeprSelfAddr address selfAddr_apart, if_neg (not_not.mpr rfl)]

end Driver

section Line

variable {α : Type} {firmware : Firmware} {board : ManagedBoard} {line last : HmsLine mcu}
  {events : List (LineEvent HmsRequest CanixFrame)} {p : Driver α} {value : α}

/-- What the host has made of the answers of the board is these answers. -/
theorem heard_dialogue {first final : HmsBoard mcu} {turns : List (HmsRequest × CanixFrame)}
    (done : (hmsService mcu firmware board).Dialogue first turns final) :
    (hmsService mcu firmware board).heard turns = turns.map fun turn => some (.ok turn.2) := by
  refine List.map_congr_left fun turn inside => ?_
  obtain ⟨k, at_k⟩ := List.mem_iff_getElem?.mp inside
  obtain ⟨b, -, answer⟩ := dialogue_answers done at_k
  change some (turn.1.accepts board.toBoardConnection turn.2) = some (.ok turn.2)
  rw [answer, HmsRequest.accepts_answer rfl]

theorem returns_answered (returns : p.Returns last value) :
    (∀ result ∈ last.results, Service.Answered result) ∧
      last.results.length = last.asked.length := by
  obtain ⟨turns, asked, results, -⟩ := returns
  refine ⟨fun result inside => ?_, ?_⟩
  · rw [results] at inside
    obtain ⟨turn, -, rfl⟩ := List.mem_map.mp inside
    exact ⟨turn.2, rfl⟩
  · rw [results, asked, List.length_map, List.length_map]

/-- The answers that a function has taken are those of its own dialogue with the board. -/
theorem returns_dialogue (quiet : (hmsService mcu firmware board).Quiet line)
    (run : Run (hmsService mcu firmware board).Step line events last)
    (returns : p.Returns last value) :
    ∃ turns, p.Follows turns value ∧
      (hmsService mcu firmware board).Dialogue line.server turns last.server := by
  obtain ⟨answered, idle⟩ := returns_answered returns
  obtain ⟨turns, asked, results, follows⟩ := returns
  obtain ⟨own, asked_own, results_own, done, -⟩ :=
    Service.dialogue_of_answered quiet run answered idle
  have requests : turns.map Prod.fst = own.map Prod.fst := asked.symm.trans asked_own
  have frames : turns.map Prod.snd = own.map Prod.snd := by
    have both : turns.map (fun turn => some (Except.ok turn.2)) =
        own.map fun turn => some (Except.ok turn.2 : Except HostError CanixFrame) := by
      rw [← results, results_own, heard_dialogue done]
    have injective : Function.Injective fun frame : CanixFrame =>
        some (Except.ok frame : Except HostError CanixFrame) := by
      intro a b same
      cases same
      rfl
    refine List.map_injective_iff.mpr injective ?_
    rw [List.map_map, List.map_map]
    exact both
  have same : turns = own :=
    (List.zip_of_prod requests frames).trans (List.zip_of_prod rfl rfl).symm
  exact ⟨turns, follows, same ▸ done⟩

/-- Whatever the line has lost, delayed or mixed up: a function of the driver that returns has run
as on the board alone, and leaves no frame of its own on the line. -/
theorem returns_alone (quiet : (hmsService mcu firmware board).Quiet line)
    (run : Run (hmsService mcu firmware board).Step line events last)
    (returns : p.Returns last value) :
    ∃ turns, p.Follows turns value ∧
      (hmsService mcu firmware board).Dialogue line.server turns last.server ∧
      last.toServer = [] ∧
      ∀ frame ∈ last.toClient, frame.src ≠ board.dst ∨ frame.dst ≠ board.src := by
  obtain ⟨answered, idle⟩ := returns_answered returns
  obtain ⟨-, -, -, -, toServer, strays⟩ := Service.dialogue_of_answered quiet run answered idle
  obtain ⟨turns, follows, done⟩ := returns_dialogue quiet run returns
  exact ⟨turns, follows, done, toServer, strays⟩

/-- A board with the address 130 whose cells hold their own numbers, and a host behind it. -/
def numberedBoard : HmsBoard atmega32 where
  ee := .powerUp UInt8.ofNat
  debugLevel := 0
  counters := ⟨0, 0, 0, 0, 0, 0⟩

def board130 : ManagedBoard where
  src := 901
  dst := 130
  addressed := by decide

def numberedLine : HmsLine atmega32 := ⟨numberedBoard, [], [], [], []⟩

theorem numberedLine_quiet (firmware : Firmware) :
    (hmsService atmega32 firmware board130).Quiet numberedLine :=
  ⟨rfl, rfl, rfl, fun _ inside => (List.not_mem_nil inside).elim⟩

variable (firmware board) in
/-- One request on a line that loses nothing. -/
theorem exchange_run (b : HmsBoard mcu) {asked : List HmsRequest}
    {results : List (Option (Except HostError CanixFrame))} (idle : results.length = asked.length)
    (request : HmsRequest) :
    Run (hmsService mcu firmware board).Step ⟨b, [], [], asked, results⟩
      [.ask request, .serve 0, .arrive 0]
      ⟨request.served b, [], [], asked ++ [request],
        results ++ [some (.ok (request.answer firmware board.toBoardConnection b))]⟩ := by
  have answered : (hmsService mcu firmware board).serves b
      (request.frame board.toBoardConnection) (request.served b)
      (request.answer firmware board.toBoardConnection b) := HmsRequest.handler_request
  have taken : (hmsService mcu firmware board).taken
      (request.answer firmware board.toBoardConnection b) = true := beq_self_eq_true board.src
  have passed : (hmsService mcu firmware board).accepts request
      (request.answer firmware board.toBoardConnection b) = .ok _ := HmsRequest.accepts_answer rfl
  rw [← passed]
  exact .cons (.ask request idle) (.cons (.serve_head answered)
    (.single (.arrive_head idle taken)))

variable (firmware board) in
/-- On a line that loses nothing each function of the driver gets its answers. -/
theorem returns_run (p : Driver α) (b : HmsBoard mcu) {asked : List HmsRequest}
    {results : List (Option (Except HostError CanixFrame))}
    (idle : results.length = asked.length) :
    ∃ events turns value last, p.Follows turns value ∧
      Run (hmsService mcu firmware board).Step ⟨b, [], [], asked, results⟩ events
        ⟨last, [], [], asked ++ turns.map Prod.fst,
          results ++ turns.map fun turn => some (.ok turn.2)⟩ := by
  induction p generalizing b asked results with
  | done value =>
      refine ⟨[], [], value, b, .done value, ?_⟩
      rw [List.map_nil, List.map_nil, List.append_nil, List.append_nil]
      exact .nil _
  | call request next ih =>
      have answer := exchange_run firmware board b idle request
      have longer : (results ++ [some (Except.ok (request.answer firmware
          board.toBoardConnection b))]).length = (asked ++ [request]).length := by
        rw [List.length_append, List.length_append, idle]
        rfl
      obtain ⟨events, turns, value, last, follows, rest⟩ := ih _ (request.served b) longer
      refine ⟨[.ask request, .serve 0, .arrive 0] ++ events, (request, _) :: turns, value, last,
        .call follows, Run.append_iff.mpr ⟨_, answer, ?_⟩⟩
      rw [List.append_assoc, List.append_assoc] at rest
      exact rest

/-- On a line that loses nothing each function of the driver returns. -/
theorem exists_returns (firmware : Firmware) (board : ManagedBoard) (p : Driver α)
    (b : HmsBoard mcu) : ∃ events last value,
      Run (hmsService mcu firmware board).Step ⟨b, [], [], [], []⟩ events last ∧
        p.Returns last value := by
  have idle : ([] : List (Option (Except HostError CanixFrame))).length =
      ([] : List HmsRequest).length := rfl
  obtain ⟨events, turns, value, last, follows, run⟩ := returns_run firmware board p b idle
  exact ⟨events, _, value, run, turns, rfl, rfl, follows⟩

theorem ensures_setAndDump (address from_ : UInt16) {cell : Nat → UInt8} :
    Driver.Ensures mcu firmware board (do
      let message ← cmdSetaddress address
      let back ← cmdGetaddress
      let lines ← cmdDumpEe from_
      pure (message, back, lines)) cell fun result later =>
        result.1 = [] ∧ result.2.1 = address ∧ later = putWordLe mcu cell eeprSelfAddr address ∧
          result.2.2 = (List.range 20).map fun i => (from_ + UInt16.ofNat (16 * i),
            bytesAt mcu later 16 (from_ + UInt16.ofNat (16 * i))) := by
  refine (Driver.ensures_cmdSetaddress address).bind ?_
  rintro message _ ⟨rfl, rfl⟩
  refine (Driver.ensures_readEepromWordLe eeprSelfAddr).bind ?_
  rintro back _ ⟨rfl, rfl⟩
  refine (Driver.ensures_dumpLines 20 from_).bind ?_
  rintro lines _ ⟨rfl, rfl⟩
  exact Driver.ensures_pure
    ⟨rfl, wordLe_putWordLe eeprSelfAddr address selfAddr_apart, rfl, rfl⟩

/-- A frame of a board for a receiver. -/
def strayFrame (src dst : UInt16) : CanixFrame := ⟨src, dst, hcanProtoSfp, 2, .replicate 8 0⟩

/-- The address of the numbered board is read: its two bytes are 2 and 3.  A frame of another board
is lost before, and behind the answers a frame for another receiver stays on the line. -/
theorem returns_alone_getaddress : ∃ (events : List (LineEvent HmsRequest CanixFrame))
    (last : HmsLine atmega32) (turns : List (HmsRequest × CanixFrame)),
    Run (hmsService atmega32 ⟨1, 0⟩ board130).Step numberedLine
        (.stray (strayFrame 131 901) :: .loseAnswer 0 :: events ++ [.stray (strayFrame 130 902)])
        last ∧
      cmdGetaddress.Follows turns 770 ∧
      (hmsService atmega32 ⟨1, 0⟩ board130).Dialogue numberedBoard turns last.server ∧
      last.toServer = [] ∧ strayFrame 130 902 ∈ last.toClient ∧
      ∀ frame ∈ last.toClient, frame.src ≠ board130.dst ∨ frame.dst ≠ board130.src := by
  obtain ⟨events, ⟨server, toServer, toClient, asked, results⟩, value, run, returns⟩ :=
    exists_returns ⟨1, 0⟩ board130 cmdGetaddress numberedBoard
  have lost : (hmsService atmega32 ⟨1, 0⟩ board130).Step
      ⟨numberedBoard, [], [] ++ strayFrame 131 901 :: [], [], []⟩ (.loseAnswer 0)
      ⟨numberedBoard, [], [], [], []⟩ := .loseAnswer
  have whole : Run (hmsService atmega32 ⟨1, 0⟩ board130).Step numberedLine
      (.stray (strayFrame 131 901) :: .loseAnswer 0 :: events ++ [.stray (strayFrame 130 902)])
      ⟨server, toServer, toClient ++ [strayFrame 130 902], asked, results⟩ :=
    .cons (.stray (.inl (by decide))) <| .cons lost <|
      Run.append_iff.mpr ⟨_, run, .single (.stray (.inr (by decide)))⟩
  obtain ⟨turns, follows, done, toServer, strays⟩ :=
    returns_alone (numberedLine_quiet ⟨1, 0⟩) whole returns
  obtain ⟨-, rfl⟩ := Driver.ensures_readEepromWordLe eeprSelfAddr numberedBoard server turns
    value rfl done follows
  exact ⟨events, _, turns, whole, follows, done, toServer,
    List.mem_append_right _ (List.mem_singleton_self _), strays⟩

/-- Setting the address of a board, reading it back and dumping the EEPROM: if the calls return,
nothing is printed, the address is the one that was set, the dump shows the memory, and only the
two address bytes have changed. -/
theorem setaddress_on_line (quiet : (hmsService mcu firmware board).Quiet line)
    (run : Run (hmsService mcu firmware board).Step line events last)
    {address from_ back : UInt16} {message : Text} {lines : List (UInt16 × List UInt8)}
    (returns : Driver.Returns (do
      let message ← cmdSetaddress address
      let back ← cmdGetaddress
      let lines ← cmdDumpEe from_
      pure (message, back, lines)) last (message, back, lines)) :
    message = [] ∧ back = address ∧
      last.server.ee.cell = putWordLe mcu line.server.ee.cell eeprSelfAddr address ∧
      lines = (List.range 20).map fun i => (from_ + UInt16.ofNat (16 * i),
        bytesAt mcu last.server.ee.cell 16 (from_ + UInt16.ofNat (16 * i))) := by
  obtain ⟨turns, follows, done⟩ := returns_dialogue quiet run returns
  exact ensures_setAndDump address from_ line.server last.server turns (message, back, lines) rfl
    done follows

/-- The board gets the address 131; the dump begins in the address bytes. -/
theorem setaddress_on_line_numbered : ∃ last : HmsLine atmega32,
    last.server.ee.cell 2 = 131 ∧ last.server.ee.cell 3 = 0 ∧ last.server.ee.cell 4 = 4 := by
  obtain ⟨events, last, ⟨message, back, lines⟩, run, returns⟩ :=
    exists_returns ⟨1, 0⟩ board130 (do
      let message ← cmdSetaddress 131
      let back ← cmdGetaddress
      let lines ← cmdDumpEe 2
      pure (message, back, lines)) numberedBoard
  obtain ⟨-, -, cells, -⟩ := setaddress_on_line (numberedLine_quiet ⟨1, 0⟩) run returns
  refine ⟨last, ?_⟩
  rw [cells]
  decide

/-! ## Answers that come too late -/

/-- On a line that keeps the order and loses nothing, a result is what the host makes of the answer
to the request as many places before as there were timeouts; the board has given it on the memory
of the requests before that one. -/
theorem result_behind (quiet : (hmsService mcu firmware board).Quiet line)
    (untaken : ∀ frame ∈ line.toClient, frame.dst ≠ board.src)
    (run : Run (hmsService mcu firmware board).OrderlyStep line events last) {k : Nat}
    {result : Except HostError CanixFrame} (heard : last.results[k]? = some (some result)) :
    ∃ (asker earlier : HmsRequest) (b : HmsBoard mcu), last.asked[k]? = some asker ∧
      last.asked[k - Service.overdue last.results k]? = some earlier ∧
      b.ee.cell = HmsRequest.memory mcu line.server.ee.cell
        (last.asked.take (k - Service.overdue last.results k)) ∧
      result = asker.accepts board.toBoardConnection
        (earlier.answer firmware board.toBoardConnection b) := by
  have skipped : ∀ frame ∈ line.toClient,
      (hmsService mcu firmware board).taken frame = false :=
    fun frame inside => beq_eq_false_iff_ne.mpr (untaken frame inside)
  obtain ⟨turns, done, ⟨rest, asked⟩, behind⟩ := Service.behind_of_orderly quiet skipped run
  obtain ⟨asker, turn, asker_eq, turn_eq, same⟩ := behind k result heard
  obtain ⟨b, memory, answer⟩ := dialogue_answers done turn_eq
  have inside := (List.getElem?_eq_some_iff.mp turn_eq).1
  refine ⟨asker, turn.1, b, asker_eq, ?_, ?_, ?_⟩
  · rw [← asked, List.getElem?_append_left (by rwa [List.length_map]), List.getElem?_map, turn_eq]
    rfl
  · rw [memory, List.map_take, ← asked, List.take_append_of_le_length]
    rw [List.length_map]
    exact Nat.le_of_lt inside
  · rw [same, ← answer]
    rfl

/-- After `t` timeouts a read that returns gives the byte that was asked for `t` requests before;
a request fails its tests exactly where the request `t` places before is one of another kind. -/
theorem eeprom_reads_behind (quiet : (hmsService mcu firmware board).Quiet line)
    (untaken : ∀ frame ∈ line.toClient, frame.dst ≠ board.src)
    (run : Run (hmsService mcu firmware board).OrderlyStep line events last) :
    (∀ k address frame, last.asked[k]? = some (.eepromRead address) →
      last.results[k]? = some (some (.ok frame)) →
      ∃ earlier, last.asked[k - Service.overdue last.results k]? = some (.eepromRead earlier) ∧
        frame.data[2] = HmsRequest.memory mcu line.server.ee.cell
          (last.asked.take (k - Service.overdue last.results k)) (mcu.cellOf earlier.toNat)) ∧
    ∀ k asker result, last.asked[k]? = some asker → last.results[k]? = some (some result) →
      ∃ earlier, last.asked[k - Service.overdue last.results k]? = some earlier ∧
        ((∃ error, result = .error error) ↔ earlier.expected ≠ asker.expected) := by
  constructor
  · intro k address frame asked heard
    obtain ⟨asker, earlier, b, asker_eq, earlier_eq, memory, result⟩ :=
      result_behind quiet untaken run heard
    obtain rfl : asker = .eepromRead address := by
      rw [asked] at asker_eq
      exact (Option.some.inj asker_eq).symm
    obtain ⟨rfl, kind⟩ := HmsRequest.accepts_ok result.symm
    rw [HmsRequest.answer_kind] at kind
    obtain ⟨where_, rfl⟩ := HmsRequest.read_of_expected (congrArg Prod.snd kind)
    refine ⟨where_, earlier_eq, ?_⟩
    rw [← memory]
    rfl
  · intro k asker result asked heard
    obtain ⟨asker', earlier, b, asker_eq, earlier_eq, -, result_eq⟩ :=
      result_behind quiet untaken run heard
    obtain rfl : asker' = asker := by
      rw [asked] at asker_eq
      exact (Option.some.inj asker_eq).symm
    refine ⟨earlier, earlier_eq, ?_⟩
    constructor
    · rintro ⟨error, rfl⟩ same
      rw [HmsRequest.accepts_answer same] at result_eq
      cases result_eq
    · intro other
      cases result with
      | error error => exact ⟨error, rfl⟩
      | ok frame =>
          obtain ⟨rfl, kind⟩ := HmsRequest.accepts_ok result_eq.symm
          rw [HmsRequest.answer_kind] at kind
          exact absurd kind other

variable (firmware board) in
/-- The answer to the first request comes after the timeout and is taken for the second one. -/
theorem late_run (b : HmsBoard mcu) (early late : HmsRequest) :
    Run (hmsService mcu firmware board).OrderlyStep ⟨b, [], [], [], []⟩
      [.ask early, .timeout, .ask late, .serve 0, .serve 0, .arrive 0]
      ⟨late.served (early.served b), [],
        [late.answer firmware board.toBoardConnection (early.served b)], [early, late],
        [none, some (late.accepts board.toBoardConnection
          (early.answer firmware board.toBoardConnection b))]⟩ := by
  have answered : ∀ (b : HmsBoard mcu) (request : HmsRequest),
      (hmsService mcu firmware board).serves b (request.frame board.toBoardConnection)
        (request.served b) (request.answer firmware board.toBoardConnection b) :=
    fun _ _ => HmsRequest.handler_request
  have timedOut : (hmsService mcu firmware board).Step
      ⟨b, [early.frame board.toBoardConnection], [], [] ++ [early], []⟩ .timeout
      ⟨b, [early.frame board.toBoardConnection], [], [] ++ [early], [none]⟩ := .timeout rfl
  have waiting : ([none] : List (Option (Except HostError CanixFrame))).length = [early].length :=
    rfl
  have taken : (hmsService mcu firmware board).taken
      (early.answer firmware board.toBoardConnection b) = true := beq_self_eq_true board.src
  have mistaken : (hmsService mcu firmware board).Step
      ⟨late.served (early.served b), [], [early.answer firmware board.toBoardConnection b,
        late.answer firmware board.toBoardConnection (early.served b)], [early] ++ [late], [none]⟩
      (.arrive 0) ⟨late.served (early.served b), [],
        [late.answer firmware board.toBoardConnection (early.served b)], [early] ++ [late],
        [none] ++ [some (late.accepts board.toBoardConnection
          (early.answer firmware board.toBoardConnection b))]⟩ := .arrive_head waiting taken
  refine .cons ⟨.ask early rfl, trivial⟩ ?_
  refine .cons ⟨timedOut, trivial⟩ ?_
  refine .cons ⟨.ask late rfl, trivial⟩ ?_
  refine .cons ⟨.serve_head (answered b early), rfl⟩ ?_
  refine .cons ⟨.serve_head (answered _ late), rfl⟩ ?_
  exact .single ⟨mistaken, rfl⟩

/-- The cells 4 and 5 of the numbered board are read, and the answers come too late: the second
read returns the byte of the first one. -/
theorem eeprom_reads_behind_late :
    ∃ (events : List (LineEvent HmsRequest CanixFrame)) (last : HmsLine atmega32)
      (frame : CanixFrame),
      Run (hmsService atmega32 ⟨1, 0⟩ board130).OrderlyStep numberedLine events last ∧
        last.asked = [.eepromRead 4, .eepromRead 5] ∧
        last.results = [none, some (.ok frame)] ∧ frame.data[2] = 4 := by
  have same : (HmsRequest.eepromRead 4).expected = (HmsRequest.eepromRead 5).expected := rfl
  have run := late_run ⟨1, 0⟩ board130 numberedBoard (.eepromRead 4) (.eepromRead 5)
  rw [HmsRequest.accepts_answer same] at run
  have behind := eeprom_reads_behind (numberedLine_quiet ⟨1, 0⟩)
    (fun _ inside => (List.not_mem_nil inside).elim) run
  obtain ⟨earlier, asked, byte⟩ := behind.1 1 5 _ rfl rfl
  cases asked
  exact ⟨_, _, _, run, rfl, rfl, byte⟩

end Line

end Hcan.Host
