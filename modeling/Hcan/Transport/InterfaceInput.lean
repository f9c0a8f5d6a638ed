import Hcan.Transport.RoundTrip

/-!
# What the host interface sends

The parser of the firmware on whole streams: between two commands `C` or `B` the digits make a
sequence of bytes, and `F` sends it if it is a frame.  A stream that is no such text ends in a
reset of the board.
-/

namespace Hcan.Transport

open Hcan.Library Hcan.Canix

/-- An identifier and its payload. -/
abbrev SerialFrame := UInt32 × List UInt8

/-- The bytes since the last `C` or `B`, the digit of a half byte, and the frames that were sent. -/
structure SerialText where
  bytes : List UInt8
  half : Option UInt8
  sent : List SerialFrame
  deriving DecidableEq

def SerialText.empty : SerialText := ⟨[], none, []⟩

/-- Bytes that are a frame with its size. -/
def frameOf : List UInt8 → Option SerialFrame
  | b0 :: b1 :: b2 :: b3 :: size :: payload =>
      if payload.length = size.toNat then some (idOfBytes b0 b1 b2 b3, payload) else none
  | _ => none

/-- At most 63 bytes are buffered. -/
def SerialText.value (t : SerialText) (c : UInt8) : Option SerialText :=
  match t.half with
  | none => some { t with half := if c = 0xFF then none else some c }
  | some first =>
      if t.bytes.length < 63 then
        some { t with bytes := t.bytes ++ [convertHexstr2int first c], half := none }
      else none

def SerialText.step (t : SerialText) (c : UInt8) : Option SerialText :=
  if c = 'B'.toUInt8 ∨ c = 'C'.toUInt8 then some { t with bytes := [], half := none }
  else if c = 'F'.toUInt8 then
    (frameOf t.bytes).map fun frame => { t with sent := t.sent ++ [frame] }
  else if c = 'R'.toUInt8 then none
  else if isCommand c then some t
  else t.value c

/-- What a stream is, or no result if the board resets. -/
def serialText (chars : List UInt8) : Option SerialText := chars.foldlM SerialText.step .empty

/-- A character of the line, or what else happens to the CAN controller meanwhile. -/
inductive InterfaceEvent where
  | char (c : UInt8)
  | canix (next : CanixState)

def InterfaceEvent.char? : InterfaceEvent → Option UInt8
  | .char c => some c
  | .canix _ => none

/-- The arguments of `can_send_message`. -/
def HostInterface.load? (hi : HostInterface) (c : UInt8) : Option (SerialFrame × UInt8) :=
  if c = 'F'.toUInt8 ∧ hi.obuffer[4].toNat + 5 = hi.oindex.toNat then
    some ((hi.extended, (hi.obuffer.toList.drop 5).take hi.obuffer[4].toNat), hi.obuffer[4])
  else none

/-- The firmware, with the calls of `can_send_message` so far. -/
def interfaceStep (w : HostInterface × List (SerialFrame × UInt8)) :
    InterfaceEvent → Option (HostInterface × List (SerialFrame × UInt8))
  | .char c => (w.1.handleSerialInput c).map fun next => (next, w.2 ++ (w.1.load? c).toList)
  | .canix next => some ({ w.1 with canix := next }, w.2)

def interfaceRun (w : HostInterface × List (SerialFrame × UInt8)) (events : List InterfaceEvent) :
    Option (HostInterface × List (SerialFrame × UInt8)) := events.foldlM interfaceStep w

theorem handleValue_canix {hi next : HostInterface} {c : UInt8}
    (taken : hi.handleValue c = some next) : next.canix = hi.canix := by
  unfold HostInterface.handleValue at taken
  split at taken
  · cases taken
    rfl
  · split at taken
    · cases taken
      rfl
    · cases taken

theorem handleSerialCommand_canix {hi next : HostInterface} {command : UInt8}
    (taken : hi.handleSerialCommand command = some next) :
    next.canix = match hi.load? command with
      | some ((id, data), size) => canSendMessage hi.canix id data size
      | none => hi.canix := by
  unfold HostInterface.handleSerialCommand at taken
  by_cases ends : command = 'F'.toUInt8
  · subst ends
    rw [if_neg (by decide), if_neg (by decide), if_pos rfl] at taken
    by_cases complete : hi.obuffer[4].toNat + 5 = hi.oindex.toNat
    · rw [if_pos complete] at taken
      cases taken
      rw [HostInterface.load?, if_pos ⟨rfl, complete⟩]
    · rw [if_neg complete] at taken
      cases taken
  · rw [HostInterface.load?, if_neg fun both => ends both.1]
    rw [if_neg ends] at taken
    split_ifs at taken <;> cases taken <;> rfl

/-- The calls are those that change the CAN controller. -/
theorem load_canix {hi next : HostInterface} {c : UInt8}
    (taken : hi.handleSerialInput c = some next) :
    next.canix = match hi.load? c with
      | some ((id, data), size) => canSendMessage hi.canix id data size
      | none => hi.canix := by
  unfold HostInterface.handleSerialInput at taken
  by_cases command : isCommand c = true
  · rw [if_pos command] at taken
    exact handleSerialCommand_canix taken
  · have digit : c ≠ 'F'.toUInt8 := by
      rintro rfl
      exact command (by decide)
    rw [if_neg command] at taken
    rw [HostInterface.load?, if_neg fun both => digit both.1]
    exact handleValue_canix taken

/-- The parser holds the text. -/
structure HoldsText (hi : HostInterface) (t : SerialText) : Prop where
  oindex : hi.oindex.toNat = t.bytes.length
  half : hi.firstBitsChar = t.half
  stored : ∀ k, k < t.bytes.length → hi.obuffer.toList[k]? = t.bytes[k]?

theorem HoldsText.prefix_eq {hi : HostInterface} {t : SerialText} (holds : HoldsText hi t) :
    hi.obuffer.toList.take t.bytes.length = t.bytes := by
  have inside := hi.inside
  have oindex := holds.oindex
  refine List.ext_getElem? fun k => ?_
  by_cases inBytes : k < t.bytes.length
  · rw [List.getElem?_take_of_lt inBytes, holds.stored k inBytes]
  · rw [List.getElem?_eq_none (l := t.bytes) (by omega), List.getElem?_eq_none]
    rw [List.length_take]
    omega

theorem holdsText_nil (hi : HostInterface) (oindex : hi.oindex = 0) (half : hi.firstBitsChar = none)
    (sent : List SerialFrame) : HoldsText hi ⟨[], none, sent⟩ :=
  ⟨by rw [oindex]; rfl, half, fun k inBytes => absurd inBytes (Nat.not_lt_zero k)⟩

/-- A digit. -/
theorem value_holds {hi : HostInterface} {t : SerialText} (holds : HoldsText hi t) (c : UInt8) :
    match hi.handleValue c, t.value c with
    | some next, some u => HoldsText next u
    | none, none => True
    | _, _ => False := by
  have oindex := holds.oindex
  unfold HostInterface.handleValue SerialText.value
  rw [holds.half]
  cases half : t.half with
  | none => exact ⟨oindex, rfl, holds.stored⟩
  | some first =>
      dsimp only
      by_cases room : t.bytes.length < 63
      · have up : (hi.oindex + 1).toNat = hi.oindex.toNat + 1 := Mcp2515.toNat_succ (by omega)
        rw [dif_pos (by omega), if_pos room]
        refine ⟨?_, rfl, fun k inBytes => ?_⟩
        · rw [List.length_append, List.length_singleton, ← oindex]
          exact up
        · change (hi.obuffer.set hi.oindex.toNat (convertHexstr2int first c)
            hi.inside).toList[k]? = _
          rw [List.length_append, List.length_singleton] at inBytes
          rw [Vector.toList_set, oindex, List.getElem?_set]
          by_cases last : t.bytes.length = k
          · subst last
            rw [if_pos rfl, Vector.length_toList, if_pos (by omega), List.getElem?_concat_length]
          · rw [if_neg last, holds.stored k (by omega), List.getElem?_append_left (by omega)]
      · have full : ¬ (hi.oindex + 1).toNat < 64 := by
          have inside := hi.inside
          have up : (hi.oindex + 1).toNat = hi.oindex.toNat + 1 := Mcp2515.toNat_succ (by omega)
          omega
        rw [dif_neg full, if_neg room]
        trivial

theorem five_bytes : ∀ bytes : List UInt8, 5 ≤ bytes.length →
    ∃ b0 b1 b2 b3 size payload, bytes = b0 :: b1 :: b2 :: b3 :: size :: payload
  | b0 :: b1 :: b2 :: b3 :: size :: payload, _ => ⟨b0, b1, b2, b3, size, payload, rfl⟩

/-- A buffered frame is read as it is. -/
theorem frame_holds {hi : HostInterface} {t : SerialText} (holds : HoldsText hi t) :
    match frameOf t.bytes with
    | some frame => hi.obuffer[4].toNat + 5 = hi.oindex.toNat ∧
        ((hi.extended, (hi.obuffer.toList.drop 5).take hi.obuffer[4].toNat), hi.obuffer[4]) =
          (frame, UInt8.ofNat frame.2.length)
    | none => hi.obuffer[4].toNat + 5 ≠ hi.oindex.toNat := by
  have oindex := holds.oindex
  have whole := holds.prefix_eq
  by_cases short : t.bytes.length < 5
  · have none_ : frameOf t.bytes = none := by
      unfold frameOf
      split
      · rename_i bytes
        rw [bytes] at short
        exact absurd short (by simp only [List.length_cons]; omega)
      · rfl
    rw [none_]
    dsimp only
    omega
  · obtain ⟨b0, b1, b2, b3, size, payload, bytes⟩ := five_bytes t.bytes (by omega)
    have length : t.bytes.length = payload.length + 5 := by
      rw [bytes]
      rfl
    have byte : ∀ k, k < 64 → k < 5 → hi.obuffer.toList[k]? = t.bytes[k]? :=
      fun k _ small => holds.stored k (by omega)
    have read : ∀ k (inBuffer : k < 64), k < 5 → some hi.obuffer[k] = t.bytes[k]? := by
      intro k inBuffer small
      rw [← byte k inBuffer small, List.getElem?_eq_getElem (by rw [Vector.length_toList]; omega),
        toList_byte]
    rw [bytes] at read
    have fourth : hi.obuffer[4] = size := Option.some_inj.mp (read 4 (by decide) (by decide))
    have ids : hi.extended = idOfBytes b0 b1 b2 b3 := by
      rw [HostInterface.extended, Option.some_inj.mp (read 0 (by decide) (by decide)),
        Option.some_inj.mp (read 1 (by decide) (by decide)),
        Option.some_inj.mp (read 2 (by decide) (by decide)),
        Option.some_inj.mp (read 3 (by decide) (by decide))]
    rw [bytes, frameOf, fourth]
    by_cases complete : payload.length = size.toNat
    · rw [if_pos complete]
      refine ⟨by omega, ?_⟩
      have data : (hi.obuffer.toList.drop 5).take size.toNat = payload := by
        have cut : (hi.obuffer.toList.take t.bytes.length).drop 5 = payload := by
          rw [whole, bytes]
          rfl
        rw [List.drop_take, length, Nat.add_sub_cancel, complete] at cut
        exact cut
      rw [data, ids, complete, UInt8.ofNat_toNat]
    · rw [if_neg complete]
      dsimp only
      omega

/-- A frame as `can_send_message` gets it. -/
def sized (frame : SerialFrame) : SerialFrame × UInt8 := (frame, UInt8.ofNat frame.2.length)

/-- `F` sends what is a frame, and resets the board otherwise. -/
theorem end_holds {hi : HostInterface} {t : SerialText} (holds : HoldsText hi t) :
    match hi.handleSerialInput 'F'.toUInt8, t.step 'F'.toUInt8 with
    | some next, some u => HoldsText next u ∧
        u.sent.map sized = t.sent.map sized ++ (hi.load? 'F'.toUInt8).toList
    | none, none => True
    | _, _ => False := by
  have frame := frame_holds holds
  have taken : hi.handleSerialInput 'F'.toUInt8 =
      if hi.obuffer[4].toNat + 5 = hi.oindex.toNat then
        some { hi with
          canix := canSendMessage hi.canix hi.extended
            ((hi.obuffer.toList.drop 5).take hi.obuffer[4].toNat) hi.obuffer[4] }
      else none := by
    rw [HostInterface.handleSerialInput, if_pos (by decide), HostInterface.handleSerialCommand,
      if_neg (by decide), if_neg (by decide), if_pos rfl]
  have spec : t.step 'F'.toUInt8 =
      (frameOf t.bytes).map fun frame => { t with sent := t.sent ++ [frame] } := by
    rw [SerialText.step, if_neg (by decide), if_pos rfl]
  rw [taken, spec, HostInterface.load?]
  cases parsed : frameOf t.bytes with
  | none =>
      rw [parsed] at frame
      rw [if_neg frame]
      trivial
  | some f =>
      rw [parsed] at frame
      obtain ⟨complete, same⟩ := frame
      rw [if_pos complete, if_pos ⟨rfl, complete⟩]
      refine ⟨⟨holds.oindex, holds.half, holds.stored⟩, ?_⟩
      rw [same, List.map_append]
      rfl

/-- The parser and the grammar go together. -/
theorem char_holds {hi : HostInterface} {t : SerialText} (holds : HoldsText hi t) (c : UInt8) :
    match hi.handleSerialInput c, t.step c with
    | some next, some u => HoldsText next u ∧
        u.sent.map sized = t.sent.map sized ++ (hi.load? c).toList
    | none, none => True
    | _, _ => False := by
  by_cases ends : c = 'F'.toUInt8
  · rw [ends]
    exact end_holds holds
  · have silent : (hi.load? c).toList = [] := by
      rw [HostInterface.load?, if_neg fun both => ends both.1]
      rfl
    rw [silent, HostInterface.handleSerialInput, SerialText.step, if_neg ends]
    by_cases command : isCommand c = true
    · rw [if_pos command, HostInterface.handleSerialCommand, if_neg ends]
      by_cases resync : c = 'B'.toUInt8
      · rw [if_pos resync, if_pos (.inl resync)]
        exact ⟨holdsText_nil _ rfl rfl _, (List.append_nil _).symm⟩
      · by_cases begins : c = 'C'.toUInt8
        · rw [if_neg resync, if_pos begins, if_pos (.inr begins)]
          exact ⟨holdsText_nil _ rfl rfl _, (List.append_nil _).symm⟩
        · rw [if_neg resync, if_neg begins, if_neg (not_or.mpr ⟨resync, begins⟩)]
          by_cases reset : c = 'R'.toUInt8
          · rw [if_neg (by rw [reset]; decide), if_pos reset, if_pos reset]
            trivial
          · rw [if_neg reset, if_neg reset, if_pos command]
            by_cases ping : c = 'P'.toUInt8
            · rw [if_pos ping]
              exact ⟨⟨holds.oindex, holds.half, holds.stored⟩, (List.append_nil _).symm⟩
            · by_cases state : c = 'S'.toUInt8
              · rw [if_neg ping, if_pos state]
                exact ⟨⟨holds.oindex, holds.half, holds.stored⟩, (List.append_nil _).symm⟩
              · rw [if_neg ping, if_neg state]
                exact ⟨holds, (List.append_nil _).symm⟩
    · have other : ∀ d, isCommand d = true → c ≠ d := fun d isOne same => command (same ▸ isOne)
      have none_ : ¬ (c = 'B'.toUInt8 ∨ c = 'C'.toUInt8) :=
        not_or.mpr ⟨other _ (by decide), other _ (by decide)⟩
      rw [if_neg command, if_neg none_, if_neg (other _ (by decide)), if_neg command]
      have digit := value_holds holds c
      have sent : ∀ u, t.value c = some u → u.sent = t.sent := by
        intro u taken
        unfold SerialText.value at taken
        split at taken
        · cases taken
          rfl
        · split at taken
          · cases taken
            rfl
          · cases taken
      revert digit sent
      cases hi.handleValue c with
      | none =>
          cases t.value c with
          | none => exact fun _ _ => trivial
          | some u => exact fun digit _ => digit
      | some next =>
          cases t.value c with
          | none => exact fun digit _ => digit
          | some u =>
              intro digit sent
              exact ⟨digit, by rw [sent u rfl, List.append_nil]⟩

/-! ## Streams -/

theorem interfaceRun_holds {hi : HostInterface} {t : SerialText} (holds : HoldsText hi t)
    (events : List InterfaceEvent) :
    (interfaceRun (hi, t.sent.map sized) events).map Prod.snd =
      ((events.filterMap InterfaceEvent.char?).foldlM SerialText.step t).map fun u =>
        u.sent.map sized := by
  induction events generalizing hi t with
  | nil => rfl
  | cons event events ih =>
      cases event with
      | canix next =>
          have still : HoldsText { hi with canix := next } t :=
            ⟨holds.oindex, holds.half, holds.stored⟩
          exact ih still
      | char c =>
          have here := char_holds holds c
          have first : interfaceRun (hi, t.sent.map sized) (.char c :: events) =
              ((hi.handleSerialInput c).map fun next =>
                (next, t.sent.map sized ++ (hi.load? c).toList)).bind fun w =>
                  interfaceRun w events := List.foldlM_cons
          have chars : (InterfaceEvent.char c :: events).filterMap InterfaceEvent.char? =
              c :: events.filterMap InterfaceEvent.char? := List.filterMap_cons_some rfl
          rw [first, chars, List.foldlM_cons]
          revert here
          cases hi.handleSerialInput c with
          | none =>
              cases t.step c with
              | none => exact fun _ => rfl
              | some u => exact fun here => here.elim
          | some next =>
              cases t.step c with
              | none => exact fun here => here.elim
              | some u =>
                  rintro ⟨holds, sent⟩
                  change (interfaceRun (next, t.sent.map sized ++ (hi.load? c).toList) events).map
                    Prod.snd = _
                  rw [← sent]
                  exact ih holds

/-- The firmware refines the grammar: whatever the CAN controller does between the characters, the
calls of `can_send_message` are the frames of the stream, with the length of their payload as the
size; a stream that is no text of frames ends in a reset.  A character changes the controller by
these calls alone, each one with the arguments that are recorded. -/
theorem interface_refines (canix : CanixState) (events : List InterfaceEvent) :
    (interfaceRun (.reset canix, []) events).map Prod.snd =
        (serialText (events.filterMap InterfaceEvent.char?)).map (fun t => t.sent.map sized) ∧
      ∀ (hi : HostInterface) (c : UInt8), ∀ next ∈ hi.handleSerialInput c,
        next.canix = match hi.load? c with
          | some ((id, data), size) => canSendMessage hi.canix id data size
          | none => hi.canix :=
  ⟨interfaceRun_holds (t := .empty) (holdsText_nil _ rfl rfl []) events,
    fun _ _ _ taken => load_canix taken⟩

theorem value_hexPair {t : SerialText} (aligned : t.half = none) (byte : UInt8)
    (room : t.bytes.length < 63) :
    (hexPair byte).foldlM SerialText.step t = some { t with bytes := t.bytes ++ [byte] } := by
  have digit : ∀ nibble, ∀ t : SerialText, t.step (hexchar nibble) = t.value (hexchar nibble) := by
    intro nibble t
    have value : ¬ isCommand (hexchar nibble) = true := by
      rw [hexchar_not_command]
      decide
    have other : ∀ d, isCommand d = true → hexchar nibble ≠ d :=
      fun d isOne same => value (same ▸ isOne)
    rw [SerialText.step, if_neg (not_or.mpr ⟨other _ (by decide), other _ (by decide)⟩),
      if_neg (other _ (by decide)), if_neg (other _ (by decide)), if_neg value]
  have first : t.value (hexchar ((byte &&& 0xf0) >>> 4)) =
      some { t with half := some (hexchar ((byte &&& 0xf0) >>> 4)) } := by
    rw [SerialText.value, aligned]
    dsimp only
    rw [if_neg (HostInterface.hexchar_ne byte)]
  have second : SerialText.value { t with half := some (hexchar ((byte &&& 0xf0) >>> 4)) }
      (hexchar (byte &&& 0x0f)) = some { t with bytes := t.bytes ++ [byte] } := by
    rw [SerialText.value]
    dsimp only
    rw [if_pos room, convert_hexPair, aligned]
  rw [hexPair, List.foldlM_cons, digit, first, Option.bind_eq_bind, Option.bind_some,
    List.foldlM_cons, digit, second]
  rfl

theorem value_bytes {t : SerialText} (aligned : t.half = none) (bytes : List UInt8)
    (room : t.bytes.length + bytes.length ≤ 63) :
    (bytes.flatMap hexPair).foldlM SerialText.step t =
      some { t with bytes := t.bytes ++ bytes } := by
  induction bytes generalizing t with
  | nil => rw [List.append_nil]; rfl
  | cons byte bytes ih =>
      rw [List.length_cons] at room
      have next := ih (t := { t with bytes := t.bytes ++ [byte] }) aligned
        (by rw [List.length_append, List.length_singleton]; omega)
      rw [List.flatMap_cons, List.foldlM_append, value_hexPair aligned byte (by omega)]
      rw [List.append_assoc] at next
      exact next

theorem frameOf_frameBytes (id : UInt32) {payload : List UInt8} (fits : payload.length ≤ 8) :
    frameOf (frameBytes id payload) = some (id, payload) := by
  have size : payload.length = (UInt8.ofNat payload.length).toNat := by
    rw [UInt8.toNat_ofNat', Nat.mod_eq_of_lt (by omega)]
  change (if payload.length = (UInt8.ofNat payload.length).toNat then
    some (idOfBytes _ _ _ _, payload) else none) = _
  rw [if_pos size, idOfBytes_idBytes]

/-- In every state of the parser the text of a frame sends this frame and nothing else. -/
theorem step_frameText (t : SerialText) (id : UInt32) {payload : List UInt8}
    (fits : payload.length ≤ 8) :
    (frameText id payload).foldlM SerialText.step t =
      some ⟨frameBytes id payload, none, t.sent ++ [(id, payload)]⟩ := by
  have length : (frameBytes id payload).length = payload.length + 5 := rfl
  have begins : t.step 'C'.toUInt8 = some { t with bytes := [], half := none } := by
    rw [SerialText.step, if_pos (.inr rfl)]
  have digits := value_bytes (t := { t with bytes := [], half := none }) rfl (frameBytes id payload)
    (by rw [length, List.length_nil]; omega)
  rw [List.nil_append] at digits
  rw [frameText, List.cons_append, List.foldlM_cons, begins, Option.bind_eq_bind, Option.bind_some,
    List.foldlM_append, digits, Option.bind_eq_bind, Option.bind_some, List.foldlM_cons,
    SerialText.step, if_neg (by decide), if_pos rfl, frameOf_frameBytes id fits]
  rfl

theorem step_frameTexts (t : SerialText) {frames : List SerialFrame}
    (fit : ∀ frame ∈ frames, frame.2.length ≤ 8) :
    ((frames.flatMap fun frame => frameText frame.1 frame.2).foldlM SerialText.step t).map
      SerialText.sent = some (t.sent ++ frames) := by
  induction frames generalizing t with
  | nil => rw [List.append_nil]; rfl
  | cons frame frames ih =>
      have later := ih ⟨frameBytes frame.1 frame.2, none, t.sent ++ [frame]⟩
        fun next inside => fit next (List.mem_cons_of_mem _ inside)
      rw [List.append_assoc] at later
      rw [List.flatMap_cons, List.foldlM_append,
        step_frameText t frame.1 (fit frame (List.mem_cons_self ..))]
      exact later

/-- Behind any stream that has not led to a reset, the frames whose texts follow are sent, each one
once and in their order, whatever the CAN controller does meanwhile. -/
theorem interface_resynchronises (canix : CanixState) {events : List InterfaceEvent}
    {front : List UInt8} {frames : List SerialFrame}
    (fit : ∀ frame ∈ frames, frame.2.length ≤ 8)
    (line : events.filterMap InterfaceEvent.char? =
      front ++ frames.flatMap fun frame => frameText frame.1 frame.2) :
    (interfaceRun (.reset canix, []) events).map Prod.snd =
      (serialText front).map fun t => (t.sent ++ frames).map sized := by
  have refined : (interfaceRun (.reset canix, []) events).map Prod.snd =
      (serialText (events.filterMap InterfaceEvent.char?)).map fun t => t.sent.map sized :=
    interfaceRun_holds (t := .empty) (holdsText_nil _ rfl rfl []) events
  rw [refined, line, serialText, serialText, List.foldlM_append]
  cases front.foldlM SerialText.step .empty with
  | none => rfl
  | some t =>
      have texts := step_frameTexts t fit
      change (((frames.flatMap fun frame => frameText frame.1 frame.2).foldlM SerialText.step
        t).map fun u => u.sent.map sized) = some ((t.sent ++ frames).map sized)
      have sent := congrArg (Option.map (List.map sized)) texts
      rw [Option.map_map] at sent
      exact sent

/-- A frame that was cut off, and two whole ones. -/
def cutOff : List UInt8 := ['C'.toUInt8, '1'.toUInt8, '2'.toUInt8, '3'.toUInt8]

def pingFrames : List SerialFrame := [(0x1801, [1, 2]), (0x1802, [])]

theorem interface_resynchronises_cutOff :
    (interfaceRun (.reset resetCanix, [])
      ((cutOff ++ pingFrames.flatMap fun frame => frameText frame.1 frame.2).map .char)).map
        Prod.snd = (serialText cutOff).map fun t => (t.sent ++ pingFrames).map sized :=
  interface_resynchronises _ (by decide) (by decide)

end Hcan.Transport
