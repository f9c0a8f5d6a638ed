import Hcan.Canix.Sending

/-!
# Syslog messages of a node

`canix_syslog_P` prints a message into a buffer of 128 bytes, ends it with a newline and
sends it in frames of at most eight bytes.  The first byte of the first frame is the
priority; no other frame has one.
-/

namespace Hcan.Canix

def hcanProtoSyslog : UInt8 := 3
def hcanMulticastSyslog : UInt16 := 970

inductive SyslogPrio where
  | critical
  | error
  | warning
  | debug
  deriving DecidableEq, Repr

def SyslogPrio.code : SyslogPrio → UInt8
  | .critical => 1
  | .error => 2
  | .warning => 3
  | .debug => 4

def newline : UInt8 := 10

/-- A call of `canix_syslog_P`: `text` is what the format prints, `level` the value of
`canix_debug_level`. -/
structure SyslogCall where
  level : UInt8
  prio : SyslogPrio
  text : List UInt8
  deriving DecidableEq, Repr

/-- The string that `vsnprintf_P` leaves: at most 125 characters, up to the first NUL. -/
def SyslogCall.printed (call : SyslogCall) : List UInt8 :=
  (call.text.take 125).takeWhile (· ≠ 0)

/-- The inner loop: bytes go into the frame from `payload_counter` on while there is
room.  The rest of the string, the counter and the data of the frame. -/
def fillPayload : List UInt8 → Nat → Vector UInt8 8 → List UInt8 × Nat × Vector UInt8 8
  | [], payloadCounter, data => ([], payloadCounter, data)
  | c :: s, payloadCounter, data =>
      if payloadCounter < 8 then
        fillPayload s (payloadCounter + 1) (data.setIfInBounds payloadCounter c)
      else (c :: s, payloadCounter, data)

/-- The outer loop; it runs once for each frame, so the length of the string is fuel
enough. -/
def sendPayload (src : UInt16) : Nat → List UInt8 → Nat → Vector UInt8 8 → List CanixFrame
  | 0, _, _, _ => []
  | fuel + 1, s, payloadCounter, data =>
      if s.isEmpty then []
      else
        let (rest, size, data) := fillPayload s payloadCounter data
        { src := src
          dst := hcanMulticastSyslog
          proto := hcanProtoSyslog
          size := UInt8.ofNat size
          data := data } :: sendPayload src fuel rest 0 data

/-- `canix_syslog_P`: the frames it sends. -/
def canixSyslogP (src : UInt16) (call : SyslogCall) : List CanixFrame :=
  if call.level ≥ call.prio.code then
    let s := call.printed ++ [newline]
    sendPayload src s.length s 1 ((Vector.replicate 8 0).setIfInBounds 0 call.prio.code)
  else []

/-! ## The bytes of the frames -/

/-- The calls whose messages are sent at all. -/
def SyslogCall.Logged (call : SyslogCall) : Prop := call.level ≥ call.prio.code

instance (call : SyslogCall) : Decidable call.Logged :=
  inferInstanceAs (Decidable (call.level ≥ call.prio.code))

/-- The inner loop moves as many bytes of the string as the frame has room for behind
the bytes in it. -/
theorem fillPayload_spec (s : List UInt8) {payloadCounter : Nat} (data : Vector UInt8 8)
    (room : payloadCounter ≤ 8) :
    ∃ filled, fillPayload s payloadCounter data = (s.drop (8 - payloadCounter),
        payloadCounter + (s.take (8 - payloadCounter)).length, filled) ∧
      filled.toList.take (payloadCounter + (s.take (8 - payloadCounter)).length) =
        data.toList.take payloadCounter ++ s.take (8 - payloadCounter) := by
  induction s generalizing payloadCounter data with
  | nil =>
      refine ⟨data, by rw [fillPayload, List.drop_nil, List.take_nil]; rfl, ?_⟩
      rw [List.take_nil, List.length_nil, Nat.add_zero, List.append_nil]
  | cons c s ih =>
      rcases Nat.lt_or_ge payloadCounter 8 with more | full
      · obtain ⟨filled, run, bytes⟩ := ih (data.setIfInBounds payloadCounter c) more
        have left : 8 - payloadCounter = 8 - (payloadCounter + 1) + 1 := by omega
        have stored : (data.setIfInBounds payloadCounter c).toList.take (payloadCounter + 1) =
            data.toList.take payloadCounter ++ [c] := by
          have bound : payloadCounter < data.toList.length := by rwa [Vector.length_toList]
          rw [Vector.toList_setIfInBounds, List.take_succ_eq_append_getElem (by simpa using more),
            List.getElem_set_self, List.take_set_of_le (Nat.le_refl _)]
        have length : payloadCounter + ((c :: s).take (8 - payloadCounter)).length =
            payloadCounter + 1 + (s.take (8 - (payloadCounter + 1))).length := by
          rw [left, List.take_succ_cons, List.length_cons]
          omega
        refine ⟨filled, ?_, ?_⟩
        · rw [fillPayload, if_pos more, run, length, left, List.drop_succ_cons]
        · rw [length, bytes, stored, left, List.take_succ_cons, List.append_assoc]
          rfl
      · have none : 8 - payloadCounter = 0 := Nat.sub_eq_zero_of_le full
        refine ⟨data, ?_, ?_⟩
        · rw [fillPayload, if_neg (Nat.not_lt.mpr full), none]
          rfl
        · rw [none, List.take_zero, List.length_nil, Nat.add_zero, List.append_nil]

/-- The frames carry the bytes already in the first one and the string behind them. -/
theorem sendPayload_payload (src : UInt16) {fuel : Nat} {s : List UInt8} {payloadCounter : Nat}
    {data : Vector UInt8 8} (enough : s.length ≤ fuel) (room : payloadCounter < 8)
    (some : s ≠ []) :
    (sendPayload src fuel s payloadCounter data).flatMap CanixFrame.payload =
      data.toList.take payloadCounter ++ s := by
  induction fuel generalizing s payloadCounter data with
  | zero => exact absurd (List.length_eq_zero_iff.mp (Nat.le_zero.mp enough)) some
  | succ fuel ih =>
      obtain ⟨filled, run, bytes⟩ := fillPayload_spec s data (Nat.le_of_lt room)
      have small : payloadCounter + (s.take (8 - payloadCounter)).length ≤ 8 := by
        rw [List.length_take]
        omega
      have size : (UInt8.ofNat (payloadCounter +
          (s.take (8 - payloadCounter)).length)).toNat =
          payloadCounter + (s.take (8 - payloadCounter)).length :=
        UInt8.toNat_ofNat_of_lt' (Nat.lt_of_le_of_lt small (by decide))
      rw [sendPayload, if_neg (by rwa [List.isEmpty_iff]), run]
      dsimp only
      rw [List.flatMap_cons]
      have first : CanixFrame.payload
          { src := src
            dst := hcanMulticastSyslog
            proto := hcanProtoSyslog
            size := UInt8.ofNat (payloadCounter + (s.take (8 - payloadCounter)).length)
            data := filled } =
          data.toList.take payloadCounter ++ s.take (8 - payloadCounter) := by
        unfold CanixFrame.payload
        dsimp only
        rw [size, bytes]
      have later : (sendPayload src fuel (s.drop (8 - payloadCounter)) 0 filled).flatMap
          CanixFrame.payload = s.drop (8 - payloadCounter) := by
        by_cases done : s.drop (8 - payloadCounter) = []
        · rw [done]
          cases fuel <;> rfl
        · apply ih _ (by decide) done
          have nonempty := List.length_pos_iff.mpr some
          rw [List.length_drop]
          omega
      rw [first, later, List.append_assoc, List.take_append_drop]

/-- A message on the bus: its priority, its text and a newline. -/
theorem canixSyslogP_payload (src : UInt16) {call : SyslogCall}
    (logged : call.Logged) :
    (canixSyslogP src call).flatMap CanixFrame.payload =
      call.prio.code :: (call.printed ++ [newline]) := by
  unfold canixSyslogP
  rw [if_pos (show call.level ≥ call.prio.code from logged)]
  dsimp only
  rw [sendPayload_payload src (Nat.le_refl _) (by decide) (by simp)]
  rfl

theorem sendPayload_header {src : UInt16} {fuel : Nat} {s : List UInt8} {payloadCounter : Nat}
    {data : Vector UInt8 8} {frame : CanixFrame}
    (member : frame ∈ sendPayload src fuel s payloadCounter data) :
    frame.src = src ∧ frame.dst = hcanMulticastSyslog ∧ frame.proto = hcanProtoSyslog := by
  induction fuel generalizing s payloadCounter data with
  | zero => exact absurd member List.not_mem_nil
  | succ fuel ih =>
      rw [sendPayload] at member
      split at member
      · exact absurd member List.not_mem_nil
      · rcases List.mem_cons.mp member with rfl | later
        · exact ⟨rfl, rfl, rfl⟩
        · exact ih later

/-- Every frame of a message names its sender and the syslog protocol. -/
theorem canixSyslogP_header {src : UInt16} {call : SyslogCall} {frame : CanixFrame}
    (member : frame ∈ canixSyslogP src call) :
    frame.src = src ∧ frame.dst = hcanMulticastSyslog ∧ frame.proto = hcanProtoSyslog := by
  unfold canixSyslogP at member
  split at member
  · exact sendPayload_header member
  · exact absurd member List.not_mem_nil

end Hcan.Canix
