import Hcan.Transport.Hid

/-!
# Resynchronisation of the serial parser

What `hcanhid` delivers for a complete frame text, in any state the bytes before it
can have left.  `C` clears the index and the last `Y` or `C` also ends a wait for the
reset flag, but the digit of a half byte stays: then every byte of the frame is put
together from digits of two neighbours.
-/

namespace Hcan.Transport

open Hcan.Library

def Hid.withSlot (s : Hid) (slot : Option CANFrame) : Hid := { s with frameToHcand := slot }

/-- What is left in the slot when some passes put nothing into it. -/
def slotAfter (passes : List Pass) (slot : Option CANFrame) : Option CANFrame :=
  if passes.any Pass.writable then none else slot

theorem handleValue_withSlot (s : Hid) (slot : Option CANFrame) (c : UInt8) :
    (s.withSlot slot).handleValue c = (s.handleValue c).map fun next => next.withSlot slot := by
  cases half : s.firstBitsChar with
  | none =>
      have halfToo : (s.withSlot slot).firstBitsChar = none := half
      rw [handleValue_first c half, handleValue_first c halfToo]
      rfl
  | some first =>
      have halfToo : (s.withSlot slot).firstBitsChar = some first := half
      by_cases inside : s.iindex.toNat < 64
      · rw [handleValue_second c half inside, handleValue_second c halfToo inside]
        rfl
      · rw [handleValue_overrun c half inside, handleValue_overrun c halfToo inside]
        rfl

/-- Every character but `F` leaves the slot alone and takes no stack. -/
theorem input_withSlot (s : Hid) (slot : Option CANFrame) (stack other : Vector UInt8 8) {c : UInt8}
    (notF : c ≠ 'F'.toUInt8) :
    (s.withSlot slot).input stack c = (s.input other c).map fun next => next.withSlot slot := by
  unfold Hid.input
  by_cases waiting : s.awaitingFlag = true
  · rw [if_pos waiting, if_pos (show (s.withSlot slot).awaitingFlag = true from waiting)]
    rfl
  · rw [if_neg waiting, if_neg (show ¬ (s.withSlot slot).awaitingFlag = true from waiting)]
    by_cases command : isCommand c = true
    · rw [if_pos command, if_pos command]
      unfold Hid.handleSerialCommand
      rw [if_neg notF, if_neg notF]
      split
      · rfl
      · split
        · rfl
        · split <;> rfl
    · rw [if_neg command, if_neg command, handleValue_withSlot]

theorem flush_eq_withSlot (s : Hid) (writable : Bool) :
    s.flush writable = s.withSlot (if writable then none else s.frameToHcand) := by
  cases writable <;> rfl

/-- The characters of some passes, read one after the other. -/
def Hid.inputs (s : Hid) (chars : List UInt8) : Option Hid :=
  chars.foldlM (fun s c => s.input (.replicate 8 0) c) s

theorem inputs_withSlot (s : Hid) (slot : Option CANFrame) (chars : List UInt8)
    (notF : ∀ c ∈ chars, c ≠ 'F'.toUInt8) :
    (s.withSlot slot).inputs chars = (s.inputs chars).map fun last => last.withSlot slot := by
  induction chars generalizing s with
  | nil => rfl
  | cons c chars ih =>
      have here : c ≠ 'F'.toUInt8 := notF c List.mem_cons_self
      unfold Hid.inputs
      rw [List.foldlM_cons, List.foldlM_cons, input_withSlot s slot _ (.replicate 8 0) here]
      cases taken : s.input (.replicate 8 0) c with
      | none => rfl
      | some next => exact ih next fun later member => notF later (List.mem_cons_of_mem _ member)

/-- Passes without `F` deliver nothing. -/
theorem run_without_end (s : Hid) (passes : List Pass)
    (notF : ∀ c ∈ inputOf passes, c ≠ 'F'.toUInt8) :
    s.run passes = (s.inputs (inputOf passes)).map fun last =>
      (last.withSlot (slotAfter passes s.frameToHcand), []) := by
  induction passes generalizing s with
  | nil => rfl
  | cons pass passes ih =>
      have quiet : pass.char ≠ some 'F'.toUInt8 := by
        intro isEnd
        exact notF 'F'.toUInt8 (List.mem_filterMap.mpr ⟨pass, List.mem_cons_self, isEnd⟩) rfl
      have nothing : s.delivered pass = none := if_neg fun all => quiet all.1
      have rest : ∀ c ∈ inputOf passes, c ≠ 'F'.toUInt8 := by
        intro c member
        obtain ⟨later, inside, char⟩ := List.mem_filterMap.mp member
        exact notF c (List.mem_filterMap.mpr ⟨later, List.mem_cons_of_mem _ inside, char⟩)
      have slots (slot : Option CANFrame) :
          slotAfter passes (if pass.writable then none else slot) =
            slotAfter (pass :: passes) slot := by
        unfold slotAfter
        rw [List.any_cons]
        cases pass.writable <;> cases passes.any Pass.writable <;> rfl
      rw [Hid.run, nothing]
      cases char : pass.char with
      | none =>
          have same : inputOf (pass :: passes) = inputOf passes := List.filterMap_cons_none char
          rw [Hid.pass, char, same, Option.bind_eq_bind, Option.bind_some, ih _ rest,
            flush_eq_withSlot, inputs_withSlot _ _ _ rest]
          cases s.inputs (inputOf passes) with
          | none => rfl
          | some last =>
              simp only [Option.map_some, Option.bind_eq_bind, Option.bind_some]
              rw [← slots]
              rfl
      | some c =>
          have front : inputOf (pass :: passes) = c :: inputOf passes :=
            List.filterMap_cons_some char
          have here : c ≠ 'F'.toUInt8 := fun same => quiet (by rw [char, same])
          rw [Hid.pass, char, front, flush_eq_withSlot]
          simp only
          rw [input_withSlot s _ pass.stack (.replicate 8 0) here, Hid.inputs, List.foldlM_cons]
          cases taken : s.input (.replicate 8 0) c with
          | none => rfl
          | some next =>
              simp only [Option.map_some, Option.bind_eq_bind, Option.bind_some]
              rw [ih _ rest, inputs_withSlot _ _ _ rest]
              change _ = Option.map _ (next.inputs (inputOf passes))
              cases next.inputs (inputOf passes) with
              | none => rfl
              | some last =>
                  simp only [Option.map_some, Option.bind_some]
                  rw [← slots]
                  rfl

theorem inputs_values (s : Hid) (digits : List UInt8) (ready : s.awaitingFlag = false)
    (values : ∀ c ∈ digits, isCommand c = false) :
    s.inputs digits = digits.foldlM Hid.handleValue s := by
  induction digits generalizing s with
  | nil => rfl
  | cons digit digits ih =>
      have here : s.input (.replicate 8 0) digit = s.handleValue digit := by
        rw [Hid.input, if_neg (by rw [ready]; exact Bool.false_ne_true),
          if_neg (by rw [values digit List.mem_cons_self]; exact Bool.false_ne_true)]
      unfold Hid.inputs
      rw [List.foldlM_cons, List.foldlM_cons, here]
      cases taken : s.handleValue digit with
      | none => rfl
      | some next =>
          have readyNext : next.awaitingFlag = false := by
            rw [handleValue_awaiting digit taken, ready]
          exact ih next readyNext fun later member => values later (List.mem_cons_of_mem _ member)

/-- `C` begins a frame in every state, also when it is taken for the reset flag. -/
theorem input_begin (s : Hid) (stack : Vector UInt8 8) :
    s.input stack 'C'.toUInt8 = some { s with iindex := 0, awaitingFlag := false } := by
  unfold Hid.input
  by_cases waiting : s.awaitingFlag = true
  · rw [if_pos waiting]
  · have ready : s.awaitingFlag = false := by simpa using waiting
    rw [if_neg waiting, if_pos (by decide), Hid.handleSerialCommand, if_neg (by decide),
      if_neg (by decide), if_pos rfl, ← ready]

/-! ## A frame text -/

/-- The digits of a frame, behind a digit that is still waiting. -/
def pendingDigits (s : Hid) (id : UInt32) (payload : List UInt8) : List UInt8 :=
  s.firstBitsChar.toList ++ (frameBytes id payload).flatMap hexPair

/-- The bytes that the parser makes of them. -/
def parsedBytes (s : Hid) (id : UInt32) (payload : List UInt8) : List UInt8 :=
  pairUp (pendingDigits s id payload)

theorem frameBytes_length (id : UInt32) (payload : List UInt8) :
    (frameBytes id payload).length = payload.length + 5 := rfl

theorem flatMap_hexPair_length (bytes : List UInt8) :
    (bytes.flatMap hexPair).length = 2 * bytes.length := by
  induction bytes with
  | nil => rfl
  | cons byte bytes ih =>
      rw [List.flatMap_cons, List.length_append, ih, hexPair, List.length_cons, List.length_cons,
        List.length_nil, List.length_cons]
      omega

theorem pendingDigits_half (s : Hid) (id : UInt32) (payload : List UInt8) :
    (pendingDigits s id payload).length / 2 = payload.length + 5 := by
  rw [pendingDigits, List.length_append, flatMap_hexPair_length, frameBytes_length]
  cases s.firstBitsChar with
  | none =>
      rw [Option.toList_none, List.length_nil]
      omega
  | some first =>
      rw [Option.toList_some, List.length_singleton]
      omega

theorem parsedBytes_length (s : Hid) (id : UInt32) (payload : List UInt8) :
    (parsedBytes s id payload).length = payload.length + 5 := by
  rw [parsedBytes, pairUp_length, pendingDigits_half]

/-- The state in front of `F`: the buffer begins with the parsed bytes. -/
def beforeEnd (s : Hid) (id : UInt32) (payload : List UInt8) : Hid :=
  { s with
    ibuffer := store s.ibuffer 0 (parsedBytes s id payload)
    iindex := UInt8.ofNat (payload.length + 5)
    firstBitsChar := leftOver (pendingDigits s id payload)
    awaitingFlag := false }

theorem frameDigits_not_command (id : UInt32) (payload : List UInt8) :
    ∀ c ∈ (frameBytes id payload).flatMap hexPair, isCommand c = false := by
  intro c member
  obtain ⟨byte, _, digit⟩ := List.mem_flatMap.mp member
  exact hexPair_not_command byte c digit

theorem inputs_frame (s : Hid) (id : UInt32) {payload : List UInt8} (fits : payload.length ≤ 8) :
    s.inputs ('C'.toUInt8 :: (frameBytes id payload).flatMap hexPair) =
      some (beforeEnd s id payload) := by
  have values := frameDigits_not_command id payload
  have bound : (0 : UInt8).toNat + (pendingDigits s id payload).length / 2 ≤ 64 := by
    rw [pendingDigits_half]
    exact (by omega : 0 + (payload.length + 5) ≤ 64)
  have parsed := handleValue_pairs
    { s with iindex := 0, awaitingFlag := false, firstBitsChar := none }
    (pendingDigits s id payload) rfl bound
  unfold Hid.inputs
  rw [List.foldlM_cons, input_begin, Option.bind_eq_bind, Option.bind_some]
  change Hid.inputs _ _ = _
  rw [inputs_values _ _ rfl values]
  refine Eq.trans ?_ (parsed.trans ?_)
  · cases half : s.firstBitsChar with
    | none =>
        rw [pendingDigits, half]
        rfl
    | some first =>
        rw [pendingDigits, half, Option.toList_some, List.singleton_append, List.foldlM_cons,
          handleValue_first first rfl]
        rfl
  · rw [pendingDigits_half, beforeEnd, parsedBytes]
    simp

section End

variable (s : Hid) (id : UInt32) {payload : List UInt8}

/-- The parsed bytes: four of the identifier, the size and the rest. -/
theorem parsedBytes_cases (payload : List UInt8) :
    ∃ b0 b1 b2 b3 size rest, parsedBytes s id payload = b0 :: b1 :: b2 :: b3 :: size :: rest ∧
      rest.length = payload.length := by
  have length := parsedBytes_length s id payload
  match parsed : parsedBytes s id payload with
  | b0 :: b1 :: b2 :: b3 :: size :: rest =>
      rw [parsed] at length
      exact ⟨b0, b1, b2, b3, size, rest, rfl, by simpa using length⟩
  | [] | [_] | [_, _] | [_, _, _] | [_, _, _, _] =>
      rw [parsed] at length
      simp at length

theorem beforeEnd_bufferAt (fits : payload.length ≤ 8) {k : Nat} (inside : k < payload.length + 5) :
    (beforeEnd s id payload).bufferAt k =
      (parsedBytes s id payload).get ⟨k, by rw [parsedBytes_length]; exact inside⟩ := by
  have bound : k < 64 := by omega
  rw [Hid.bufferAt, dif_pos bound]
  have stored := store_at s.ibuffer 0 (parsedBytes s id payload)
    (by rw [parsedBytes_length]; exact inside) (by omega : 0 + k < 64)
  simp only [Nat.zero_add] at stored
  exact stored

theorem beforeEnd_ibuffer (fits : payload.length ≤ 8) {k : Nat} (inside : k < payload.length + 5)
    (bound : k < 64) : (beforeEnd s id payload).ibuffer[k] =
      (parsedBytes s id payload).get ⟨k, by rw [parsedBytes_length]; exact inside⟩ := by
  have here := beforeEnd_bufferAt s id fits inside
  rwa [Hid.bufferAt, dif_pos bound] at here

theorem beforeEnd_sizeMatches (fits : payload.length ≤ 8) {b0 b1 b2 b3 size : UInt8}
    {rest : List UInt8} (parsed : parsedBytes s id payload = b0 :: b1 :: b2 :: b3 :: size :: rest) :
    (beforeEnd s id payload).sizeMatches = decide (size.toNat = payload.length) := by
  have index : (UInt8.ofNat (payload.length + 5)).toNat = payload.length + 5 := by
    rw [UInt8.toNat_ofNat']
    exact Nat.mod_eq_of_lt (by omega)
  have fifth : (beforeEnd s id payload).ibuffer[4] = size := by
    rw [beforeEnd_ibuffer s id fits (by omega) (by decide)]
    simp only [List.get_eq_getElem, parsed]
    rfl
  rw [Hid.sizeMatches, fifth]
  change decide (size.toNat + 5 = (UInt8.ofNat (payload.length + 5)).toNat) = _
  rw [index]
  exact decide_eq_decide.mpr Nat.add_right_cancel_iff

theorem beforeEnd_frame (fits : payload.length ≤ 8) (stack : Vector UInt8 8)
    {b0 b1 b2 b3 size : UInt8} {rest : List UInt8}
    (parsed : parsedBytes s id payload = b0 :: b1 :: b2 :: b3 :: size :: rest)
    (agrees : size.toNat = payload.length) :
    ∃ frame, (beforeEnd s id payload).frame stack = some frame ∧
      frame.id = idOfBytes b0 b1 b2 b3 ∧ frame.size = size.toUInt32 ∧ frame.payload = rest := by
  have buffer (k : Nat) (inside : k < payload.length + 5) :=
    beforeEnd_ibuffer s id fits inside (by omega)
  simp only [List.get_eq_getElem, parsed] at buffer
  have zeroth : (beforeEnd s id payload).ibuffer[0] = b0 := buffer 0 (by omega)
  have first : (beforeEnd s id payload).ibuffer[1] = b1 := buffer 1 (by omega)
  have second : (beforeEnd s id payload).ibuffer[2] = b2 := buffer 2 (by omega)
  have third : (beforeEnd s id payload).ibuffer[3] = b3 := buffer 3 (by omega)
  have fourth : (beforeEnd s id payload).ibuffer[4] = size := buffer 4 (by omega)
  have small : size.toNat ≤ 8 := by omega
  have length : rest.length = payload.length := by
    have total := parsedBytes_length s id payload
    rw [parsed] at total
    simpa using total
  rw [Hid.frame, fourth, copyInto_of_le _ stack small]
  refine ⟨_, rfl, ?_, rfl, ?_⟩
  · rw [Hid.extended, zeroth, first, second, third]
  · rw [CANFrame.payload, UInt8.toNat_toUInt32, overlay_take _ stack small]
    refine List.ext_getElem ?_ ?_
    · rw [List.length_map, List.length_range, agrees, length]
    · intro i inRange inRest
      have here := beforeEnd_bufferAt s id fits (k := 5 + i) (by omega)
      simp only [List.get_eq_getElem, parsed] at here
      rw [List.getElem_map, List.getElem_range, here]
      simp only [Nat.add_comm 5 i]
      rfl

end End

theorem parsedBytes_aligned {s : Hid} (aligned : s.firstBitsChar = none) (id : UInt32)
    (payload : List UInt8) : parsedBytes s id payload = frameBytes id payload := by
  rw [parsedBytes, pendingDigits, aligned, Option.toList_none, List.nil_append, pairUp_hexPair]

theorem convert_pending (h c : UInt8) :
    convertHexstr2int h (hexchar (highNibble c)) = (digitValue h <<< 4) ||| highNibble c := by
  rw [convertHexstr2int, digitValue_high]

/-- Behind a half byte every parsed byte takes its digits from two neighbours. -/
theorem parsedBytes_pending {s : Hid} {h : UInt8} (half : s.firstBitsChar = some h) {id : UInt32}
    {b0 b1 b2 b3 : UInt8} (bytes : idBytes id = [b0, b1, b2, b3]) (payload : List UInt8) :
    ∃ rest, parsedBytes s id payload =
      ((digitValue h <<< 4) ||| highNibble b0) :: ((lowNibble b0 <<< 4) ||| highNibble b1) ::
      ((lowNibble b1 <<< 4) ||| highNibble b2) :: ((lowNibble b2 <<< 4) ||| highNibble b3) ::
      ((lowNibble b3 <<< 4) ||| highNibble (UInt8.ofNat payload.length)) :: rest := by
  rw [parsedBytes, pendingDigits, half, frameBytes, bytes]
  simp only [Option.toList_some, List.cons_append, List.nil_append, List.flatMap_cons, hexPair_eq,
    pairUp, convert_pending, digitValue_low]
  exact ⟨_, rfl⟩

theorem highNibble_small {n : Nat} (small : n ≤ 8) : highNibble (UInt8.ofNat n) = 0 := by
  interval_cases n <;> decide

theorem zero_of_nibbles {c : UInt8} (high : highNibble c = 0) (low : lowNibble c = 0) : c = 0 := by
  have whole := nibbles c
  rw [high, low] at whole
  exact whole.symm

/-- A shifted frame is the frame itself only when all of it is zero. -/
theorem misread_iff {h b0 b1 b2 b3 : UInt8} {n : Nat} (small : n ≤ 8) :
    (((lowNibble b3 <<< 4) ||| highNibble (UInt8.ofNat n)).toNat = n ∧
      ((digitValue h <<< 4) ||| highNibble b0) = b0 ∧
      ((lowNibble b0 <<< 4) ||| highNibble b1) = b1 ∧
      ((lowNibble b1 <<< 4) ||| highNibble b2) = b2 ∧
      ((lowNibble b2 <<< 4) ||| highNibble b3) = b3) ↔
    b0 = 0 ∧ b1 = 0 ∧ b2 = 0 ∧ b3 = 0 ∧ n = 0 ∧ digitValue h <<< 4 = 0 := by
  constructor
  · rintro ⟨size, zeroth, first, second, third⟩
    have sizeByte : (lowNibble b3 <<< 4) ||| highNibble (UInt8.ofNat n) = UInt8.ofNat n := by
      rw [← UInt8.toNat_inj, size, UInt8.toNat_ofNat']
      exact (Nat.mod_eq_of_lt (by omega)).symm
    obtain ⟨lowSize, low3⟩ := nibbles_of_shifted sizeByte
    rw [highNibble_small small] at lowSize low3
    have zeroSize : UInt8.ofNat n = 0 := zero_of_nibbles (highNibble_small small) lowSize
    obtain ⟨same3, low2⟩ := nibbles_of_shifted third
    have high3 : highNibble b3 = 0 := same3.symm.trans low3
    obtain ⟨same2, low1⟩ := nibbles_of_shifted second
    have high2 : highNibble b2 = 0 := same2.symm.trans (low2.trans high3)
    obtain ⟨same1, low0⟩ := nibbles_of_shifted first
    have high1 : highNibble b1 = 0 := same1.symm.trans (low1.trans high2)
    have lowZeroth : lowNibble b0 = highNibble b0 := by
      have low := lowNibble_pair (digitValue h) b0
      rwa [zeroth] at low
    have high0 : highNibble b0 = 0 := lowZeroth.symm.trans (low0.trans high1)
    have zero0 : b0 = 0 := zero_of_nibbles high0 (low0.trans high1)
    have zeroN : n = 0 := by
      have nat := congrArg UInt8.toNat zeroSize
      rw [UInt8.toNat_ofNat', Nat.mod_eq_of_lt (by omega)] at nat
      exact nat
    refine ⟨zero0, zero_of_nibbles high1 (low1.trans high2),
      zero_of_nibbles high2 (low2.trans high3), zero_of_nibbles high3 low3, zeroN, ?_⟩
    rw [zero0] at zeroth
    simpa [highNibble] using zeroth
  · rintro ⟨rfl, rfl, rfl, rfl, rfl, digit⟩
    rw [digit]
    decide

theorem idOfBytes_eq_iff {id : UInt32} {b0 b1 b2 b3 c0 c1 c2 c3 : UInt8}
    (bytes : idBytes id = [c0, c1, c2, c3]) :
    idOfBytes b0 b1 b2 b3 = id ↔ b0 = c0 ∧ b1 = c1 ∧ b2 = c2 ∧ b3 = c3 := by
  have whole : idOfBytes c0 c1 c2 c3 = id := by
    simp only [idBytes, List.cons.injEq, and_true] at bytes
    obtain ⟨rfl, rfl, rfl, rfl⟩ := bytes
    exact idOfBytes_idBytes id
  constructor
  · rintro rfl
    rw [idBytes_idOfBytes] at bytes
    simpa using bytes
  · rintro ⟨rfl, rfl, rfl, rfl⟩
    exact whole

/-! ## Delivery -/

/-- The passes deliver one frame, and it is this one. -/
def Hid.DeliversExactly (s : Hid) (passes : List Pass) (id : UInt32) (payload : List UInt8) :
    Prop :=
  ∃ last frame, s.run passes = some (last, [frame]) ∧ frame.id = id ∧
    frame.size.toNat = payload.length ∧ frame.payload = payload

/-- No half byte waits, or one whose digit counts as 0 before a frame that is all zero. -/
def Hid.Aligned (s : Hid) (id : UInt32) (payload : List UInt8) : Prop :=
  s.firstBitsChar = none ∨
    (id = 0 ∧ payload = [] ∧ ∃ h, s.firstBitsChar = some h ∧ digitValue h <<< 4 = 0)

/-- The parsed bytes are those of the frame. -/
theorem parsed_right_iff {s : Hid} {id : UInt32} {payload : List UInt8} (fits : payload.length ≤ 8)
    {b0 b1 b2 b3 size : UInt8} {rest : List UInt8}
    (parsed : parsedBytes s id payload = b0 :: b1 :: b2 :: b3 :: size :: rest) :
    (size.toNat = payload.length ∧ idOfBytes b0 b1 b2 b3 = id ∧ rest = payload) ↔
      s.Aligned id payload := by
  have bytes : idBytes id = [id.toUInt8, (id >>> 8).toUInt8, (id >>> 16).toUInt8,
    (id >>> 24).toUInt8] := rfl
  have length : rest.length = payload.length := by
    have total := parsedBytes_length s id payload
    rw [parsed] at total
    simpa using total
  rw [idOfBytes_eq_iff bytes]
  cases half : s.firstBitsChar with
  | none =>
      rw [parsedBytes_aligned half, frameBytes, bytes] at parsed
      simp only [List.cons_append, List.nil_append, List.cons.injEq] at parsed
      obtain ⟨rfl, rfl, rfl, rfl, rfl, rfl⟩ := parsed
      refine iff_of_true ⟨?_, ⟨rfl, rfl, rfl, rfl⟩, rfl⟩ (.inl half)
      rw [UInt8.toNat_ofNat']
      exact Nat.mod_eq_of_lt (by omega)
  | some h =>
      obtain ⟨tail, pending⟩ := parsedBytes_pending half bytes payload
      rw [parsed] at pending
      simp only [List.cons.injEq] at pending
      obtain ⟨rfl, rfl, rfl, rfl, rfl, rfl⟩ := pending
      constructor
      · rintro ⟨sizes, ids, _⟩
        obtain ⟨zero0, zero1, zero2, zero3, empty, digit⟩ := (misread_iff fits).mp ⟨sizes, ids⟩
        have zero : id = 0 := by
          rw [← idOfBytes_idBytes id, zero0, zero1, zero2, zero3]
          decide
        exact .inr ⟨zero, List.length_eq_zero_iff.mp empty, h, half, digit⟩
      · rintro (aligned | ⟨rfl, rfl, other, same, digit⟩)
        · rw [half] at aligned
          cases aligned
        · obtain rfl : h = other := Option.some.inj (half.symm.trans same)
          obtain ⟨sizes, ids⟩ := (misread_iff fits).mpr ⟨rfl, rfl, rfl, rfl, rfl, digit⟩
          exact ⟨sizes, ids, List.length_eq_zero_iff.mp length⟩

theorem run_frame (s : Hid) {id : UInt32} {payload : List UInt8} (fits : payload.length ≤ 8)
    {front : List Pass} {writable : Bool} {stack : Vector UInt8 8}
    (text : inputOf (front ++ [⟨writable, some 'F'.toUInt8, stack⟩]) = frameText id payload) :
    s.run (front ++ [⟨writable, some 'F'.toUInt8, stack⟩]) =
      ((beforeEnd s id payload).withSlot (slotAfter front s.frameToHcand)).run
        [⟨writable, some 'F'.toUInt8, stack⟩] := by
  have chars : inputOf front = 'C'.toUInt8 :: (frameBytes id payload).flatMap hexPair := by
    unfold inputOf frameText at text
    rw [List.filterMap_append] at text
    exact List.append_cancel_right text
  have notF : ∀ c ∈ inputOf front, c ≠ 'F'.toUInt8 := by
    rw [chars]
    rintro c member rfl
    rcases List.mem_cons.mp member with same | digit
    · exact absurd same (by decide)
    · exact absurd (frameDigits_not_command id payload _ digit) (by decide)
  rw [run_append, run_without_end s front notF, chars, inputs_frame s id fits, Option.map_some,
    Option.bind_some]
  cases Hid.run _ [⟨writable, some 'F'.toUInt8, stack⟩] <;> rfl

theorem slotAfter_free {front : List Pass} {writable : Bool} {char : Option UInt8}
    {stack : Vector UInt8 8} {slot : Option CANFrame} :
    (writable = true ∨ slotAfter front slot = none) ↔
      slot = none ∨ ∃ pass ∈ front ++ [⟨writable, char, stack⟩], pass.writable = true := by
  have any : front.any Pass.writable = true ↔ ∃ pass ∈ front, pass.writable = true := by simp
  unfold slotAfter
  constructor
  · rintro (now | free)
    · exact .inr ⟨_, List.mem_append_right _ (List.mem_singleton_self _), now⟩
    · split at free
      · obtain ⟨pass, member, sent⟩ := any.mp ‹_›
        exact .inr ⟨pass, List.mem_append_left _ member, sent⟩
      · exact .inl free
  · rintro (free | ⟨pass, member, sent⟩)
    · exact .inr (by rw [free, ite_self])
    · rcases List.mem_append.mp member with early | last
      · exact .inr (if_pos (any.mpr ⟨pass, early, sent⟩))
      · rw [List.mem_singleton.mp last] at sent
        exact .inl sent

/-- A complete frame text is delivered as it was sent exactly when no half byte waits in front of
it and the slot towards `hcand` is free at its end. -/
theorem delivers_frame_iff (s : Hid) {id : UInt32} {payload : List UInt8}
    (fits : payload.length ≤ 8) {front : List Pass} {writable : Bool} {stack : Vector UInt8 8}
    (text : inputOf (front ++ [⟨writable, some 'F'.toUInt8, stack⟩]) = frameText id payload) :
    s.DeliversExactly (front ++ [⟨writable, some 'F'.toUInt8, stack⟩]) id payload ↔
      s.Aligned id payload ∧
        (s.frameToHcand = none ∨
          ∃ pass ∈ front ++ [⟨writable, some 'F'.toUInt8, stack⟩], pass.writable = true) := by
  obtain ⟨b0, b1, b2, b3, size, rest, parsed, length⟩ := parsedBytes_cases s id payload
  have ready : ((beforeEnd s id payload).withSlot (slotAfter front s.frameToHcand)).awaitingFlag =
      false := rfl
  have slot : ((beforeEnd s id payload).withSlot (slotAfter front s.frameToHcand)).frameToHcand =
      slotAfter front s.frameToHcand := rfl
  have matched := beforeEnd_sizeMatches s id fits parsed
  -- what the parsed bytes have to be for the frame to be right
  have right : s.DeliversExactly (front ++ [⟨writable, some 'F'.toUInt8, stack⟩]) id payload ↔
      (size.toNat = payload.length ∧ idOfBytes b0 b1 b2 b3 = id ∧ rest = payload) ∧
        (writable = true ∨ slotAfter front s.frameToHcand = none) := by
    unfold Hid.DeliversExactly
    rw [run_frame s fits text]
    by_cases agrees : size.toNat = payload.length
    · obtain ⟨frame, built, ids, sizes, bytes⟩ := beforeEnd_frame s id fits stack parsed agrees
      obtain ⟨last, delivered⟩ := run_end_match ready writable stack
        (matched.trans (decide_eq_true agrees)) built
      rw [delivered, slot]
      by_cases free : writable = true ∨ slotAfter front s.frameToHcand = none
      · rw [if_pos free]
        constructor
        · rintro ⟨_, other, same, sameId, _, samePayload⟩
          cases same
          exact ⟨⟨agrees, ids.symm.trans sameId, bytes.symm.trans samePayload⟩, free⟩
        · rintro ⟨⟨_, sameId, samePayload⟩, _⟩
          refine ⟨last, frame, rfl, ids.trans sameId, ?_, bytes.trans samePayload⟩
          rw [sizes, UInt8.toNat_toUInt32, agrees]
      · rw [if_neg free]
        constructor
        · rintro ⟨_, _, same, _⟩
          cases same
        · rintro ⟨_, isFree⟩
          exact absurd isFree free
    · obtain ⟨last, delivered⟩ := run_end_mismatch ready writable stack
        (matched.trans (decide_eq_false agrees))
      rw [delivered]
      constructor
      · rintro ⟨_, _, same, _⟩
        cases same
      · rintro ⟨⟨same, _⟩, _⟩
        exact absurd same agrees
  rw [right, slotAfter_free]
  exact and_congr_left fun _ => parsed_right_iff fits parsed

/-- A pass that reads a character while the socket is writable. -/
def readPass (c : UInt8) : Pass := ⟨true, some c, .replicate 8 0⟩

theorem delivers_frame_after_garbage :
    ∃ s earlier, Hid.reset.run (['7', 'f', 'Y', '3', 'C', 'a', 'b', 'Q'].map
      fun c => readPass c.toUInt8) = some (s, earlier) ∧
      s.DeliversExactly ((frameText 0x105001 [7, 1]).map readPass) 0x105001 [7, 1] := by
  have garbage : (Hid.reset.run (['7', 'f', 'Y', '3', 'C', 'a', 'b', 'Q'].map
      fun c => readPass c.toUInt8)).any (fun result =>
        result.1.firstBitsChar == none && result.1.frameToHcand == none) = true := by
    decide +kernel
  obtain ⟨⟨s, earlier⟩, reached, both⟩ := (Option.any_eq_true _ _).mp garbage
  obtain ⟨aligned, free⟩ := (Bool.and_eq_true _ _).mp both
  have text : inputOf ((frameText 0x105001 [7, 1]).dropLast.map readPass ++
      [readPass 'F'.toUInt8]) = frameText 0x105001 [7, 1] := by
    decide +kernel
  refine ⟨s, earlier, reached, ?_⟩
  exact (delivers_frame_iff s (by decide) text).mpr ⟨.inl (eq_of_beq aligned),
    .inl (eq_of_beq free)⟩

/-- A frame that breaks off behind its first digit: the next frame, from address 1, arrives as a
frame to address 4. -/
theorem half_byte_shifts_frame :
    ∃ s earlier, Hid.reset.run (['C', '0'].map fun c => readPass c.toUInt8) = some (s, earlier) ∧
      inputOf ((frameText 1 []).map readPass) = frameText 1 [] ∧
      (∃ last frame, s.run ((frameText 1 []).map readPass) = some (last, [frame]) ∧
        frame.id = 0x1000) ∧
      ¬ s.DeliversExactly ((frameText 1 []).map readPass) 1 [] := by
  have executed : ((Hid.reset.run (['C', '0'].map fun c => readPass c.toUInt8)).any fun begun =>
      (begun.1.run ((frameText 1 []).map readPass)).any fun result =>
        result.2.map CANFrame.id == [0x1000]) = true := by
    decide +kernel
  obtain ⟨⟨s, earlier⟩, reached, finished⟩ := (Option.any_eq_true _ _).mp executed
  obtain ⟨⟨last, frames⟩, delivered, ids⟩ := (Option.any_eq_true _ _).mp finished
  obtain ⟨frame, rfl, shifted⟩ := List.map_eq_singleton_iff.mp (eq_of_beq ids)
  refine ⟨s, earlier, reached, by decide +kernel, ⟨last, frame, delivered, shifted⟩, ?_⟩
  rintro ⟨_, other, same, right, _⟩
  rw [delivered] at same
  cases same
  rw [shifted] at right
  cases right

end Hcan.Transport
