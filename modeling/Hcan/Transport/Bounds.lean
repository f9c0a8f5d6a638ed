import Hcan.Transport.Resync

/-!
# The bounds of the serial parser

The parser is watched with the bytes received since the frame began and with the
frames handed on, each one beside the bytes of its frame.  A frame begins where the
index goes back to the start of the buffer and is over when an `F` has ended it.
Index and size stay in bounds as long as no character does what the source does not
check.
-/

namespace Hcan.Transport

open Hcan.Library

structure WatchedHid where
  hid : Hid
  /-- The bytes received in the present frame. -/
  received : List UInt8
  /-- An `F` has ended the frame, and no other one has begun. -/
  ended : Bool
  /-- The frames handed on, with the bytes received for them. -/
  handed : List (CANFrame × List UInt8)

def WatchedHid.start : WatchedHid := ⟨Hid.reset, [], false, []⟩

/-- What the passing observer notes for a pass that leads the parser to `next`. -/
def WatchedHid.note (w : WatchedHid) (pass : Pass) (next : Hid) : WatchedHid :=
  let s := w.hid.flush pass.writable
  let begun : WatchedHid := { w with hid := next, received := [], ended := false }
  match pass.char with
  | none => { w with hid := next }
  | some c =>
      if s.awaitingFlag then begun
      else if isCommand c then
        if c = 'B'.toUInt8 ∨ c = 'C'.toUInt8 then begun
        else if c = 'F'.toUInt8 then
          if s.sizeMatches then
            ⟨next, [], true, w.handed ++ (w.hid.delivered pass).toList.map fun frame =>
              (frame, w.received)⟩
          else begun
        else { w with hid := next }
      else match s.firstBitsChar with
        | none => { w with hid := next }
        | some first => { w with hid := next, received := w.received ++ [convertHexstr2int first c] }

def WatchedHid.step (w : WatchedHid) (pass : Pass) : Option WatchedHid :=
  (w.hid.pass pass).map (w.note pass)

/-- A frame handed on has at most eight bytes, all of them received in this frame. -/
def Covered (record : CANFrame × List UInt8) : Prop :=
  record.1.size.toNat ≤ 8 ∧ record.2.length = record.1.size.toNat + 5 ∧
    record.1.payload = record.2.drop 5

/-- No write of the passes goes outside an array, and every frame handed on is covered. -/
def InBounds (w : WatchedHid) (passes : List Pass) : Prop :=
  ∃ last, passes.foldlM WatchedHid.step w = some last ∧ ∀ record ∈ last.handed, Covered record

/-- What the source does not check: there is room for a byte, an `F` that is accepted announces
at most eight bytes, and it is not the second one that ends the same frame. -/
def FitsPass (w : WatchedHid) (pass : Pass) : Prop :=
  let s := w.hid.flush pass.writable
  ∀ c, pass.char = some c → s.awaitingFlag = false →
    (isCommand c = false → s.firstBitsChar ≠ none → s.iindex.toNat < 64) ∧
    (c = 'F'.toUInt8 → s.sizeMatches = true →
      s.ibuffer[4].toNat ≤ 8 ∧ (s.frameToHcand = none → w.ended = false))

/-- The condition along the passes. -/
def AllFit : WatchedHid → List Pass → Prop
  | _, [] => True
  | w, pass :: passes => FitsPass w pass ∧ ∀ next, w.step pass = some next → AllFit next passes

structure Mirrors (w : WatchedHid) : Prop where
  bound : w.hid.iindex.toNat ≤ 64
  unended : w.ended = false → w.hid.iindex.toNat = w.received.length ∧
    ∀ k, (inside : k < w.received.length) → w.hid.bufferAt k = w.received[k]
  closed : w.ended = true →
    w.hid.iindex.toNat = w.hid.ibuffer[4].toNat + 5 + w.received.length

theorem start_mirrors : Mirrors .start where
  bound := by decide
  unended := fun _ => ⟨rfl, fun _ inside => absurd inside (Nat.not_lt_zero _)⟩
  closed := fun ended => Bool.noConfusion ended

/-! ## What a pass does -/

/-- The effect of a pass on the buffer and on what is watched. -/
inductive PassEffect (w : WatchedHid) (pass : Pass) (next : WatchedHid) : Prop where
  | quiet (unbound : FitsPass w pass) (ibuffer : next.hid.ibuffer = w.hid.ibuffer)
      (iindex : next.hid.iindex = w.hid.iindex) (received : next.received = w.received)
      (ended : next.ended = w.ended) (handed : next.handed = w.handed)
  | begun (unbound : FitsPass w pass) (iindex : next.hid.iindex = 0) (received : next.received = [])
      (ended : next.ended = false) (handed : next.handed = w.handed)
  | stored (byte : UInt8) (unbound : FitsPass w pass) (inside : w.hid.iindex.toNat < 64)
      (ibuffer : next.hid.ibuffer = w.hid.ibuffer.set w.hid.iindex.toNat byte)
      (iindex : next.hid.iindex = w.hid.iindex + 1)
      (received : next.received = w.received ++ [byte]) (ended : next.ended = w.ended)
      (handed : next.handed = w.handed)
  | dropped (unbound : FitsPass w pass) (accepted : w.hid.sizeMatches = true)
      (ibuffer : next.hid.ibuffer = w.hid.ibuffer) (iindex : next.hid.iindex = w.hid.iindex)
      (received : next.received = []) (ended : next.ended = true) (handed : next.handed = w.handed)
  | handed (frame : CANFrame) (bound : FitsPass w pass ↔ w.ended = false)
      (accepted : w.hid.sizeMatches = true) (built : w.hid.frame pass.stack = some frame)
      (ibuffer : next.hid.ibuffer = w.hid.ibuffer) (iindex : next.hid.iindex = w.hid.iindex)
      (received : next.received = []) (ended : next.ended = true)
      (handed : next.handed = w.handed ++ [(frame, w.received)])

section Flush

variable (s : Hid) (writable : Bool)

@[simp] theorem flush_ibuffer : (s.flush writable).ibuffer = s.ibuffer := by
  cases writable <;> rfl

@[simp] theorem flush_iindex : (s.flush writable).iindex = s.iindex := by
  cases writable <;> rfl

@[simp] theorem flush_firstBitsChar : (s.flush writable).firstBitsChar = s.firstBitsChar := by
  cases writable <;> rfl

@[simp] theorem flush_awaitingFlag : (s.flush writable).awaitingFlag = s.awaitingFlag := by
  cases writable <;> rfl

@[simp] theorem flush_sizeMatches : (s.flush writable).sizeMatches = s.sizeMatches := by
  cases writable <;> rfl

@[simp] theorem flush_frame (stack : Vector UInt8 8) :
    (s.flush writable).frame stack = s.frame stack := by
  cases writable <;> rfl

end Flush

theorem frame_of_le {s : Hid} (stack : Vector UInt8 8) {size : UInt8}
    (fourth : s.ibuffer[4] = size) (fits : size.toNat ≤ 8) :
    s.frame stack = some ⟨s.extended, size.toUInt32,
      overlay (fun i => s.bufferAt (5 + i)) size.toNat stack⟩ := by
  rw [Hid.frame, fourth, copyInto_of_le _ stack fits, Option.bind_eq_bind, Option.bind_some]

theorem frame_of_lt {s : Hid} (stack : Vector UInt8 8) {size : UInt8}
    (fourth : s.ibuffer[4] = size) (large : 8 < size.toNat) : s.frame stack = none := by
  rw [Hid.frame, fourth, copyInto_of_lt _ stack large, Option.bind_eq_bind, Option.bind_none]

/-- The frame that is built has the size and the bytes of the buffer. -/
theorem frame_eq_some {s : Hid} {stack : Vector UInt8 8} {frame : CANFrame}
    (built : s.frame stack = some frame) :
    s.ibuffer[4].toNat ≤ 8 ∧ frame.size.toNat = s.ibuffer[4].toNat ∧
      frame.payload = (List.range s.ibuffer[4].toNat).map fun i => s.bufferAt (5 + i) := by
  obtain ⟨size, fourth⟩ : ∃ size, s.ibuffer[4] = size := ⟨_, rfl⟩
  rw [fourth]
  by_cases fits : size.toNat ≤ 8
  · rw [frame_of_le stack fourth fits, Option.some.injEq] at built
    subst built
    refine ⟨fits, ?_, ?_⟩
    · rw [UInt8.toNat_toUInt32]
    · rw [CANFrame.payload, UInt8.toNat_toUInt32, overlay_take _ stack fits]
  · rw [frame_of_lt stack fourth (Nat.lt_of_not_le fits)] at built
    cases built

theorem value_effect {w next : WatchedHid} {pass : Pass} {c : UInt8} (char : pass.char = some c)
    (ready : w.hid.awaitingFlag = false) (value : isCommand c = false)
    (taken : w.step pass = some next) : PassEffect w pass next := by
  have notF : c ≠ 'F'.toUInt8 := by
    rintro rfl
    exact absurd value (by decide)
  have input : (w.hid.flush pass.writable).input pass.stack c =
      (w.hid.flush pass.writable).handleValue c := by
    rw [Hid.input, if_neg (by simp [ready]), if_neg (by simp [value])]
  unfold WatchedHid.step Hid.pass at taken
  rw [char] at taken
  simp only [input] at taken
  cases half : w.hid.firstBitsChar with
  | none =>
      have unbound : FitsPass w pass := by
        intro other same _
        cases char.symm.trans same
        exact ⟨fun _ pending => absurd (by simpa using half) pending, fun isEnd => absurd isEnd notF⟩
      rw [handleValue_first c (by simpa using half), Option.map_some] at taken
      cases taken
      refine .quiet unbound ?_ ?_ ?_ ?_ ?_ <;>
        simp [WatchedHid.note, char, ready, value, half]
  | some first =>
      by_cases inside : w.hid.iindex.toNat < 64
      · have unbound : FitsPass w pass := by
          intro other same _
          cases char.symm.trans same
          exact ⟨fun _ _ => by simpa using inside, fun isEnd => absurd isEnd notF⟩
        rw [handleValue_second c (by simpa using half) (by simpa using inside),
          Option.map_some] at taken
        cases taken
        refine .stored (convertHexstr2int first c) unbound inside ?_ ?_ ?_ ?_ ?_ <;>
          simp [WatchedHid.note, char, ready, value, half]
      · rw [handleValue_overrun c (by simpa using half) (by simpa using inside)] at taken
        cases taken

theorem end_effect {w next : WatchedHid} {pass : Pass} (char : pass.char = some 'F'.toUInt8)
    (ready : w.hid.awaitingFlag = false) (taken : w.step pass = some next) :
    PassEffect w pass next := by
  have isEnd : isCommand 'F'.toUInt8 = true := by decide
  have noReset : ¬ ('F'.toUInt8 = 'B'.toUInt8 ∨ 'F'.toUInt8 = 'C'.toUInt8) := by decide
  have input := input_end (s := w.hid.flush pass.writable) (by simpa using ready) pass.stack
  unfold WatchedHid.step Hid.pass at taken
  rw [char] at taken
  simp only [input] at taken
  by_cases agrees : w.hid.sizeMatches = true
  · rw [if_pos (by simpa using agrees), flush_frame] at taken
    cases built : w.hid.frame pass.stack with
    | none =>
        rw [built] at taken
        cases taken
    | some frame =>
        rw [built, Option.map_some, Option.map_some, Option.some.injEq] at taken
        subst taken
        have short := (frame_eq_some built).1
        cases slot : (w.hid.flush pass.writable).frameToHcand with
        | none =>
            have delivers : w.hid.delivered pass = some frame := by
              simp [Hid.delivered, char, ready, agrees, slot, built]
            refine .handed frame ⟨?_, ?_⟩ agrees built ?_ ?_ ?_ ?_ ?_
            · intro fits
              exact ((fits _ char (by simpa using ready)).2 rfl (by simpa using agrees)).2 slot
            · intro fresh other same _
              cases char.symm.trans same
              exact ⟨fun value => absurd (isEnd.symm.trans value) (by decide),
                fun _ _ => ⟨by simpa using short, fun _ => fresh⟩⟩
            all_goals simp [WatchedHid.note, char, ready, isEnd, noReset, agrees, delivers]
        | some other =>
            have nothing : w.hid.delivered pass = none := by
              simp [Hid.delivered, slot]
            have unbound : FitsPass w pass := by
              intro other same _
              cases char.symm.trans same
              exact ⟨fun value => absurd (isEnd.symm.trans value) (by decide),
                fun _ _ => ⟨by simpa using short, fun free => by rw [slot] at free; cases free⟩⟩
            refine .dropped unbound agrees ?_ ?_ ?_ ?_ ?_ <;>
              simp [WatchedHid.note, char, ready, isEnd, noReset, agrees, nothing]
  · have unbound : FitsPass w pass := by
      intro other same _
      cases char.symm.trans same
      exact ⟨fun value => absurd (isEnd.symm.trans value) (by decide),
        fun _ matched => absurd (by simpa using matched) agrees⟩
    rw [if_neg (by simpa using agrees), Option.map_some, Option.some.injEq] at taken
    subst taken
    refine .begun unbound ?_ ?_ ?_ ?_ <;>
      simp [WatchedHid.note, char, ready, isEnd, agrees]

theorem command_effect {w next : WatchedHid} {pass : Pass} {c : UInt8}
    (char : pass.char = some c) (ready : w.hid.awaitingFlag = false)
    (command : isCommand c = true) (notF : c ≠ 'F'.toUInt8) (taken : w.step pass = some next) :
    PassEffect w pass next := by
  have unbound : FitsPass w pass := by
    intro other same _
    cases char.symm.trans same
    exact ⟨fun value => absurd (command.symm.trans value) (by decide),
      fun isEnd => absurd isEnd notF⟩
  have input : (w.hid.flush pass.writable).input pass.stack c =
      (w.hid.flush pass.writable).handleSerialCommand pass.stack c := by
    rw [Hid.input, if_neg (by simp [ready]), if_pos command]
  unfold WatchedHid.step Hid.pass at taken
  rw [char] at taken
  simp only [input, Hid.handleSerialCommand, if_neg notF] at taken
  by_cases begins : c = 'B'.toUInt8 ∨ c = 'C'.toUInt8
  · have reset : next = w.note pass { w.hid.flush pass.writable with iindex := 0 } := by
      rcases begins with rfl | rfl
      · rw [if_pos rfl] at taken
        exact (Option.some.inj taken).symm
      · rw [if_neg (by decide), if_neg (by decide), if_pos rfl] at taken
        exact (Option.some.inj taken).symm
    subst reset
    refine .begun unbound ?_ ?_ ?_ ?_ <;>
      simp [WatchedHid.note, char, ready, command, begins]
  · rw [if_neg fun isB => begins (.inl isB), if_neg fun isC => begins (.inr isC)] at taken
    by_cases isY : c = 'Y'.toUInt8
    · rw [if_pos isY, Option.map_some, Option.some.injEq] at taken
      subst taken
      refine .quiet unbound ?_ ?_ ?_ ?_ ?_ <;>
        simp [WatchedHid.note, char, ready, command, begins, notF]
    · rw [if_neg isY, Option.map_some, Option.some.injEq] at taken
      subst taken
      refine .quiet unbound ?_ ?_ ?_ ?_ ?_ <;>
        simp [WatchedHid.note, char, ready, command, begins, notF]

/-- Every pass that writes inside the arrays has one of the effects. -/
theorem step_effect {w next : WatchedHid} {pass : Pass} (taken : w.step pass = some next) :
    PassEffect w pass next := by
  cases char : pass.char with
  | none =>
      have unbound : FitsPass w pass := by
        intro c same
        rw [char] at same
        cases same
      simp only [WatchedHid.step, Hid.pass, char, Option.map_some, Option.some.injEq] at taken
      subst taken
      refine .quiet unbound ?_ ?_ ?_ ?_ ?_ <;> simp [WatchedHid.note, char]
  | some c =>
      cases ready : w.hid.awaitingFlag with
      | true =>
          have unbound : FitsPass w pass := by
            intro _ _ idle
            rw [flush_awaitingFlag, ready] at idle
            cases idle
          simp only [WatchedHid.step, Hid.pass, char, Hid.input, flush_awaitingFlag, ready,
            if_true, Option.map_some, Option.some.injEq] at taken
          subst taken
          refine .begun unbound ?_ ?_ ?_ ?_ <;> simp [WatchedHid.note, char, ready]
      | false =>
          cases command : isCommand c with
          | false => exact value_effect char ready command taken
          | true =>
              by_cases isEnd : c = 'F'.toUInt8
              · exact end_effect (by rw [char, isEnd]) ready taken
              · exact command_effect char ready command isEnd taken

/-- A write outside an array comes from a pass that does not fit. -/
theorem step_eq_none {w : WatchedHid} {pass : Pass} (fails : w.step pass = none) :
    ¬ FitsPass w pass := by
  intro fits
  have stuck : w.hid.pass pass = none := Option.map_eq_none_iff.mp fails
  cases char : pass.char with
  | none =>
      rw [Hid.pass, char] at stuck
      cases stuck
  | some c =>
      simp only [Hid.pass, char, Hid.input] at stuck
      by_cases ready : w.hid.awaitingFlag = true
      · rw [if_pos (by simpa using ready)] at stuck
        cases stuck
      · rw [if_neg (by simpa using ready)] at stuck
        obtain ⟨room, atEnd⟩ := fits c char (by simpa using ready)
        by_cases command : isCommand c = true
        · rw [if_pos command] at stuck
          unfold Hid.handleSerialCommand at stuck
          split at stuck
          · cases stuck
          · split at stuck
            · cases stuck
            · split at stuck
              · cases stuck
              · split at stuck
                · rename_i isEnd
                  split at stuck
                  · rename_i agrees
                    have short := (atEnd isEnd agrees).1
                    rw [frame_of_le pass.stack rfl short] at stuck
                    cases stuck
                  · cases stuck
                · cases stuck
        · rw [if_neg command] at stuck
          cases half : w.hid.firstBitsChar with
          | none =>
              rw [handleValue_first c (by simpa using half)] at stuck
              cases stuck
          | some first =>
              have inside := room (by simpa using command) (by simp [half])
              rw [handleValue_second c (by simpa using half) inside] at stuck
              cases stuck

theorem bufferAt_congr {s t : Hid} (same : s.ibuffer = t.ibuffer) (k : Nat) :
    s.bufferAt k = t.bufferAt k := by
  unfold Hid.bufferAt
  rw [same]

theorem accepted_index {s : Hid} (accepted : s.sizeMatches = true) :
    s.iindex.toNat = s.ibuffer[4].toNat + 5 := (of_decide_eq_true accepted).symm

theorem step_mirrors {w next : WatchedHid} {pass : Pass} (mirrors : Mirrors w)
    (taken : w.step pass = some next) : Mirrors next := by
  cases step_effect taken with
  | quiet _ ibuffer iindex received ended _ =>
      refine ⟨?_, ?_, ?_⟩
      · rw [iindex]
        exact mirrors.bound
      · intro isOpen
        rw [iindex, received]
        refine ⟨(mirrors.unended (ended ▸ isOpen)).1, ?_⟩
        intro k inside
        rw [bufferAt_congr ibuffer]
        exact (mirrors.unended (ended ▸ isOpen)).2 k inside
      · intro isClosed
        rw [iindex, ibuffer, received]
        exact mirrors.closed (ended ▸ isClosed)
  | begun _ iindex received ended _ =>
      have zero : next.hid.iindex.toNat = 0 := by
        rw [iindex]
        rfl
      refine ⟨by omega, ?_, ?_⟩
      · intro _
        rw [received]
        exact ⟨zero, fun k inside => absurd inside (Nat.not_lt_zero k)⟩
      · intro isClosed
        rw [ended] at isClosed
        cases isClosed
  | stored byte _ inside ibuffer iindex received ended _ =>
      have up : next.hid.iindex.toNat = w.hid.iindex.toNat + 1 := by
        rw [iindex, UInt8.toNat_add, UInt8.toNat_one]
        exact Nat.mod_eq_of_lt (by omega)
      refine ⟨by omega, ?_, ?_⟩
      · intro isOpen
        obtain ⟨length, bytes⟩ := mirrors.unended (ended ▸ isOpen)
        refine ⟨?_, ?_⟩
        · rw [up, received, List.length_append, length, List.length_singleton]
        · intro k before
          have within : k < 64 := by
            rw [received, List.length_append, List.length_singleton] at before
            omega
          simp only [Hid.bufferAt, dif_pos within, ibuffer, received, byte_set _ within,
            List.getElem_append]
          by_cases here : k < w.received.length
          · rw [if_neg (by omega), dif_pos here, ← bytes k here, Hid.bufferAt, dif_pos within]
          · have last : w.hid.iindex.toNat = k := by
              rw [received, List.length_append, List.length_singleton] at before
              omega
            rw [if_pos last, dif_neg here, List.getElem_singleton]
      · intro isClosed
        have behind := mirrors.closed (ended ▸ isClosed)
        have fourth : next.hid.ibuffer[4] = w.hid.ibuffer[4] := by
          simp only [ibuffer]
          rw [byte_set inside (by decide), if_neg (by omega)]
        rw [up, fourth, received, List.length_append, List.length_singleton]
        omega
  | dropped _ accepted ibuffer iindex received ended _ =>
      have index := accepted_index accepted
      refine ⟨by rw [iindex]; exact mirrors.bound, ?_, ?_⟩
      · intro isOpen
        rw [ended] at isOpen
        cases isOpen
      · intro _
        rw [iindex, ibuffer, received, List.length_nil, index]
  | handed frame _ accepted _ ibuffer iindex received ended _ =>
      have index := accepted_index accepted
      refine ⟨by rw [iindex]; exact mirrors.bound, ?_, ?_⟩
      · intro isOpen
        rw [ended] at isOpen
        cases isOpen
      · intro _
        rw [iindex, ibuffer, received, List.length_nil, index]

/-- The frame handed on is covered exactly when it is the first one that ends its frame. -/
theorem covered_iff {w : WatchedHid} (mirrors : Mirrors w) {stack : Vector UInt8 8}
    {frame : CANFrame} (accepted : w.hid.sizeMatches = true)
    (built : w.hid.frame stack = some frame) :
    Covered (frame, w.received) ↔ w.ended = false := by
  obtain ⟨short, size, payload⟩ := frame_eq_some built
  have index := accepted_index accepted
  constructor
  · rintro ⟨_, length, _⟩
    cases ended : w.ended with
    | false => rfl
    | true =>
        have behind := mirrors.closed ended
        simp only at length
        omega
  · intro fresh
    obtain ⟨length, bytes⟩ := mirrors.unended fresh
    refine ⟨?_, ?_, ?_⟩ <;> simp only
    · omega
    · omega
    · rw [payload]
      refine List.ext_getElem ?_ ?_
      · rw [List.length_map, List.length_range, List.length_drop]
        omega
      · intro i _ inside
        rw [List.length_drop] at inside
        rw [List.getElem_map, List.getElem_range, List.getElem_drop]
        exact bytes (5 + i) (by omega)

theorem step_handed {w next : WatchedHid} {pass : Pass} (taken : w.step pass = some next) :
    ∀ record ∈ w.handed, record ∈ next.handed := by
  intro record member
  cases step_effect taken with
  | quiet _ _ _ _ _ handed => exact handed ▸ member
  | begun _ _ _ _ handed => exact handed ▸ member
  | stored _ _ _ _ _ _ _ handed => exact handed ▸ member
  | dropped _ _ _ _ _ _ handed => exact handed ▸ member
  | handed _ _ _ _ _ _ _ _ handed => exact handed ▸ List.mem_append_left _ member

theorem run_handed {w last : WatchedHid} {passes : List Pass}
    (taken : passes.foldlM WatchedHid.step w = some last) :
    ∀ record ∈ w.handed, record ∈ last.handed := by
  induction passes generalizing w with
  | nil =>
      cases taken
      exact fun _ member => member
  | cons pass passes ih =>
      obtain ⟨next, first, rest⟩ := Option.bind_eq_some_iff.mp taken
      exact fun record member => ih rest record (step_handed first record member)

/-- A pass fits exactly when the frames it hands on are covered. -/
theorem step_fits_iff {w next : WatchedHid} {pass : Pass} (mirrors : Mirrors w)
    (covered : ∀ record ∈ w.handed, Covered record) (taken : w.step pass = some next) :
    FitsPass w pass ↔ ∀ record ∈ next.handed, Covered record := by
  cases step_effect taken with
  | quiet unbound _ _ _ _ handed => exact iff_of_true unbound (handed ▸ covered)
  | begun unbound _ _ _ handed => exact iff_of_true unbound (handed ▸ covered)
  | stored _ unbound _ _ _ _ _ handed => exact iff_of_true unbound (handed ▸ covered)
  | dropped unbound _ _ _ _ _ handed => exact iff_of_true unbound (handed ▸ covered)
  | handed frame bound accepted built _ _ _ _ handed =>
      rw [bound, ← covered_iff mirrors accepted built, handed]
      constructor
      · intro here record member
        rcases List.mem_append.mp member with early | new
        · exact covered record early
        · exact List.mem_singleton.mp new ▸ here
      · intro all
        exact all _ (List.mem_append_right _ (List.mem_singleton_self _))

theorem run_in_bounds_iff {w : WatchedHid} (mirrors : Mirrors w)
    (covered : ∀ record ∈ w.handed, Covered record) (passes : List Pass) :
    InBounds w passes ↔ AllFit w passes := by
  induction passes generalizing w with
  | nil => exact iff_of_true ⟨w, rfl, covered⟩ trivial
  | cons pass passes ih =>
      cases taken : w.step pass with
      | none =>
          refine iff_of_false ?_ fun fits => step_eq_none taken fits.1
          rintro ⟨last, ran, _⟩
          rw [List.foldlM_cons, taken] at ran
          cases ran
      | some next =>
          have first : InBounds w (pass :: passes) ↔ InBounds next passes := by
            unfold InBounds
            rw [List.foldlM_cons, taken]
            rfl
          have rest : AllFit w (pass :: passes) ↔ FitsPass w pass ∧ AllFit next passes := by
            constructor
            · exact fun fits => ⟨fits.1, fits.2 next taken⟩
            · rintro ⟨fits, later⟩
              refine ⟨fits, ?_⟩
              intro other same
              cases taken.symm.trans same
              exact later
          have here := step_fits_iff mirrors covered taken
          rw [first, rest]
          constructor
          · intro bounded
            have coveredToo : ∀ record ∈ next.handed, Covered record := by
              obtain ⟨last, ran, all⟩ := bounded
              exact fun record member => all record (run_handed ran record member)
            exact ⟨here.mpr coveredToo, (ih (step_mirrors mirrors taken) coveredToo).mp bounded⟩
          · rintro ⟨fits, later⟩
            exact (ih (step_mirrors mirrors taken) (here.mp fits)).mpr later

/-- The parser writes inside its arrays and hands on only frames of at most eight received bytes
exactly as long as every character fits. -/
theorem input_in_bounds_iff (passes : List Pass) :
    InBounds .start passes ↔ AllFit .start passes :=
  run_in_bounds_iff start_mirrors (fun _ member => absurd member List.not_mem_nil) passes

/-- Without a command the 65th byte is written behind the buffer; a frame that announces nine bytes
is accepted and copied into a record that has room for eight. -/
theorem input_out_of_bounds :
    ¬ InBounds .start (List.replicate 130 (readPass '0'.toUInt8)) ∧
      ¬ InBounds .start (((['C'.toUInt8] ++
        ([0, 0, 0, 0, 9, 0, 0, 0, 0, 0, 0, 0, 0, 0].flatMap hexPair) ++ ['F'.toUInt8])).map
          readPass) := by
  constructor
  · rintro ⟨last, ran, _⟩
    have outside : ((List.replicate 130 (readPass '0'.toUInt8)).foldlM WatchedHid.step
        .start).isNone = true := by
      decide +kernel
    rw [ran] at outside
    cases outside
  · rintro ⟨last, ran, _⟩
    have outside : ((((['C'.toUInt8] ++
        ([0, 0, 0, 0, 9, 0, 0, 0, 0, 0, 0, 0, 0, 0].flatMap hexPair) ++ ['F'.toUInt8])).map
          readPass).foldlM WatchedHid.step .start).isNone = true := by
      decide +kernel
    rw [ran] at outside
    cases outside

end Hcan.Transport
