import Hcan.Flash.Exchange

/-!
# Lines and their acknowledgement

A line is sent in four frames and acknowledged once.  Behind each frame the line is
whole so far, or broken without an acknowledgement on the way, or an acknowledgement
has fallen due too early.
-/

namespace Hcan.Flash

open Hcan.Canix Hcan.Host Hcan.Library Hcan.Library.Program

variable {c : Controller} {faults : Faults} {bcon : BoardConnection}

/-- Something has gone wrong with a frame sent so far. -/
def Faulty (faults : Faults) (n : Net c) : Prop := ∃ k, k < n.sent ∧ faults k ≠ Fault.absent

/-- Unless an acknowledgement has fallen due too early, the buffer held every line at the time of
its acknowledgement. -/
def Sound (n : Net c) : Prop := n.premature = false → ∀ line ∈ n.acked, line.held = line.sent

/-- What holds between the frames of an attempt. -/
structure Attending (faults : Faults) (bcon : BoardConnection) (flash : Memory c) (n : Net c) :
    Prop where
  listening : Listening bcon n.board
  flash : n.board.flash = flash
  sound : Sound n
  blamed : n.premature = true → Faulty faults n

/-- Where an attempt stands when no frame is awaited.  Behind a premature acknowledgement frames
may still be on their way to the host. -/
structure Between (faults : Faults) (bcon : BoardConnection) (flash : Memory c)
    (kept : BootLoader c → Prop) (n : Net c) : Prop where
  attending : Attending faults bcon flash n
  inbox : n.premature = false → n.inbox = []
  kept : n.premature = false → kept n.board

/-- How an attempt fails. -/
structure Failed (faults : Faults) (bcon : BoardConnection) (error : FlashError) (n : Net c) :
    Prop where
  transport : ∃ message, error = .transport message
  faulty : Faulty faults n
  between : ∃ flash, Between faults bcon flash (fun _ => True) n

/-- The buffer holds the first `count` bytes of the block at `offset`. -/
def Held (image : List UInt8) (offset count : Nat) (b : BootLoader c) : Prop :=
  ∀ k, k < count → b.flashBuffer.toList[k]? = image[offset + k]?

/-- The state behind `i` frames of the line that begins at `start`. -/
inductive LineState (faults : Faults) (bcon : BoardConnection) (image : List UInt8)
    (offset start i : Nat) (n : Net c) : Prop where
  | premature (early : n.premature = true)
  | broken (begins : 0 < i) (inbox : n.inbox = []) (faulty : Faulty faults n)
      (few : i < 4 → n.begun = true → n.board.lineCounter.toNat + 4 ≤ 4 * i)
  | whole (begun : 0 < i → n.begun = true)
      (counter : 0 < i → n.board.lineCounter.toNat = 4 * i)
      (held : Held image offset (start + 4 * i) n.board)
      (inbox : if i < 4 then n.inbox = []
        else ∃ ack, n.inbox = [ack] ∧ IsReply bcon 2 hcanHmsFlashBufferFillAck ack)

theorem placed_toList {buffer : Vector UInt8 c.pageSize} {index : Nat}
    (room : index + 3 < c.pageSize) (d0 d1 d2 d3 : UInt8) (k : Nat) :
    (placed buffer room d0 d1 d2 d3).toList[k]? =
      if k = index then some d0 else if k = index + 1 then some d1
      else if k = index + 2 then some d2 else if k = index + 3 then some d3
      else buffer.toList[k]? := by
  have length : buffer.toList.length = c.pageSize := buffer.length_toList
  simp only [placed, Vector.toList_set, List.getElem?_set, List.length_set, length]
  split_ifs <;> first | rfl | omega

theorem held_filled {b : BootLoader c} {image : List UInt8} {offset : Nat} {index : UInt8}
    (room : index.toNat + 3 < c.pageSize) {d0 d1 d2 d3 : UInt8} (data : Vector UInt8 8)
    (held : Held image offset index.toNat b) (byte0 : image[offset + index.toNat]? = some d0)
    (byte1 : image[offset + index.toNat + 1]? = some d1)
    (byte2 : image[offset + index.toNat + 2]? = some d2)
    (byte3 : image[offset + index.toNat + 3]? = some d3) :
    Held image offset (index.toNat + 4) (b.filled index room d0 d1 d2 d3 data) := by
  intro k inside
  unfold BootLoader.filled
  simp only
  rw [placed_toList room]
  by_cases before : k < index.toNat
  · rw [if_neg (by omega), if_neg (by omega), if_neg (by omega), if_neg (by omega)]
    exact held k before
  · obtain rfl | rfl | rfl | rfl : k = index.toNat ∨ k = index.toNat + 1 ∨ k = index.toNat + 2 ∨
        k = index.toNat + 3 := by omega
    · rw [if_pos rfl, byte0]
    · rw [if_neg (by omega), if_pos rfl, ← Nat.add_assoc, byte1]
    · rw [if_neg (by omega), if_neg (by omega), if_pos rfl, ← Nat.add_assoc, byte2]
    · rw [if_neg (by omega), if_neg (by omega), if_neg (by omega), if_pos rfl, ← Nat.add_assoc,
        byte3]

theorem held_line {b : BootLoader c} {image : List UInt8} {offset start : Nat}
    (held : Held image offset (start + 16) b) :
    (b.flashBuffer.toList.drop start).take 16 = (image.drop (offset + start)).take 16 := by
  refine List.ext_getElem? fun k => ?_
  rw [List.getElem?_take, List.getElem?_take, List.getElem?_drop, List.getElem?_drop]
  split
  · rw [held (start + k) (by omega), Nat.add_assoc]
  · rfl

/-! ## A frame of a line -/

theorem Faulty.later {n next : Net c} (faulty : Faulty faults n) (sent : n.sent ≤ next.sent) :
    Faulty faults next := by
  obtain ⟨k, before, fault⟩ := faulty
  exact ⟨k, Nat.lt_of_lt_of_le before sent, fault⟩

theorem faulty_of_lost {n next : Net c} (lost : (faults n.sent).requestLost = true)
    (sent : next.sent = n.sent + 1) : Faulty faults next := by
  refine ⟨n.sent, by omega, fun absent => ?_⟩
  rw [absent] at lost
  cases lost

theorem faulty_of_replyLost {n next : Net c} (lost : (faults n.sent).replyLost = true)
    (sent : next.sent = n.sent + 1) : Faulty faults next := by
  refine ⟨n.sent, by omega, fun absent => ?_⟩
  rw [absent] at lost
  cases lost

section Fill

variable {flash : Memory c} {n : Net c} {index d0 d1 d2 d3 : UInt8}

/-- What sending a FILL frame leads to. -/
inductive FillEffect (faults : Faults) (bcon : BoardConnection) (n : Net c) (index : UInt8)
    (room : index.toNat + 3 < c.pageSize) (d0 d1 d2 d3 : UInt8) (next : Net c) : Prop where
  | lost (faulty : Faulty faults next) (board : next.board = n.board) (inbox : next.inbox = n.inbox)
      (acked : next.acked = n.acked) (sent : next.sent = n.sent + 1)
      (begun : next.begun = if index &&& 0x0f = 0 then false else n.begun)
      (premature : next.premature = n.premature)
  | arrived (data : Vector UInt8 8)
      (board : next.board = n.board.filled index room d0 d1 d2 d3 data)
      (acked : next.acked = n.acked) (sent : next.sent = n.sent + 1)
      (begun : next.begun = if index &&& 0x0f = 0 then true else n.begun)
      (timely : index &&& 0x0f = 0 ∨ n.begun = true ∨ ¬ 16 ≤ counted n.board index →
        next.premature = n.premature)
      (early : ¬ index &&& 0x0f = 0 → n.begun = false → 16 ≤ counted n.board index →
        next.premature = true)
      (notDue : ¬ 16 ≤ counted n.board index → next.inbox = n.inbox)
      (due : 16 ≤ counted n.board index → next.inbox = n.inbox ∧ Faulty faults next ∨
        ∃ ack, next.inbox = n.inbox ++ [ack] ∧ IsReply bcon 2 hcanHmsFlashBufferFillAck ack)

theorem spoil_other (fault : Fault) {frame : CanixFrame} (b : BootLoader c)
    (other : frame.data[1] ≠ hcanHmsFlashBufferWrite) : fault.spoil frame b = b := by
  unfold Fault.spoil
  cases fault.spoilt with
  | none => rfl
  | some flash => exact if_neg other

theorem counted_inner {b : BootLoader c} (inner : ¬ index &&& 0x0f = 0) :
    counted b index = b.lineCounter + 4 := by
  rw [counted, if_neg inner]

theorem fill_effect (listening : Listening bcon n.board) (room : index.toNat + 3 < c.pageSize)
    {next : Net c}
    (result : n.afterSend faults (fillFrame bcon index d0 d1 d2 d3) = some next) :
    FillEffect faults bcon n index room d0 d1 d2 d3 next := by
  have isFill : (fillFrame bcon index d0 d1 d2 d3).data[1] = hcanHmsFlashBufferFill := rfl
  have place : (fillFrame bcon index d0 d1 d2 d3).data[2] = index := rfl
  cases lost : (faults n.sent).requestLost with
  | true =>
      rw [afterSend_lost lost, Option.some.injEq] at result
      subst result
      have sent := note_sent n (fillFrame bcon index d0 d1 d2 d3) true
      refine .lost (faulty_of_lost lost sent) (note_board ..) (note_inbox ..) (note_acked ..) sent
        ?_ ?_
      · by_cases start : index &&& 0x0f = 0
        · rw [note_start _ _ isFill start, if_pos start]
          rfl
        · rw [note_inner _ _ isFill start, if_neg (by simp), if_neg start]
      · by_cases start : index &&& 0x0f = 0
        · rw [note_start _ _ isFill start]
        · rw [note_inner _ _ isFill start, if_neg (by simp)]
  | false =>
      have handled : n.board.handle (fillFrame bcon index d0 d1 d2 d3) = _ :=
        handle_listening listening rfl rfl (by decide : (2 : UInt8) ≤ 7)
          (by decide : (7 : UInt8) ≤ 8)
      obtain ⟨data, answered, answers⟩ := answer_fill room d0 d1 d2 d3 handled
      rw [afterSend_arrived lost answered,
        spoil_other _ _ (by rw [isFill]; decide), Option.some.injEq] at result
      subst result
      have sent := note_sent n (fillFrame bcon index d0 d1 d2 d3) false
      have begun : (n.note (fillFrame bcon index d0 d1 d2 d3) false).begun =
          if index &&& 0x0f = 0 then true else n.begun := by
        by_cases start : index &&& 0x0f = 0
        · rw [note_start _ _ isFill start, if_pos start]
          rfl
        · rw [note_inner _ _ isFill start, if_neg start]
          split <;> rfl
      have timely (quiet : index &&& 0x0f = 0 ∨ n.begun = true ∨ ¬ 16 ≤ counted n.board index) :
          (n.note (fillFrame bcon index d0 d1 d2 d3) false).premature = n.premature := by
        by_cases start : index &&& 0x0f = 0
        · rw [note_start _ _ isFill start]
        · rw [note_inner _ _ isFill start, if_neg]
          rintro ⟨_, due, unbegun⟩
          rcases quiet with isStart | isBegun | notDue
          · exact start isStart
          · rw [unbegun] at isBegun
            cases isBegun
          · exact notDue (by rw [counted_inner start]; exact due)
      have early (inner : ¬ index &&& 0x0f = 0) (unbegun : n.begun = false)
          (due : 16 ≤ counted n.board index) :
          (n.note (fillFrame bcon index d0 d1 d2 d3) false).premature = true := by
        rw [counted_inner inner] at due
        rw [note_inner _ _ isFill inner, if_pos ⟨rfl, due, unbegun⟩]
      refine .arrived data rfl (note_acked ..) sent begun timely early ?_ ?_
      · intro notDue
        simp [if_neg notDue]
      · intro due
        obtain ⟨service, command⟩ := answers due
        cases gone : (faults n.sent).replyLost with
        | true => exact .inl ⟨by simp, faulty_of_replyLost gone sent⟩
        | false =>
            refine .inr ⟨_, by rw [if_pos due]; rfl, rfl, listening.selfAddr, rfl, service, command⟩

theorem add_four_toNat {counter : UInt16} (small : counter.toNat ≤ 65531) :
    (counter + 4).toNat = counter.toNat + 4 := by
  rw [UInt16.toNat_add]
  exact Nat.mod_eq_of_lt (by change _ + 4 < 65536; omega)

theorem FillEffect.sent_eq {room : index.toNat + 3 < c.pageSize} {next : Net c}
    (effect : FillEffect faults bcon n index room d0 d1 d2 d3 next) : next.sent = n.sent + 1 := by
  cases effect with
  | lost _ _ _ _ sent => exact sent
  | arrived _ _ _ sent => exact sent

theorem FillEffect.stays_premature {room : index.toNat + 3 < c.pageSize} {next : Net c}
    (effect : FillEffect faults bcon n index room d0 d1 d2 d3 next)
    (early : n.premature = true) : next.premature = true := by
  cases effect with
  | lost _ _ _ _ _ _ premature => rw [premature, early]
  | arrived _ _ _ _ _ timely isEarly =>
      by_cases quiet : index &&& 0x0f = 0 ∨ n.begun = true ∨ ¬ 16 ≤ counted n.board index
      · rw [timely quiet, early]
      · simp only [not_or, not_not, Bool.not_eq_true] at quiet
        exact isEarly quiet.1 quiet.2.1 quiet.2.2

theorem FillEffect.attending {room : index.toNat + 3 < c.pageSize} {next : Net c}
    (effect : FillEffect faults bcon n index room d0 d1 d2 d3 next)
    (attending : Attending faults bcon flash n)
    (blamed : n.premature = false → next.premature = true → Faulty faults next) :
    Attending faults bcon flash next := by
  have acked : next.acked = n.acked := by
    cases effect with
    | lost _ _ _ acked => exact acked
    | arrived _ _ acked => exact acked
  have board : Listening bcon next.board ∧ next.board.flash = n.board.flash := by
    cases effect with
    | lost _ board => exact ⟨board ▸ attending.listening, by rw [board]⟩
    | arrived data board =>
        rw [board]
        exact ⟨⟨attending.listening.inApp, attending.listening.selfAddr, attending.listening.home⟩,
          rfl⟩
  refine ⟨board.1, board.2.trans attending.flash, ?_, ?_⟩
  · intro onTime
    rw [acked]
    refine attending.sound ?_
    cases early : n.premature with
    | false => rfl
    | true => rw [effect.stays_premature early] at onTime; cases onTime
  · intro premature
    cases early : n.premature with
    | false => exact blamed early premature
    | true => exact (attending.blamed early).later (by rw [effect.sent_eq]; exact Nat.le_succ _)

section Line

variable {image : List UInt8} {offset start i : Nat} {room : index.toNat + 3 < c.pageSize}
  {next : Net c}

/-- The first frame of a line is the one with an index at a multiple of 16. -/
theorem lineStart_iff (inLine : i < 4) (aligned : start % 16 = 0)
    (place : index.toNat = start + 4 * i) : index &&& 0x0f = 0 ↔ i = 0 := by
  rw [← UInt8.toNat_inj, UInt8.toNat_and, show (0x0f : UInt8).toNat = 2 ^ 4 - 1 from rfl,
    Nat.and_two_pow_sub_one_eq_mod, show (0 : UInt8).toNat = 0 from rfl, place]
  omega

/-- One more frame of a line that has lost one. -/
theorem broken_step (inLine : i < 4) (inner : ¬ index &&& 0x0f = 0) (inbox : n.inbox = [])
    (faulty : Faulty faults next)
    (few : i < 4 → n.begun = true → n.board.lineCounter.toNat + 4 ≤ 4 * i)
    (effect : FillEffect faults bcon n index room d0 d1 d2 d3 next) :
    LineState faults bcon image offset start (i + 1) next := by
  cases effect with
  | lost _ board same _ _ begun =>
      rw [if_neg inner] at begun
      refine .broken (Nat.succ_pos i) (same.trans inbox) faulty ?_
      rw [begun, board]
      intro _ isBegun
      have small := few inLine isBegun
      omega
  | arrived data board _ _ begun timely early notDue due =>
      rw [if_neg inner] at begun
      have sum (isBegun : n.begun = true) :
          (counted n.board index).toNat = n.board.lineCounter.toNat + 4 := by
        have small := few inLine isBegun
        rw [counted_inner inner]
        exact add_four_toNat (by omega)
      by_cases isDue : 16 ≤ counted n.board index
      · cases isBegun : n.begun with
        | false => exact .premature (early inner isBegun isDue)
        | true =>
            have reached : 16 ≤ (counted n.board index).toNat := isDue
            rw [sum isBegun] at reached
            have small := few inLine isBegun
            omega
      · refine .broken (Nat.succ_pos i) ((notDue isDue).trans inbox) faulty ?_
        rw [begun, board]
        intro _ isBegun
        have small := few inLine isBegun
        change (counted n.board index).toNat + 4 ≤ _
        rw [sum isBegun]
        omega

/-- The first frame that is lost breaks the line. -/
theorem whole_lost (first : index &&& 0x0f = 0 ↔ i = 0)
    (counter : 0 < i → n.board.lineCounter.toNat = 4 * i) (inbox : next.inbox = [])
    (faulty : Faulty faults next) (board : next.board = n.board)
    (begun : next.begun = if index &&& 0x0f = 0 then false else n.begun) :
    LineState faults bcon image offset start (i + 1) next := by
  refine .broken (Nat.succ_pos i) inbox faulty ?_
  rw [begun, board]
  intro _ isBegun
  by_cases isFirst : i = 0
  · rw [if_pos (first.mpr isFirst)] at isBegun
    cases isBegun
  · have isCounter := counter (Nat.pos_of_ne_zero isFirst)
    omega

/-- A frame counts up to its place in the line. -/
theorem counted_whole (inLine : i < 4) (first : index &&& 0x0f = 0 ↔ i = 0)
    (counter : 0 < i → n.board.lineCounter.toNat = 4 * i) :
    (counted n.board index).toNat = 4 * (i + 1) := by
  by_cases isFirst : i = 0
  · rw [counted, if_pos (first.mpr isFirst), isFirst]
    rfl
  · have isCounter := counter (Nat.pos_of_ne_zero isFirst)
    rw [counted_inner fun isStart => isFirst (first.mp isStart), add_four_toNat (by omega)]
    omega

/-- A frame that arrives leaves the line whole, unless it is the last one and the answer is lost. -/
theorem whole_arrived (inLine : i < 4) (inbox : n.inbox = []) (begun : next.begun = true)
    (counter : next.board.lineCounter.toNat = 4 * (i + 1))
    (sum : (counted n.board index).toNat = 4 * (i + 1))
    (held : Held image offset (start + 4 * (i + 1)) next.board)
    (notDue : ¬ 16 ≤ counted n.board index → next.inbox = n.inbox)
    (due : 16 ≤ counted n.board index → next.inbox = n.inbox ∧ Faulty faults next ∨
      ∃ ack, next.inbox = n.inbox ++ [ack] ∧ IsReply bcon 2 hcanHmsFlashBufferFillAck ack) :
    LineState faults bcon image offset start (i + 1) next := by
  by_cases inner : i + 1 < 4
  · have early : ¬ 16 ≤ counted n.board index := fun isDue => by
      have reached : 16 ≤ (counted n.board index).toNat := isDue
      omega
    refine .whole (fun _ => begun) (fun _ => counter) held ?_
    rw [if_pos inner, notDue early, inbox]
  · have isDue : 16 ≤ counted n.board index := by
      change 16 ≤ (counted n.board index).toNat
      omega
    rcases due isDue with ⟨same, faulty⟩ | ⟨ack, same, isReply⟩
    · exact .broken (Nat.succ_pos i) (same.trans inbox) faulty fun more => absurd more inner
    · refine .whole (fun _ => begun) (fun _ => counter) held ?_
      rw [if_neg inner]
      exact ⟨ack, by rw [same, inbox, List.nil_append], isReply⟩

end Line

/-- One more frame of a line. -/
theorem line_step {image : List UInt8} {offset start i : Nat} (room : index.toNat + 3 < c.pageSize)
    (inLine : i < 4) (aligned : start % 16 = 0) (place : index.toNat = start + 4 * i)
    (byte0 : image[offset + index.toNat]? = some d0)
    (byte1 : image[offset + index.toNat + 1]? = some d1)
    (byte2 : image[offset + index.toNat + 2]? = some d2)
    (byte3 : image[offset + index.toNat + 3]? = some d3)
    (attending : Attending faults bcon flash n)
    (state : LineState faults bcon image offset start i n) {next : Net c}
    (effect : FillEffect faults bcon n index room d0 d1 d2 d3 next) :
    Attending faults bcon flash next ∧
      LineState faults bcon image offset start (i + 1) next := by
  have first := lineStart_iff inLine aligned place
  cases state with
  | premature early =>
      refine ⟨effect.attending attending fun onTime => ?_,
        .premature (effect.stays_premature early)⟩
      rw [early] at onTime
      cases onTime
  | broken begins inbox faulty few =>
      have later : Faulty faults next := by
        refine faulty.later ?_
        rw [effect.sent_eq]
        exact Nat.le_succ _
      have inner : ¬ index &&& 0x0f = 0 := fun isFirst => by
        rw [first.mp isFirst] at begins
        exact absurd begins (Nat.lt_irrefl 0)
      exact ⟨effect.attending attending fun _ _ => later,
        broken_step inLine inner inbox later few effect⟩
  | whole begun counter held inbox =>
      rw [if_pos inLine] at inbox
      have quiet : index &&& 0x0f = 0 ∨ n.begun = true ∨ ¬ 16 ≤ counted n.board index := by
        by_cases isFirst : i = 0
        · exact .inl (first.mpr isFirst)
        · exact .inr (.inl (begun (Nat.pos_of_ne_zero isFirst)))
      have blamed (onTime : n.premature = false) (early : next.premature = true) :
          Faulty faults next := by
        cases effect with
        | lost faulty => exact faulty
        | arrived _ _ _ _ _ timely =>
            rw [timely quiet, onTime] at early
            cases early
      refine ⟨effect.attending attending blamed, ?_⟩
      cases effect with
      | lost faulty board same _ _ begun' =>
          exact whole_lost first counter (same.trans inbox) faulty board begun'
      | arrived data board _ _ begun' _ _ notDue due =>
          have sum := counted_whole inLine first counter
          have begins : next.begun = true := by
            rw [begun']
            split
            · rfl
            · exact begun (Nat.pos_of_ne_zero fun isFirst => by
                exact absurd (first.mpr isFirst) ‹_›)
          have isHeld : Held image offset (start + 4 * (i + 1)) next.board := by
            rw [board, show start + 4 * (i + 1) = index.toNat + 4 by omega]
            rw [← place] at held
            exact held_filled room data held byte0 byte1 byte2 byte3
          have isCounter : next.board.lineCounter.toNat = 4 * (i + 1) := by rw [board]; exact sum
          exact whole_arrived inLine inbox begins isCounter sum isHeld notDue due

end Fill

/-! ## Lines -/

section Line

variable {flash : Memory c} {image : List UInt8} {offset start : Nat}

theorem byteOf_meets {n : Net c} {i : Nat} {failed : FlashError → Net c → Prop} :
    Meets (byteOf image i) n (fun byte last => image[i]? = some byte ∧ last = n) failed := by
  refine meets_step fun byte last result => ?_
  obtain ⟨found, isByte, same⟩ := Option.map_eq_some_iff.mp result
  cases same
  exact ⟨isByte, rfl⟩

theorem index_toNat {i : Nat} (small : start + 4 * i < 256) :
    (UInt8.ofNat (start + 4 * i)).toNat = start + 4 * i := by
  rw [UInt8.toNat_ofNat']
  exact Nat.mod_eq_of_lt small

theorem index_next (i : Nat) :
    UInt8.ofNat (start + 4 * i) + 4 = UInt8.ofNat (start + 4 * (i + 1)) := by
  rw [Nat.mul_add, ← Nat.add_assoc, Nat.mul_one, UInt8.ofNat_add (start + 4 * i) 4]
  rfl

theorem fillFrames_meets (inPage : start + 16 ≤ c.pageSize) (aligned : start % 16 = 0)
    {failed : FlashError → Net c → Prop} {frames i : Nat} (four : i + frames = 4) {n : Net c}
    (attending : Attending faults bcon flash n)
    (state : LineState faults bcon image offset start i n) :
    Meets (fillFrames faults bcon image offset frames (UInt8.ofNat (start + 4 * i))) n
      (fun next last => next = UInt8.ofNat (start + 16) ∧
        Attending faults bcon flash last ∧
        LineState faults bcon image offset start 4 last) failed := by
  induction frames generalizing i n with
  | zero =>
      obtain rfl : i = 4 := four
      exact meets_pure ⟨rfl, attending, state⟩
  | succ frames ih =>
      have small := pageSize_le c
      have place : (UInt8.ofNat (start + 4 * i)).toNat = start + 4 * i := index_toNat (by omega)
      rw [fillFrames]
      refine byteOf_meets.bind ?_
      rintro d0 n ⟨byte0, rfl⟩
      refine byteOf_meets.bind ?_
      rintro d1 n ⟨byte1, rfl⟩
      refine byteOf_meets.bind ?_
      rintro d2 n ⟨byte2, rfl⟩
      refine byteOf_meets.bind ?_
      rintro d3 n ⟨byte3, rfl⟩
      have room : (UInt8.ofNat (start + 4 * i)).toNat + 3 < c.pageSize := by
        rw [place]
        omega
      have sent : Meets (sendFlashBufferFill faults bcon (UInt8.ofNat (start + 4 * i)) d0 d1 d2 d3)
          n (fun _ next => Attending faults bcon flash next ∧
            LineState faults bcon image offset start (i + 1) next) failed := by
        refine meets_send fun next result => ?_
        exact line_step room (by omega) aligned place byte0 byte1 byte2 byte3 attending state
          (fill_effect attending.listening room result)
      refine sent.bind ?_
      rintro _ next ⟨attends, behind⟩
      rw [index_next]
      exact ih (by omega) attends behind

theorem Attending.received {n : Net c} (attending : Attending faults bcon flash n)
    (rest : List CanixFrame) : Attending faults bcon flash { n with inbox := rest } :=
  ⟨attending.listening, attending.flash, attending.sound, attending.blamed⟩

/-- Waiting for an answer: it is there, or something has gone wrong. -/
theorem awaited_meets {n : Net c} {size command : UInt8} {kept : BootLoader c → Prop}
    (attending : Attending faults bcon flash n)
    (awaited : n.premature = false → (n.inbox = [] ∧ Faulty faults n) ∨
      kept n.board ∧ ∃ answer, n.inbox = [answer] ∧ IsReply bcon size command answer) :
    Meets (recv bcon size command) n (fun _ => Between faults bcon flash kept)
      (Failed faults bcon) := by
  cases early : n.premature with
  | true =>
      refine ((recv_ends size command n).mono ?_ ?_).meets
      · rintro _ last ⟨_, front, rest, _, rfl⟩
        refine ⟨attending.received rest, fun onTime => ?_, fun onTime => ?_⟩
        all_goals
          rw [early] at onTime
          cases onTime
      · rintro error last ⟨transport, rest, _, rfl⟩
        refine ⟨transport, attending.blamed early, flash, attending.received rest,
          fun onTime => ?_, fun _ => trivial⟩
        rw [early] at onTime
        cases onTime
  | false =>
      refine .inr ?_
      unfold Ends
      rcases awaited early with ⟨inbox, faulty⟩ | ⟨isKept, answer, waits, isReply⟩
      · rw [recv_timeout _ _ inbox]
        exact ⟨⟨_, rfl⟩, faulty, flash, attending, fun _ => inbox, fun _ => trivial⟩
      · rw [recv_answer waits isReply]
        exact ⟨attending.received [], fun _ => rfl, fun _ => isKept⟩

theorem lineAck_meets {n : Net c} (attending : Attending faults bcon flash n)
    (state : LineState faults bcon image offset start 4 n) :
    Meets (recv bcon 2 hcanHmsFlashBufferFillAck) n
      (fun _ => Between faults bcon flash (Held image offset (start + 16)))
      (Failed faults bcon) := by
  refine awaited_meets attending fun onTime => ?_
  cases state with
  | premature early =>
      rw [early] at onTime
      cases onTime
  | broken _ inbox faulty => exact .inl ⟨inbox, faulty⟩
  | whole _ _ held inbox =>
      rw [if_neg (Nat.lt_irrefl 4)] at inbox
      exact .inr ⟨held, inbox⟩

theorem Between.acknowledge {n : Net c} {index : UInt8} (place : index.toNat = start)
    (between : Between faults bcon flash (Held image offset (start + 16)) n) :
    Between faults bcon flash (Held image offset (start + 16))
      (n.acknowledge image offset index) := by
  refine ⟨⟨between.attending.listening, between.attending.flash, ?_, between.attending.blamed⟩,
    between.inbox, between.kept⟩
  intro onTime line member
  rcases List.mem_append.mp member with earlier | new
  · exact between.attending.sound onTime line earlier
  · rw [List.mem_singleton.mp new]
    change (n.board.flashBuffer.toList.drop index.toNat).take 16 = _
    rw [place]
    exact held_line (between.kept onTime)

/-- The lines of a block from a line on. -/
theorem flashLines_meets {lines done : Nat} (inPage : 16 * (done + lines) ≤ c.pageSize) {n : Net c}
    (between : Between faults bcon flash (Held image offset (16 * done)) n) :
    Meets (flashLines faults bcon image offset lines (UInt8.ofNat (16 * done))) n
      (fun _ => Between faults bcon flash (Held image offset (16 * (done + lines))))
      (Failed faults bcon) := by
  induction lines generalizing done n with
  | zero => exact meets_pure between
  | succ lines ih =>
      have small := pageSize_le c
      rw [flashLines]
      have state : LineState faults bcon image offset (16 * done) 0 n := by
        cases early : n.premature with
        | true => exact .premature early
        | false =>
            refine .whole (fun none => absurd none (Nat.lt_irrefl 0))
              (fun none => absurd none (Nat.lt_irrefl 0)) (between.kept early) ?_
            rw [if_pos (by decide)]
            exact between.inbox early
      have frames : Meets (fillFrames faults bcon image offset 4 (UInt8.ofNat (16 * done + 4 * 0)))
          n _ (Failed faults bcon) :=
        fillFrames_meets (by omega) (by omega) rfl between.attending state
      refine frames.bind ?_
      rintro _ middle ⟨rfl, attending, behind⟩
      refine (lineAck_meets attending behind).bind ?_
      intro _ received acked
      have place : (UInt8.ofNat (16 * done)).toNat = 16 * done :=
        index_toNat (i := 0) (show 16 * done + 4 * 0 < 256 by omega)
      have notes : Meets (modify fun n => n.acknowledge image offset (UInt8.ofNat (16 * done)))
          received (fun _ => Between faults bcon flash (Held image offset (16 * done + 16)))
          (Failed faults bcon) := (ends_modify (acked.acknowledge place)).meets
      refine notes.bind ?_
      intro _ last next
      rw [show 16 * (done + (lines + 1)) = 16 * (done + 1 + lines) by omega]
      have rest : Meets (flashLines faults bcon image offset lines
          (UInt8.ofNat (16 * (done + 1)))) last _ _ := ih (by omega) next
      exact rest

end Line

end Hcan.Flash
