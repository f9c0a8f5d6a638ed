import Hcan.Canix.Transmission
import Hcan.Library.Machine

/-!
# The counters of the sent frames

`canix_frame_send_with_prio` asks for a free buffer before `can_send_message` asks again, and only
the second one counts a frame that finds none.  The frame is then delivered locally, where the
callbacks send frames of their own inside the call.
-/

namespace Hcan.Canix

open Hcan.Library

/-- The transmissions that end before the register accesses of a function, access by access. -/
abbrev Endings := List (List (Fin 3))

namespace CanixState

def ended (c : CanixState) (buffer : Fin 3) : CanixState :=
  { c with chip := c.chip.transmitted buffer }

/-- The transmissions that end before the access `place`. -/
def ends (endings : Endings) (place : ℕ) (c : CanixState) : CanixState :=
  (endings.getD place []).foldl ended c

/-- The end of `can_send_message` with a buffer that was found free, and without one. -/
def loaded (c : CanixState) (buffer : Fin 3) (id : UInt32) (data : List UInt8) (length : UInt8) :
    CanixState :=
  { c with chip := loadTxBuffer c.chip (txIndex buffer) id data length, txSent := c.txSent + 1 }

def dropped (c : CanixState) : CanixState := { c with txDropped := c.txDropped + 1 }

end CanixState

/-- `can_send_message`, with the buffer that it loads and the registers before. -/
def canSendMessageDuring (during : Endings) (c : CanixState) (id : UInt32) (data : List UInt8)
    (length : UInt8) : CanixState × Option (Mcp2515 × Fin 3) :=
  match freeBuffer CanixState.chip (CanixState.ends during) c with
  | (some buffer, c) =>
      let c := CanixState.ends during 3 c
      (c.loaded buffer id data length, some (c.chip, buffer))
  | (none, c) => (c.dropped, none)

/-- A frame that is handed over, with the memory behind its array. -/
structure TxCall where
  frame : CanixFrame
  behind : List UInt8
  prio : UInt8
  asked : Endings
  during : Endings

namespace TxCall

def id (call : TxCall) : UInt32 :=
  packId call.frame.src call.frame.dst call.frame.proto call.prio

/-- The bytes that the driver reads. -/
def data (call : TxCall) : List UInt8 :=
  (call.frame.data.toList ++ call.behind).take call.frame.size.toNat

end TxCall

/-- `canix_frame_send_with_prio` up to the local delivery. -/
def transmit (c : CanixState) (call : TxCall) : CanixState × Option (Mcp2515 × Fin 3) :=
  match anySendable CanixState.chip (CanixState.ends call.asked) c with
  | (true, c) => canSendMessageDuring call.during c call.id call.data call.frame.size
  | (false, c) => (c, none)

/-- What happens: a transmission ends, or a frame is sent, and other things happen while it is
delivered locally. -/
inductive Activity where
  | ended (buffer : Fin 3)
  | send (call : TxCall) (delivery : List Activity)

mutual

/-- `canix_frame_send_with_prio`, with what the callbacks do. -/
def Activity.run (c : CanixState) : Activity → CanixState
  | .ended buffer => c.ended buffer
  | .send call delivery => runActivities (transmit c call).1 delivery

def runActivities (c : CanixState) : List Activity → CanixState
  | [] => c
  | activity :: rest => runActivities (activity.run c) rest

end

/-- One step: the call has been entered and left the driver. -/
inductive TxStep where
  | ended (buffer : Fin 3)
  | handed (call : TxCall)

mutual

/-- The steps of nested calls, one after the other. -/
def Activity.steps : Activity → List TxStep
  | .ended buffer => [.ended buffer]
  | .send call delivery => .handed call :: stepsOf delivery

def stepsOf : List Activity → List TxStep
  | [] => []
  | activity :: rest => activity.steps ++ stepsOf rest

end

def CanixState.step (c : CanixState) : TxStep → CanixState
  | .ended buffer => c.ended buffer
  | .handed call => (transmit c call).1

mutual

theorem Activity.run_eq (c : CanixState) (activity : Activity) :
    activity.run c = runAll CanixState.step c activity.steps := by
  cases activity with
  | ended buffer => rfl
  | send call delivery => exact runActivities_eq (transmit c call).1 delivery

/-- Nested calls do what their steps do one after the other. -/
theorem runActivities_eq (c : CanixState) (activities : List Activity) :
    runActivities c activities = runAll CanixState.step c (stepsOf activities) := by
  cases activities with
  | nil => rfl
  | cons activity rest =>
      rw [runActivities, stepsOf, runAll_append, ← Activity.run_eq c activity]
      exact runActivities_eq _ rest

end

/-- The number of the frames that have been handed over. -/
structure TxRun where
  c : CanixState
  handed : ℕ

def TxRun.step (s : TxRun) (step : TxStep) : TxRun where
  c := s.c.step step
  handed := match step with
    | .ended _ => s.handed
    | .handed _ => s.handed + 1

/-- Every frame that was handed over is counted. -/
def TxRun.Counted (s : TxRun) : Prop :=
  s.c.txSent.toNat + s.c.txDropped.toNat = s.handed

instance (s : TxRun) : Decidable s.Counted :=
  inferInstanceAs (Decidable (_ = _))

/-- A call that is not counted as dropped loads its frame into a free buffer. -/
def LoadsOrDrops (c : CanixState) (call : TxCall) : Prop :=
  (transmit c call).1.txDropped = c.txDropped → ∃ chip buffer,
    (transmit c call).2 = some (chip, buffer) ∧ canSendable chip (txIndex buffer) = true ∧
      (transmit c call).1.chip =
        loadTxBuffer chip (txIndex buffer) call.id call.data call.frame.size

/-- The accounts of a run of nested calls. -/
structure TxAccounted (first : TxRun) (activities : List Activity) : Prop where
  reached : (runAll TxRun.step first (stepsOf activities)).c = runActivities first.c activities
  counted : AlwaysHolds TxRun.step TxRun.Counted first (stepsOf activities)
  loads : AlwaysFits TxRun.step (fun s step => ∀ call, step = .handed call → LoadsOrDrops s.c call)
    first (stepsOf activities)

/-- The first test finds a free buffer, and the counter has room. -/
def FindsBuffer (s : TxRun) (step : TxStep) : Prop :=
  ∀ call, step = .handed call →
    (anySendable CanixState.chip (CanixState.ends call.asked) s.c).1 = true ∧
      s.handed + 1 < 2 ^ 32

theorem keepsFree_ends (endings : Endings) :
    KeepsFree CanixState.chip (CanixState.ends endings) := by
  intro place c buffer free
  unfold CanixState.ends
  generalize endings.getD place [] = ended
  induction ended generalizing c with
  | nil => exact free
  | cons other ended ih =>
      refine ih (c.ended other) ?_
      change canSendable (c.chip.transmitted other) (txIndex buffer) = true
      rw [canSendable_transmitted, free, Bool.or_true]

/-- The counters of a state are those of another one. -/
def SameCounters (first c : CanixState) : Prop :=
  c.txSent = first.txSent ∧ c.txDropped = first.txDropped

theorem sameCounters_ends {first : CanixState} (endings : Endings) (place : ℕ) (c : CanixState)
    (same : SameCounters first c) : SameCounters first (CanixState.ends endings place c) := by
  unfold CanixState.ends
  generalize endings.getD place [] = ended
  induction ended generalizing c with
  | nil => exact same
  | cons other ended ih => exact ih (c.ended other) same

/-- A call that finds no buffer counts nothing. -/
theorem transmit_busy {c : CanixState} {call : TxCall}
    (busy : (anySendable CanixState.chip (CanixState.ends call.asked) c).1 = false) :
    SameCounters c (transmit c call).1 := by
  have same := @anySendable_keeps _ CanixState.chip _ _ (sameCounters_ends call.asked) c
    ⟨rfl, rfl⟩
  unfold transmit
  generalize anySendable CanixState.chip (CanixState.ends call.asked) c = asked at busy same
  obtain ⟨any, next⟩ := asked
  obtain rfl : any = false := busy
  exact same

/-- A call that finds a buffer loads a free one and is counted as sent. -/
theorem transmit_free {c : CanixState} {call : TxCall}
    (any : (anySendable CanixState.chip (CanixState.ends call.asked) c).1 = true) :
    ∃ chip buffer, (transmit c call).2 = some (chip, buffer) ∧
      canSendable chip (txIndex buffer) = true ∧
      (transmit c call).1.chip =
        loadTxBuffer chip (txIndex buffer) call.id call.data call.frame.size ∧
      (transmit c call).1.txSent = c.txSent + 1 ∧ (transmit c call).1.txDropped = c.txDropped := by
  have some_ := freeBuffer_isSome (keepsFree_ends call.during) any
  have same := @anySendable_keeps _ CanixState.chip _ _ (sameCounters_ends call.asked) c
    ⟨rfl, rfl⟩
  have still := @freeBuffer_keeps _ CanixState.chip _ _ (sameCounters_ends call.during) _ same
  unfold transmit
  generalize anySendable CanixState.chip (CanixState.ends call.asked) c = asked
    at any same some_ still
  obtain ⟨found, next⟩ := asked
  obtain rfl : found = true := any
  obtain ⟨buffer, isBuffer⟩ := Option.isSome_iff_exists.mp some_
  have free := freeBuffer_free isBuffer
  unfold canSendMessageDuring
  dsimp only at isBuffer free still ⊢
  generalize freeBuffer CanixState.chip (CanixState.ends call.during) next = tested
    at isBuffer free still
  obtain ⟨found, last⟩ := tested
  obtain rfl : found = some buffer := isBuffer
  obtain ⟨sent, dropped⟩ := sameCounters_ends call.during 3 last still
  exact ⟨_, buffer, rfl, keepsFree_ends call.during 3 last buffer free, rfl,
    congrArg (· + 1) sent, dropped⟩

/-- Where the controller rests during the call, this is the call of one moment. -/
theorem transmit_rest (c : CanixState) (frame : CanixFrame) (behind : List UInt8) (prio : UInt8)
    (fits : frame.size.toNat ≤ 8) :
    canixFrameSendWithPrio c frame prio = some (transmit c ⟨frame, behind, prio, [], []⟩).1 := by
  have rest : CanixState.ends [] = fun _ c => c := rfl
  have bytes : frame.payload = TxCall.data ⟨frame, behind, prio, [], []⟩ := by
    refine (List.take_append_of_le_length ?_).symm
    rw [Vector.length_toList]
    exact fits
  have found := freeBuffer_rest CanixState.chip c
  unfold transmit canixFrameSendWithPrio
  rw [rest, anySendable_rest, if_pos fits]
  cases canAnySendable c.chip with
  | false => rfl
  | true =>
      dsimp only
      unfold canSendMessageDuring canSendMessage
      rw [rest, bytes]
      generalize freeBuffer CanixState.chip (fun _ c => c) c = tested at found ⊢
      obtain ⟨buffer, last⟩ := tested
      obtain ⟨index, rfl⟩ := Prod.mk.inj found
      rw [← index]
      cases buffer <;> rfl

/-! ## The run -/

namespace TxRun

/-- The counters behind the start. -/
def boot (chip : Mcp2515) (queue : RxQueue) (rxReceived rxLost : UInt32) : TxRun where
  c := ⟨chip, queue, rxReceived, rxLost, 0, 0⟩
  handed := 0

/-- The run goes on from the state that the nested calls leave. -/
theorem runAll_c (s : TxRun) (activities : List Activity) :
    (runAll step s (stepsOf activities)).c = runActivities s.c activities := by
  rw [runActivities_eq]
  generalize stepsOf activities = steps
  induction steps generalizing s with
  | nil => rfl
  | cons first steps ih => exact ih (s.step first)

/-- Every frame was sent. -/
def AllSent (s : TxRun) : Prop := s.c.txSent.toNat = s.handed ∧ s.c.txDropped = 0

theorem counted_of_allSent {s : TxRun} (sent : s.AllSent) : s.Counted := by
  unfold Counted
  rw [sent.1, sent.2]
  rfl

theorem sent_succ {sent : UInt32} {handed : ℕ} (same : sent.toNat = handed) :
    (sent + 1).toNat = (handed + 1) % 2 ^ 32 := by
  rw [UInt32.toNat_add, same]
  rfl

/-- The call counts its frame exactly when it finds a buffer. -/
theorem counted_step_iff (s : TxRun) (step : TxStep) (sent : s.AllSent) :
    (s.step step).Counted ↔ FindsBuffer s step := by
  cases step with
  | ended buffer =>
      refine iff_of_true (counted_of_allSent sent) fun call same => ?_
      cases same
  | handed call =>
      have one : FindsBuffer s (.handed call) ↔
          (anySendable CanixState.chip (CanixState.ends call.asked) s.c).1 = true ∧
            s.handed + 1 < 2 ^ 32 :=
        ⟨fun finds => finds call rfl, fun found other same => by cases same; exact found⟩
      rw [one]
      change (transmit s.c call).1.txSent.toNat + (transmit s.c call).1.txDropped.toNat =
        s.handed + 1 ↔ _
      cases any : (anySendable CanixState.chip (CanixState.ends call.asked) s.c).1 with
      | false =>
          obtain ⟨same, dropped⟩ := transmit_busy any
          rw [same, dropped, sent.1, sent.2]
          refine iff_of_false (fun counted => ?_) fun found => Bool.false_ne_true found.1
          exact Nat.succ_ne_self s.handed counted.symm
      | true =>
          obtain ⟨_, _, -, -, -, more, dropped⟩ := transmit_free any
          rw [more, dropped, sent.2, sent_succ sent.1]
          change (s.handed + 1) % 2 ^ 32 + 0 = s.handed + 1 ↔ _
          rw [Nat.add_zero, Nat.mod_eq_iff_lt (by decide)]
          exact (and_iff_right rfl).symm

theorem allSent_step (s : TxRun) (step : TxStep) (sent : s.AllSent) (finds : FindsBuffer s step) :
    (s.step step).AllSent := by
  cases step with
  | ended buffer => exact sent
  | handed call =>
      obtain ⟨any, room⟩ := finds call rfl
      obtain ⟨_, _, -, -, -, more, dropped⟩ := transmit_free any
      refine ⟨?_, dropped.trans sent.2⟩
      change (transmit s.c call).1.txSent.toNat = s.handed + 1
      rw [more, sent_succ sent.1, Nat.mod_eq_of_lt room]

/-- All frames are counted exactly when each call finds a free buffer in its first test and the
counter has room; a call in which no transmission ends is `canix_frame_send_with_prio` of one
moment. -/
theorem tx_accounted_iff (chip : Mcp2515) (queue : RxQueue) (rxReceived rxLost : UInt32)
    (activities : List Activity) :
    (TxAccounted (boot chip queue rxReceived rxLost) activities ↔
      AlwaysFits step FindsBuffer (boot chip queue rxReceived rxLost) (stepsOf activities)) ∧
    ∀ c frame behind prio, frame.size.toNat ≤ 8 →
      canixFrameSendWithPrio c frame prio =
        some (transmit c ⟨frame, behind, prio, [], []⟩).1 := by
  have counted := @alwaysHolds_part_iff _ _ step (boot chip queue rxReceived rxLost)
    (stepsOf activities) AllSent Counted FindsBuffer ⟨rfl, rfl⟩ (fun _ => counted_of_allSent)
    counted_step_iff allSent_step
  refine ⟨?_, transmit_rest⟩
  constructor
  · exact fun accounted => counted.mp accounted.counted
  · intro finds
    refine ⟨runAll_c _ activities, counted.mpr finds, ?_⟩
    refine alwaysFits_of_fits (fun _ => True) trivial (fun _ _ _ _ => trivial) ?_ finds
    intro s step _ found call same _
    obtain ⟨before, buffer, loads, free, registers, -, -⟩ := transmit_free (found call same).1
    exact ⟨before, buffer, loads, free, registers⟩

/-- A frame that is handed over while the controller rests. -/
def plainCall : TxCall := ⟨⟨1, 2, hcanProtoSfp, 2, Vector.replicate 8 0⟩, [], 0, [], []⟩

/-- The fourth frame is not counted. -/
theorem tx_accounted_fails :
    ¬ TxAccounted (boot ⟨fun _ => 0⟩ (Vector.replicate 12 ⟨false, 0, 0, Vector.replicate 8 0⟩) 0 0)
      (List.replicate 4 (.send plainCall [])) := by
  intro accounted
  exact absurd (accounted.counted _ (List.prefix_refl _)) (by decide)

end TxRun

end Hcan.Canix
