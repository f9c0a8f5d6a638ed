import Hcan.Canix.Reception

/-!
# The order of received frames

The receive path of a board as it runs: polls of the timer interrupt at any moment,
fetches of the main loop, and the reset of the counters, which the main loop does in
two assignments.  The stored, the returned and the delivered frames are kept beside
the state, and the number of frames that the interrupt has seen since the counters
began.
-/

namespace Hcan.Canix

open Hcan.Library

/-- What can happen: the interrupt finds the controller with some registers, the main
loop fetches into its variables, and RX_TX_STATS_RESET clears one counter, then the
other. -/
inductive RxEvent where
  | poll (chip : Mcp2515) (stack : Vector UInt8 8)
  | fetch (extended : UInt32) (data : Vector UInt8 8)
  | clearReceived
  | clearLost

structure WatchedQueue where
  canix : CanixState
  stored : List RxFrame
  returned : List RxFrame
  delivered : List CanixFrame
  seen : Nat
  clearing : Bool

/-- The main loop fetches no frame between the two assignments of a reset. -/
def RxEvent.enabled (w : WatchedQueue) : RxEvent → Bool
  | .poll _ _ => true
  | .fetch _ _ => !w.clearing
  | .clearReceived => !w.clearing
  | .clearLost => w.clearing

def WatchedQueue.after (w : WatchedQueue) : RxEvent → Option WatchedQueue
  | .poll chip stack => do
      let polled := { w.canix with chip := chip }
      let canix ← timer0Ovf polled stack
      if mcp2515MessageAvailable chip then
        if canixRxqSize polled.queue < canixQueueSize then
          some { w with canix := canix, stored := w.stored ++ [receivedFrame chip],
                        seen := w.seen + 1 }
        else some { w with canix := canix, seen := w.seen + 1 }
      else some { w with canix := canix }
  | .fetch extended data => do
      let (message, canix) ← canReadMessage w.canix extended data
      if canMessageAvailable w.canix then
        some { w with canix := canix, returned := w.returned ++ [message.frame],
                      delivered := w.delivered ++ [frameOfMessage message] }
      else some { w with canix := canix }
  | .clearReceived => some { w with canix := { w.canix with rxReceived := 0 }, clearing := true }
  | .clearLost => some { w with
      canix := { w.canix with rxLost := 0 }, seen := 0, clearing := false }

def RxStep (w : WatchedQueue) (event : RxEvent) (next : WatchedQueue) : Prop :=
  event.enabled w = true ∧ w.after event = some next

/-- The start: `canix_init` has marked every entry as free. -/
structure PoweredUp (w : WatchedQueue) : Prop where
  free : ∀ entry ∈ w.canix.queue.toList, entry.used = false
  received : w.canix.rxReceived = 0
  lost : w.canix.rxLost = 0
  stored : w.stored = []
  returned : w.returned = []
  delivered : w.delivered = []
  seen : w.seen = 0
  clearing : w.clearing = false

/-- The returned frames are the first stored ones in the same order, and the counters
add up to the frames seen. -/
def Fifo (w : WatchedQueue) : Prop :=
  w.returned <+: w.stored ∧
    (w.clearing = false →
      w.canix.rxReceived.toNat + w.canix.rxLost.toNat = w.seen)

/-- A step that keeps the order: a frame fits into the data array, finds no entry free
below a used one and no counter at its last value, and arrives at no time between the
two assignments of a reset. -/
def Orderly (w : WatchedQueue) : RxEvent → Prop
  | .poll chip _ => mcp2515MessageAvailable chip = true →
      (receivedSize chip).toNat ≤ 8 ∧ w.clearing = false ∧
        if canixRxqSize w.canix.queue < canixQueueSize then
          Packed (slots w.canix.queue) ∧ w.canix.rxReceived.toNat + 1 < UInt32.size
        else w.canix.rxLost.toNat + 1 < UInt32.size
  | _ => True

instance (w : WatchedQueue) : (event : RxEvent) → Decidable (Orderly w event)
  | .poll chip _ => by unfold Orderly; infer_instance
  | .fetch _ _ => inferInstanceAs (Decidable True)
  | .clearReceived => inferInstanceAs (Decidable True)
  | .clearLost => inferInstanceAs (Decidable True)

/-- The effect of a step on the slots, the counters and what is watched. -/
inductive RxEffect (w next : WatchedQueue) : RxEvent → Prop where
  | idle {event : RxEvent}
      (quiet : ∀ chip stack, event = .poll chip stack → mcp2515MessageAvailable chip = false)
      (queue : next.canix.queue = w.canix.queue)
      (received : next.canix.rxReceived = w.canix.rxReceived)
      (lost : next.canix.rxLost = w.canix.rxLost) (stored : next.stored = w.stored)
      (returned : next.returned = w.returned) (delivered : next.delivered = w.delivered)
      (seen : next.seen = w.seen) (clearing : next.clearing = w.clearing) : RxEffect w next event
  | stored {chip : Mcp2515} {stack : Vector UInt8 8}
      (available : mcp2515MessageAvailable chip = true)
      (room : canixRxqSize w.canix.queue < canixQueueSize)
      (queue : slots next.canix.queue = (slots w.canix.queue).set
        (lowestFree (slots w.canix.queue)) (some (receivedFrame chip)))
      (fit : SizesFit next.canix.queue)
      (received : next.canix.rxReceived = w.canix.rxReceived + 1)
      (lost : next.canix.rxLost = w.canix.rxLost)
      (stored : next.stored = w.stored ++ [receivedFrame chip])
      (returned : next.returned = w.returned) (delivered : next.delivered = w.delivered)
      (seen : next.seen = w.seen + 1) (clearing : next.clearing = w.clearing) :
      RxEffect w next (.poll chip stack)
  | dropped {chip : Mcp2515} {stack : Vector UInt8 8}
      (available : mcp2515MessageAvailable chip = true)
      (full : ¬ canixRxqSize w.canix.queue < canixQueueSize)
      (queue : next.canix.queue = w.canix.queue)
      (received : next.canix.rxReceived = w.canix.rxReceived)
      (lost : next.canix.rxLost = w.canix.rxLost + 1) (stored : next.stored = w.stored)
      (returned : next.returned = w.returned) (delivered : next.delivered = w.delivered)
      (seen : next.seen = w.seen + 1) (clearing : next.clearing = w.clearing) :
      RxEffect w next (.poll chip stack)
  | fetched {extended : UInt32} {data : Vector UInt8 8} {message : Message}
      (used : lowestUsed (slots w.canix.queue) < canixQueueSize)
      (here : (slots w.canix.queue)[lowestUsed (slots w.canix.queue)]? =
        some (some message.frame))
      (size : message.size.toNat ≤ 8)
      (queue : slots next.canix.queue =
        (slots w.canix.queue).set (lowestUsed (slots w.canix.queue)) none)
      (fit : SizesFit next.canix.queue)
      (received : next.canix.rxReceived = w.canix.rxReceived)
      (lost : next.canix.rxLost = w.canix.rxLost) (stored : next.stored = w.stored)
      (returned : next.returned = w.returned ++ [message.frame])
      (delivered : next.delivered = w.delivered ++ [frameOfMessage message])
      (seen : next.seen = w.seen)
      (clearing : next.clearing = w.clearing) : RxEffect w next (.fetch extended data)
  | clearedReceived (queue : next.canix.queue = w.canix.queue)
      (received : next.canix.rxReceived = 0) (stored : next.stored = w.stored)
      (returned : next.returned = w.returned) (delivered : next.delivered = w.delivered)
      (clearing : next.clearing = true) : RxEffect w next .clearReceived
  | clearedLost (queue : next.canix.queue = w.canix.queue)
      (received : next.canix.rxReceived = w.canix.rxReceived) (lost : next.canix.rxLost = 0)
      (stored : next.stored = w.stored) (returned : next.returned = w.returned)
      (delivered : next.delivered = w.delivered) (seen : next.seen = 0)
      (clearing : next.clearing = false) : RxEffect w next .clearLost

theorem poll_effect {w next : WatchedQueue} {chip : Mcp2515} {stack : Vector UInt8 8}
    (fit : SizesFit w.canix.queue) (taken : w.after (.poll chip stack) = some next) :
    RxEffect w next (.poll chip stack) := by
  unfold WatchedQueue.after at taken
  simp only at taken
  cases available : mcp2515MessageAvailable chip with
  | false =>
      rw [timer0Ovf_idle stack available, Option.bind_eq_bind, Option.bind_some, available] at taken
      cases taken
      refine .idle ?_ rfl rfl rfl rfl rfl rfl rfl rfl
      rintro _ _ ⟨⟩
      exact available
  | true =>
      by_cases fits : (receivedSize chip).toNat ≤ 8
      · by_cases room : canixRxqSize w.canix.queue < canixQueueSize
        · obtain ⟨canix, polled, put, received, lost, fitNext⟩ :=
            timer0Ovf_store (c := { w.canix with chip := chip }) stack available fits room
          rw [polled, Option.bind_eq_bind, Option.bind_some, if_pos available, if_pos room] at taken
          cases taken
          exact .stored available room put (fitNext fit) received lost rfl rfl rfl rfl rfl
        · obtain ⟨canix, polled, same, received, lost⟩ :=
            timer0Ovf_full (c := { w.canix with chip := chip }) stack available fits room
          rw [polled, Option.bind_eq_bind, Option.bind_some, if_pos available, if_neg room] at taken
          cases taken
          exact .dropped available room same received lost rfl rfl rfl rfl rfl
      · have long : 8 < (receivedSize chip).toNat := Nat.lt_of_not_le fits
        rw [timer0Ovf_long stack available long] at taken
        cases taken

theorem fetch_effect {w next : WatchedQueue} {extended : UInt32} {data : Vector UInt8 8}
    (fit : SizesFit w.canix.queue) (taken : w.after (.fetch extended data) = some next) :
    RxEffect w next (.fetch extended data) := by
  unfold WatchedQueue.after canMessageAvailable at taken
  simp only at taken
  by_cases used : 0 < canixRxqSize w.canix.queue
  · obtain ⟨message, canix, read, here, cleared, received, lost, size, fitNext⟩ :=
      canReadMessage_fetch fit used extended data
    rw [read, Option.bind_eq_bind, Option.bind_some, if_pos (decide_eq_true used)] at taken
    cases taken
    exact .fetched (fetchOne_eq used).2 here size cleared fitNext received lost rfl rfl rfl rfl rfl
  · rw [canReadMessage_empty used, Option.bind_eq_bind, Option.bind_some,
      if_neg (by simpa using used)] at taken
    cases taken
    exact .idle (fun _ _ other => nomatch other) rfl rfl rfl rfl rfl rfl rfl rfl

theorem step_effect {w next : WatchedQueue} {event : RxEvent} (fit : SizesFit w.canix.queue)
    (taken : w.after event = some next) : RxEffect w next event := by
  cases event with
  | poll chip stack => exact poll_effect fit taken
  | fetch extended data => exact fetch_effect fit taken
  | clearReceived =>
      cases taken
      exact .clearedReceived rfl rfl rfl rfl rfl rfl
  | clearLost =>
      cases taken
      exact .clearedLost rfl rfl rfl rfl rfl rfl rfl rfl

/-- Only a frame that is too long for the array stops a step. -/
theorem after_isSome {w : WatchedQueue} {event : RxEvent} (fit : SizesFit w.canix.queue)
    (fits : ∀ chip stack, event = .poll chip stack → mcp2515MessageAvailable chip = true →
      (receivedSize chip).toNat ≤ 8) : (w.after event).isSome = true := by
  cases event with
  | poll chip stack =>
      unfold WatchedQueue.after
      simp only
      cases available : mcp2515MessageAvailable chip with
      | false =>
          rw [timer0Ovf_idle stack available]
          rfl
      | true =>
          have small := fits chip stack rfl available
          by_cases room : canixRxqSize w.canix.queue < canixQueueSize
          · obtain ⟨canix, polled, _⟩ :=
              timer0Ovf_store (c := { w.canix with chip := chip }) stack available small room
            rw [polled, Option.bind_eq_bind, Option.bind_some, if_pos rfl, if_pos room]
            rfl
          · obtain ⟨canix, polled, _⟩ :=
              timer0Ovf_full (c := { w.canix with chip := chip }) stack available small room
            rw [polled, Option.bind_eq_bind, Option.bind_some, if_pos rfl, if_neg room]
            rfl
  | fetch extended data =>
      unfold WatchedQueue.after canMessageAvailable
      simp only
      by_cases used : 0 < canixRxqSize w.canix.queue
      · obtain ⟨message, canix, read, _⟩ := canReadMessage_fetch fit used extended data
        rw [read, Option.bind_eq_bind, Option.bind_some, if_pos (decide_eq_true used)]
        rfl
      · rw [canReadMessage_empty used, Option.bind_eq_bind, Option.bind_some,
          if_neg (by simpa using used)]
        rfl
  | clearReceived => rfl
  | clearLost => rfl

theorem RxEffect.fit {w next : WatchedQueue} {event : RxEvent} (effect : RxEffect w next event)
    (fit : SizesFit w.canix.queue) : SizesFit next.canix.queue := by
  cases effect with
  | idle _ queue | dropped _ _ queue | clearedReceived queue | clearedLost queue =>
      rw [queue]
      exact fit
  | stored _ _ _ fitNext | fetched _ _ _ _ fitNext => exact fitNext

/-- The fetched frame was the first of those in the queue. -/
theorem fetched_order {queue : RxQueue} {frame : RxFrame}
    (used : lowestUsed (slots queue) < canixQueueSize)
    (here : (slots queue)[lowestUsed (slots queue)]? = some (some frame)) :
    (slots queue).reduceOption =
      frame :: ((slots queue).set (lowestUsed (slots queue)) none).reduceOption := by
  obtain ⟨value, there, order⟩ :=
    reduceOption_take (slots queue) (by rw [slots_length]; exact used)
  obtain rfl : frame = value := Option.some.inj (Option.some.inj (here.symm.trans there))
  exact order

theorem poweredUp_empty {w : WatchedQueue} (start : PoweredUp w) :
    SizesFit w.canix.queue ∧ (slots w.canix.queue).reduceOption = [] := by
  refine ⟨fun entry member used => absurd used (by rw [start.free entry member]; decide), ?_⟩
  refine (List.reduceOption_eq_nil_iff _).mpr ⟨canixQueueSize, ?_⟩
  rw [← slots_length w.canix.queue]
  refine List.eq_replicate_of_mem fun slot member => ?_
  obtain ⟨entry, inside, rfl⟩ := List.mem_map.mp member
  rw [RxQueueEntry.frame, start.free entry inside]
  rfl

/-- In any order, the stored frames are the returned ones and those in the queue. -/
structure Kept (w : WatchedQueue) : Prop where
  fit : SizesFit w.canix.queue
  frames : w.stored.Perm (w.returned ++ (slots w.canix.queue).reduceOption)

theorem kept_step {w next : WatchedQueue} {event : RxEvent} (kept : Kept w)
    (step : RxStep w event next) : Kept next := by
  have effect := step_effect kept.fit step.2
  refine ⟨effect.fit kept.fit, ?_⟩
  cases effect with
  | idle _ queue _ _ stored returned | dropped _ _ queue _ _ stored returned
  | clearedReceived queue _ stored returned | clearedLost queue _ _ stored returned =>
      rw [queue, stored, returned]
      exact kept.frames
  | @stored chip stack _ room queue _ _ _ stored returned =>
      have inside : lowestFree (slots w.canix.queue) < (slots w.canix.queue).length := by
        rw [slots_length]
        exact (putOne_eq room).2
      have added := reduceOption_put_perm (slots w.canix.queue) inside (receivedFrame chip)
      rw [stored, returned, queue]
      refine (List.perm_append_singleton _ _).trans ((kept.frames.cons _).trans ?_)
      exact List.perm_middle.symm.trans (added.symm.append_left _)
  | @fetched _ _ message used here _ queue _ _ _ stored returned =>
      rw [stored, returned, queue, List.append_assoc, List.singleton_append,
        ← fetched_order used here]
      exact kept.frames

theorem kept_run {first last : WatchedQueue} {events : List RxEvent}
    (start : PoweredUp first) (run : Run RxStep first events last) : Kept last := by
  obtain ⟨fit, empty⟩ := poweredUp_empty start
  have begin_ : Kept first := ⟨fit, by rw [start.stored, start.returned, empty]; rfl⟩
  exact run.invariant Kept (fun _ _ _ step kept => kept_step kept step) begin_

/-! ## The order of the frames -/

/-- The frames in the queue are those that were stored and not yet returned. -/
structure Accounted (w : WatchedQueue) : Prop where
  fit : SizesFit w.canix.queue
  order : w.stored = w.returned ++ (slots w.canix.queue).reduceOption
  counters : w.clearing = false → w.canix.rxReceived.toNat + w.canix.rxLost.toNat = w.seen
  cleared : w.clearing = true → w.canix.rxReceived = 0

theorem poweredUp_accounted {w : WatchedQueue} (start : PoweredUp w) : Accounted w where
  fit := (poweredUp_empty start).1
  order := by
    rw [start.stored, start.returned, (poweredUp_empty start).2]
    rfl
  counters := fun _ => by rw [start.received, start.lost, start.seen]; rfl
  cleared := fun _ => start.received

theorem toNat_succ32 {counter : UInt32} (bound : counter.toNat + 1 < UInt32.size) :
    (counter + 1).toNat = counter.toNat + 1 := by
  rw [UInt32.toNat_add]
  exact Nat.mod_eq_of_lt bound

theorem orderly_accounted {w next : WatchedQueue} {event : RxEvent} (accounted : Accounted w)
    (orderly : Orderly w event) (step : RxStep w event next) : Accounted next := by
  have effect := step_effect accounted.fit step.2
  have fit := effect.fit accounted.fit
  cases effect with
  | idle _ queue received lost stored returned _ seen clearing =>
      refine ⟨fit, ?_, ?_, ?_⟩
      · rw [queue, stored, returned]
        exact accounted.order
      · rw [received, lost, seen, clearing]
        exact accounted.counters
      · rw [received, clearing]
        exact accounted.cleared
  | @stored chip stack available room queue _ received lost stored returned _ seen clearing =>
      obtain ⟨_, notClearing, counted⟩ := orderly available
      rw [if_pos room] at counted
      have inside : lowestFree (slots w.canix.queue) < (slots w.canix.queue).length := by
        rw [slots_length]
        exact (putOne_eq room).2
      refine ⟨fit, ?_, fun _ => ?_, fun clear => ?_⟩
      · rw [queue, stored, returned, reduceOption_put counted.1 inside, accounted.order,
          List.append_assoc]
      · rw [received, lost, seen, toNat_succ32 counted.2, ← accounted.counters notClearing]
        omega
      · rw [clearing, notClearing] at clear
        cases clear
  | dropped available full queue received lost stored returned _ seen clearing =>
      obtain ⟨_, notClearing, counted⟩ := orderly available
      rw [if_neg full] at counted
      refine ⟨fit, ?_, fun _ => ?_, fun clear => ?_⟩
      · rw [queue, stored, returned]
        exact accounted.order
      · rw [received, lost, seen, toNat_succ32 counted, ← accounted.counters notClearing]
        omega
      · rw [clearing, notClearing] at clear
        cases clear
  | @fetched _ _ message used here _ queue _ received lost stored returned _ seen clearing =>
      refine ⟨fit, ?_, ?_, ?_⟩
      · rw [stored, returned, queue, List.append_assoc, List.singleton_append,
          ← fetched_order used here]
        exact accounted.order
      · rw [received, lost, seen, clearing]
        exact accounted.counters
      · rw [received, clearing]
        exact accounted.cleared
  | clearedReceived queue received stored returned _ clearing =>
      refine ⟨fit, ?_, fun clear => ?_, fun _ => received⟩
      · rw [queue, stored, returned]
        exact accounted.order
      · rw [clearing] at clear
        cases clear
  | clearedLost queue received lost stored returned _ seen clearing =>
      refine ⟨fit, ?_, fun _ => ?_, fun clear => ?_⟩
      · rw [queue, stored, returned]
        exact accounted.order
      · rw [received, lost, seen, accounted.cleared step.1]
        rfl
      · rw [clearing] at clear
        cases clear

/-- The frame stands in the queue before a frame that came earlier. -/
def Overtakes (w next : WatchedQueue) (frame : RxFrame) : Prop :=
  ∃ front earlier, earlier ≠ [] ∧ (slots w.canix.queue).reduceOption = front ++ earlier ∧
    (slots next.canix.queue).reduceOption = front ++ frame :: earlier

/-- A frame that is stored below a used entry overtakes a frame that came before it. -/
theorem stored_overtakes {w next : WatchedQueue} {chip : Mcp2515} {stack : Vector UInt8 8}
    (fit : SizesFit w.canix.queue) (taken : w.after (.poll chip stack) = some next)
    (available : mcp2515MessageAvailable chip = true)
    (room : canixRxqSize w.canix.queue < canixQueueSize)
    (unpacked : ¬ Packed (slots w.canix.queue)) : Overtakes w next (receivedFrame chip) := by
  cases step_effect fit taken with
  | idle quiet => exact absurd ((quiet chip stack rfl).symm.trans available) Bool.false_ne_true
  | stored _ _ queue =>
      unfold Overtakes
      rw [queue]
      exact reduceOption_put_unpacked unpacked (receivedFrame chip)
  | dropped _ full => exact absurd room full

/-- In every run each stored frame is returned or still in the queue, none twice, and a frame that
is stored below a used entry overtakes one.  As long as every step keeps the order, the queue is
first in, first out, the counters are right and the next such step stays inside the arrays. -/
theorem receive_queue_fifo {first : WatchedQueue} (start : PoweredUp first) :
    (∀ events last, Run RxStep first events last →
      last.stored.Perm (last.returned ++ (slots last.canix.queue).reduceOption) ∧
      ∀ chip stack next, last.after (.poll chip stack) = some next →
        mcp2515MessageAvailable chip = true → canixRxqSize last.canix.queue < canixQueueSize →
          ¬ Packed (slots last.canix.queue) → Overtakes last next (receivedFrame chip)) ∧
    ∀ events last, Run (fun w event next => Orderly w event ∧ RxStep w event next) first events
        last →
      Fifo last ∧ ∀ event, Orderly last event → (last.after event).isSome = true := by
  constructor
  · intro events last run
    have kept := kept_run start run
    exact ⟨kept.frames, fun _ _ _ => stored_overtakes kept.fit⟩
  intro events last run
  have accounted : Accounted last :=
    run.invariant Accounted
      (fun _ _ _ step before => orderly_accounted before step.1 step.2) (poweredUp_accounted start)
  refine ⟨⟨⟨_, accounted.order.symm⟩, accounted.counters⟩, fun event orderly => ?_⟩
  refine after_isSome accounted.fit ?_
  rintro chip stack rfl available
  exact (orderly available).1

section Execution

/-- One step when the main loop can take it. -/
def WatchedQueue.next (w : WatchedQueue) (event : RxEvent) : Option WatchedQueue :=
  if event.enabled w = true then w.after event else none

def WatchedQueue.nextOrderly (w : WatchedQueue) (event : RxEvent) : Option WatchedQueue :=
  if Orderly w event then w.next event else none

theorem rxStep_of_next {w later : WatchedQueue} {event : RxEvent}
    (taken : w.next event = some later) : RxStep w event later := by
  unfold WatchedQueue.next at taken
  split at taken
  · exact ⟨‹_›, taken⟩
  · cases taken

theorem orderly_of_next {w later : WatchedQueue} {event : RxEvent}
    (taken : w.nextOrderly event = some later) : Orderly w event ∧ RxStep w event later := by
  unfold WatchedQueue.nextOrderly at taken
  split at taken
  · exact ⟨‹_›, rxStep_of_next taken⟩
  · cases taken

end Execution

/-- A board behind `canix_init`. -/
def idleQueue : WatchedQueue where
  canix := ⟨⟨fun _ => 0⟩, .replicate _ ⟨false, 0, 0, .replicate _ 0⟩, 0, 0, 0, 0⟩
  stored := []
  returned := []
  delivered := []
  seen := 0
  clearing := false

/-- A controller that has received the empty frame with identifier `eid0`. -/
def chipHolding (eid0 : UInt8) : Mcp2515 where
  reg address := if address = canintf then rx0if else if address = rxb0sidh + 3 then eid0 else 0

def pollOf (eid0 : UInt8) : RxEvent := .poll (chipHolding eid0) (.replicate _ 0)
def aFetch : RxEvent := .fetch 0 (.replicate _ 0)

theorem idleQueue_poweredUp : PoweredUp idleQueue := by
  refine ⟨?_, rfl, rfl, rfl, rfl, rfl, rfl, rfl⟩
  decide

/-- Two frames in the queue, the first fetched, a third stored in its place: the third is
fetched before the second. -/
theorem receive_queue_reorders :
    ∃ first events last, PoweredUp first ∧ Run RxStep first events last ∧
      (∀ chip stack, RxEvent.poll chip stack ∈ events → (receivedSize chip).toNat ≤ 8) ∧
      ¬ Fifo last := by
  have executed : ([pollOf 1, pollOf 2, aFetch, pollOf 3, aFetch].foldlM WatchedQueue.next
      idleQueue).any (fun last => !last.returned.isPrefixOf last.stored) = true := by
    decide +kernel
  obtain ⟨last, reached, reordered⟩ := (Option.any_eq_true _ _).mp executed
  refine ⟨idleQueue, _, last, idleQueue_poweredUp,
    (Run.of_execute reached).mono fun _ _ _ taken => rxStep_of_next taken, ?_, ?_⟩
  · intro chip stack member
    simp only [pollOf, aFetch, List.mem_cons, List.not_mem_nil, or_false, RxEvent.poll.injEq,
      reduceCtorEq, false_or] at member
    rcases member with ⟨rfl, _⟩ | ⟨rfl, _⟩ | ⟨rfl, _⟩ <;> decide
  · intro fifo
    have inOrder := List.isPrefixOf_iff_prefix.mpr fifo.1
    rw [inOrder] at reordered
    cases reordered

/-- Two frames are stored and both are fetched before the next one comes. -/
theorem receive_queue_fifo_two :
    ∃ last, Run (fun w event next => Orderly w event ∧ RxStep w event next) idleQueue
      [pollOf 1, pollOf 2, aFetch, aFetch, pollOf 3] last ∧
      (Fifo last ∧ ∀ event, Orderly last event → (last.after event).isSome = true) := by
  have executed : ([pollOf 1, pollOf 2, aFetch, aFetch, pollOf 3].foldlM WatchedQueue.nextOrderly
      idleQueue).isSome = true := by
    decide +kernel
  obtain ⟨last, reached⟩ := Option.isSome_iff_exists.mp executed
  have run := (Run.of_execute reached).mono fun _ _ _ taken => orderly_of_next taken
  exact ⟨last, run, (receive_queue_fifo idleQueue_poweredUp).2 _ last run⟩

end Hcan.Canix
