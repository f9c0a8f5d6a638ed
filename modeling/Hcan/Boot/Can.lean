import Hcan.Canix.Fifo

/-!
# The CAN driver of the boot loader

The boot loader has a driver of its own: it reads the data registers one by one, asks
no queue and sends through the first transmit buffer.  The length of a received frame
is masked to four bits here and in the application driver.
-/

namespace Hcan.Boot

open Hcan.Canix Hcan.Library

/-- `can_read_message` of the boot loader. -/
def canReadMessage (chip : Mcp2515) (data : Vector UInt8 8) : Option (Message × Mcp2515) := do
  let size := chip.readRegister rxb0dlc &&& 0x0F
  let data ← copyInto (fun i => chip.readRegister (rxb0d0 + UInt8.ofNat i)) size.toNat data
  some (⟨receivedId chip, size, data⟩, chip.bitModify canintf 0x01 0x00)

/-- It reads what the application driver reads. -/
theorem canReadMessage_eq (chip : Mcp2515) (data : Vector UInt8 8) :
    canReadMessage chip data = mcp2515ReadMessage chip data := rfl

theorem canReadMessage_isSome (chip : Mcp2515) (data : Vector UInt8 8) :
    (canReadMessage chip data).isSome = true ↔ (receivedSize chip).toNat ≤ 8 := by
  rw [canReadMessage_eq]
  by_cases fits : (receivedSize chip).toNat ≤ 8
  · rw [mcp2515ReadMessage_eq chip data fits]
    exact iff_of_true rfl fits
  · rw [mcp2515ReadMessage_eq_none chip data (Nat.lt_of_not_le fits)]
    exact iff_of_false Bool.false_ne_true fits

/-- The registers of every frame that is received in the course of `events`. -/
def Received (events : List RxEvent) (chip : Mcp2515) : Prop :=
  (∃ stack, RxEvent.poll chip stack ∈ events) ∧ mcp2515MessageAvailable chip = true

/-- The application takes the events without a write outside an array and delivers
no frame longer than eight bytes; the boot loader reads each of the frames so, too. -/
def LengthsBounded (first : WatchedQueue) (events : List RxEvent) : Prop :=
  (∃ last, events.foldlM WatchedQueue.after first = some last ∧
    ∀ frame ∈ last.delivered, frame.size.toNat ≤ 8) ∧
  ∀ chip, Received events chip → ∀ data, (canReadMessage chip data).isSome = true

structure SizesBounded (w : WatchedQueue) : Prop where
  fit : SizesFit w.canix.queue
  delivered : ∀ frame ∈ w.delivered, frame.size.toNat ≤ 8

theorem sizesBounded_step {w next : WatchedQueue} {event : RxEvent} (bounded : SizesBounded w)
    (taken : w.after event = some next) : SizesBounded next := by
  have effect := step_effect bounded.fit taken
  refine ⟨effect.fit bounded.fit, ?_⟩
  cases effect with
  | idle _ _ _ _ _ _ delivered | stored _ _ _ _ _ _ _ _ delivered
  | dropped _ _ _ _ _ _ _ delivered | clearedReceived _ _ _ _ delivered
  | clearedLost _ _ _ _ _ delivered =>
      rw [delivered]
      exact bounded.delivered
  | fetched _ _ size _ _ _ _ _ _ delivered =>
      rw [delivered]
      intro frame member
      rcases List.mem_append.mp member with old | new
      · exact bounded.delivered frame old
      · obtain rfl := List.mem_singleton.mp new
        exact size

theorem run_bounded {w : WatchedQueue} (bounded : SizesBounded w) (events : List RxEvent)
    (small : ∀ chip, Received events chip → (receivedSize chip).toNat ≤ 8) :
    ∃ last, events.foldlM WatchedQueue.after w = some last ∧ SizesBounded last := by
  induction events generalizing w with
  | nil => exact ⟨w, rfl, bounded⟩
  | cons event events ih =>
      have defined : (w.after event).isSome = true := by
        refine after_isSome bounded.fit ?_
        rintro chip stack rfl available
        exact small chip ⟨⟨stack, List.mem_cons_self⟩, available⟩
      obtain ⟨next, taken⟩ := Option.isSome_iff_exists.mp defined
      rw [List.foldlM_cons, taken]
      refine ih (sizesBounded_step bounded taken) fun chip received => small chip ?_
      obtain ⟨⟨stack, member⟩, available⟩ := received
      exact ⟨⟨stack, List.mem_cons_of_mem _ member⟩, available⟩

/-- The length is bounded on every path exactly when no received frame has a data length
code above eight. -/
theorem received_length_bounded {first : WatchedQueue} (start : PoweredUp first)
    (events : List RxEvent) :
    LengthsBounded first events ↔
      ∀ chip, Received events chip → (receivedSize chip).toNat ≤ 8 := by
  constructor
  · rintro ⟨_, boot⟩ chip received
    exact (canReadMessage_isSome chip (.replicate 8 0)).mp (boot chip received _)
  · intro small
    have bounded : SizesBounded first := by
      refine ⟨(poweredUp_empty start).1, ?_⟩
      rw [start.delivered]
      exact fun _ member => absurd member List.not_mem_nil
    obtain ⟨last, taken, within⟩ := run_bounded bounded events small
    exact ⟨⟨last, taken, within.delivered⟩, fun chip received data =>
      (canReadMessage_isSome chip data).mpr (small chip received)⟩

theorem received_length_bounded_empty : LengthsBounded idleQueue [pollOf 1, aFetch] := by
  refine (received_length_bounded idleQueue_poweredUp _).mpr ?_
  rintro chip ⟨⟨stack, member⟩, _⟩
  simp only [pollOf, aFetch, List.mem_cons, List.not_mem_nil, or_false, RxEvent.poll.injEq,
    reduceCtorEq] at member
  obtain ⟨rfl, _⟩ := member
  decide

/-- A controller that has received a frame with data length code nine. -/
def chipWithNine : Mcp2515 where
  reg address := if address = canintf then rx0if else if address = rxb0dlc then 9 else 0

/-- The ninth byte goes behind the arrays of the interrupt and of the boot loader. -/
theorem received_length_unbounded :
    PoweredUp idleQueue ∧ mcp2515ReadMessage chipWithNine (.replicate 8 0) = none ∧
      canReadMessage chipWithNine (.replicate 8 0) = none ∧
      ¬ LengthsBounded idleQueue [.poll chipWithNine (.replicate 8 0)] := by
  refine ⟨idleQueue_poweredUp, mcp2515ReadMessage_eq_none _ _ (by decide),
    mcp2515ReadMessage_eq_none _ _ (by decide), fun bounded => ?_⟩
  have isSome := bounded.2 chipWithNine ⟨⟨_, List.mem_cons_self⟩, by decide⟩ (.replicate 8 0)
  exact absurd ((canReadMessage_isSome _ _).mp isSome) (by decide)

end Hcan.Boot
