import Mathlib.Data.List.Basic
import Mathlib.Logic.Function.Basic

/-!
# Replaying a write log

A memory is a function from addresses to values and a log is the list of its
single-cell writes in program order.  A power failure is a prefix of a log:
`Prefixwise` says that a property holds after every one of them.
-/

namespace Hcan.Library

variable {α β : Type*} [DecidableEq α]

/-- The memory after the writes of a log, oldest first. -/
def replay (log : List (α × β)) (memory : α → β) : α → β :=
  log.foldl (fun cells write => Function.update cells write.1 write.2) memory

@[simp] theorem replay_nil (memory : α → β) : replay [] memory = memory := rfl

@[simp]
theorem replay_cons (write : α × β) (log : List (α × β)) (memory : α → β) :
    replay (write :: log) memory = replay log (Function.update memory write.1 write.2) := rfl

theorem replay_append (front back : List (α × β)) (memory : α → β) :
    replay (front ++ back) memory = replay back (replay front memory) :=
  List.foldl_append

theorem replay_snoc (log : List (α × β)) (address : α) (value : β) (memory : α → β) :
    replay (log ++ [(address, value)]) memory =
      Function.update (replay log memory) address value :=
  replay_append log [(address, value)] memory

/-- A cell that no write names keeps its value. -/
theorem replay_other {log : List (α × β)} {memory : α → β} {address : α}
    (untouched : ∀ write ∈ log, write.1 ≠ address) :
    replay log memory address = memory address := by
  induction log generalizing memory with
  | nil => rfl
  | cons write log ih =>
      have here : write.1 ≠ address := untouched write List.mem_cons_self
      rw [replay_cons, ih fun later member => untouched later (List.mem_cons_of_mem _ member)]
      exact Function.update_of_ne here.symm _ _

/-- The property holds after every prefix of the log. -/
def Prefixwise (property : (α → β) → Prop) (memory : α → β) (log : List (α × β)) : Prop :=
  ∀ count, property (replay (log.take count) memory)

namespace Prefixwise

variable {property : (α → β) → Prop} {memory : α → β} {log : List (α × β)}

theorem nil (start : property memory) : Prefixwise property memory [] := by
  intro count
  rw [List.take_nil]
  exact start

/-- One more write keeps the property prefixwise when it holds behind the write. -/
theorem snoc (before : Prefixwise property memory log) (write : α × β)
    (after : property (replay (log ++ [write]) memory)) :
    Prefixwise property memory (log ++ [write]) := by
  intro count
  by_cases inside : count ≤ log.length
  · rw [List.take_append_of_le_length inside]
    exact before count
  · have whole : (log ++ [write]).length ≤ count := by
      simp only [List.length_append, List.length_singleton]
      omega
    rw [List.take_of_length_le whole]
    exact after

end Prefixwise

end Hcan.Library
