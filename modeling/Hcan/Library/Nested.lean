import Mathlib.Data.List.Basic
import Mathlib.Control.Basic

/-!
# Handlers that send messages

A program runs over a shared state and may hand a message to `send`, which calls the
handler again before the program goes on.  `nest` unrolls these calls to a depth; a call
that is nested deeper answers `none`.  A handler ends when every message that it sends has
a smaller rank, and it does not end on messages that always lead to another such message.
-/

namespace Hcan.Library

/-- A program over a state; `none` stands for a call that did not return. -/
abbrev Nested (σ α : Type) := StateT σ Option α

namespace Nested

variable {σ μ α β : Type}

/-- A value of the state. -/
def read (f : σ → α) : Nested σ α := fun s => some (f s, s)

/-- From a state with `inv` the program keeps `inv`, and it returns where it must. -/
def Keeps (must : Prop) (inv : σ → Prop) (x : Nested σ α) : Prop :=
  ∀ s, inv s → (must → (x s).isSome = true) ∧ ∀ result, x s = some result → inv result.2

/-- From no state with `inv` the program returns. -/
def Hangs (inv : σ → Prop) (x : Nested σ α) : Prop := ∀ s, inv s → x s = none

section Rules

variable {must : Prop} {inv : σ → Prop} {x : Nested σ α} {f : α → Nested σ β}

theorem bind_apply (x : Nested σ α) (f : α → Nested σ β) (s : σ) :
    (x >>= f) s = (x s).bind fun result => f result.1 result.2 := by
  change (x s >>= fun result => f result.1 result.2) = _
  cases x s with
  | none => rfl
  | some result => rfl

/-- A loop whose rounds all return is a fold over the states. -/
theorem forM_apply {body : α → Nested σ PUnit} {next : σ → α → σ} {items : List α}
    (each : ∀ item ∈ items, ∀ s, body item s = some (PUnit.unit, next s item)) (s : σ) :
    items.forM body s = some (PUnit.unit, items.foldl next s) := by
  induction items generalizing s with
  | nil => rfl
  | cons item items ih =>
      change (body item >>= fun _ => items.forM body) s = _
      rw [bind_apply, each item List.mem_cons_self s, Option.bind_some, List.foldl_cons]
      exact ih (fun later member => each later (List.mem_cons_of_mem _ member)) _

theorem keeps_pure (a : α) : Keeps must inv (pure a : Nested σ α) := by
  intro s holds
  constructor
  · exact fun _ => rfl
  · intro result same
    cases same
    exact holds

/-- The rest may use that the first part ended in a state with `inv`. -/
theorem keeps_bind (first : Keeps must inv x) (rest : ∀ a, Keeps must inv (f a)) :
    Keeps must inv (x >>= f) := by
  intro s holds
  obtain ⟨returns, kept⟩ := first s holds
  rw [bind_apply]
  cases run : x s with
  | none =>
      constructor
      · intro needed
        have returned := returns needed
        rw [run] at returned
        cases returned
      · intro result same
        cases same
  | some result => exact rest result.1 result.2 (kept result run)

/-- What is read is a value of some state with `inv`. -/
theorem keeps_read_bind {g : σ → α}
    (rest : ∀ s, inv s → Keeps must inv (f (g s))) : Keeps must inv (read g >>= f) := by
  intro s holds
  rw [bind_apply]
  exact rest s holds s holds

theorem keeps_modify {g : σ → σ} (kept : ∀ s, inv s → inv (g s)) :
    Keeps must inv (modify g : Nested σ Unit) := by
  intro s holds
  constructor
  · exact fun _ => rfl
  · intro result same
    cases same
    exact kept s holds

theorem keeps_ite {p : Prop} [Decidable p] {x y : Nested σ α} (yes : p → Keeps must inv x)
    (no : ¬ p → Keeps must inv y) : Keeps must inv (if p then x else y) := by
  by_cases chosen : p
  · rw [if_pos chosen]
    exact yes chosen
  · rw [if_neg chosen]
    exact no chosen

theorem keeps_dite {p : Prop} [Decidable p] {x : p → Nested σ α} {y : ¬ p → Nested σ α}
    (yes : ∀ h, Keeps must inv (x h)) (no : ∀ h, Keeps must inv (y h)) :
    Keeps must inv (if h : p then x h else y h) := by
  by_cases chosen : p
  · rw [dif_pos chosen]
    exact yes chosen
  · rw [dif_neg chosen]
    exact no chosen

theorem keeps_forM {body : α → Nested σ PUnit} {items : List α}
    (each : ∀ item ∈ items, Keeps must inv (body item)) : Keeps must inv (items.forM body) := by
  induction items with
  | nil => exact keeps_pure PUnit.unit
  | cons item items ih =>
      change Keeps must inv (body item >>= fun _ => items.forM body)
      apply keeps_bind
      · exact each item List.mem_cons_self
      · exact fun _ => ih fun later member => each later (List.mem_cons_of_mem _ member)

theorem hangs_bind (first : Hangs inv x) : Hangs inv (x >>= f) := by
  intro s holds
  rw [bind_apply, first s holds]
  rfl

theorem hangs_bind_right (first : Keeps False inv x) (rest : ∀ a, Hangs inv (f a)) :
    Hangs inv (x >>= f) := by
  intro s holds
  rw [bind_apply]
  cases run : x s with
  | none => rfl
  | some result => exact rest result.1 result.2 ((first s holds).2 result run)

theorem hangs_read_bind {g : σ → α} (rest : ∀ s, inv s → Hangs inv (f (g s))) :
    Hangs inv (read g >>= f) := by
  intro s holds
  rw [bind_apply]
  exact rest s holds s holds

/-- A loop hangs when one of its rounds hangs and the rounds before it keep `inv`. -/
theorem hangs_forM {body : α → Nested σ PUnit} {items : List α}
    (each : ∀ item ∈ items, Keeps False inv (body item)) {item : α} (member : item ∈ items)
    (hangs : Hangs inv (body item)) : Hangs inv (items.forM body) := by
  induction items with
  | nil => exact absurd member List.not_mem_nil
  | cons first items ih =>
      change Hangs inv (body first >>= fun _ => items.forM body)
      rcases List.mem_cons.mp member with rfl | later
      · exact hangs_bind hangs
      · apply hangs_bind_right
        · exact each first List.mem_cons_self
        · exact fun _ => ih (fun i inside => each i (List.mem_cons_of_mem _ inside)) later

end Rules

/-! ## Nested calls -/

/-- The handler with calls nested to a depth. -/
def nest (handler : (μ → Nested σ Unit) → μ → Nested σ Unit) : Nat → μ → Nested σ Unit
  | 0, _ => fun _ => none
  | depth + 1, m => handler (nest handler depth) m

variable {handler : (μ → Nested σ Unit) → μ → Nested σ Unit} {inv : σ → Prop}

/-- Messages of a smaller rank end, so that the handler ends within its rank. -/
theorem nest_ends {good : μ → Prop} (rank : μ → Nat)
    (step : ∀ send m, good m →
      (∀ next, good next → rank next < rank m → Keeps True inv (send next)) →
      Keeps True inv (handler send m)) {depth : Nat} {m : μ} (isGood : good m)
    (enough : rank m < depth) : Keeps True inv (nest handler depth m) := by
  induction depth generalizing m with
  | zero => exact absurd enough (Nat.not_lt_zero _)
  | succ depth ih =>
      apply step (nest handler depth) m isGood
      intro next nextGood smaller
      exact ih nextGood (Nat.lt_of_lt_of_le smaller (Nat.le_of_lt_succ enough))

/-- What a class of messages keeps that only sends messages of the class. -/
theorem nest_keeps {quiet : μ → Prop}
    (step : ∀ send m, quiet m → (∀ next, quiet next → Keeps False inv (send next)) →
      Keeps False inv (handler send m)) {m : μ} (isQuiet : quiet m) (depth : Nat) :
    Keeps False inv (nest handler depth m) := by
  induction depth generalizing m with
  | zero => exact fun s holds => ⟨False.elim, fun result same => nomatch same⟩
  | succ depth ih => exact step (nest handler depth) m isQuiet fun next nextQuiet => ih nextQuiet

/-- Messages that always lead to another message of their kind do not end at any depth. -/
theorem nest_hangs {endless : μ → Prop}
    (step : ∀ depth m, endless m →
      (∀ next, endless next → Hangs inv (nest handler depth next)) →
      Hangs inv (handler (nest handler depth) m)) {m : μ} (isEndless : endless m)
    (depth : Nat) : Hangs inv (nest handler depth m) := by
  induction depth generalizing m with
  | zero => exact fun _ _ => rfl
  | succ depth ih => exact step depth m isEndless fun next nextEndless => ih nextEndless

end Nested

end Hcan.Library
