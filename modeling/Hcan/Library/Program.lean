import Mathlib.Control.Monad.Basic

/-!
# Programs with a state, errors and loops

A program takes a state to a value or an error and the state left behind; the
state survives an error, and no result stands for a loop that does not end.
`Ends` is the total specification of one run of a program, with one
postcondition for its value and one for its error.
-/

namespace Hcan.Library

/-- Programs over a state `σ` that throw errors of type `ε`. -/
abbrev Program (σ ε α : Type) := ExceptT ε (StateT σ Option) α

namespace Program

variable {σ ε α β : Type}

/-- A step of the state that answers a value; it is undefined where `next` is. -/
def step (next : σ → Option (α × σ)) : Program σ ε α :=
  fun s => (next s).map fun result => (.ok result.1, result.2)

/-- The result of a computation that leaves the state alone. -/
def ofResult (result : Except ε α) : Program σ ε α := fun s => some (result, s)

/-- Started in `s` the program ends: with a value and a state in `after`, or with
an error and a state in `failed`. -/
def Ends (prog : Program σ ε α) (s : σ) (after : α → σ → Prop) (failed : ε → σ → Prop) : Prop :=
  match prog s with
  | none => False
  | some (.ok value, last) => after value last
  | some (.error error, last) => failed error last

section Rules

variable {prog : Program σ ε α} {s : σ} {after : α → σ → Prop} {failed : ε → σ → Prop}

theorem ends_pure {value : α} (holds : after value s) :
    Ends (pure value : Program σ ε α) s after failed := holds

theorem ends_throw {error : ε} (holds : failed error s) :
    Ends (throw error : Program σ ε α) s after failed := holds

theorem ends_get {after : σ → σ → Prop} (holds : after s s) :
    Ends (get : Program σ ε σ) s after failed := holds

theorem ends_modify {change : σ → σ} {after : PUnit → σ → Prop} (holds : after ⟨⟩ (change s)) :
    Ends (modify change : Program σ ε PUnit) s after failed := holds

theorem ends_ofResult {result : Except ε α} {value : α} (same : result = .ok value)
    (holds : after value s) : Ends (ofResult result : Program σ ε α) s after failed := by
  rw [same]
  exact holds

theorem ends_step {next : σ → Option (α × σ)} {value : α} {last : σ}
    (result : next s = some (value, last)) (holds : after value last) :
    Ends (step next : Program σ ε α) s after failed := by
  unfold Ends step
  rw [result]
  exact holds

theorem Ends.mono {afterwards : α → σ → Prop} {failing : ε → σ → Prop}
    (ends : Ends prog s after failed)
    (weaker : ∀ value last, after value last → afterwards value last)
    (weakerFailed : ∀ error last, failed error last → failing error last) :
    Ends prog s afterwards failing := by
  unfold Ends at ends ⊢
  split at ends
  · exact ends.elim
  · exact weaker _ _ ends
  · exact weakerFailed _ _ ends

theorem Ends.weaken {afterwards : α → σ → Prop} (ends : Ends prog s after failed)
    (weaker : ∀ value last, after value last → afterwards value last) :
    Ends prog s afterwards failed :=
  ends.mono weaker fun _ _ failing => failing

theorem Ends.weakenFailed {failing : ε → σ → Prop} (ends : Ends prog s after failed)
    (weaker : ∀ error last, failed error last → failing error last) :
    Ends prog s after failing :=
  ends.mono (fun _ _ holds => holds) weaker

/-- The sequence rule. -/
theorem Ends.bind {rest : α → Program σ ε β} {finally_ : β → σ → Prop}
    (ends : Ends prog s after failed)
    (continues : ∀ value middle, after value middle → Ends (rest value) middle finally_ failed) :
    Ends (prog >>= rest) s finally_ failed := by
  unfold Ends at ends
  split at ends
  case h_1 => exact ends.elim
  case h_2 value middle result =>
      have continued := continues value middle ends
      have unfolded : (prog >>= rest) s = rest value middle := by
        change (prog s).bind _ = _
        rw [result]
        rfl
      unfold Ends at continued ⊢
      rw [unfolded]
      exact continued
  case h_3 error middle result =>
      have unfolded : (prog >>= rest) s = some (.error error, middle) := by
        change (prog s).bind _ = _
        rw [result]
        rfl
      unfold Ends
      rw [unfolded]
      exact ends

theorem ends_get_bind {rest : σ → Program σ ε α} (continues : Ends (rest s) s after failed) :
    Ends (get >>= rest) s after failed := continues

theorem ends_ite {condition : Prop} [Decidable condition] {other : Program σ ε α}
    (yes : condition → Ends prog s after failed) (no : ¬ condition → Ends other s after failed) :
    Ends (if condition then prog else other) s after failed := by
  split
  · exact yes ‹_›
  · exact no ‹_›

/-- A run that ends has a result. -/
theorem Ends.result (ends : Ends prog s after failed) :
    ∃ outcome last, prog s = some (outcome, last) := by
  unfold Ends at ends
  split at ends
  · exact ends.elim
  · exact ⟨_, _, by assumption⟩
  · exact ⟨_, _, by assumption⟩

/-- The result of a run that ends meets a common postcondition. -/
theorem Ends.of_result {holds : σ → Prop} (ends : Ends prog s (fun _ => holds) fun _ => holds)
    {outcome : Except ε α} {last : σ} (result : prog s = some (outcome, last)) : holds last := by
  unfold Ends at ends
  rw [result] at ends
  cases outcome <;> exact ends

end Rules

/-- From every state of the invariant the program ends in one, with a value or an error. -/
def Keeps (holds : σ → Prop) (prog : Program σ ε α) : Prop :=
  ∀ s, holds s → Ends prog s (fun _ => holds) fun _ => holds

section Keeps

variable {holds : σ → Prop} {prog : Program σ ε α}

theorem keeps_pure {value : α} : Keeps holds (pure value : Program σ ε α) :=
  fun _ before => ends_pure before

theorem keeps_throw {error : ε} : Keeps holds (throw error : Program σ ε α) :=
  fun _ before => ends_throw before

theorem keeps_get : Keeps holds (get : Program σ ε σ) :=
  fun _ before => ends_get before

theorem keeps_modify {change : σ → σ} (keeps : ∀ s, holds s → holds (change s)) :
    Keeps holds (modify change : Program σ ε PUnit) := fun s before => ends_modify (keeps s before)

theorem Keeps.bind {rest : α → Program σ ε β} (keeps : Keeps holds prog)
    (continues : ∀ value, Keeps holds (rest value)) : Keeps holds (prog >>= rest) :=
  fun s before => (keeps s before).bind fun value middle => continues value middle

theorem keeps_ite {condition : Prop} [Decidable condition] {other : Program σ ε α}
    (yes : condition → Keeps holds prog) (no : ¬ condition → Keeps holds other) :
    Keeps holds (if condition then prog else other) :=
  fun s before => ends_ite (fun true_ => yes true_ s before) fun false_ => no false_ s before

/-- A loop over a list keeps what its body keeps. -/
theorem keeps_forM {items : List α} {body : α → Program σ ε PUnit}
    (keeps : ∀ item ∈ items, Keeps holds (body item)) : Keeps holds (items.forM body) := by
  induction items with
  | nil => exact keeps_pure
  | cons item items ih =>
      exact (keeps item (List.mem_cons_self ..)).bind fun _ =>
        ih fun later member => keeps later (List.mem_cons_of_mem _ member)

end Keeps

end Program

end Hcan.Library
