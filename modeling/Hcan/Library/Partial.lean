import Hcan.Library.Program

/-!
# Partial specifications

`Meets` specifies the runs of a program that have a result, `Total` says that every
run has one.  Together they are the total specification of `Ends`.
-/

namespace Hcan.Library.Program

variable {σ ε α β : Type}

/-- Where the program has a result started in `s`, it is a value and a state in `after`, or an
error and a state in `failed`. -/
def Meets (prog : Program σ ε α) (s : σ) (after : α → σ → Prop) (failed : ε → σ → Prop) : Prop :=
  prog s = none ∨ Ends prog s after failed

/-- The program has a result in every state. -/
def Total (prog : Program σ ε α) : Prop := ∀ s, prog s ≠ none

/-- A run that has been evaluated. -/
theorem exists_of_any {run : Option α} {test : α → Bool} (passed : run.any test = true) :
    ∃ value, run = some value ∧ test value = true :=
  ⟨run.get (Option.isSome_of_any passed), (Option.some_get _).symm,
    Option.get_of_any_eq_true test run passed⟩

section Runs

variable {prog : Program σ ε α} {s middle : σ}

theorem bind_ok {rest : α → Program σ ε β} {value : α}
    (result : prog s = some (.ok value, middle)) :
    (prog >>= rest) s = rest value middle := by
  change (prog s).bind _ = _
  rw [result]
  rfl

theorem bind_error {rest : α → Program σ ε β} {error : ε}
    (result : prog s = some (.error error, middle)) :
    (prog >>= rest) s = some (.error error, middle) := by
  change (prog s).bind _ = _
  rw [result]
  rfl

theorem bind_none {rest : α → Program σ ε β} (result : prog s = none) :
    (prog >>= rest) s = none := by
  change (prog s).bind _ = _
  rw [result]
  rfl

theorem tryCatch_ok {handler : ε → Program σ ε α} {value : α}
    (result : prog s = some (.ok value, middle)) :
    (tryCatch prog handler : Program σ ε α) s = some (.ok value, middle) := by
  change (prog s).bind _ = _
  rw [result]
  rfl

theorem tryCatch_error {handler : ε → Program σ ε α} {error : ε}
    (result : prog s = some (.error error, middle)) :
    (tryCatch prog handler : Program σ ε α) s = handler error middle := by
  change (prog s).bind _ = _
  rw [result]
  rfl

theorem tryCatch_none {handler : ε → Program σ ε α} (result : prog s = none) :
    (tryCatch prog handler : Program σ ε α) s = none := by
  change (prog s).bind _ = _
  rw [result]
  rfl

end Runs

section Meets

variable {prog : Program σ ε α} {s : σ} {after : α → σ → Prop} {failed : ε → σ → Prop}

theorem Ends.meets (ends : Ends prog s after failed) : Meets prog s after failed := .inr ends

theorem Meets.ends (meets : Meets prog s after failed) (total : Total prog) :
    Ends prog s after failed := meets.resolve_left (total s)

theorem Meets.ok (meets : Meets prog s after failed) {value : α} {last : σ}
    (result : prog s = some (.ok value, last)) : after value last := by
  rcases meets with stuck | ends
  · rw [stuck] at result
    cases result
  · unfold Ends at ends
    rwa [result] at ends

theorem Meets.error (meets : Meets prog s after failed) {error : ε} {last : σ}
    (result : prog s = some (.error error, last)) : failed error last := by
  rcases meets with stuck | ends
  · rw [stuck] at result
    cases result
  · unfold Ends at ends
    rwa [result] at ends

theorem Ends.ok {after : α → σ → Prop} (ends : Ends prog s after fun _ _ => False) :
    ∃ value last, prog s = some (.ok value, last) ∧ after value last := by
  unfold Ends at ends
  cases result : prog s with
  | none =>
      rw [result] at ends
      exact ends.elim
  | some pair =>
      obtain ⟨outcome, last⟩ := pair
      rw [result] at ends
      cases outcome with
      | ok value => exact ⟨value, last, rfl, ends⟩
      | error error => exact ends.elim

theorem Meets.mono {afterwards : α → σ → Prop} {failing : ε → σ → Prop}
    (meets : Meets prog s after failed)
    (weaker : ∀ value last, after value last → afterwards value last)
    (weakerFailed : ∀ error last, failed error last → failing error last) :
    Meets prog s afterwards failing :=
  meets.imp_right fun ends => ends.mono weaker weakerFailed

theorem Ends.and {afterwards : α → σ → Prop} {failing : ε → σ → Prop}
    (ends : Ends prog s after failed) (meets : Meets prog s afterwards failing) :
    Ends prog s (fun value last => after value last ∧ afterwards value last)
      (fun error last => failed error last ∧ failing error last) := by
  rcases meets with stuck | also
  · unfold Ends at ends
    rw [stuck] at ends
    exact ends.elim
  · unfold Ends at *
    cases result : prog s with
    | none =>
        rw [result] at ends
        exact ends
    | some pair =>
        obtain ⟨outcome, last⟩ := pair
        rw [result] at ends also
        cases outcome with
        | ok value => exact ⟨ends, also⟩
        | error error => exact ⟨ends, also⟩

/-- The rule of an error handler. -/
theorem Ends.tryCatch {handler : ε → Program σ ε α} {failing : ε → σ → Prop}
    (ends : Ends prog s after failed)
    (handles : ∀ error middle, failed error middle → Ends (handler error) middle after failing) :
    Ends (MonadExcept.tryCatch prog handler) s after failing := by
  cases result : prog s with
  | none =>
      unfold Ends at ends
      rw [result] at ends
      exact ends.elim
  | some pair =>
      obtain ⟨outcome, middle⟩ := pair
      cases outcome with
      | ok value =>
          unfold Ends
          rw [tryCatch_ok result]
          exact ends.meets.ok result
      | error error =>
          have handled := handles error middle (ends.meets.error result)
          unfold Ends at handled ⊢
          rwa [tryCatch_error result]

/-- The sequence rule. -/
theorem Meets.bind {rest : α → Program σ ε β} {finally_ : β → σ → Prop}
    (meets : Meets prog s after failed)
    (continues : ∀ value middle, after value middle → Meets (rest value) middle finally_ failed) :
    Meets (prog >>= rest) s finally_ failed := by
  cases result : prog s with
  | none => exact .inl (bind_none result)
  | some pair =>
      obtain ⟨outcome, middle⟩ := pair
      cases outcome with
      | ok value =>
          have continued := continues value middle (meets.ok result)
          unfold Meets Ends at continued ⊢
          rwa [bind_ok result]
      | error error =>
          refine .inr ?_
          unfold Ends
          rw [bind_error result]
          exact meets.error result

theorem Meets.tryCatch {handler : ε → Program σ ε α} {failing : ε → σ → Prop}
    (meets : Meets prog s after failed)
    (handles : ∀ error middle, failed error middle → Meets (handler error) middle after failing) :
    Meets (MonadExcept.tryCatch prog handler) s after failing := by
  cases result : prog s with
  | none => exact .inl (tryCatch_none result)
  | some pair =>
      obtain ⟨outcome, middle⟩ := pair
      cases outcome with
      | ok value =>
          refine .inr ?_
          unfold Ends
          rw [tryCatch_ok result]
          exact meets.ok result
      | error error =>
          have handled := handles error middle (meets.error result)
          unfold Meets Ends at handled ⊢
          rwa [tryCatch_error result]

theorem meets_any : Meets prog s (fun _ _ => True) fun _ _ => True := by
  cases result : prog s with
  | none => exact .inl result
  | some pair =>
      refine .inr ?_
      unfold Ends
      rw [result]
      obtain ⟨outcome, last⟩ := pair
      cases outcome <;> trivial

theorem meets_pure {value : α} (holds : after value s) :
    Meets (pure value : Program σ ε α) s after failed := (ends_pure holds).meets

theorem meets_throw {error : ε} (holds : failed error s) :
    Meets (throw error : Program σ ε α) s after failed := (ends_throw holds).meets

theorem meets_step {next : σ → Option (α × σ)}
    (holds : ∀ value last, next s = some (value, last) → after value last) :
    Meets (step next : Program σ ε α) s after failed := by
  cases result : next s with
  | none =>
      refine .inl ?_
      unfold step
      rw [result]
      rfl
  | some pair => exact (ends_step result (holds _ _ result)).meets

theorem meets_ite {condition : Prop} [Decidable condition] {other : Program σ ε α}
    (yes : condition → Meets prog s after failed) (no : ¬ condition → Meets other s after failed) :
    Meets (if condition then prog else other) s after failed := by
  split
  · exact yes ‹_›
  · exact no ‹_›

end Meets

/-- Every run of the program from a state of the invariant ends in one, and an error that it
raises is one of `raises`. -/
def Preserves (holds : σ → Prop) (raises : ε → Prop) (prog : Program σ ε α) : Prop :=
  ∀ s, holds s → Meets prog s (fun _ => holds) fun error last => raises error ∧ holds last

section Preserves

variable {holds : σ → Prop} {raises : ε → Prop} {prog : Program σ ε α}

theorem preserves_pure {value : α} : Preserves holds raises (pure value : Program σ ε α) :=
  fun _ before => meets_pure before

theorem preserves_throw {error : ε} (raised : raises error) :
    Preserves holds raises (throw error : Program σ ε α) :=
  fun _ before => meets_throw ⟨raised, before⟩

theorem Preserves.bind {rest : α → Program σ ε β} (preserves : Preserves holds raises prog)
    (continues : ∀ value, Preserves holds raises (rest value)) :
    Preserves holds raises (prog >>= rest) :=
  fun s before => (preserves s before).bind fun value middle => continues value middle

theorem preserves_ite {condition : Prop} [Decidable condition] {other : Program σ ε α}
    (yes : condition → Preserves holds raises prog)
    (no : ¬ condition → Preserves holds raises other) :
    Preserves holds raises (if condition then prog else other) :=
  fun s before => meets_ite (fun true_ => yes true_ s before) fun false_ => no false_ s before

end Preserves

section Total

variable {prog : Program σ ε α}

theorem total_pure {value : α} : Total (pure value : Program σ ε α) :=
  fun _ stuck => Option.some_ne_none _ stuck

theorem total_step {next : σ → Option (α × σ)} (defined : ∀ s, next s ≠ none) :
    Total (step next : Program σ ε α) := by
  intro s stuck
  exact defined s (Option.map_eq_none_iff.mp stuck)

theorem Total.bind {rest : α → Program σ ε β} (total : Total prog)
    (continues : ∀ value, Total (rest value)) : Total (prog >>= rest) := by
  intro s
  cases result : prog s with
  | none => exact absurd result (total s)
  | some pair =>
      obtain ⟨outcome, middle⟩ := pair
      cases outcome with
      | ok value =>
          rw [bind_ok result]
          exact continues value middle
      | error error =>
          rw [bind_error result]
          exact Option.some_ne_none _

/-- The sequence rule where the rest has a result for the values that the first part returns. -/
theorem Total.bind_of {rest : α → Program σ ε β} {returns : α → Prop} (total : Total prog)
    (meets : ∀ s, Meets prog s (fun value _ => returns value) fun _ _ => True)
    (continues : ∀ value, returns value → Total (rest value)) : Total (prog >>= rest) := by
  intro s
  cases result : prog s with
  | none => exact absurd result (total s)
  | some pair =>
      obtain ⟨outcome, middle⟩ := pair
      cases outcome with
      | ok value =>
          rw [bind_ok result]
          exact continues value ((meets s).ok result) middle
      | error error =>
          rw [bind_error result]
          exact Option.some_ne_none _

theorem Total.tryCatch {handler : ε → Program σ ε α} (total : Total prog)
    (handles : ∀ error, Total (handler error)) : Total (MonadExcept.tryCatch prog handler) := by
  intro s
  cases result : prog s with
  | none => exact absurd result (total s)
  | some pair =>
      obtain ⟨outcome, middle⟩ := pair
      cases outcome with
      | ok value =>
          rw [tryCatch_ok result]
          exact Option.some_ne_none _
      | error error =>
          rw [tryCatch_error result]
          exact handles error middle

theorem total_ite {condition : Prop} [Decidable condition] {other : Program σ ε α}
    (yes : condition → Total prog) (no : ¬ condition → Total other) :
    Total (if condition then prog else other) := by
  split
  · exact yes ‹_›
  · exact no ‹_›

end Total

end Hcan.Library.Program
