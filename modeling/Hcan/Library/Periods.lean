import Mathlib.Data.List.Infix
import Mathlib.Data.List.DropRight

/-!
# Periods of a log

A period is a maximal block of a log whose entries lie inside.  What holds of an entry for the
entries before it in its period is said with a latch: the last entry that has set or reset it, has
set it.
-/

namespace Hcan.Library

section Periods

variable {α : Type*} {inside set reset : α → Prop} {log front back : List α} {entry : α}

/-- Behind the last entry that sets the latch none resets it. -/
def Latched (set reset : α → Prop) (log : List α) : Prop :=
  ∃ front entry back, log = front ++ entry :: back ∧ set entry ∧
    ∀ later ∈ back, ¬ set later ∧ ¬ reset later

theorem not_latched_nil : ¬ Latched set reset [] := by
  rintro ⟨front, entry, back, same, -⟩
  exact List.append_ne_nil_of_right_ne_nil front (List.cons_ne_nil entry back) same.symm

theorem latched_snoc :
    Latched set reset (log ++ [entry]) ↔ set entry ∨ ¬ reset entry ∧ Latched set reset log := by
  constructor
  · rintro ⟨front, first, back, same, sets, rest⟩
    obtain rfl | ⟨later, last, rfl⟩ := back.eq_nil_or_concat'
    · obtain ⟨-, here⟩ := List.append_inj' same rfl
      cases here
      exact .inl sets
    · rw [← List.cons_append, ← List.append_assoc] at same
      obtain ⟨before, here⟩ := List.append_inj' same rfl
      cases here
      refine .inr ⟨(rest entry (List.mem_append_right _ List.mem_cons_self)).2, front, first, later,
        before, sets, fun other between => rest other (List.mem_append_left _ between)⟩
  · intro either
    by_cases sets : set entry
    · exact ⟨log, entry, [], rfl, sets, fun _ between => absurd between List.not_mem_nil⟩
    · obtain ⟨stays, front, first, back, rfl, setFirst, rest⟩ := either.resolve_left sets
      refine ⟨front, first, back ++ [entry], ?_, setFirst, fun later between => ?_⟩
      · rw [List.append_assoc, List.cons_append]
      · obtain earlier | last := List.mem_append.mp between
        · exact rest later earlier
        · obtain rfl := List.mem_singleton.mp last
          exact ⟨sets, stays⟩

theorem Latched.mono {weaker : α → Prop} (weak : ∀ other, weaker other → reset other)
    (latched : Latched set reset log) : Latched set weaker log := by
  obtain ⟨front, entry, back, same, sets, rest⟩ := latched
  exact ⟨front, entry, back, same, sets, fun later between =>
    ⟨(rest later between).1, fun resets => (rest later between).2 (weak later resets)⟩⟩

/-- One latch implies another at every entry that sets them exactly when the entries that reset the
other one come with one that resets the first, between any two successive sets. -/
theorem latched_imp_iff {outer : α → Prop} :
    (∀ front entry back, log = front ++ entry :: back → set entry →
        Latched set reset front → Latched set outer front) ↔
      ∀ front first middle later back, log = front ++ first :: middle ++ later :: back →
        set first → set later → (∀ other ∈ middle, ¬ set other) →
          (∃ other ∈ middle, outer other) → ∃ other ∈ middle, reset other := by
  constructor
  · intro implies front first middle later back cut setFirst setLater none outside
    by_contra keeps
    obtain ⟨before, entry, behind, same, sets, rest⟩ :=
      implies (front ++ first :: middle) later back cut setLater
        ⟨front, first, middle, rfl, setFirst, fun other between =>
          ⟨none other between, fun resets => keeps ⟨other, between, resets⟩⟩⟩
    obtain ⟨other, between, outer⟩ := outside
    obtain ⟨extra, here, there⟩ | ⟨extra, here, there⟩ := List.append_eq_append_iff.mp same
    · cases extra with
      | nil =>
          cases there
          exact (rest other between).2 outer
      | cons head extra =>
          cases there
          exact none entry (List.mem_append_right _ List.mem_cons_self) sets
    · cases extra with
      | nil =>
          cases there
          exact (rest other between).2 outer
      | cons head extra =>
          cases there
          exact (rest other (List.mem_append_right _ (List.mem_cons_of_mem _ between))).2 outer
  · rintro apart front entry back cut sets ⟨before, first, middle, rfl, setFirst, rest⟩
    refine ⟨before, first, middle, rfl, setFirst, fun other between =>
      ⟨(rest other between).1, fun outer => ?_⟩⟩
    obtain ⟨last, inside, resets⟩ := apart before first middle entry back cut setFirst sets
      (fun other between => (rest other between).1) ⟨other, between, outer⟩
    exact (rest last inside).2 resets

/-- A maximal block of the log whose entries lie inside. -/
structure IsPeriod (inside : α → Prop) (log front period back : List α) : Prop where
  cut : log = front ++ period ++ back
  within : ∀ entry ∈ period, inside entry
  starts : ∀ entry ∈ front.getLast?, ¬ inside entry
  ends : ∀ entry ∈ back.head?, ¬ inside entry

/-- The front of a list ends with a block. -/
theorem exists_block (inside : α → Prop) (log : List α) :
    ∃ front block, log = front ++ block ∧ (∀ entry ∈ block, inside entry) ∧
      ∀ entry ∈ front.getLast?, ¬ inside entry := by
  induction log using List.reverseRecOn with
  | nil => exact ⟨[], [], rfl, fun _ none => absurd none List.not_mem_nil,
      fun _ none => absurd none (Option.not_mem_none _)⟩
  | append_singleton log last ih =>
      by_cases here : inside last
      · obtain ⟨front, block, rfl, within, starts⟩ := ih
        refine ⟨front, block ++ [last], List.append_assoc .., fun entry member => ?_, starts⟩
        obtain earlier | same := List.mem_append.mp member
        · exact within entry earlier
        · rwa [List.mem_singleton.mp same]
      · refine ⟨log ++ [last], [], (List.append_nil _).symm,
          fun _ none => absurd none List.not_mem_nil, fun entry same => ?_⟩
        rw [List.getLast?_concat] at same
        rwa [← Option.some.inj same]

/-- A list begins with a block. -/
theorem exists_block_cons (inside : α → Prop) (log : List α) :
    ∃ block back, log = block ++ back ∧ (∀ entry ∈ block, inside entry) ∧
      ∀ entry ∈ back.head?, ¬ inside entry := by
  induction log with
  | nil => exact ⟨[], [], rfl, fun _ none => absurd none List.not_mem_nil,
      fun _ none => absurd none (Option.not_mem_none _)⟩
  | cons first log ih =>
      by_cases here : inside first
      · obtain ⟨block, back, rfl, within, ends⟩ := ih
        exact ⟨first :: block, back, rfl, List.forall_mem_cons.mpr ⟨here, within⟩, ends⟩
      · refine ⟨[], first :: log, rfl, fun _ none => absurd none List.not_mem_nil,
          fun entry same => ?_⟩
        rw [List.head?_cons] at same
        rwa [← Option.some.inj same]

/-- An entry inside lies in a period. -/
theorem exists_period (inside : α → Prop) (front back : List α) (here : inside entry) :
    ∃ before earlier later behind, front = before ++ earlier ∧
      IsPeriod inside (front ++ entry :: back) before (earlier ++ entry :: later) behind := by
  obtain ⟨before, earlier, rfl, withinFront, starts⟩ := exists_block inside front
  obtain ⟨later, behind, rfl, withinBack, ends⟩ := exists_block_cons inside back
  refine ⟨before, earlier, later, behind, rfl, ⟨?_, fun other member => ?_, starts, ends⟩⟩
  · simp only [List.append_assoc, List.cons_append]
  · obtain first | rest := List.mem_append.mp member
    · exact withinFront other first
    · obtain rfl | second := List.mem_cons.mp rest
      · exact here
      · exact withinBack other second

/-- In a period a latch that is reset outside knows the entries of the period. -/
theorem latched_outside {earlier : List α} (only : ∀ other, set other → inside other)
    (starts : ∀ other ∈ front.getLast?, ¬ inside other)
    (within : ∀ other ∈ earlier, inside other) :
    Latched set (fun other => ¬ inside other) (front ++ earlier) ↔ ∃ other ∈ earlier, set other := by
  induction earlier using List.reverseRecOn with
  | nil =>
      rw [List.append_nil]
      have none : ¬ ∃ other ∈ ([] : List α), set other := by
        rintro ⟨other, member, -⟩
        exact List.not_mem_nil member
      refine iff_of_false ?_ none
      obtain rfl | ⟨log, last, rfl⟩ := front.eq_nil_or_concat'
      · exact not_latched_nil
      · have outside := starts last List.getLast?_concat
        rw [latched_snoc]
        rintro (sets | ⟨stays, -⟩)
        · exact outside (only last sets)
        · exact stays outside
  | append_singleton earlier last ih =>
      have here := within last (List.mem_append_right _ List.mem_cons_self)
      rw [← List.append_assoc, latched_snoc, ih fun other member =>
        within other (List.mem_append_left _ member)]
      constructor
      · rintro (sets | ⟨-, other, member, sets⟩)
        · exact ⟨last, List.mem_append_right _ List.mem_cons_self, sets⟩
        · exact ⟨other, List.mem_append_left _ member, sets⟩
      · rintro ⟨other, member, sets⟩
        obtain first | same := List.mem_append.mp member
        · exact .inr ⟨not_not.mpr here, other, first, sets⟩
        · exact .inl (List.mem_singleton.mp same ▸ sets)

end Periods

end Hcan.Library
