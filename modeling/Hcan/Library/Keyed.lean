import Mathlib.Data.List.Nodup

/-!
# Slots with distinct keys

A table of slots, some of which hold a key.  The keys in use stay distinct when slots
are freed, when their other data changes, and when a fresh key goes into a free slot.
-/

namespace Hcan.Library

variable {α κ : Type*}

theorem set_self {slots : List α} {slot : α} {i : Nat} (here : slots[i]? = some slot) :
    slots.set i slot = slots := by
  obtain ⟨bound, stored⟩ := List.getElem?_eq_some_iff.mp here
  rw [← stored, List.set_getElem_self]

theorem map_set_same {β : Type*} {shown : α → β} {slots : List α} {old new : α} {i : Nat}
    (here : slots[i]? = some old) (same : shown new = shown old) :
    (slots.set i new).map shown = slots.map shown := by
  have mapped : (slots.map shown)[i]? = some (shown old) := by
    rw [List.getElem?_map, here]
    rfl
  rw [List.map_set, same, set_self mapped]

/-- Two changes that agree on the entry at an index. -/
theorem modify_congr {slots : List α} {slot : α} {i : Nat} (first second : α → α)
    (here : slots[i]? = some slot) (same : first slot = second slot) :
    slots.modify i first = slots.modify i second := by
  apply List.ext_getElem?
  intro j
  rw [List.getElem?_modify, List.getElem?_modify]
  by_cases its : i = j
  · subst its
    simp only [here, if_true, Option.map_eq_map, Option.map_some, same]
  · simp only [if_neg its]

/-- No two slots hold the same key. -/
def Distinct (key : α → Option κ) (slots : List α) : Prop :=
  ∀ ⦃i j : Nat⦄ ⦃p q : α⦄ ⦃k : κ⦄, slots[i]? = some p → slots[j]? = some q →
    key p = some k → key q = some k → i = j

namespace Distinct

variable {key : α → Option κ} {slots : List α}

theorem of_free (free : ∀ p ∈ slots, key p = none) : Distinct key slots := by
  intro i j p q k atI _ keyP _
  rw [free p (List.mem_of_getElem? atI)] at keyP
  exact nomatch keyP

theorem tail {slot : α} (distinct : Distinct key (slot :: slots)) : Distinct key slots := by
  intro i j p q k atI atJ keyP keyQ
  exact Nat.succ.inj (distinct (i := i + 1) (j := j + 1) atI atJ keyP keyQ)

/-- The key of the first slot is held by no other. -/
theorem head {slot : α} {k : κ} (distinct : Distinct key (slot :: slots))
    (held : key slot = some k) : ∀ q ∈ slots, key q ≠ some k := by
  intro q member same
  obtain ⟨j, atJ⟩ := List.mem_iff_getElem?.mp member
  exact nomatch distinct (i := 0) (j := j + 1) rfl atJ held same

/-- The keys in use form a list without repetition. -/
theorem nodup (distinct : Distinct key slots) : (slots.filterMap key).Nodup := by
  induction slots with
  | nil => exact List.nodup_nil
  | cons slot slots ih =>
      rw [List.filterMap_cons]
      split
      · exact ih distinct.tail
      · next k held =>
          apply List.nodup_cons.mpr
          refine ⟨?_, ih distinct.tail⟩
          intro again
          obtain ⟨q, member, same⟩ := List.mem_filterMap.mp again
          exact distinct.head held q member same

/-- Slots may lose their keys. -/
theorem map (distinct : Distinct key slots) {change : α → α}
    (shrinks : ∀ p k, key (change p) = some k → key p = some k) :
    Distinct key (slots.map change) := by
  intro i j p q k atI atJ keyP keyQ
  rw [List.getElem?_map] at atI atJ
  obtain ⟨p, foundP, rfl⟩ := Option.map_eq_some_iff.mp atI
  obtain ⟨q, foundQ, rfl⟩ := Option.map_eq_some_iff.mp atJ
  exact distinct foundP foundQ (shrinks p k keyP) (shrinks q k keyQ)

/-- A change at one slot that keeps its key, or puts a fresh key there. -/
theorem modify (distinct : Distinct key slots) {change : α → α} {i : Nat}
    (fresh : ∀ p k, slots[i]? = some p → key (change p) = some k →
      key p = some k ∨ ∀ q ∈ slots, key q ≠ some k) :
    Distinct key (slots.modify i change) := by
  have single : ∀ {j p q k}, slots[i]? = some p → slots[j]? = some q →
      key (change p) = some k → key q = some k → i = j := by
    intro j p q k atI atJ keyP keyQ
    rcases fresh p k atI keyP with same | new
    · exact distinct atI atJ same keyQ
    · exact absurd keyQ (new q (List.mem_of_getElem? atJ))
  intro first second p q k atFirst atSecond keyP keyQ
  rw [List.getElem?_modify] at atFirst atSecond
  obtain ⟨p, foundP, rfl⟩ := Option.map_eq_some_iff.mp atFirst
  obtain ⟨q, foundQ, rfl⟩ := Option.map_eq_some_iff.mp atSecond
  split at keyP
  · next here =>
      subst here
      split at keyQ
      · assumption
      · exact single foundP foundQ keyP keyQ
  · split at keyQ
    · next here =>
        subst here
        exact (single foundQ foundP keyQ keyP).symm
    · exact distinct foundP foundQ keyP keyQ

end Distinct

end Hcan.Library
