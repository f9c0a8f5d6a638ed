import Mathlib.Algebra.Order.Ring.Nat
import Mathlib.Data.List.Induction

/-!
# Reports with a dead band

A value is reported when it has been far from the last report for some samples in a row.  The last
report is then never far from all of the latest samples, and reports are seldom.
-/

namespace Hcan.Library

/-- The last report, and how many far samples have to come before the next one. -/
structure Deadband (α : Type*) where
  last : α
  wait : Nat

namespace Deadband

variable {α : Type*} {far : α → α → Bool} {n : Nat}

/-- A sample, with the report it leads to. -/
def step (far : α → α → Bool) (n : Nat) (d : Deadband α) (value : α) : Deadband α × Option α :=
  if d.wait = 0 then (⟨value, n⟩, some value)
  else if far value d.last then (⟨d.last, d.wait - 1⟩, none)
  else (⟨d.last, n⟩, none)

def run (far : α → α → Bool) (n : Nat) (d : Deadband α) (values : List α) : Deadband α :=
  values.foldl (fun d value => (step far n d value).1) d

/-- The reports of some samples. -/
def reports (far : α → α → Bool) (n : Nat) : Deadband α → List α → List α
  | _, [] => []
  | d, value :: values =>
      (step far n d value).2.toList ++ reports far n (step far n d value).1 values

theorem run_snoc (d : Deadband α) (values : List α) (value : α) :
    run far n d (values ++ [value]) = (step far n (run far n d values) value).1 :=
  List.foldl_append

/-- Either a late sample is not far from the last report, or all samples were counted. -/
theorem near_or_counted (near : ∀ value, far value value = false) (d : Deadband α)
    (values : List α) :
    (∃ value ∈ values, far value (run far n d values).last = false) ∨
      (run far n d values).last = d.last ∧
        (run far n d values).wait + values.length = d.wait := by
  induction values using List.reverseRecOn with
  | nil => exact .inr ⟨rfl, rfl⟩
  | append_singleton values value ih =>
      have inside : value ∈ values ++ [value] := List.mem_append_right _ (List.mem_singleton_self _)
      rw [run_snoc, step]
      by_cases due : (run far n d values).wait = 0
      · rw [if_pos due]
        exact .inl ⟨value, inside, near value⟩
      · rw [if_neg due]
        by_cases distant : far value (run far n d values).last = true
        · rw [if_pos distant]
          rcases ih with ⟨earlier, member, close⟩ | ⟨same, counted⟩
          · exact .inl ⟨earlier, List.mem_append_left _ member, close⟩
          · refine .inr ⟨same, ?_⟩
            rw [List.length_append, List.length_singleton]
            change (run far n d values).wait - 1 + (values.length + 1) = d.wait
            omega
        · rw [if_neg distant]
          exact .inl ⟨value, inside, Bool.eq_false_iff.mpr distant⟩

theorem wait_le (far : α → α → Bool) {d : Deadband α} (few : d.wait ≤ n) (values : List α) :
    (run far n d values).wait ≤ n := by
  induction values using List.reverseRecOn with
  | nil => exact few
  | append_singleton values value ih =>
      rw [run_snoc, step]
      split
      · exact le_rfl
      · split
        · exact (Nat.sub_le _ _).trans ih
        · exact le_rfl

/-- Of more samples than have to be waited for, one is not far from the last report. -/
theorem near_last (near : ∀ value, far value value = false) {d : Deadband α} (few : d.wait ≤ n)
    (values : List α) (long : n < values.length) :
    ∃ value ∈ values, far value (run far n d values).last = false := by
  rcases near_or_counted (n := n) near d values with close | ⟨-, counted⟩
  · exact close
  · omega

theorem reports_append (d : Deadband α) (front back : List α) :
    reports far n d (front ++ back) =
      reports far n d front ++ reports far n (run far n d front) back := by
  induction front generalizing d with
  | nil => rfl
  | cons value front ih =>
      rw [List.cons_append, reports, reports, ih, List.append_assoc]
      rfl

/-- What is due at the first sample has been reported, and the last report is remembered. -/
theorem getLast?_reports {d : Deadband α} (due : d.wait = 0) {values : List α}
    (some_ : values ≠ []) :
    (reports far n d values).getLast? = some (run far n d values).last := by
  induction values using List.reverseRecOn with
  | nil => exact absurd rfl some_
  | append_singleton values value ih =>
      have here : reports far n (run far n d values) [value] =
          (step far n (run far n d values) value).2.toList := List.append_nil _
      rw [reports_append, run_snoc, here, step]
      by_cases now : (run far n d values).wait = 0
      · rw [if_pos now]
        exact List.getLast?_concat
      · have before : values ≠ [] := by
          rintro rfl
          exact now due
        rw [if_neg now]
        split
        · rw [← ih before]
          exact congrArg _ (List.append_nil _)
        · rw [← ih before]
          exact congrArg _ (List.append_nil _)

/-- Between two reports lie the samples that are waited for. -/
theorem reports_length_le (far : α → α → Bool) {d : Deadband α} (few : d.wait ≤ n)
    (values : List α) :
    (reports far n d values).length * (n + 1) + d.wait ≤
      values.length + (run far n d values).wait := by
  induction values generalizing d with
  | nil => exact (by rw [reports, List.length_nil, Nat.zero_mul]; exact le_rfl)
  | cons value values ih =>
      have next : (step far n d value).1.wait ≤ n := wait_le far few [value]
      have later := ih next
      have here : (step far n d value).2.toList.length * (n + 1) + d.wait ≤
          1 + (step far n d value).1.wait := by
        rw [step]
        split
        · rename_i due
          change 1 * (n + 1) + d.wait ≤ 1 + n
          omega
        · split
          · change 0 * (n + 1) + d.wait ≤ 1 + (d.wait - 1)
            omega
          · change 0 * (n + 1) + d.wait ≤ 1 + n
            omega
      change _ ≤ (value :: values).length + (run far n (step far n d value).1 values).wait
      rw [reports, List.length_append, Nat.add_mul, List.length_cons]
      omega

end Deadband

end Hcan.Library
