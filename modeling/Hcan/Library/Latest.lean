import Mathlib.Data.List.Induction
import Mathlib.Data.List.Nodup
import Mathlib.Logic.Function.Basic

/-!
# Reports under keys

A history of reports, each one a value under a key.  A key stands for the value that was
reported under it last.  A table with one entry per key holds these values when a report
overwrites the first entry with its key.
-/

namespace Hcan.Library

variable {κ υ α : Type*}

/-- The list with a new entry in place of the first one that the test finds. -/
def replaceFirst (test : α → Bool) (new : α) : List α → List α
  | [] => []
  | entry :: entries =>
      if test entry then new :: entries else entry :: replaceFirst test new entries

theorem replaceFirst_findIdx? (test : α → Bool) (new : α) (entries : List α) :
    replaceFirst test new entries =
      match entries.findIdx? test with
      | some n => entries.set n new
      | none => entries := by
  induction entries with
  | nil => rfl
  | cons entry entries ih =>
      rw [replaceFirst, List.findIdx?_cons]
      cases found : test entry with
      | true => rfl
      | false =>
          rw [if_neg Bool.false_ne_true, if_neg Bool.false_ne_true, ih]
          cases entries.findIdx? test with
          | none => rfl
          | some n => rfl

/-- A test that finds nothing in front goes on behind. -/
theorem replaceFirst_append {test : α → Bool} (new : α) {front : List α} (back : List α)
    (absent : ∀ entry ∈ front, test entry = false) :
    replaceFirst test new (front ++ back) = front ++ replaceFirst test new back := by
  induction front with
  | nil => rfl
  | cons entry front ih =>
      have here : ¬test entry = true := by
        rw [absent entry List.mem_cons_self]
        exact Bool.false_ne_true
      rw [List.cons_append, replaceFirst, if_neg here,
        ih fun later member => absent later (List.mem_cons_of_mem _ member), List.cons_append]

section Latest

variable [DecidableEq κ] {start : υ} {history : List (κ × υ)} {key : κ}

/-- The value last reported under each key. -/
def latest (start : υ) (history : List (κ × υ)) : κ → υ :=
  history.foldl (fun values report => Function.update values report.1 report.2) fun _ => start

/-- The keys in the order of their first reports. -/
def reportedKeys (history : List (κ × υ)) : List κ := (history.map Prod.fst).eraseDups

theorem latest_concat (history : List (κ × υ)) (key : κ) (value : υ) :
    latest start (history ++ [(key, value)]) = Function.update (latest start history) key value :=
  List.foldl_concat ..

theorem mem_reportedKeys : key ∈ reportedKeys history ↔ key ∈ history.map Prod.fst :=
  List.mem_eraseDups

theorem reportedKeys_concat_old (value : υ) (old : key ∈ reportedKeys history) :
    reportedKeys (history ++ [(key, value)]) = reportedKeys history := by
  have none : ([key].removeAll (history.map Prod.fst)) = [] := by
    simp [List.removeAll, mem_reportedKeys.mp old]
  unfold reportedKeys
  rw [List.map_append, List.eraseDups_append]
  change _ ++ (([key].removeAll (history.map Prod.fst))).eraseDups = _
  rw [none, List.eraseDups_nil, List.append_nil]

theorem reportedKeys_concat_new (value : υ) (new : key ∉ reportedKeys history) :
    reportedKeys (history ++ [(key, value)]) = reportedKeys history ++ [key] := by
  have one : ([key].removeAll (history.map Prod.fst)) = [key] := by
    simp [List.removeAll, mt mem_reportedKeys.mpr new]
  unfold reportedKeys
  rw [List.map_append, List.eraseDups_append]
  change _ ++ (([key].removeAll (history.map Prod.fst))).eraseDups = _
  rw [one]
  rfl

theorem reportedKeys_length_concat (report : κ × υ) :
    (reportedKeys history).length ≤ (reportedKeys (history ++ [report])).length := by
  by_cases old : report.1 ∈ reportedKeys history
  · exact Nat.le_of_eq (congrArg List.length (reportedKeys_concat_old report.2 old)).symm
  · change _ ≤ (reportedKeys (history ++ [(report.1, report.2)])).length
    rw [reportedKeys_concat_new report.2 old, List.length_append]
    exact Nat.le_add_right ..

theorem reportedKeys_nodup (history : List (κ × υ)) : (reportedKeys history).Nodup := by
  induction history using List.reverseRecOn with
  | nil => exact List.nodup_nil
  | append_singleton history report ih =>
      by_cases old : report.1 ∈ reportedKeys history
      · exact (reportedKeys_concat_old report.2 old) ▸ ih
      · rw [show history ++ [report] = history ++ [(report.1, report.2)] from rfl,
          reportedKeys_concat_new report.2 old]
        exact List.nodup_append_comm.mp (List.nodup_cons.mpr ⟨old, ih⟩)

theorem latest_of_unreported (new : key ∉ reportedKeys history) :
    latest start history key = start := by
  induction history using List.reverseRecOn with
  | nil => rfl
  | append_singleton history report ih =>
      have apart : key ≠ report.1 := by
        rintro rfl
        exact new (mem_reportedKeys.mpr (by simp))
      have before : key ∉ reportedKeys history := by
        intro old
        apply new
        rw [mem_reportedKeys, List.map_append]
        exact List.mem_append_left _ (mem_reportedKeys.mp old)
      change latest start (history ++ [(report.1, report.2)]) key = start
      rw [latest_concat, Function.update_of_ne apart, ih before]

end Latest

section Table

variable [DecidableEq κ] {values : κ → υ} {key : κ}

/-- A report under a key of the table changes the value of this key. -/
theorem replaceFirst_map {keys : List κ} (entry : κ → υ → α) (keyOf : α → κ)
    (keyOf_entry : ∀ key value, keyOf (entry key value) = key) (value : υ) (distinct : keys.Nodup)
    (listed : key ∈ keys) (back : List α) :
    replaceFirst (fun old => keyOf old == key) (entry key value)
        (keys.map (fun old => entry old (values old)) ++ back) =
      keys.map (fun old => entry old (Function.update values key value old)) ++ back := by
  induction keys with
  | nil => exact absurd listed List.not_mem_nil
  | cons first keys ih =>
      obtain ⟨once, distinct⟩ := List.nodup_cons.mp distinct
      rw [List.map_cons, List.cons_append, replaceFirst, keyOf_entry]
      by_cases here : first = key
      · subst here
        rw [if_pos (beq_self_eq_true first), List.map_cons, List.cons_append,
          Function.update_self]
        congr 2
        apply List.map_congr_left
        intro later member
        rw [Function.update_of_ne]
        rintro rfl
        exact once member
      · have later : key ∈ keys := (List.mem_cons.mp listed).resolve_left (Ne.symm here)
        rw [if_neg (by simpa using here), ih distinct later, List.map_cons, List.cons_append,
          Function.update_of_ne here]

end Table

end Hcan.Library
