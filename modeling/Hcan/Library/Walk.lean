import Mathlib.Data.List.Pairwise
import Mathlib.Order.Lattice

/-!
# Finite walks of a successor function

A walk starts at a point, follows a successor function and records every point
it leaves.  Splitting a walk, moving it to another successor function and
splicing a segment are the three edits.  When the successor function increases
along the walk, the recorded points are separated and the walk is determined
by its two ends.
-/

namespace Hcan.Library

/-- `Walk next first path last`: following `next` from `first` leaves exactly
the points of `path` and arrives at `last`. -/
inductive Walk {α : Type*} (next : α → α) : α → List α → α → Prop where
  | arrived (point : α) : Walk next point [] point
  | step {point last : α} {path : List α} (rest : Walk next (next point) path last) :
      Walk next point (point :: path) last

namespace Walk

variable {α : Type*} {next other : α → α}

@[simp]
theorem nil_iff {first last : α} : Walk next first [] last ↔ first = last := by
  constructor
  · intro walk
    cases walk
    rfl
  · rintro rfl
    exact .arrived first

@[simp]
theorem cons_iff {first point last : α} {path : List α} :
    Walk next first (point :: path) last ↔ point = first ∧ Walk next (next first) path last := by
  constructor
  · intro walk
    cases walk with
    | step rest => exact ⟨rfl, rest⟩
  · rintro ⟨rfl, rest⟩
    exact .step rest

/-- A walk over a concatenation is a walk to a middle point and one from it. -/
theorem append_iff {first last : α} {front back : List α} :
    Walk next first (front ++ back) last ↔
      ∃ middle, Walk next first front middle ∧ Walk next middle back last := by
  induction front generalizing first with
  | nil => simp
  | cons point front ih =>
      constructor
      · intro walk
        obtain ⟨same, rest⟩ := cons_iff.mp walk
        obtain ⟨middle, inFront, inBack⟩ := ih.mp rest
        exact ⟨middle, cons_iff.mpr ⟨same, inFront⟩, inBack⟩
      · rintro ⟨middle, inFront, inBack⟩
        obtain ⟨same, rest⟩ := cons_iff.mp inFront
        exact cons_iff.mpr ⟨same, ih.mpr ⟨middle, rest, inBack⟩⟩

/-- A recorded point splits the walk at itself. -/
theorem split {first point last : α} {front back : List α}
    (walk : Walk next first (front ++ point :: back) last) :
    Walk next first front point ∧ Walk next (next point) back last := by
  obtain ⟨middle, inFront, inBack⟩ := append_iff.mp walk
  obtain ⟨rfl, rest⟩ := cons_iff.mp inBack
  exact ⟨inFront, rest⟩

theorem join {first point last : α} {front back : List α}
    (inFront : Walk next first front point) (inBack : Walk next (next point) back last) :
    Walk next first (front ++ point :: back) last :=
  append_iff.mpr ⟨point, inFront, .step inBack⟩

/-- A walk depends on the successor function only at the points it leaves. -/
theorem congr {first last : α} {path : List α} (walk : Walk next first path last)
    (agree : ∀ point ∈ path, other point = next point) : Walk other first path last := by
  induction walk with
  | arrived point => exact .arrived point
  | @step point last path rest ih =>
      have here : other point = next point := agree point List.mem_cons_self
      refine .step ?_
      rw [here]
      exact ih fun later member => agree later (List.mem_cons_of_mem _ member)

/-- Replace a segment of a walk by another one with the same two ends; outside
the segment the two successor functions have to agree. -/
theorem splice {first start stop last : α} {front segment back : List α}
    (inFront : Walk next first front start) (between : Walk other start segment stop)
    (inBack : Walk next stop back last)
    (agreeFront : ∀ point ∈ front, other point = next point)
    (agreeBack : ∀ point ∈ back, other point = next point) :
    Walk other first (front ++ (segment ++ back)) last :=
  append_iff.mpr ⟨start, inFront.congr agreeFront,
    append_iff.mpr ⟨stop, between, inBack.congr agreeBack⟩⟩

section Increasing

variable [PartialOrder α]

/-- An increasing walk stays between its ends. -/
theorem bounds {first last : α} {path : List α} (walk : Walk next first path last)
    (increasing : ∀ point ∈ path, point < next point) :
    first ≤ last ∧ ∀ point ∈ path, first ≤ point ∧ next point ≤ last := by
  induction walk with
  | arrived point => exact ⟨le_rfl, fun _ member => nomatch member⟩
  | @step point last path rest ih =>
      have here : point < next point := increasing point List.mem_cons_self
      obtain ⟨order, inside⟩ :=
        ih fun later member => increasing later (List.mem_cons_of_mem _ member)
      refine ⟨here.le.trans order, ?_⟩
      intro later member
      rcases List.mem_cons.mp member with rfl | member
      · exact ⟨le_rfl, order⟩
      · exact ⟨here.le.trans (inside later member).1, (inside later member).2⟩

theorem le {first last : α} {path : List α} (walk : Walk next first path last)
    (increasing : ∀ point ∈ path, point < next point) : first ≤ last :=
  (walk.bounds increasing).1

/-- Two points of an increasing walk do not overlap: the later one starts at
the successor of the earlier one or after it. -/
theorem separated {first last : α} {path : List α} (walk : Walk next first path last)
    (increasing : ∀ point ∈ path, point < next point) :
    path.Pairwise fun left right => next left ≤ right := by
  induction walk with
  | arrived point => exact .nil
  | @step point last path rest ih =>
      have later : ∀ point ∈ path, point < next point :=
        fun later member => increasing later (List.mem_cons_of_mem _ member)
      exact .cons (fun right member => ((rest.bounds later).2 right member).1) (ih later)

theorem disjoint {first last left right : α} {path : List α} (walk : Walk next first path last)
    (increasing : ∀ point ∈ path, point < next point)
    (inLeft : left ∈ path) (inRight : right ∈ path) (different : left ≠ right) :
    next left ≤ right ∨ next right ≤ left := by
  have apart : path.Pairwise fun left right => next left ≤ right ∨ next right ≤ left :=
    (walk.separated increasing).imp Or.inl
  have : Std.Symm fun left right => next left ≤ right ∨ next right ≤ left :=
    ⟨fun _ _ order => order.symm⟩
  exact apart.forall inLeft inRight different

/-- Two increasing walks between the same two points record the same points. -/
theorem unique {first last : α} {path second : List α} (walk : Walk next first path last)
    (increasing : ∀ point ∈ path, point < next point) (again : Walk next first second last)
    (increasingAgain : ∀ point ∈ second, point < next point) : path = second := by
  induction walk generalizing second with
  | arrived point =>
      cases again with
      | arrived => rfl
      | step rest =>
          have here := increasingAgain point List.mem_cons_self
          have back := rest.le fun later member =>
            increasingAgain later (List.mem_cons_of_mem _ member)
          exact absurd (here.trans_le back) (lt_irrefl point)
  | @step point last path rest ih =>
      have later : ∀ point ∈ path, point < next point :=
        fun later member => increasing later (List.mem_cons_of_mem _ member)
      cases again with
      | arrived =>
          have here := increasing point List.mem_cons_self
          exact absurd (here.trans_le (rest.le later)) (lt_irrefl point)
      | step restAgain =>
          rw [ih later restAgain fun point member =>
            increasingAgain point (List.mem_cons_of_mem _ member)]

end Increasing

/-- An increasing walk leaves no gap: every point between its ends lies between
a recorded point and the successor of that point. -/
theorem covers [LinearOrder α] {first last x : α} {path : List α}
    (walk : Walk next first path last) (increasing : ∀ point ∈ path, point < next point)
    (low : first ≤ x) (high : x < last) : ∃ point ∈ path, point ≤ x ∧ x < next point := by
  induction walk with
  | arrived point => exact absurd high low.not_gt
  | @step point last path rest ih =>
      by_cases here : x < next point
      · exact ⟨point, List.mem_cons_self, low, here⟩
      · obtain ⟨later, member, between⟩ := ih
          (fun later member => increasing later (List.mem_cons_of_mem _ member))
          (le_of_not_gt here) high
        exact ⟨later, List.mem_cons_of_mem _ member, between⟩

end Walk

end Hcan.Library
