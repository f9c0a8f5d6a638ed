import Mathlib.Data.List.Chain
import Mathlib.Data.List.Perm.Basic
import Mathlib.Data.List.Perm.Lattice
import Mathlib.Data.List.Nodup

/-!
# The search through a set of bit strings

The strings of a set are listed from the greatest one down: those with a first bit 1, then those
with a first bit 0.  A pass of the search goes down the tree of their prefixes.  It needs the string
of the pass before and the position of its last turn, where it has left out a branch 0, to find the
next string of the list.
-/

namespace Hcan.Library

/-- The rests of the strings with this first bit. -/
def branch (bit : Bool) (strings : List (List Bool)) : List (List Bool) :=
  (strings.filter fun string => string.head? = some bit).map List.tail

/-- The strings of a length, from the greatest one down. -/
def descending : ℕ → List (List Bool) → List (List Bool)
  | 0, strings => if strings = [] then [] else [[]]
  | n + 1, strings =>
      (descending n (branch true strings)).map (true :: ·) ++
        (descending n (branch false strings)).map (false :: ·)

/-- The last turn of a string, counted from its end: it has a bit 1 where another string with the
same prefix has a bit 0. -/
def turn : List Bool → List (List Bool) → Option ℕ
  | [], _ => none
  | bit :: rest, strings =>
      (turn rest (branch bit strings)).or
        (if bit = true ∧ branch false strings ≠ [] then some (rest.length + 1) else none)

/-- A bit of a pass.  Before the turn `diff` it is kept, there the pass goes the other way, and
behind it to the greater strings; `last` is the last turn of the pass. -/
def passBit (diff i last : ℕ) (old : Bool) (strings : List (List Bool)) : Bool × ℕ :=
  if branch true strings = [] then (false, last)
  else if branch false strings = [] then (true, last)
  else if diff > i ∨ (old = true ∧ diff ≠ i) then (true, i)
  else (false, last)

/-- A pass of the search behind the string of the pass before. -/
def searchPass (diff : ℕ) : ℕ → ℕ → List Bool → List (List Bool) → List Bool × ℕ
  | _, last, [], _ => ([], last)
  | i, last, old :: rest, strings =>
      let (bit, last) := passBit diff i last old strings
      let (bits, turned) := searchPass diff (i - 1) last rest (branch bit strings)
      (bit :: bits, turned)

/-- A set of strings of the same length. -/
def OfLength (n : ℕ) (strings : List (List Bool)) : Prop := ∀ string ∈ strings, string.length = n

section Branches

variable {bit : Bool} {string rest : List Bool} {strings : List (List Bool)} {n : ℕ}

theorem mem_branch : rest ∈ branch bit strings ↔ bit :: rest ∈ strings := by
  unfold branch
  rw [List.mem_map]
  constructor
  · rintro ⟨string, member, rfl⟩
    obtain ⟨inside, first⟩ := List.mem_filter.mp member
    rwa [List.cons_head?_tail (of_decide_eq_true first)]
  · exact fun member => ⟨bit :: rest, List.mem_filter.mpr ⟨member, decide_eq_true rfl⟩, rfl⟩

theorem branch_cons (first : Bool) : branch bit ((first :: rest) :: strings) =
    if bit = first then rest :: branch bit strings else branch bit strings := by
  unfold branch
  by_cases same : bit = first
  · have own : decide ((first :: rest).head? = some bit) = true :=
      decide_eq_true (congrArg some same.symm)
    rw [if_pos same, List.filter_cons, if_pos own, List.map_cons, List.tail_cons]
  · have other : ¬ (decide ((first :: rest).head? = some bit)) = true := fun here =>
      same (Option.some.inj (of_decide_eq_true here)).symm
    rw [if_neg same, List.filter_cons, if_neg other]

theorem ofLength_branch (long : OfLength (n + 1) strings) : OfLength n (branch bit strings) :=
  fun _ member => Nat.succ.inj (long _ (mem_branch.mp member))

/-- A set of longer strings has a branch. -/
theorem branch_ne_nil (long : OfLength (n + 1) strings) (some_ : strings ≠ []) :
    branch true strings ≠ [] ∨ branch false strings ≠ [] := by
  obtain ⟨string, member⟩ := List.exists_mem_of_ne_nil strings some_
  match string, long string member with
  | true :: rest, _ => exact .inl (List.ne_nil_of_mem (mem_branch.mpr member))
  | false :: rest, _ => exact .inr (List.ne_nil_of_mem (mem_branch.mpr member))

theorem descending_nil (n : ℕ) : descending n [] = [] := by
  induction n with
  | zero => rfl
  | succ n ih =>
      change (descending n []).map _ ++ (descending n []).map _ = []
      rw [ih]
      rfl

theorem mem_descending (long : OfLength n strings) :
    string ∈ descending n strings ↔ string ∈ strings := by
  induction n generalizing string strings with
  | zero =>
      unfold descending
      split
      next none => rw [none]
      next some_ =>
        obtain ⟨member, inside⟩ := List.exists_mem_of_ne_nil strings some_
        have empty := List.length_eq_zero_iff.mp (long member inside)
        rw [List.mem_singleton]
        constructor
        · rintro rfl
          exact empty ▸ inside
        · exact fun here => List.length_eq_zero_iff.mp (long string here)
  | succ n ih =>
      unfold descending
      simp only [List.mem_append, List.mem_map, ih (ofLength_branch long), mem_branch]
      constructor
      · rintro (⟨rest, member, rfl⟩ | ⟨rest, member, rfl⟩)
        · exact member
        · exact member
      · intro member
        match string, long string member with
        | true :: rest, _ => exact .inl ⟨rest, member, rfl⟩
        | false :: rest, _ => exact .inr ⟨rest, member, rfl⟩

theorem nodup_descending (n : ℕ) (strings : List (List Bool)) : (descending n strings).Nodup := by
  induction n generalizing strings with
  | zero =>
      unfold descending
      split
      · exact List.nodup_nil
      · exact List.nodup_singleton _
  | succ n ih =>
      refine List.nodup_append'.mpr ⟨(ih _).map (List.cons_injective ..), (ih _).map
        (List.cons_injective ..), fun string one zero => ?_⟩
      obtain ⟨_, -, rfl⟩ := List.mem_map.mp one
      obtain ⟨_, -, same⟩ := List.mem_map.mp zero
      cases same

/-- The list has each string of the set once. -/
theorem descending_perm (long : OfLength n strings) (once : strings.Nodup) :
    (descending n strings).Perm strings :=
  (List.perm_ext_iff_of_nodup (nodup_descending n strings) once).mpr fun _ => mem_descending long

theorem ne_nil_of_mem_branch (member : rest ∈ branch bit strings) : branch bit strings ≠ [] :=
  List.ne_nil_of_mem member

theorem descending_ne_nil (long : OfLength n strings) (some_ : strings ≠ []) :
    descending n strings ≠ [] := by
  obtain ⟨string, member⟩ := List.exists_mem_of_ne_nil strings some_
  exact List.ne_nil_of_mem ((mem_descending long).mpr member)

end Branches

/-! ## Passes -/

section Passes

variable {diff last n : ℕ} {bit : Bool} {x y old : List Bool} {strings : List (List Bool)}

theorem searchPass_cons (first : Bool) :
    searchPass diff (n + 1) last (first :: old) strings =
      ((passBit diff (n + 1) last first strings).1 ::
        (searchPass diff n (passBit diff (n + 1) last first strings).2 old
          (branch (passBit diff (n + 1) last first strings).1 strings)).1,
      (searchPass diff n (passBit diff (n + 1) last first strings).2 old
        (branch (passBit diff (n + 1) last first strings).1 strings)).2) := rfl

theorem turn_true (x : List Bool) : turn (true :: x) strings =
    (turn x (branch true strings)).or
      (if branch false strings ≠ [] then some (x.length + 1) else none) :=
  congrArg (Option.or _) (if_congr (and_iff_right rfl) rfl rfl)

theorem turn_false (x : List Bool) :
    turn (false :: x) strings = turn x (branch false strings) := by
  change (turn x (branch false strings)).or (if _ ∧ _ then _ else none) = _
  rw [if_neg fun both => Bool.false_ne_true both.1, Option.or_none]

/-- Behind its turn a pass finds the greatest string. -/
theorem searchPass_first (before : n < diff) (long : OfLength n strings) (length : old.length = n)
    (first : x ∈ (descending n strings).head?) :
    searchPass diff n last old strings = (x, (turn x strings).getD last) := by
  induction n generalizing old last x strings with
  | zero =>
      cases List.length_eq_zero_iff.mp length
      obtain rfl : x = [] :=
        List.length_eq_zero_iff.mp (long x ((mem_descending long).mp (List.mem_of_mem_head? first)))
      rfl
  | succ n ih =>
      obtain ⟨bit, rest, rfl⟩ := List.exists_cons_of_length_eq_add_one length
      have shorter := Nat.succ.inj length
      have member := (mem_descending long).mp (List.mem_of_mem_head? first)
      unfold descending at first
      rw [List.head?_append, List.head?_map, List.head?_map] at first
      rw [searchPass_cons]
      by_cases ones : branch true strings = []
      · rw [ones, descending_nil, List.head?_nil, Option.map_none, Option.none_or] at first
        obtain ⟨tail, least, rfl⟩ := Option.map_eq_some_iff.mp first
        have here : passBit diff (n + 1) last bit strings = (false, last) := if_pos ones
        rw [here, ih (by omega) (ofLength_branch long) shorter least, turn_false]
      · obtain ⟨tail, greatest⟩ := Option.isSome_iff_exists.mp
          (List.isSome_head?.mpr (descending_ne_nil (ofLength_branch long) ones))
        rw [greatest, Option.map_some, Option.some_or] at first
        obtain rfl := Option.some.inj first
        have size : tail.length = n := Nat.succ.inj (long _ member)
        by_cases zeros : branch false strings = []
        · have here : passBit diff (n + 1) last bit strings = (true, last) := by
            rw [passBit, if_neg ones, if_pos zeros]
          rw [here, ih (by omega) (ofLength_branch long) shorter greatest, turn_true,
            if_neg (not_not.mpr zeros), Option.or_none]
        · have here : passBit diff (n + 1) last bit strings = (true, n + 1) := by
            rw [passBit, if_neg ones, if_neg zeros, if_pos (.inl before)]
          rw [here, ih (by omega) (ofLength_branch long) shorter greatest, turn_true, if_pos zeros,
            size]
          cases turn tail (branch true strings) <;> rfl

/-- The last string of the list has no turn. -/
theorem turn_last (long : OfLength n strings) (least : x ∈ (descending n strings).getLast?) :
    turn x strings = none := by
  induction n generalizing x strings with
  | zero =>
      obtain rfl : x = [] := List.length_eq_zero_iff.mp
        (long x ((mem_descending long).mp (List.mem_of_mem_getLast? least)))
      rfl
  | succ n ih =>
      unfold descending at least
      rw [List.getLast?_append, List.getLast?_map, List.getLast?_map] at least
      by_cases zeros : branch false strings = []
      · rw [zeros, descending_nil, List.getLast?_nil, Option.map_none, Option.none_or] at least
        obtain ⟨tail, here, rfl⟩ := Option.map_eq_some_iff.mp least
        rw [turn_true, ih (ofLength_branch long) here, if_neg (not_not.mpr zeros), Option.or_none]
      · obtain ⟨tail, here⟩ := Option.isSome_iff_exists.mp
          (List.getLast?_isSome.mpr (descending_ne_nil (ofLength_branch long) zeros))
        rw [here, Option.map_some, Option.some_or] at least
        obtain rfl := Option.some.inj least
        rw [turn_false, ih (ofLength_branch long) here]

theorem turn_le (turned : turn x strings = some n) : n ≤ x.length := by
  induction x generalizing strings with
  | nil => cases turned
  | cons bit rest ih =>
      unfold turn at turned
      obtain deeper | ⟨-, here⟩ := Option.or_eq_some_iff.mp turned
      · exact Nat.le_succ_of_le (ih deeper)
      · split_ifs at here
        obtain rfl := Option.some.inj here
        exact Nat.le_refl _

/-- With its last turn a string leads to the next one. -/
def Leads (n : ℕ) (strings : List (List Bool)) (x y : List Bool) : Prop :=
  x ∈ strings ∧ y.length = n ∧ ∃ diff ≤ n, 0 < diff ∧ turn x strings = some diff ∧
    ∀ last, searchPass diff n last x strings = (y, (turn y strings).getD last)

theorem leads_true (leads : Leads n (branch true strings) x y) :
    Leads (n + 1) strings (true :: x) (true :: y) := by
  obtain ⟨member, size, diff, small, positive, turned, passes⟩ := leads
  refine ⟨mem_branch.mp member, congrArg (· + 1) size, diff, by omega, positive, ?_,
    fun last => ?_⟩
  · rw [turn_true, turned, Option.some_or]
  · have ones := ne_nil_of_mem_branch member
    rw [searchPass_cons, turn_true]
    by_cases zeros : branch false strings = []
    · have here : passBit diff (n + 1) last true strings = (true, last) := by
        rw [passBit, if_neg ones, if_pos zeros]
      rw [here, passes, if_neg (not_not.mpr zeros), Option.or_none]
    · have here : passBit diff (n + 1) last true strings = (true, n + 1) := by
        rw [passBit, if_neg ones, if_neg zeros, if_pos (.inr ⟨rfl, by omega⟩)]
      rw [here, passes, if_pos zeros, size]
      cases turn y (branch true strings) <;> rfl

theorem leads_false (leads : Leads n (branch false strings) x y) :
    Leads (n + 1) strings (false :: x) (false :: y) := by
  obtain ⟨member, size, diff, small, positive, turned, passes⟩ := leads
  refine ⟨mem_branch.mp member, congrArg (· + 1) size, diff, by omega, positive, ?_,
    fun last => ?_⟩
  · rw [turn_false, turned]
  · have zeros := ne_nil_of_mem_branch member
    have here : passBit diff (n + 1) last false strings = (false, last) := by
      unfold passBit
      split_ifs with ones up
      · rfl
      · exact absurd up (by rintro (high | ⟨one, -⟩); omega; cases one)
      · rfl
    rw [searchPass_cons, here, passes, turn_false]

/-- In the descending list each string leads to the next one. -/
theorem isChain_descending (long : OfLength n strings) :
    (descending n strings).IsChain (Leads n strings) := by
  induction n generalizing strings with
  | zero =>
      unfold descending
      split
      · exact List.IsChain.nil
      · exact List.isChain_singleton _
  | succ n ih =>
      refine List.isChain_append.mpr ⟨?_, ?_, fun x greater y less => ?_⟩
      · exact List.isChain_map_of_isChain (true :: ·) (fun _ _ => leads_true)
          (ih (ofLength_branch long))
      · exact List.isChain_map_of_isChain (false :: ·) (fun _ _ => leads_false)
          (ih (ofLength_branch long))
      · rw [List.getLast?_map] at greater
        rw [List.head?_map] at less
        obtain ⟨least, last, rfl⟩ := Option.map_eq_some_iff.mp greater
        obtain ⟨greatest, first, rfl⟩ := Option.map_eq_some_iff.mp less
        have one := (mem_descending (ofLength_branch long)).mp (List.mem_of_mem_getLast? last)
        have zero := (mem_descending (ofLength_branch long)).mp (List.mem_of_mem_head? first)
        have ones := ne_nil_of_mem_branch one
        have zeros := ne_nil_of_mem_branch zero
        have size : least.length = n := ofLength_branch long _ one
        refine ⟨mem_branch.mp one, long _ (mem_branch.mp zero), n + 1, Nat.le_refl _,
          Nat.succ_pos n, ?_, fun kept => ?_⟩
        · rw [turn_true, turn_last (ofLength_branch long) last, if_pos zeros, size, Option.none_or]
        · have here : passBit (n + 1) (n + 1) kept true strings = (false, kept) := by
            rw [passBit, if_neg ones, if_neg zeros, if_neg]
            rintro (high | ⟨-, other⟩)
            · exact Nat.lt_irrefl _ high
            · exact other rfl
          rw [searchPass_cons, here,
            searchPass_first (Nat.lt_succ_self n) (ofLength_branch long) size first,
            turn_false]

end Passes

end Hcan.Library
