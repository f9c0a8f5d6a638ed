import Hcan.Eds.Requests

/-!
# Iteration over the blocks

Both `eds_find_next_block` functions test for the end before they step and read
the header behind the step.  Iterating them therefore visits one point more
than the chain has: the byte behind the area.
-/

namespace Hcan.Eds

open Hcan.Canix Hcan.Library

variable {mcu : Mcu} {path : List Nat} {wanted : UInt8 → Bool} {ee : Eeprom mcu}

/-- The search matches the type byte at `p`. -/
def Matches (wanted : UInt8 → Bool) (ee : Eeprom mcu) (p : Nat) : Bool :=
  wanted (edsBlockType ee p)

/-- What a search answers that meets the points of `points` in order. -/
def firstMatch (wanted : UInt8 → Bool) (ee : Eeprom mcu) (points : List Nat) : Nat :=
  (points.find? (Matches wanted ee)).getD 0

theorem firstMatch_cons_of_pos {p : Nat} {points : List Nat} (found : Matches wanted ee p = true) :
    firstMatch wanted ee (p :: points) = p := by
  rw [firstMatch, List.find?_cons_of_pos found, Option.getD_some]

theorem firstMatch_cons_of_neg {p : Nat} {points : List Nat} (other : ¬ Matches wanted ee p) :
    firstMatch wanted ee (p :: points) = firstMatch wanted ee points := by
  rw [firstMatch, firstMatch, List.find?_cons_of_neg other]

theorem edsFindLoop_spec (wanted : UInt8 → Bool) (ee : Eeprom mcu) {p fuel : Nat} {back : List Nat}
    (walk : Walk (edsNextBlock ee) p (p :: back) (edsEnd mcu + 1))
    (below : ∀ q ∈ p :: back, q < edsEnd mcu) (enough : back.length + 1 < fuel) :
    ∃ headers, edsFindLoop wanted ee fuel p =
        some (firstMatch wanted ee (back ++ [edsEnd mcu + 1]), headers) ∧
      ((∀ q ∈ back, ¬ Matches wanted ee q) → edsEnd mcu + 1 ∈ headers) := by
  induction back generalizing p fuel with
  | nil =>
      obtain ⟨fuel, rfl⟩ : ∃ rest, fuel = rest + 2 := ⟨fuel - 2, by omega⟩
      have next : edsNextBlock ee p = edsEnd mcu + 1 :=
        Walk.nil_iff.mp (Walk.cons_iff.mp walk).2
      rw [edsFindLoop, if_pos (below p List.mem_cons_self), List.nil_append]
      simp only [next]
      by_cases found : wanted (edsBlockType ee (edsEnd mcu + 1)) = true
      · rw [if_pos found, firstMatch_cons_of_pos found]
        exact ⟨_, rfl, fun _ => by simp⟩
      · rw [if_neg found, firstMatch_cons_of_neg found, edsFindLoop, if_neg (by omega)]
        exact ⟨_, rfl, fun _ => by simp⟩
  | cons q back ih =>
      obtain ⟨fuel, rfl⟩ : ∃ rest, fuel = rest + 1 := ⟨fuel - 1, by omega⟩
      obtain ⟨-, rest⟩ := Walk.cons_iff.mp walk
      have next : edsNextBlock ee p = q := (Walk.cons_iff.mp rest).1.symm
      rw [next] at rest
      rw [edsFindLoop, if_pos (below p List.mem_cons_self), List.cons_append]
      simp only [next]
      by_cases found : wanted (edsBlockType ee q) = true
      · rw [if_pos found, firstMatch_cons_of_pos found]
        exact ⟨_, rfl, fun none_ => absurd found (none_ q List.mem_cons_self)⟩
      · obtain ⟨headers, result, reads⟩ := ih rest
          (fun r member => below r (List.mem_cons_of_mem _ member))
          (show back.length + 1 < fuel by simp only [List.length_cons] at enough; omega)
        rw [if_neg found, firstMatch_cons_of_neg found, result]
        refine ⟨_, rfl, fun none_ => ?_⟩
        have inRest := reads fun r member => none_ r (List.mem_cons_of_mem _ member)
        exact List.mem_cons_of_mem _ (List.mem_cons_of_mem _ inRest)

section Chain

variable (chain : IsChain mcu ee.cell path)

include chain

/-- From a block of the chain the search goes on behind it. -/
theorem edsFind_block (wanted : UInt8 → Bool) {front back : List Nat} {q : Nat}
    (parts : path = front ++ q :: back) :
    ∃ headers, edsFind wanted ee q =
        some (firstMatch wanted ee (back ++ [edsEnd mcu + 1]), headers) ∧
      ((∀ r ∈ back, ¬ Matches wanted ee r) → edsEnd mcu + 1 ∈ headers) := by
  subst parts
  have low := chain.dataStart_le (p := q) (by simp)
  have start : edsDataStart = 34 := rfl
  have bound := chain.length_add_le
  simp only [List.length_append, List.length_cons] at bound
  rw [edsFind, if_neg (by omega)]
  exact edsFindLoop_spec wanted ee (.step chain.walk.split.2)
    (fun r member => chain.below r (List.mem_append_right _ member)) (by omega)

/-- From 0 the search starts with the first block. -/
theorem edsFind_zero (wanted : UInt8 → Bool) :
    ∃ headers, edsFind wanted ee 0 =
        some (firstMatch wanted ee (path ++ [edsEnd mcu + 1]), headers) ∧
      ((∀ r ∈ path, ¬ Matches wanted ee r) → edsEnd mcu + 1 ∈ headers) := by
  have bound := chain.length_add_le
  have start : edsDataStart = 34 := rfl
  cases path with
  | nil =>
      have stop : edsDataStart = edsEnd mcu + 1 := Walk.nil_iff.mp chain.walk
      omega
  | cons p back =>
      have first : p = edsDataStart := (Walk.cons_iff.mp chain.walk).1
      subst first
      rw [edsFind, if_pos rfl, List.cons_append]
      by_cases found : wanted (edsBlockType ee edsDataStart) = true
      · rw [if_pos found, firstMatch_cons_of_pos found]
        exact ⟨_, rfl, fun none_ => absurd found (none_ _ List.mem_cons_self)⟩
      · simp only [List.length_cons] at bound
        obtain ⟨headers, result, reads⟩ := edsFindLoop_spec wanted ee chain.walk chain.below
          (show back.length + 1 < edsEnd mcu by omega)
        rw [if_neg found, firstMatch_cons_of_neg found, result]
        refine ⟨_, rfl, fun none_ => List.mem_cons_of_mem _ ?_⟩
        exact reads fun r member => none_ r (List.mem_cons_of_mem _ member)

end Chain

/-- Behind the area the search ends at once. -/
theorem edsFind_end : edsFind wanted ee (edsEnd mcu + 1) = some (0, []) := by
  obtain ⟨fuel, limit⟩ : ∃ fuel, edsEnd mcu = fuel + 1 :=
    ⟨edsEnd mcu - 1, by have := le_edsEnd mcu; omega⟩
  rw [edsFind, if_neg (Nat.succ_ne_zero _)]
  conv_lhs => arg 3; rw [limit]
  rw [edsFindLoop, if_neg (by omega)]

theorem edsIterateLoop_zero (find : Nat → Option (Nat × List Nat)) {fuel : Nat}
    (some_ : 0 < fuel) : edsIterateLoop find fuel 0 = some ([], []) := by
  obtain ⟨fuel, rfl⟩ := Nat.exists_eq_add_of_lt some_
  rw [Nat.zero_add, edsIterateLoop, if_pos rfl]

/-- The loop hands out the matching points of the rest of the chain and the
point behind the chain when that one matches. -/
theorem edsIterateLoop_spec (wanted : UInt8 → Bool) (chain : IsChain mcu ee.cell path)
    {front rest : List Nat} {fuel : Nat}
    (parts : path = front ++ rest) (enough : rest.length + 1 < fuel) :
    ∃ headers, edsIterateLoop (edsFind wanted ee) fuel
        (firstMatch wanted ee (rest ++ [edsEnd mcu + 1])) =
          some ((rest ++ [edsEnd mcu + 1]).filter (Matches wanted ee), headers) ∧
      ((∃ r ∈ rest, Matches wanted ee r) → edsEnd mcu + 1 ∈ headers) := by
  induction rest generalizing front fuel with
  | nil =>
      refine ⟨[], ?_, fun ⟨_, member, _⟩ => nomatch member⟩
      rw [List.nil_append]
      by_cases found : Matches wanted ee (edsEnd mcu + 1) = true
      · obtain ⟨fuel, rfl⟩ : ∃ rest, fuel = rest + 1 := ⟨fuel - 1, by omega⟩
        rw [firstMatch_cons_of_pos found, List.filter_cons_of_pos found, edsIterateLoop,
          if_neg (Nat.succ_ne_zero _), edsFind_end]
        simp only [List.length_nil] at enough
        have stops := edsIterateLoop_zero (edsFind wanted ee) (show 0 < fuel by omega)
        change (do
          let later ← edsIterateLoop (edsFind wanted ee) fuel 0
          some ((edsEnd mcu + 1) :: later.1, [] ++ later.2)) = _
        rw [stops]
        rfl
      · rw [firstMatch_cons_of_neg found, List.filter_cons_of_neg found]
        exact edsIterateLoop_zero _ (by omega)
  | cons q rest ih =>
      have parts' : path = (front ++ [q]) ++ rest := by rw [parts, List.append_assoc]; rfl
      simp only [List.length_cons] at enough
      rw [List.cons_append]
      by_cases found : Matches wanted ee q = true
      · obtain ⟨fuel, rfl⟩ : ∃ rest, fuel = rest + 1 := ⟨fuel - 1, by omega⟩
        obtain ⟨headers, result, reads⟩ := edsFind_block chain wanted parts
        obtain ⟨laterHeaders, later, laterReads⟩ := ih parts' (show rest.length + 1 < fuel by omega)
        have low := chain.dataStart_le (p := q) (by rw [parts]; simp)
        have start : edsDataStart = 34 := rfl
        rw [firstMatch_cons_of_pos found, List.filter_cons_of_pos found, edsIterateLoop,
          if_neg (by omega), result]
        change ∃ all, (do
          let later ← edsIterateLoop (edsFind wanted ee) fuel
            (firstMatch wanted ee (rest ++ [edsEnd mcu + 1]))
          some (q :: later.1, headers ++ later.2)) = _ ∧ _
        rw [later]
        refine ⟨_, rfl, fun _ => ?_⟩
        by_cases more : ∃ r ∈ rest, Matches wanted ee r = true
        · exact List.mem_append_right _ (laterReads more)
        · exact List.mem_append_left _ (reads fun r member isMatch => more ⟨r, member, isMatch⟩)
      · obtain ⟨headers, result, reads⟩ := ih parts' (show rest.length + 1 < fuel by omega)
        rw [firstMatch_cons_of_neg found, List.filter_cons_of_neg found]
        refine ⟨headers, result, ?_⟩
        rintro ⟨r, member, isMatch⟩
        rcases List.mem_cons.mp member with rfl | member
        · exact absurd isMatch found
        · exact reads ⟨r, member, isMatch⟩

/-- An iteration ends.  It hands out the matching points of the chain and of the
point behind it, whose header it always reads. -/
theorem edsIterate_spec (wanted : UInt8 → Bool) (chain : IsChain mcu ee.cell path) :
    ∃ headers, edsIterate mcu (edsFind wanted ee) =
        some ((path ++ [edsEnd mcu + 1]).filter (Matches wanted ee), headers) ∧
      edsEnd mcu + 1 ∈ headers := by
  have bound := chain.length_add_le
  have start : edsDataStart = 34 := rfl
  obtain ⟨headers, first, reads⟩ := edsFind_zero chain wanted
  obtain ⟨laterHeaders, later, laterReads⟩ := edsIterateLoop_spec wanted chain
    (List.nil_append path).symm (show path.length + 1 < edsEnd mcu by omega)
  refine ⟨headers ++ laterHeaders, ?_, ?_⟩
  · rw [edsIterate, first]
    change (do
      let later ← edsIterateLoop (edsFind wanted ee) (edsEnd mcu)
        (firstMatch wanted ee (path ++ [edsEnd mcu + 1]))
      some (later.1, headers ++ later.2)) = _
    rw [later]
    rfl
  · by_cases more : ∃ r ∈ path, Matches wanted ee r = true
    · exact List.mem_append_right _ (laterReads more)
    · exact List.mem_append_left _ (reads fun r member isMatch => more ⟨r, member, isMatch⟩)

/-! ## Exactness -/

/-- The wanted exactness of an iteration with its pointers and header reads. -/
structure IteratesExactly (ee : Eeprom mcu) (path : List Nat) (wanted : UInt8 → Bool)
    (result : List Nat × List Nat) : Prop where
  pointers : result.1 = path.filter fun p => wanted (ee.cell p)
  below : ∀ p ∈ result.1, p < edsEnd mcu
  headers : ∀ p ∈ result.2, p < edsEnd mcu + 1

/-- Every iteration reads the header behind the area; its pointers are the
matching blocks exactly when the byte there does not match. -/
theorem edsIterate_exact_iff (chain : IsChain mcu ee.cell path) (wanted : UInt8 → Bool) :
    ∃ result, edsIterate mcu (edsFind wanted ee) = some result ∧
      ¬ IteratesExactly ee path wanted result ∧
      ((result.1 = path.filter (fun p => wanted (ee.cell p)) ∧ ∀ p ∈ result.1, p < edsEnd mcu) ↔
        ¬ wanted (eepromReadByte ee (edsEnd mcu + 1))) := by
  obtain ⟨headers, result, behind⟩ := edsIterate_spec wanted chain
  have matching : path.filter (Matches wanted ee) = path.filter fun p => wanted (ee.cell p) :=
    List.filter_congr fun p member => by
      rw [Matches, edsBlockType_eq ee (chain.below p member).le]
  refine ⟨_, result, ?_, ?_⟩
  · intro exact_
    exact absurd (exact_.headers _ behind) (Nat.lt_irrefl _)
  · constructor
    · rintro ⟨-, below⟩ found
      have last : edsEnd mcu + 1 ∈ (path ++ [edsEnd mcu + 1]).filter (Matches wanted ee) :=
        List.mem_filter.mpr ⟨by simp, found⟩
      have short := below _ last
      omega
    · intro other
      have none_ : ¬ Matches wanted ee (edsEnd mcu + 1) = true := other
      rw [List.filter_append, List.filter_cons_of_neg none_, List.filter_nil, List.append_nil]
      exact ⟨matching, fun p member => chain.below p (List.mem_of_mem_filter member)⟩

/-- No iteration is exact, neither over a range of types nor with one type: the
end test misses the last step.  The pointers alone are exact when the byte behind
the area is no matching type. -/
theorem foreach_never_exact (ee : Eeprom mcu) (chain : IsChain mcu ee.cell path) :
    (∀ a b : UInt8, ∃ result, edsForeachBlockBetween ee a b = some result ∧
      ¬ IteratesExactly ee path (fun t => decide (t ≥ a) && decide (t ≤ b)) result ∧
      ((result.1 = path.filter (fun p => decide (ee.cell p ≥ a) && decide (ee.cell p ≤ b)) ∧
          ∀ p ∈ result.1, p < edsEnd mcu) ↔
        ¬ (a ≤ eepromReadByte ee (edsEnd mcu + 1) ∧ eepromReadByte ee (edsEnd mcu + 1) ≤ b))) ∧
    (∀ type : UInt8, ∃ result, edsForeachBlock ee type = some result ∧
      ¬ IteratesExactly ee path (fun t => t == type) result ∧
      ((result.1 = path.filter (fun p => ee.cell p == type) ∧
          ∀ p ∈ result.1, p < edsEnd mcu) ↔
        eepromReadByte ee (edsEnd mcu + 1) ≠ type)) := by
  constructor
  · intro a b
    obtain ⟨result, iterated, inexact, pointers⟩ :=
      edsIterate_exact_iff chain fun t => decide (t ≥ a) && decide (t ≤ b)
    refine ⟨result, iterated, inexact, pointers.trans ?_⟩
    rw [Bool.and_eq_true, decide_eq_true_iff, decide_eq_true_iff]
  · intro type
    obtain ⟨result, iterated, inexact, pointers⟩ := edsIterate_exact_iff chain fun t => t == type
    refine ⟨result, iterated, inexact, pointers.trans ?_⟩
    rw [beq_iff_eq]

/-- On the full area the iteration of `devices_load_config` meets a fifth block
at the address behind the EEPROM, which is decoded as address 0. -/
theorem fullArea_iterates_behind :
    IsChain atmega32 fullArea [34, 291, 548, 805] ∧
      ∃ headers, edsForeachBlockBetween (.powerUp fullArea : Eeprom atmega32) 1 255 =
          some ([34, 291, 548, 805, 1024], headers) ∧
        ¬ IteratesExactly (.powerUp fullArea : Eeprom atmega32) [34, 291, 548, 805]
          (fun t => decide (t ≥ 1) && decide (t ≤ 255)) ([34, 291, 548, 805, 1024], headers) := by
  refine ⟨fullArea_isChain, [34, 34, 291, 291, 548, 548, 805, 805, 1024], ?_, ?_⟩
  · decide +kernel
  · intro exact_
    exact absurd (exact_.below 1024 (by decide)) (by decide)

theorem foreach_never_exact_fullArea :
    ∃ result, edsForeachBlock (.powerUp fullArea : Eeprom atmega32) 12 = some result ∧
      ¬ IteratesExactly (.powerUp fullArea : Eeprom atmega32) [34, 291, 548, 805]
        (fun t => t == 12) result := by
  obtain ⟨result, iterated, inexact, -⟩ :=
    (foreach_never_exact (.powerUp fullArea : Eeprom atmega32) fullArea_isChain).2 12
  exact ⟨result, iterated, inexact⟩

end Hcan.Eds
