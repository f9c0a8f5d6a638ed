import Hcan.Eds.Chain

/-!
# Formatting

`eds_format` writes the two magic bytes and then one header after the other.
The headers are the multiples of 130 behind the start, the last one shorter.
`reachesEnd_headersLog` says what any prefix of the header writes has done to
the area: it is a chain exactly when the old content is one from the first
header on that is not written completely.
-/

namespace Hcan.Eds

open Hcan.Canix Hcan.Library

variable {mcu : Mcu} {content : Nat → UInt8}

/-- From `p` on the content is a chain that ends at the end of the area. -/
def ReachesEnd (mcu : Mcu) (content : Nat → UInt8) (p : Nat) : Prop :=
  ∃ path, Walk (edsNextBlock (Eeprom.powerUp content : Eeprom mcu)) p path (edsEnd mcu + 1) ∧
    ∀ q ∈ path, q < edsEnd mcu

theorem wellFormed_iff : WellFormed mcu content ↔ ReachesEnd mcu content edsDataStart := by
  constructor
  · rintro ⟨path, chain⟩
    exact ⟨path, chain.walk, chain.below⟩
  · rintro ⟨path, walk, below⟩
    exact ⟨path, walk, below⟩

theorem reachesEnd_end : ReachesEnd mcu content (edsEnd mcu + 1) :=
  ⟨[], .arrived _, fun _ member => nomatch member⟩

/-- A chain continues behind each of its blocks. -/
theorem reachesEnd_step {p : Nat} (below : p < edsEnd mcu) :
    ReachesEnd mcu content p ↔ ReachesEnd mcu content (blockStop content p) := by
  have next := edsNextBlock_eq (Eeprom.powerUp content : Eeprom mcu) below
  rw [Eeprom.powerUp_cell] at next
  constructor
  · rintro ⟨path, walk, inside⟩
    cases path with
    | nil =>
        have stop : p = edsEnd mcu + 1 := Walk.nil_iff.mp walk
        omega
    | cons q path =>
        obtain ⟨-, rest⟩ := Walk.cons_iff.mp walk
        rw [next] at rest
        exact ⟨path, rest, fun r member => inside r (List.mem_cons_of_mem _ member)⟩
  · rintro ⟨path, walk, inside⟩
    refine ⟨p :: path, .step (next ▸ walk), fun q member => ?_⟩
    rcases List.mem_cons.mp member with rfl | member
    · exact below
    · exact inside q member

/-- Only the bytes behind the first type byte decide whether a chain reaches the end. -/
theorem reachesEnd_congr {other : Nat → UInt8} {p : Nat}
    (agree : ∀ address, p < address → other address = content address) :
    ReachesEnd mcu other p ↔ ReachesEnd mcu content p := by
  have oneWay : ∀ first second : Nat → UInt8,
      (∀ address, p < address → second address = first address) →
      ReachesEnd mcu first p → ReachesEnd mcu second p := by
    rintro first second same ⟨path, walk, inside⟩
    have increasing : ∀ q ∈ path, q < edsNextBlock (Eeprom.powerUp first : Eeprom mcu) q := by
      intro q member
      rw [edsNextBlock_eq _ (inside q member)]
      exact (Nat.lt_succ_self q).trans (lt_blockStop first q)
    refine ⟨path, walk.congr fun q member => ?_, inside⟩
    have low := ((walk.bounds increasing).2 q member).1
    rw [edsNextBlock_eq _ (inside q member), edsNextBlock_eq _ (inside q member)]
    simp only [blockStop, Eeprom.powerUp_cell, same (q + 1) (by omega)]
  exact ⟨oneWay other content fun address above => (agree address above).symm,
    oneWay content other agree⟩

/-! ## The headers -/

/-- Start of the header number `j`; behind the last header it is the end. -/
def formatAt (mcu : Mcu) (j : Nat) : Nat := min (edsDataStart + 130 * j) (edsEnd mcu + 1)

def formatCount (mcu : Mcu) : Nat := (edsEnd mcu + 1 - edsDataStart + 129) / 130

def formatSize (mcu : Mcu) (j : Nat) : Nat := min 128 (edsEnd mcu - (formatAt mcu j + 1))

/-- The writes of `count` headers, from the header number `j` on. -/
def headersLog (mcu : Mcu) : Nat → Nat → List (Nat × UInt8)
  | _, 0 => []
  | j, count + 1 =>
      (formatAt mcu j, 0) :: (formatAt mcu j + 1, UInt8.ofNat (formatSize mcu j)) ::
        headersLog mcu (j + 1) count

/-- All writes of `eds_format`, in program order. -/
def formatLog (mcu : Mcu) : List (Nat × UInt8) :=
  (edsStart, edsMagic1) :: (edsStart + 1, edsMagic2) :: headersLog mcu 0 (formatCount mcu)

theorem edsEnd_cases (mcu : Mcu) : edsEnd mcu = 1023 ∨ edsEnd mcu = 2047 := mcu.edsDataEnd_cases

theorem formatAt_lt {j : Nat} (more : j < formatCount mcu) :
    formatAt mcu j < edsEnd mcu - 2 := by
  unfold formatCount at more
  unfold formatAt
  have start : edsDataStart = 34 := rfl
  rcases edsEnd_cases mcu with small | large <;> omega

theorem formatAt_succ {j : Nat} (more : j < formatCount mcu) :
    formatAt mcu (j + 1) = formatAt mcu j + 2 + formatSize mcu j := by
  unfold formatCount at more
  unfold formatSize formatAt
  have start : edsDataStart = 34 := rfl
  rcases edsEnd_cases mcu with small | large <;> omega

theorem formatAt_count (mcu : Mcu) : formatAt mcu (formatCount mcu) = edsEnd mcu + 1 := by
  unfold formatAt formatCount
  have start : edsDataStart = 34 := rfl
  rcases edsEnd_cases mcu with small | large <;> omega

theorem formatAt_zero (mcu : Mcu) : formatAt mcu 0 = edsDataStart := by
  unfold formatAt
  have start : edsDataStart = 34 := rfl
  rcases edsEnd_cases mcu with small | large <;> omega

theorem le_headersLog {j count : Nat} {write : Nat × UInt8}
    (member : write ∈ headersLog mcu j count) : formatAt mcu j ≤ write.1 := by
  have mono : formatAt mcu j ≤ formatAt mcu (j + 1) := by
    unfold formatAt
    omega
  induction count generalizing j with
  | zero => cases member
  | succ count ih =>
      rcases List.mem_cons.mp member with rfl | member
      · exact Nat.le_refl _
      rcases List.mem_cons.mp member with rfl | member
      · exact Nat.le_succ _
      · refine mono.trans (ih member ?_)
        unfold formatAt
        omega

theorem length_headersLog (mcu : Mcu) (j count : Nat) :
    (headersLog mcu j count).length = 2 * count := by
  induction count generalizing j with
  | zero => rfl
  | succ count ih =>
      rw [headersLog, List.length_cons, List.length_cons, ih]
      omega

/-- The loop of `eds_format` writes the headers that are still missing. -/
theorem edsFormatLoop_spec (ee : Eeprom mcu) {j count fuel : Nat}
    (all : j + count = formatCount mcu) (enough : count < fuel) :
    ∃ later, edsFormatLoop fuel (formatAt mcu j) ee = some later ∧
      ee.Wrote (headersLog mcu j count) later := by
  induction count generalizing j fuel ee with
  | zero =>
      obtain ⟨fuel, rfl⟩ := Nat.exists_eq_add_of_lt enough
      obtain rfl : j = formatCount mcu := all
      refine ⟨ee, ?_, .refl ee⟩
      rw [formatAt_count, Nat.zero_add, edsFormatLoop, if_neg (by omega)]
  | succ count ih =>
      obtain ⟨fuel, rfl⟩ : ∃ rest, fuel = rest + 1 := ⟨fuel - 1, by omega⟩
      have more : j < formatCount mcu := by omega
      have below := formatAt_lt more
      have limit := edsEnd_le mcu
      have small : formatSize mcu j ≤ 128 := Nat.min_le_left _ _
      have sizeAt : ptrAdd (formatAt mcu j) 1 = formatAt mcu j + 1 := ptrAdd_of_lt (by omega)
      have sizeIs : (if edsEnd mcu - (formatAt mcu j + 1) > 128 then 128
          else edsEnd mcu - (formatAt mcu j + 1)) = formatSize mcu j := by
        unfold formatSize
        split <;> omega
      have next : ptrAdd (ptrAdd (formatAt mcu j + 1) 1) (UInt8.ofNat (formatSize mcu j)).toNat =
          formatAt mcu (j + 1) := by
        have behind : ptrAdd (formatAt mcu j + 1) 1 = formatAt mcu j + 2 :=
          ptrAdd_of_lt (by omega)
        rw [UInt8.toNat_ofNat', Nat.mod_eq_of_lt (by omega), behind, ptrAdd_of_lt (by omega),
          formatAt_succ more]
      have typed := eepromWriteByte_wrote ee (p := formatAt mcu j) (by
        change _ ≤ edsEnd mcu
        omega) 0
      have sized := eepromWriteByte_wrote (eepromWriteByte ee (formatAt mcu j) 0)
        (p := formatAt mcu j + 1) (by
          change _ ≤ edsEnd mcu
          omega) (UInt8.ofNat (formatSize mcu j))
      have allThen : j + 1 + count = formatCount mcu := by omega
      have enoughThen : count < fuel := by omega
      obtain ⟨later, loop, wrote⟩ := ih (eepromWriteByte
        (eepromWriteByte ee (formatAt mcu j) 0) (formatAt mcu j + 1)
        (UInt8.ofNat (formatSize mcu j))) allThen enoughThen
      refine ⟨later, ?_, (typed.trans sized).trans wrote⟩
      rw [edsFormatLoop, if_pos below]
      simp only [sizeAt, sizeIs, next]
      exact loop

theorem edsFormat_spec (ee : Eeprom mcu) :
    ∃ later, edsFormat ee = some later ∧ ee.Wrote (formatLog mcu) later := by
  have limit := le_edsEnd mcu
  have first := eepromWriteByte_wrote ee (p := edsStart) (by
    change 32 ≤ edsEnd mcu
    omega) edsMagic1
  have second := eepromWriteByte_wrote (eepromWriteByte ee edsStart edsMagic1)
    (p := edsStart + 1) (by
      change 33 ≤ edsEnd mcu
      omega) edsMagic2
  have fuel : formatCount mcu < edsEnd mcu := by
    unfold formatCount
    have start : edsDataStart = 34 := rfl
    rcases edsEnd_cases mcu with small | large <;> omega
  have startsAt : ptrAdd (ptrAdd edsStart 1) 1 = formatAt mcu 0 := (formatAt_zero mcu).symm
  obtain ⟨later, loop, wrote⟩ := edsFormatLoop_spec (eepromWriteByte
    (eepromWriteByte ee edsStart edsMagic1) (edsStart + 1) edsMagic2) (Nat.zero_add _) fuel
  refine ⟨later, ?_, (first.trans second).trans wrote⟩
  rw [edsFormat, startsAt]
  exact loop

/-- After any prefix of the header writes the area is a chain from header `j` on
exactly when the content before was one from the first incomplete header on. -/
theorem reachesEnd_headersLog {j count : Nat} (all : j + count = formatCount mcu)
    (written : Nat) :
    ReachesEnd mcu (replay ((headersLog mcu j count).take written) content) (formatAt mcu j) ↔
      ReachesEnd mcu content (formatAt mcu (j + min (written / 2) count)) := by
  induction count generalizing j written content with
  | zero => simp only [headersLog, List.take_nil, replay_nil, Nat.min_zero, Nat.add_zero]
  | succ count ih =>
      have more : j < formatCount mcu := by omega
      have below := formatAt_lt more
      match written with
      | 0 => simp only [List.take_zero, replay_nil, Nat.zero_div, Nat.zero_min, Nat.add_zero]
      | 1 =>
          simp only [headersLog, List.take_succ_cons, List.take_zero, replay_cons, replay_nil,
            Nat.reduceDiv, Nat.zero_min, Nat.add_zero]
          exact reachesEnd_congr fun address above => Function.update_of_ne above.ne' _ _
      | written + 2 =>
          have small : formatSize mcu j ≤ 128 := Nat.min_le_left _ _
          have nextAt := formatAt_succ more
          rw [headersLog, List.take_succ_cons, List.take_succ_cons, replay_cons, replay_cons]
          generalize headed : Function.update (Function.update content (formatAt mcu j) 0)
            (formatAt mcu j + 1) (UInt8.ofNat (formatSize mcu j)) = header
          have sizeByte : replay ((headersLog mcu (j + 1) count).take written) header
              (formatAt mcu j + 1) = UInt8.ofNat (formatSize mcu j) := by
            rw [replay_other, ← headed, Function.update_self]
            intro write member same
            have low := le_headersLog (List.mem_of_mem_take member)
            omega
          have stop : blockStop (replay ((headersLog mcu (j + 1) count).take written) header)
              (formatAt mcu j) = formatAt mcu (j + 1) := by
            rw [blockStop, sizeByte, UInt8.toNat_ofNat', Nat.mod_eq_of_lt (by omega), nextAt]
          have position : j + min ((written + 2) / 2) (count + 1) =
              j + 1 + min (written / 2) count := by omega
          rw [reachesEnd_step (by omega), stop, ih (by omega), position]
          refine reachesEnd_congr fun address above => ?_
          have low : formatAt mcu (j + 1) ≤ formatAt mcu (j + 1 + min (written / 2) count) := by
            unfold formatAt
            omega
          rw [← headed, Function.update_of_ne (by omega), Function.update_of_ne (by omega)]

/-- A freshly formatted area is well formed. -/
theorem edsFormat_wellFormed {prior formated : Eeprom mcu}
    (format : edsFormat prior = some formated) : WellFormed mcu formated.cell := by
  obtain ⟨later, result, wrote⟩ := edsFormat_spec prior
  rw [format] at result
  cases result
  have whole : formatCount mcu ≤ 2 * formatCount mcu / 2 := by omega
  rw [wellFormed_iff, wrote.cell, formatLog, replay_cons, replay_cons, ← formatAt_zero mcu,
    ← List.take_of_length_le (length_headersLog mcu 0 (formatCount mcu)).le,
    reachesEnd_headersLog (Nat.zero_add _), Nat.min_eq_right whole, Nat.zero_add,
    formatAt_count]
  exact reachesEnd_end

/-- The headers are in place after their writes. -/
theorem headersLog_cells {j count i : Nat} (all : j + count ≤ formatCount mcu) (low : j ≤ i)
    (high : i < j + count) :
    replay (headersLog mcu j count) content (formatAt mcu i) = 0 ∧
      replay (headersLog mcu j count) content (formatAt mcu i + 1) =
        UInt8.ofNat (formatSize mcu i) := by
  induction count generalizing j content with
  | zero => omega
  | succ count ih =>
      rw [headersLog, replay_cons, replay_cons]
      by_cases same : i = j
      · subst same
        have more : i < formatCount mcu := by omega
        have nextAt := formatAt_succ more
        have later : ∀ write ∈ headersLog mcu (i + 1) count, formatAt mcu i + 2 ≤ write.1 :=
          fun write member => (by omega : _ ≤ formatAt mcu (i + 1)).trans (le_headersLog member)
        constructor
        · rw [replay_other fun write member => by have := later write member; omega,
            Function.update_of_ne (by omega), Function.update_self]
        · rw [replay_other fun write member => by have := later write member; omega,
            Function.update_self]
      · exact ih (by omega) (by omega) (by omega)

/-- A walk over the headers meets free blocks only. -/
theorem headers_free (headers : ∀ i < formatCount mcu, content (formatAt mcu i) = 0 ∧
      content (formatAt mcu i + 1) = UInt8.ofNat (formatSize mcu i))
    {j : Nat} {path : List Nat} (inside : j ≤ formatCount mcu)
    (walk : Walk (edsNextBlock (Eeprom.powerUp content : Eeprom mcu)) (formatAt mcu j) path
      (edsEnd mcu + 1))
    (below : ∀ q ∈ path, q < edsEnd mcu) : ∀ q ∈ path, content q = 0 := by
  induction path generalizing j with
  | nil => exact fun q member => absurd member List.not_mem_nil
  | cons q path ih =>
      obtain ⟨rfl, rest⟩ := Walk.cons_iff.mp walk
      have here := below _ List.mem_cons_self
      have more : j < formatCount mcu := by
        rcases Nat.lt_or_eq_of_le inside with more | rfl
        · exact more
        · rw [formatAt_count] at here
          omega
      obtain ⟨type, size⟩ := headers j more
      have small : formatSize mcu j ≤ 128 := Nat.min_le_left _ _
      have next : edsNextBlock (Eeprom.powerUp content : Eeprom mcu) (formatAt mcu j) =
          formatAt mcu (j + 1) := by
        rw [edsNextBlock_eq _ here, Eeprom.powerUp_cell, blockStop, size, UInt8.toNat_ofNat',
          Nat.mod_eq_of_lt (by omega), formatAt_succ more]
      rw [next] at rest
      intro r member
      rcases List.mem_cons.mp member with rfl | member
      · exact type
      · exact ih more rest (fun s inRest => below s (List.mem_cons_of_mem _ inRest)) r member

/-- All blocks of a freshly formatted area are free. -/
theorem edsFormat_free {prior formated : Eeprom mcu} (format : edsFormat prior = some formated)
    {path : List Nat} (chain : IsChain mcu formated.cell path) :
    ∀ q ∈ path, formated.cell q = 0 := by
  obtain ⟨later, result, wrote⟩ := edsFormat_spec prior
  rw [format] at result
  cases result
  have walk := chain.walk
  rw [← formatAt_zero mcu] at walk
  refine headers_free (fun i more => ?_) (Nat.zero_le _) walk chain.below
  rw [wrote.cell, formatLog, replay_cons, replay_cons]
  exact headersLog_cells (by omega) (Nat.zero_le i) (by omega)

/-- Formatting writes to no address before the magic bytes. -/
theorem edsFormat_identity {prior formated : Eeprom mcu}
    (format : edsFormat prior = some formated) :
    ∀ address < edsStart, formated.cell address = prior.cell address := by
  obtain ⟨later, result, wrote⟩ := edsFormat_spec prior
  rw [format] at result
  cases result
  intro address before
  rw [wrote.cell]
  refine replay_other fun write member => ?_
  have start : formatAt mcu 0 = edsStart + 2 := formatAt_zero mcu
  rcases List.mem_cons.mp member with rfl | member
  · exact before.ne'
  rcases List.mem_cons.mp member with rfl | member
  · exact (before.trans (Nat.lt_succ_self _)).ne'
  · have low := le_headersLog member
    omega

end Hcan.Eds
