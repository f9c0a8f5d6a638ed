import Hcan.Controller.Devices
import Hcan.Eds.Iteration

/-!
# The bounds of the device table

`devicesStores` lists what `devices_load_config` stores, in the order of the stores: the
pointers into `pdevice_data` and the records they point to.  A record takes all its
`data_size` bytes.  The only overflow test compares the number of pointers with a number of
bytes, so that the stores stay inside the two arrays exactly when the records of all device
blocks fit.
-/

namespace Hcan.Controller

open Hcan.Canix Hcan.Eds

variable {mcu : Mcu}

/-- `pdevice_data[index] = &device_data[offset]`, and a record of `size` bytes at `offset`. -/
inductive Store where
  | pointer (index offset : Nat)
  | record (offset size : Nat)
  deriving DecidableEq, Repr

/-- The stores of the loop body with its two counters. -/
def devicesStoreLoop (ee : Eeprom mcu) : List Nat → Nat → Nat → List Store
  | [], _, _ => []
  | it :: its, pdeviceDataAllocated, deviceDataAllocated =>
      match deviceSizes (edsBlockType ee it) with
      | none => devicesStoreLoop ee its pdeviceDataAllocated deviceDataAllocated
      | some (configSize, dataSize) =>
          -- `devices_init` and return
          if configSize ≠ edsBlockSize ee it then []
          else
            .pointer pdeviceDataAllocated deviceDataAllocated ::
              -- the pointer is already stored when the table is tested
              if maxDeviceData mcu < pdeviceDataAllocated + 1 then []
              else .record deviceDataAllocated dataSize.toNat ::
                devicesStoreLoop ee its (pdeviceDataAllocated + 1)
                  (deviceDataAllocated + dataSize.toNat)

/-- The stores of `devices_load_config`. -/
def devicesStores (ee : Eeprom mcu) : Option (List Store) := do
  let found ← edsForeachBlockBetween ee 1 255
  some (devicesStoreLoop ee found.1 0 0)

def recordOf : Store → Option (Nat × Nat)
  | .pointer _ _ => none
  | .record offset size => some (offset, size)

/-- Every store lies inside its array and the records are apart. -/
structure StaysInside (mcu : Mcu) (stores : List Store) : Prop where
  pointers : ∀ index offset, .pointer index offset ∈ stores → index < maxPdeviceData mcu
  records : ∀ offset size, .record offset size ∈ stores → offset + size ≤ maxDeviceData mcu
  apart : (stores.filterMap recordOf).Pairwise fun left right => left.1 + left.2 ≤ right.1

theorem staysInside_nil (mcu : Mcu) : StaysInside mcu [] where
  pointers _ _ member := absurd member List.not_mem_nil
  records _ _ member := absurd member List.not_mem_nil
  apart := .nil

theorem StaysInside.tail {first : Store} {stores : List Store}
    (inside : StaysInside mcu (first :: stores)) : StaysInside mcu stores where
  pointers index offset member := inside.pointers index offset (List.mem_cons_of_mem _ member)
  records offset size member := inside.records offset size (List.mem_cons_of_mem _ member)
  apart := by
    have apart := inside.apart
    cases first with
    | pointer index offset => exact apart
    | record offset size => exact (List.pairwise_cons.mp apart).2

/-- A pointer and its record before the other stores. -/
theorem staysInside_cons {index offset size : Nat} {stores : List Store}
    (behind : ∀ later bytes, .record later bytes ∈ stores → offset + size ≤ later) :
    StaysInside mcu (.pointer index offset :: .record offset size :: stores) ↔
      index < maxPdeviceData mcu ∧ offset + size ≤ maxDeviceData mcu ∧ StaysInside mcu stores := by
  constructor
  · intro inside
    have pointer := inside.pointers index offset List.mem_cons_self
    have record := inside.records offset size (List.mem_cons_of_mem _ List.mem_cons_self)
    exact ⟨pointer, record, inside.tail.tail⟩
  · rintro ⟨pointer, record, inside⟩
    constructor
    · intro i o member
      rcases List.mem_cons.mp member with same | member
      · cases same
        exact pointer
      · rcases List.mem_cons.mp member with same | later
        · cases same
        · exact inside.pointers i o later
    · intro o s member
      rcases List.mem_cons.mp member with same | member
      · cases same
      · rcases List.mem_cons.mp member with same | later
        · cases same
          exact record
        · exact inside.records o s later
    · apply List.pairwise_cons.mpr
      constructor
      · intro region member
        obtain ⟨store, stored, isRecord⟩ := List.mem_filterMap.mp member
        cases store with
        | pointer _ _ => cases isRecord
        | record later bytes =>
            cases isRecord
            exact behind later bytes stored
      · exact inside.apart

/-- `data_size` of a block that the load takes over. -/
def recordSize (ee : Eeprom mcu) (it : Nat) : Option Nat :=
  match deviceSizes (edsBlockType ee it) with
  | none => none
  | some (configSize, dataSize) =>
      if configSize = edsBlockSize ee it then some dataSize.toNat else none

/-- A block of a known type has the size of its configuration struct. -/
def MatchingSize (ee : Eeprom mcu) (it : Nat) : Prop :=
  ∀ sizes, deviceSizes (edsBlockType ee it) = some sizes → sizes.1 = edsBlockSize ee it

/-- Later records lie behind the bytes that are already taken. -/
theorem devicesStoreLoop_behind (ee : Eeprom mcu) {its : List Nat} {count allocated : Nat}
    {later bytes : Nat} (member : .record later bytes ∈ devicesStoreLoop ee its count allocated) :
    allocated ≤ later := by
  induction its generalizing count allocated with
  | nil => exact absurd member List.not_mem_nil
  | cons it its ih =>
      rw [devicesStoreLoop] at member
      split at member
      · exact ih member
      · split at member
        · exact absurd member List.not_mem_nil
        · rcases List.mem_cons.mp member with same | member
          · cases same
          · split at member
            · exact absurd member List.not_mem_nil
            · rcases List.mem_cons.mp member with same | member
              · cases same
                exact Nat.le_refl _
              · exact (Nat.le_add_right _ _).trans (ih member)

theorem maxPdeviceData_le (mcu : Mcu) : maxPdeviceData mcu ≤ maxDeviceData mcu := by
  unfold maxPdeviceData maxDeviceData
  split <;> decide

/-- A known block of the matching size takes a place and its bytes. -/
theorem staysInside_block {ee : Eeprom mcu} {it : Nat} {its : List Nat} {count allocated : Nat}
    {sizes : UInt8 × UInt8} (known : deviceSizes (edsBlockType ee it) = some sizes)
    (same : sizes.1 = edsBlockSize ee it) :
    StaysInside mcu (devicesStoreLoop ee (it :: its) count allocated) ↔
      count < maxPdeviceData mcu ∧ allocated + sizes.2.toNat ≤ maxDeviceData mcu ∧
        StaysInside mcu (devicesStoreLoop ee its (count + 1) (allocated + sizes.2.toNat)) := by
  rw [devicesStoreLoop, known]
  dsimp only
  rw [if_neg (not_not.mpr same)]
  by_cases below : count < maxPdeviceData mcu
  · have limit := maxPdeviceData_le mcu
    rw [if_neg (by omega),
      staysInside_cons fun later bytes member => devicesStoreLoop_behind ee member]
  · -- the table is full: the pointer goes behind it, whatever the overflow test says
    refine iff_of_false (fun inside => ?_) fun inside => below inside.1
    exact below (inside.pointers count allocated List.mem_cons_self)

/-- The loop over blocks of matching sizes, from counters that are still inside. -/
theorem devicesStoreLoop_inside_iff {ee : Eeprom mcu} {its : List Nat} {count allocated : Nat}
    (matching : ∀ it ∈ its, MatchingSize ee it) (few : count ≤ maxPdeviceData mcu)
    (room : allocated ≤ maxDeviceData mcu) :
    StaysInside mcu (devicesStoreLoop ee its count allocated) ↔
      count + (its.filterMap (recordSize ee)).length ≤ maxPdeviceData mcu ∧
        allocated + (its.filterMap (recordSize ee)).sum ≤ maxDeviceData mcu := by
  induction its generalizing count allocated with
  | nil => exact ⟨fun _ => ⟨few, room⟩, fun _ => staysInside_nil mcu⟩
  | cons it its ih =>
      have rest : ∀ later ∈ its, MatchingSize ee later :=
        fun later member => matching later (List.mem_cons_of_mem _ member)
      cases known : deviceSizes (edsBlockType ee it) with
      | none =>
          have skipped : recordSize ee it = none := by rw [recordSize, known]
          rw [List.filterMap_cons_none skipped, devicesStoreLoop, known]
          exact ih rest few room
      | some sizes =>
          have same := matching it List.mem_cons_self sizes known
          have taken : recordSize ee it = some sizes.2.toNat := by
            rw [recordSize, known]
            exact if_pos same
          rw [List.filterMap_cons_some taken, List.length_cons, List.sum_cons,
            staysInside_block known same]
          constructor
          · rintro ⟨below, fits, inside⟩
            have bounds := (ih rest below fits).mp inside
            omega
          · rintro ⟨places, bytes⟩
            have below : count < maxPdeviceData mcu := by omega
            have fits : allocated + sizes.2.toNat ≤ maxDeviceData mcu := by omega
            exact ⟨below, fits, (ih rest below fits).mpr (by omega)⟩

/-- An incompatible block ends the loop. -/
theorem devicesStoreLoop_append {ee : Eeprom mcu} {its : List Nat} {last : Nat}
    {sizes : UInt8 × UInt8} (known : deviceSizes (edsBlockType ee last) = some sizes)
    (other : sizes.1 ≠ edsBlockSize ee last) (count allocated : Nat) :
    devicesStoreLoop ee (its ++ [last]) count allocated =
      devicesStoreLoop ee its count allocated := by
  induction its generalizing count allocated with
  | nil =>
      simp only [List.nil_append, devicesStoreLoop, known]
      exact if_pos other
  | cons it its ih =>
      rw [List.cons_append, devicesStoreLoop, devicesStoreLoop]
      split
      · exact ih count allocated
      · rw [ih]

/-- `devicesLoadLoop` builds a table exactly when all stores stay inside. -/
theorem devicesLoadLoop_isSome_iff (ee : Eeprom mcu) (ramUsage : Nat) {its : List Nat}
    {devices : List Device} {allocated : Nat} :
    (devicesLoadLoop ee ramUsage its devices allocated).isSome = true ↔
      StaysInside mcu (devicesStoreLoop ee its devices.length allocated) := by
  induction its generalizing devices allocated with
  | nil => exact ⟨fun _ => staysInside_nil mcu, fun _ => rfl⟩
  | cons it its ih =>
      rw [devicesLoadLoop]
      cases known : deviceSizes (edsBlockType ee it) with
      | none =>
          rw [devicesStoreLoop, known]
          exact ih
      | some sizes =>
          dsimp only
          by_cases other : sizes.1 ≠ edsBlockSize ee it
          · rw [if_pos other, devicesStoreLoop, known]
            dsimp only
            rw [if_pos other]
            exact ⟨fun _ => staysInside_nil mcu, fun _ => rfl⟩
          rw [if_neg other, staysInside_block known (not_not.mp other)]
          have limit := maxPdeviceData_le mcu
          by_cases full : maxPdeviceData mcu ≤ devices.length
          · rw [if_pos full]
            exact iff_of_false Bool.false_ne_true fun inside => absurd inside.1 (Nat.not_lt.mpr full)
          have space : ¬ maxDeviceData mcu < devices.length + 1 := by omega
          rw [if_neg full, if_neg space]
          by_cases long : maxDeviceData mcu < allocated + sizes.2.toNat
          · rw [if_pos long]
            exact iff_of_false Bool.false_ne_true fun inside =>
              absurd inside.2.1 (Nat.not_le.mpr long)
          · rw [if_neg long, ih, List.length_append, List.length_singleton]
            exact ⟨fun inside => ⟨Nat.lt_of_not_le full, Nat.le_of_not_lt long, inside⟩,
              fun inside => inside.2.2⟩

/-! ## The load -/

/-- The sizes of the records that the load builds: one for each device block of the chain,
and one for the bytes behind the area when they read as a device block. -/
def recordSizes (ee : Eeprom mcu) (path : List Nat) : List Nat :=
  (path ++ [edsEnd mcu + 1]).filterMap (recordSize ee)

theorem recordSize_free {ee : Eeprom mcu} {it : Nat} (free : edsBlockType ee it = 0) :
    recordSize ee it = none := by
  have unknown : deviceSizes 0 = none := by decide
  rw [recordSize, free, unknown]

/-- The type range of the load is every type but that of a free block. -/
theorem type_of_unused {t : UInt8} (unused : ¬ (decide (t ≥ 1) && decide (t ≤ 255)) = true) :
    t = 0 := by
  have bound := t.toNat_lt
  simp only [Bool.and_eq_true, decide_eq_true_eq, ge_iff_le, UInt8.le_iff_toNat_le] at unused
  have zero : t.toNat = 0 := by
    by_contra positive
    exact unused ⟨Nat.one_le_iff_ne_zero.mpr positive, Nat.le_of_lt_succ bound⟩
  exact UInt8.toNat_inj.mp zero

/-- Free blocks do not count. -/
theorem filterMap_recordSize (ee : Eeprom mcu) (its : List Nat) :
    (its.filter (Matches (fun t => decide (t ≥ 1) && decide (t ≤ 255)) ee)).filterMap
      (recordSize ee) = its.filterMap (recordSize ee) := by
  induction its with
  | nil => rfl
  | cons it its ih =>
      by_cases used : Matches (fun t => decide (t ≥ 1) && decide (t ≤ 255)) ee it = true
      · rw [List.filter_cons_of_pos used, List.filterMap_cons, List.filterMap_cons, ih]
      · have free : edsBlockType ee it = 0 := type_of_unused used
        rw [List.filter_cons_of_neg used, ih, List.filterMap_cons_none (recordSize_free free)]

/-- The load stays inside its two arrays exactly when there are at most as many device
blocks as pointers and their records fit. -/
theorem devices_load_inside_iff (ee : Eeprom mcu) {path : List Nat}
    (chain : IsChain mcu ee.cell path) (matching : ∀ p ∈ path, MatchingSize ee p) :
    ∃ stores, devicesStores ee = some stores ∧
      (StaysInside mcu stores ↔
        (recordSizes ee path).length ≤ maxPdeviceData mcu ∧
          (recordSizes ee path).sum ≤ maxDeviceData mcu) := by
  obtain ⟨headers, found, -⟩ :=
    edsIterate_spec (fun t => decide (t ≥ 1) && decide (t ≤ 255)) chain
  have foreach : edsForeachBlockBetween ee 1 255 = _ := found
  refine ⟨_, by rw [devicesStores, foreach]; rfl, ?_⟩
  have inside : ∀ its : List Nat, (∀ it ∈ its, MatchingSize ee it) →
      (StaysInside mcu (devicesStoreLoop ee its 0 0) ↔
        (its.filterMap (recordSize ee)).length ≤ maxPdeviceData mcu ∧
          (its.filterMap (recordSize ee)).sum ≤ maxDeviceData mcu) := by
    intro its same
    have counted := devicesStoreLoop_inside_iff same (Nat.zero_le _) (Nat.zero_le _)
    rwa [Nat.zero_add, Nat.zero_add] at counted
  by_cases behind : MatchingSize ee (edsEnd mcu + 1)
  · have all : ∀ it ∈ (path ++ [edsEnd mcu + 1]).filter
        (Matches (fun t => decide (t ≥ 1) && decide (t ≤ 255)) ee), MatchingSize ee it := by
      intro it member
      rcases List.mem_append.mp (List.mem_of_mem_filter member) with block | last
      · exact matching it block
      · rw [List.mem_singleton.mp last]
        exact behind
    rw [inside _ all, filterMap_recordSize]
    rfl
  · -- an incompatible type behind the area ends the loop after the last block
    unfold MatchingSize at behind
    push Not at behind
    obtain ⟨sizes, known, other⟩ := behind
    have dropped : recordSize ee (edsEnd mcu + 1) = none := by
      rw [recordSize, known]
      exact if_neg other
    have used : Matches (fun t => decide (t ≥ 1) && decide (t ≤ 255)) ee (edsEnd mcu + 1) =
        true := by
      by_contra unused
      have free : edsBlockType ee (edsEnd mcu + 1) = 0 := type_of_unused unused
      have unknown : deviceSizes 0 = none := by decide
      rw [free, unknown] at known
      cases known
    have all : ∀ it ∈ path.filter (Matches (fun t => decide (t ≥ 1) && decide (t ≤ 255)) ee),
        MatchingSize ee it := fun it member => matching it (List.mem_of_mem_filter member)
    rw [List.filter_append, List.filter_cons_of_pos used, List.filter_nil,
      devicesStoreLoop_append known other, inside _ all, filterMap_recordSize, recordSizes,
      List.filterMap_append, List.filterMap_cons_none dropped, List.filterMap_nil,
      List.append_nil]

/-- Thirteen heating blocks and two free ones. -/
def heizungArea (address : Nat) : UInt8 :=
  if address < 34 then 0
  else if address < 554 then
    if (address - 34) % 40 = 0 then 13 else if (address - 34) % 40 = 1 then 38 else 0
  else if address = 555 then 255
  else if address = 812 then 211
  else 0

def heizungPath : List Nat :=
  [34, 74, 114, 154, 194, 234, 274, 314, 354, 394, 434, 474, 514, 554, 811]

theorem heizungArea_isChain : IsChain atmega32 heizungArea heizungPath where
  walk := .step (.step (.step (.step (.step (.step (.step (.step (.step (.step (.step (.step
    (.step (.step (.step (.arrived _)))))))))))))))
  below := by decide

theorem heizungArea_matching :
    ∀ p ∈ heizungPath, MatchingSize (.powerUp heizungArea : Eeprom atmega32) p := by
  have sizes : ∀ p ∈ heizungPath,
      deviceSizes (edsBlockType (.powerUp heizungArea : Eeprom atmega32) p) = none ∨
      deviceSizes (edsBlockType (.powerUp heizungArea : Eeprom atmega32) p) = some (38, 61) ∧
        edsBlockSize (.powerUp heizungArea : Eeprom atmega32) p = 38 := by
    decide +kernel
  intro p member pair known
  rcases sizes p member with unknown | ⟨same, size⟩
  · rw [unknown] at known
    cases known
  · rw [same] at known
    cases known
    exact size.symm

/-- Thirteen heating records of 61 bytes do not fit the 768 bytes of the small controller. -/
theorem heizungArea_overflows :
    IsChain atmega32 heizungArea heizungPath ∧
      (∀ p ∈ heizungPath, MatchingSize (.powerUp heizungArea : Eeprom atmega32) p) ∧
      ∃ stores, devicesStores (.powerUp heizungArea : Eeprom atmega32) = some stores ∧
        ¬ StaysInside atmega32 stores := by
  refine ⟨heizungArea_isChain, heizungArea_matching, ?_⟩
  have stored : ∃ stores, devicesStores (.powerUp heizungArea : Eeprom atmega32) = some stores ∧
      Store.record 732 61 ∈ stores := by
    decide +kernel
  obtain ⟨stores, load, member⟩ := stored
  exact ⟨stores, load, fun inside => absurd (inside.records 732 61 member) (by decide)⟩

theorem devices_load_inside_iff_heizung :
    ∃ stores, devicesStores (.powerUp heizungArea : Eeprom atmega32) = some stores ∧
      (StaysInside atmega32 stores ↔
        (recordSizes (.powerUp heizungArea : Eeprom atmega32) heizungPath).length ≤
            maxPdeviceData atmega32 ∧
          (recordSizes (.powerUp heizungArea : Eeprom atmega32) heizungPath).sum ≤
            maxDeviceData atmega32) :=
  devices_load_inside_iff _ heizungArea_isChain heizungArea_matching

end Hcan.Controller
