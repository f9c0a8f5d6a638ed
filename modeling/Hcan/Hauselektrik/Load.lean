import Hcan.Controller.DeviceTable
import Hcan.Hauselektrik.Dispatch

/-!
# What a load builds

A load succeeds when its stores stay inside the arrays, which depends on the headers of the
blocks only.  Blocks of matching sizes give one record for each known block, in the order of
the chain; one incompatible block empties the table.
-/

namespace Hcan.Hauselektrik

open Hcan.Canix Hcan.Eds Hcan.Controller Hcan.Library

variable {mcu : Mcu}

/-- The loop builds a table exactly when all its stores stay inside. -/
theorem devicesLoadLoop_isSome_iff (env : Environment mcu) {its : List Nat} {allocated : Nat}
    {b : Board mcu} :
    (devicesLoadLoop env its allocated b).isSome = true ↔
      StaysInside mcu (devicesStoreLoop b.eeprom its b.devices.length allocated) := by
  induction its generalizing allocated b with
  | nil => exact ⟨fun _ => staysInside_nil mcu, fun _ => rfl⟩
  | cons it its ih =>
      rw [devicesLoadLoop]
      cases known : deviceSizes (edsBlockType b.eeprom it) with
      | none =>
          rw [devicesStoreLoop, known]
          exact ih
      | some sizes =>
          dsimp only
          by_cases other : sizes.1 ≠ edsBlockSize b.eeprom it
          · rw [if_pos other, devicesStoreLoop, known]
            dsimp only
            rw [if_pos other]
            exact ⟨fun _ => staysInside_nil mcu, fun _ => rfl⟩
          rw [if_neg other, staysInside_block known (not_not.mp other)]
          have limit := maxPdeviceData_le mcu
          by_cases full : maxPdeviceData mcu ≤ b.devices.length
          · rw [if_pos full]
            exact iff_of_false Bool.false_ne_true fun inside => absurd inside.1 (Nat.not_lt.mpr full)
          have space : ¬ maxDeviceData mcu < b.devices.length + 1 := by omega
          rw [if_neg full, if_neg space]
          by_cases long : maxDeviceData mcu < allocated + sizes.2.toNat
          · rw [if_pos long]
            exact iff_of_false Bool.false_ne_true fun inside =>
              absurd inside.2.1 (Nat.not_le.mpr long)
          · rw [if_neg long, ih, List.length_append, List.length_singleton]
            exact ⟨fun inside => ⟨Nat.lt_of_not_le full, Nat.le_of_not_lt long, inside⟩,
              fun inside => inside.2.2⟩

/-- The stores depend on the headers of the blocks. -/
theorem devicesStoreLoop_congr {ee other : Eeprom mcu} {its : List Nat}
    (headers : ∀ it ∈ its, edsBlockType other it = edsBlockType ee it ∧
      edsBlockSize other it = edsBlockSize ee it) (count allocated : Nat) :
    devicesStoreLoop other its count allocated = devicesStoreLoop ee its count allocated := by
  induction its generalizing count allocated with
  | nil => rfl
  | cons it its ih =>
      obtain ⟨type, size⟩ := headers it List.mem_cons_self
      have rest := ih fun later member => headers later (List.mem_cons_of_mem _ member)
      rw [devicesStoreLoop, devicesStoreLoop, type, size]
      cases deviceSizes (edsBlockType ee it) with
      | none => exact rest count allocated
      | some sizes =>
          dsimp only
          rw [rest]

def isKnown (ee : Eeprom mcu) (it : Nat) : Bool := (deviceSizes (edsBlockType ee it)).isSome

/-- What the loop leaves behind: the records of all known blocks, or an empty table when a
block is incompatible. -/
structure LoadsTable (env : Environment mcu) (its : List Nat) (front : List Device)
    (b later : Board mcu) : Prop where
  eeprom : later.eeprom = b.eeprom
  tasterport : later.tasterport = b.tasterport
  table : (∀ it ∈ its, MatchingSize b.eeprom it) ∧
      later.devices = front ++ (its.filter (isKnown b.eeprom)).map (deviceInit env b) ∨
    (¬ ∀ it ∈ its, MatchingSize b.eeprom it) ∧ later.devices = []

theorem devicesLoadLoop_table {env : Environment mcu} {its : List Nat} {allocated : Nat}
    {b later : Board mcu} (load : devicesLoadLoop env its allocated b = some later) :
    LoadsTable env its b.devices b later := by
  induction its generalizing allocated b with
  | nil =>
      cases load
      constructor
      · rfl
      · rfl
      · refine .inl ⟨fun _ member => absurd member List.not_mem_nil, ?_⟩
        exact (List.append_nil _).symm
  | cons it its ih =>
      rw [devicesLoadLoop] at load
      cases sizes : deviceSizes (edsBlockType b.eeprom it) with
      | none =>
          rw [sizes] at load
          have rest := ih load
          have matching : MatchingSize b.eeprom it := by
            intro pair known
            rw [sizes] at known
            cases known
          have unknown : ¬ isKnown b.eeprom it = true := by
            rw [isKnown, sizes]
            exact Bool.false_ne_true
          constructor
          · exact rest.eeprom
          · exact rest.tasterport
          · rw [List.forall_mem_cons, List.filter_cons_of_neg unknown]
            rcases rest.table with ⟨all, table⟩ | ⟨some_, table⟩
            · exact .inl ⟨⟨matching, all⟩, table⟩
            · exact .inr ⟨fun both => some_ both.2, table⟩
      | some pair =>
          rw [sizes] at load
          dsimp only at load
          by_cases other : pair.1 ≠ edsBlockSize b.eeprom it
          · rw [if_pos other] at load
            cases load
            constructor
            · rfl
            · rfl
            · exact .inr ⟨fun all => other (all it List.mem_cons_self pair sizes), rfl⟩
          rw [if_neg other] at load
          by_cases full : maxPdeviceData mcu ≤ b.devices.length
          · rw [if_pos full] at load
            cases load
          have limit := maxPdeviceData_le mcu
          have space : ¬ maxDeviceData mcu < b.devices.length + 1 := by omega
          rw [if_neg full, if_neg space] at load
          by_cases long : maxDeviceData mcu < allocated + pair.2.toNat
          · rw [if_pos long] at load
            cases load
          rw [if_neg long] at load
          have rest := ih load
          have matching : MatchingSize b.eeprom it := by
            intro found known
            rw [sizes] at known
            cases known
            exact not_not.mp other
          have known : isKnown b.eeprom it = true := by
            rw [isKnown, sizes]
            rfl
          constructor
          · exact rest.eeprom
          · exact rest.tasterport
          · rw [List.forall_mem_cons, List.filter_cons_of_pos known, List.map_cons,
              List.append_cons]
            rcases rest.table with ⟨all, table⟩ | ⟨some_, table⟩
            · exact .inl ⟨⟨matching, all⟩, table⟩
            · exact .inr ⟨fun both => some_ both.2, table⟩

/-! ## The whole load -/

section Config

variable {env : Environment mcu} {path : List Nat} {b later : Board mcu}

/-- The bytes that the iteration reads as headers are those of two contents. -/
def SameHeaders (path : List Nat) (ee other : Eeprom mcu) : Prop :=
  ∀ it ∈ path ++ [edsEnd mcu + 1],
    edsBlockType other it = edsBlockType ee it ∧ edsBlockSize other it = edsBlockSize ee it

def isUsed (type : UInt8) : Bool := decide (type ≥ 1) && decide (type ≤ 255)

/-- The load walks along the chain and tries the bytes behind the area. -/
theorem devicesLoadConfig_eq (env : Environment mcu) (chain : IsChain mcu b.eeprom.cell path) :
    devicesLoadConfig env b =
      devicesLoadLoop env ((path ++ [edsEnd mcu + 1]).filter (Matches isUsed b.eeprom)) 0
        { b with devices := [] } := by
  obtain ⟨headers, found, -⟩ := edsIterate_spec isUsed chain
  have foreach : edsForeachBlockBetween b.eeprom 1 255 = _ := found
  rw [devicesLoadConfig, foreach]
  rfl

theorem filter_isKnown (ee : Eeprom mcu) (its : List Nat) :
    (its.filter (Matches isUsed ee)).filter (isKnown ee) = its.filter (isKnown ee) := by
  rw [List.filter_filter]
  apply List.filter_congr
  intro it _
  cases used : Matches isUsed ee it with
  | true => exact Bool.and_true _
  | false =>
      have free : edsBlockType ee it = 0 := by
        apply type_of_unused
        rw [← Bool.not_eq_true] at used
        exact used
      rw [isKnown, free]
      rfl

theorem matching_of_free {ee : Eeprom mcu} {it : Nat} (free : ¬ Matches isUsed ee it = true) :
    MatchingSize ee it := by
  have type : edsBlockType ee it = 0 := type_of_unused free
  have unknown : deviceSizes 0 = none := by decide
  intro sizes known
  rw [type, unknown] at known
  cases known

instance (ee : Eeprom mcu) (it : Nat) : Decidable (MatchingSize ee it) :=
  @decidable_of_iff _ (∀ sizes ∈ deviceSizes (edsBlockType ee it), sizes.1 = edsBlockSize ee it)
    Iff.rfl (Option.decidableForallMem _)

/-- The blocks whose records the load leaves behind. -/
def loadedBlocks (ee : Eeprom mcu) (path : List Nat) : List Nat :=
  if ∀ it ∈ path ++ [edsEnd mcu + 1], MatchingSize ee it then
    (path ++ [edsEnd mcu + 1]).filter (isKnown ee)
  else []

theorem devicesLoadConfig_table (chain : IsChain mcu b.eeprom.cell path)
    (load : devicesLoadConfig env b = some later) :
    later.eeprom = b.eeprom ∧
      later.devices = (loadedBlocks b.eeprom path).map
        (deviceInit env { b with devices := [] }) := by
  rw [devicesLoadConfig_eq env chain] at load
  have loads := devicesLoadLoop_table load
  refine ⟨loads.eeprom, ?_⟩
  have all : (∀ it ∈ (path ++ [edsEnd mcu + 1]).filter (Matches isUsed b.eeprom),
      MatchingSize b.eeprom it) ↔ ∀ it ∈ path ++ [edsEnd mcu + 1], MatchingSize b.eeprom it := by
    constructor
    · intro used it member
      by_cases isMatch : Matches isUsed b.eeprom it = true
      · exact used it (List.mem_filter.mpr ⟨member, isMatch⟩)
      · exact matching_of_free isMatch
    · exact fun every it member => every it (List.mem_of_mem_filter member)
  rcases loads.table with ⟨matching, table⟩ | ⟨other, table⟩
  · rw [table, filter_isKnown, loadedBlocks, if_pos (all.mp matching)]
    exact List.nil_append _
  · rw [table, loadedBlocks, if_neg fun every => other (all.mpr every)]
    rfl

theorem SameHeaders.matching {ee other : Eeprom mcu} {it : Nat}
    (headers : SameHeaders path ee other) (member : it ∈ path ++ [edsEnd mcu + 1]) :
    MatchingSize other it ↔ MatchingSize ee it := by
  unfold MatchingSize
  rw [(headers it member).1, (headers it member).2]

theorem SameHeaders.loadedBlocks {ee other : Eeprom mcu} (headers : SameHeaders path ee other) :
    loadedBlocks other path = loadedBlocks ee path := by
  have known : (path ++ [edsEnd mcu + 1]).filter (isKnown other) =
      (path ++ [edsEnd mcu + 1]).filter (isKnown ee) := by
    apply List.filter_congr
    intro it member
    rw [isKnown, isKnown, (headers it member).1]
  have matching : (∀ it ∈ path ++ [edsEnd mcu + 1], MatchingSize other it) ↔
      ∀ it ∈ path ++ [edsEnd mcu + 1], MatchingSize ee it :=
    forall₂_congr fun _ member => headers.matching member
  unfold Hauselektrik.loadedBlocks
  rw [known]
  exact if_congr matching rfl rfl

/-- A content with the same headers has the same chain. -/
theorem SameHeaders.chain {ee other : Eeprom mcu} (headers : SameHeaders path ee other)
    (chain : IsChain mcu ee.cell path) : IsChain mcu other.cell path where
  walk := by
    refine chain.walk.congr fun p member => ?_
    have size : edsBlockSize other p = edsBlockSize ee p :=
      (headers p (List.mem_append_left _ member)).2
    change ptrAdd p (2 + (edsBlockSize other p).toNat) = ptrAdd p (2 + (edsBlockSize ee p).toNat)
    rw [size]
  below := chain.below

/-- Whether a load builds a table is up to the headers. -/
theorem devicesLoadConfig_isSome (chain : IsChain mcu b.eeprom.cell path)
    (headers : SameHeaders path b.eeprom later.eeprom)
    (load : (devicesLoadConfig env b).isSome = true) :
    (devicesLoadConfig env later).isSome = true := by
  rw [devicesLoadConfig_eq env chain, devicesLoadLoop_isSome_iff] at load
  rw [devicesLoadConfig_eq env (headers.chain chain), devicesLoadLoop_isSome_iff]
  have same : (path ++ [edsEnd mcu + 1]).filter (Matches isUsed later.eeprom) =
      (path ++ [edsEnd mcu + 1]).filter (Matches isUsed b.eeprom) := by
    apply List.filter_congr
    intro it member
    rw [Matches, Matches, (headers it member).1]
  rw [same]
  change StaysInside mcu (devicesStoreLoop later.eeprom _ 0 0)
  rw [devicesStoreLoop_congr fun it member => headers it (List.mem_of_mem_filter member)]
  exact load

/-- A loaded table has a pointer for each record. -/
theorem devicesLoadLoop_length {its : List Nat} {allocated : Nat}
    (few : b.devices.length ≤ maxPdeviceData mcu)
    (load : devicesLoadLoop env its allocated b = some later) :
    later.devices.length ≤ maxPdeviceData mcu := by
  induction its generalizing allocated b with
  | nil =>
      cases load
      exact few
  | cons it its ih =>
      rw [devicesLoadLoop] at load
      split at load
      · exact ih few load
      · split at load
        · cases load
          exact Nat.zero_le _
        · split at load
          · cases load
          · have room : (b.devices ++ [deviceInit env b it]).length ≤ maxPdeviceData mcu := by
              rw [List.length_append, List.length_singleton]
              omega
            split at load
            · cases load
              rw [List.length_append] at room ⊢
              exact room
            · split at load
              · cases load
              · exact ih room load

theorem devicesLoadConfig_length (chain : IsChain mcu b.eeprom.cell path)
    (load : devicesLoadConfig env b = some later) :
    later.devices.length ≤ maxPdeviceData mcu := by
  rw [devicesLoadConfig_eq env chain] at load
  exact devicesLoadLoop_length (Nat.zero_le _) load

end Config

end Hcan.Hauselektrik
