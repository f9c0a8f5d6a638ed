import Hcan.Controller.Rolladen
import Hcan.Eds.Code

/-!
# The device table

`devicesLoadConfig` reads the EDS blocks and builds the device records.  Records
of other types than the shutter are known by their type byte only; their size
counts for the memory.  `none` stands for a write behind `pdevice_data` or
`device_data`.
-/

namespace Hcan.Controller

open Hcan.Canix Hcan.Eds

variable {mcu : Mcu}

def maxPdeviceData (mcu : Mcu) : Nat := if mcu.edsDataEnd = 1023 then 64 else 128

def maxDeviceData (mcu : Mcu) : Nat := if mcu.edsDataEnd = 1023 then 768 else 1536

inductive Device where
  | rolladen (p : DeviceDataRolladen)
  | other (type : UInt8)
  deriving DecidableEq, Repr

def edsRolladenBlockId : UInt8 := 12

/-- Block type, size of the configuration struct and size of the device record;
the structs of this compiler have no padding. -/
def deviceTypes : List (UInt8 × UInt8 × UInt8) :=
  [(19, 5, 11), -- dunstabzugport
    (13, 38, 61), -- heizung
    (17, 11, 17), -- lichtzone
    (26, 4, 24), -- helligkeitssensor
    (21, 3, 7), -- poti
    (23, 13, 18), -- multitaster
    (11, 6, 10), -- powerport
    (15, 4, 7), -- reedkontakt
    (edsRolladenBlockId, 13, 33),
    (24, 3, 7), -- rolladenSchlitzpos
    (27, 10, 15), -- rolladenAutomat
    (29, 8, 13), -- powerportAutomat
    (25, 3, 6), -- schalter
    (28, 3, 35), -- zentralheizungspumpe
    (22, 11, 12), -- tastdimmer
    (10, 3, 5), -- taster
    (14, 21, 26), -- tempsensor
    (16, 3, 6), -- timeservice
    (20, 10, 15), -- zeitschaltuhr
    (18, 6, 9)] -- zeitzone

/-- `config_size` and `data_size` of a known block type. -/
def deviceSizes (type : UInt8) : Option (UInt8 × UInt8) :=
  (deviceTypes.find? fun row => row.1 == type).map Prod.snd

/-- A byte of the payload, as `eeprom_read_block` copies it. -/
def configByte (ee : Eeprom mcu) (it i : Nat) : UInt8 := eepromReadByte ee (ptrAdd it (2 + i))

/-- A 16-bit field, low byte first. -/
def configWord (ee : Eeprom mcu) (it i : Nat) : UInt16 :=
  UInt16.ofNat ((configByte ee it i).toNat + 256 * (configByte ee it (i + 1)).toNat)

/-- The payload of a shutter block; bytes 3 and 4 hold fields that no handler reads. -/
def edsRolladenBlock (ee : Eeprom mcu) (it : Nat) : EdsRolladenBlock where
  portPower := configByte ee it 0
  portDir := configByte ee it 1
  taster := configByte ee it 2
  laufzeit := configWord ee it 5
  maxRekalib := configWord ee it 7
  gruppe0 := configByte ee it 9
  gruppe1 := configByte ee it 10
  gruppe2 := configByte ee it 11
  gruppe3 := configByte ee it 12

/-- The record of a block after its `_init` function. -/
def deviceInit (ee : Eeprom mcu) (it : Nat) : Device :=
  if edsBlockType ee it = edsRolladenBlockId then .rolladen (rolladenInit (edsRolladenBlock ee it))
  else .other (edsBlockType ee it)

/-- The loop body over the block pointers: the records, and `device_data_ram_usage`. -/
def devicesLoadLoop (ee : Eeprom mcu) (ramUsage : Nat) :
    List Nat → List Device → Nat → Option (List Device × Nat)
  | [], devices, allocated => some (devices, allocated)
  | it :: its, devices, allocated =>
      match deviceSizes (edsBlockType ee it) with
      | none => devicesLoadLoop ee ramUsage its devices allocated
      | some (configSize, dataSize) =>
          -- an incompatible block empties the whole table
          if configSize ≠ edsBlockSize ee it then some ([], 0)
          else if maxPdeviceData mcu ≤ devices.length then none
          -- the overflow test compares the number of records with a number of bytes
          else if maxDeviceData mcu < devices.length + 1 then some (devices ++ [.other 0], ramUsage)
          else if maxDeviceData mcu < allocated + dataSize.toNat then none
          else devicesLoadLoop ee ramUsage its (devices ++ [deviceInit ee it])
            (allocated + dataSize.toNat)

/-- The body does not write to the EEPROM, so all block pointers are found first. -/
def devicesLoadConfig (ramUsage : Nat) (ee : Eeprom mcu) : Option (List Device × Nat) := do
  let found ← edsForeachBlockBetween ee 1 255
  devicesLoadLoop ee ramUsage found.1 [] 0

/-- All shutters of the list are newly initialised. -/
def Initialised (devices : List Device) : Prop :=
  ∀ p, .rolladen p ∈ devices → p = rolladenInit p.config

theorem initialised_nil : Initialised [] := fun _ member => absurd member List.not_mem_nil

theorem initialised_append {devices : List Device} (loaded : Initialised devices)
    (ee : Eeprom mcu) (it : Nat) : Initialised (devices ++ [deviceInit ee it]) := by
  intro p member
  rcases List.mem_append.mp member with before | new
  · exact loaded p before
  · have same := List.mem_singleton.mp new
    unfold deviceInit at same
    split at same
    · cases same
      rfl
    · cases same

theorem devicesLoadLoop_initialised {ee : Eeprom mcu} {ramUsage : Nat} {its : List Nat}
    {devices : List Device} {allocated : Nat} {table : List Device × Nat}
    (loaded : Initialised devices)
    (result : devicesLoadLoop ee ramUsage its devices allocated = some table) :
    Initialised table.1 := by
  induction its generalizing devices allocated with
  | nil =>
      cases result
      exact loaded
  | cons it its ih =>
      rw [devicesLoadLoop] at result
      split at result
      · exact ih loaded result
      · split at result
        · cases result
          exact initialised_nil
        · split at result
          · cases result
          · split at result
            · cases result
              intro p member
              rcases List.mem_append.mp member with before | new
              · exact loaded p before
              · cases List.mem_singleton.mp new
            · split at result
              · cases result
              · exact ih (initialised_append loaded ee it) result

/-- A load leaves only new shutters in the table. -/
theorem devicesLoadConfig_initialised {ee : Eeprom mcu} {ramUsage : Nat}
    {table : List Device × Nat} (result : devicesLoadConfig ramUsage ee = some table) :
    Initialised table.1 := by
  obtain ⟨found, -, loop⟩ := Option.bind_eq_some_iff.mp result
  exact devicesLoadLoop_initialised initialised_nil loop

end Hcan.Controller
