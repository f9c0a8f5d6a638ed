import Hcan.Hauselektrik.Devices
import Hcan.Library.BitSearch
import Hcan.Library.Bits

/-!
# The 1-wire bus

The bus is a wired AND of its devices, which follow the search command bit by bit.  A call of
`ow_rom_search` is a pass of the search through the identifications of the devices, and
`ow_discover` reports each of them once.
-/

namespace Hcan.Hauselektrik

open Hcan.Canix Hcan.Controller Hcan.Library

def searchRom : UInt8 := 0xf0

/-- The bits of a byte in the order in which they are sent. -/
def bitsOf (byte : UInt8) : List Bool := (List.range 8).map byte.toNat.testBit

def romBits (rom : List UInt8) : List Bool := rom.flatMap bitsOf

/-- What a device does in the next slot: it waits for a reset, receives a command, sends the next
bit of its identification or the complement, or receives the direction of the search. -/
inductive OwState where
  | idle
  | command (received : List Bool)
  | send (rest : List Bool)
  | complement (bit : Bool) (rest : List Bool)
  | receive (bit : Bool) (rest : List Bool)

structure OwDevice where
  rom : Vector UInt8 8
  state : OwState

namespace OwDevice

/-- The device pulls the bus down for a 0. -/
def level (device : OwDevice) : Bool :=
  match device.state with
  | .send (bit :: _) => bit
  | .complement bit _ => !bit
  | _ => true

/-- The state behind a slot with the level of the bus. -/
def next (bus : Bool) (device : OwDevice) : OwDevice where
  rom := device.rom
  state :=
    match device.state with
    | .command received =>
        if received.length + 1 < 8 then .command (received ++ [bus])
        else if received ++ [bus] = bitsOf searchRom then .send (romBits device.rom.toList)
        else .idle
    | .send (bit :: rest) => .complement bit rest
    | .complement bit rest => .receive bit rest
    | .receive bit rest => if bus = bit then .send rest else .idle
    | state => state

end OwDevice

def searchFirst : ℕ := 0xff
def presenceErr : ℕ := 0xff
def dataErr : ℕ := 0xfe
def lastDevice : ℕ := 0

/-- `ow_reset`: the error and the bus behind it. -/
def owReset (bus : List OwDevice) : Bool × List OwDevice :=
  (bus.isEmpty, bus.map fun device => { device with state := .command [] })

/-- `ow_bit_io`: the level of the bus and the bus behind the slot. -/
def owBitIo (bit : Bool) (bus : List OwDevice) : Bool × List OwDevice :=
  let level := bit && bus.all OwDevice.level
  (level, bus.map (OwDevice.next level))

/-- A bit goes into a byte from above. -/
def shiftIn (bit : Bool) (byte : UInt8) : UInt8 :=
  if bit then (byte >>> 1) ||| 0x80 else byte >>> 1

/-- The loop of `ow_write_byte`. -/
def owWriteBits : ℕ → UInt8 → List OwDevice → UInt8 × List OwDevice
  | 0, b, bus => (b, bus)
  | i + 1, b, bus =>
      let (j, bus) := owBitIo (b &&& 1 != 0) bus
      owWriteBits i (shiftIn j b) bus

def owWriteByte (b : UInt8) (bus : List OwDevice) : UInt8 × List OwDevice := owWriteBits 8 b bus

/-- The variables of `ow_rom_search` in its loops: the byte at `id`, the positions and the bus. -/
structure OwSearch where
  byte : UInt8
  i : ℕ
  nextDiff : ℕ
  bus : List OwDevice

/-- A bit of `ow_rom_search`; a bit and a complement of 1 are an error. -/
def owSearchBit (diff : ℕ) (s : OwSearch) : Except OwSearch OwSearch :=
  let (b, bus) := owBitIo true s.bus
  let (complement, bus) := owBitIo true bus
  if complement && b then .error { s with bus := bus }
  else
    let turns := !complement && !b &&
      (decide (diff > s.i) || (s.byte &&& 1 != 0 && decide (diff ≠ s.i)))
    let b := b || turns
    let (_, bus) := owBitIo b bus
    .ok {
      byte := shiftIn b s.byte
      i := s.i - 1
      nextDiff := if turns then s.i else s.nextDiff
      bus := bus }

/-- The loop over the bits of a byte. -/
def owSearchBits (diff : ℕ) : ℕ → OwSearch → Except OwSearch OwSearch
  | 0, s => .ok s
  | j + 1, s =>
      match owSearchBit diff s with
      | .error s => .error s
      | .ok s => owSearchBits diff j s

/-- What `ow_rom_search` returns, with its buffer and the bus. -/
structure OwSearched where
  diff : ℕ
  id : List UInt8
  bus : List OwDevice

/-- The loop over the bytes of the buffer. -/
def owSearchBytes (diff : ℕ) : List UInt8 → ℕ → ℕ → List OwDevice → OwSearched
  | [], _, nextDiff, bus => ⟨nextDiff, [], bus⟩
  | byte :: id, i, nextDiff, bus =>
      match owSearchBits diff 8 ⟨byte, i, nextDiff, bus⟩ with
      | .error s => ⟨dataErr, s.byte :: id, s.bus⟩
      | .ok s =>
          let searched := owSearchBytes diff id s.i s.nextDiff s.bus
          { searched with id := s.byte :: searched.id }

/-- `ow_rom_search`. -/
def owRomSearch (diff : ℕ) (id : List UInt8) (bus : List OwDevice) : OwSearched :=
  let (err, bus) := owReset bus
  if err then ⟨presenceErr, id, bus⟩
  else
    let (_, bus) := owWriteByte searchRom bus
    owSearchBytes diff id (8 * 8) lastDevice bus

def hcanHes1wireDiscoveredPart1 : UInt8 := 31
def hcanHes1wireDiscoveredPart2 : UInt8 := 32
def hcanHes1wireError : UInt8 := 33

/-- The messages about a device. -/
def discovered (self dst : UInt16) (id : List UInt8) : List CanixFrame :=
  let byte (n : ℕ) : UInt8 := id.getD n 0
  [hesFrame self dst 6 hcanHes1wireDiscoveredPart1 (byte 0) (byte 1) (byte 2) (byte 3) 0 0,
    hesFrame self dst 6 hcanHes1wireDiscoveredPart2 (byte 4) (byte 5) (byte 6) (byte 7) 0 0]

/-- The loop of `ow_discover` with the messages that it sends; `none` if the passes are not enough.
While it sleeps the bus rests. -/
def owDiscoverLoop (self dst : UInt16) : ℕ → ℕ → List UInt8 → List OwDevice →
    Option (List CanixFrame)
  | passes, diff, id, bus =>
      if diff = lastDevice then some []
      else match passes with
        | 0 => none
        | passes + 1 =>
            let searched := owRomSearch diff id bus
            if searched.diff = presenceErr then
              some [hesFrame self dst 3 hcanHes1wireError 3 0 0 0 0 0]
            else if searched.diff = dataErr then
              some [hesFrame self dst 3 hcanHes1wireError 4 0 0 0 0 0]
            else (owDiscoverLoop self dst passes searched.diff searched.id searched.bus).map
              (discovered self dst searched.id ++ ·)

/-- `ow_discover`. -/
def owDiscover (self : UInt16) (passes : ℕ) (frame : CanixFrame) (id : Vector UInt8 8)
    (bus : List OwDevice) : Option (List CanixFrame) :=
  owDiscoverLoop self frame.src passes searchFirst id.toList bus

section Bits

variable {byte other : UInt8} {bit : Bool}

theorem length_bitsOf (byte : UInt8) : (bitsOf byte).length = 8 := by
  rw [bitsOf, List.length_map, List.length_range]

theorem getElem_bitsOf {k : ℕ} (bound : k < (bitsOf byte).length) :
    (bitsOf byte)[k] = byte.toNat.testBit k := by
  simp only [bitsOf, List.getElem_map, List.getElem_range]

theorem toNat_shiftIn (bit : Bool) (byte : UInt8) :
    (shiftIn bit byte).toNat = byte.toNat >>> 1 ||| (if bit then 2 ^ 7 else 0) := by
  cases bit with
  | false =>
      change (byte >>> 1).toNat = byte.toNat >>> 1 ||| 0
      rw [UInt8.toNat_shiftRight, Nat.or_zero]
      rfl
  | true =>
      change ((byte >>> 1) ||| 0x80).toNat = byte.toNat >>> 1 ||| 2 ^ 7
      rw [UInt8.toNat_or, UInt8.toNat_shiftRight]
      rfl

/-- Behind a shift the new bit is the last one of the byte. -/
theorem bitsOf_shiftIn (bit : Bool) (byte : UInt8) :
    bitsOf (shiftIn bit byte) = (bitsOf byte).tail ++ [bit] := by
  have size : (bitsOf byte).tail.length = 7 := by rw [List.length_tail, length_bitsOf]
  refine List.ext_getElem ?_ fun k here there => ?_
  · rw [length_bitsOf, List.length_append, size]
    rfl
  · rw [length_bitsOf] at here
    rw [getElem_bitsOf, toNat_shiftIn, Nat.testBit_or, Nat.testBit_shiftRight]
    obtain low | rfl := Nat.lt_or_eq_of_le (Nat.le_of_lt_succ here)
    · have high : (if bit then 2 ^ 7 else 0).testBit k = false := by
        cases bit with
        | false => exact Nat.zero_testBit k
        | true => exact Nat.testBit_two_pow_of_ne (by omega)
      rw [List.getElem_append_left (by omega), List.getElem_tail, getElem_bitsOf, high,
        Bool.or_false, Nat.add_comm]
    · have small : byte.toNat < 2 ^ 8 := byte.toNat_lt
      have clear : byte.toNat.testBit (1 + 7) = false :=
        Nat.testBit_lt_two_pow small
      have high : (if bit then 2 ^ 7 else 0).testBit 7 = bit := by cases bit <;> rfl
      rw [clear, high, Bool.false_or, List.getElem_append_right (by omega)]
      simp only [size, Nat.sub_self, List.getElem_cons_zero]

theorem bitsOf_eq_cons (byte : UInt8) :
    bitsOf byte = (byte &&& 1 != 0) :: (bitsOf byte).tail := by
  have first : byte.toNat.testBit 0 = (byte &&& 1 != 0) := by
    have low : (byte &&& 1).toNat = byte.toNat % 2 := Nat.and_one_is_mod _
    obtain zero | one := Nat.mod_two_eq_zero_or_one byte.toNat
    · have clear : byte &&& 1 = 0 := UInt8.toNat_inj.mp (low.trans zero)
      rw [Nat.testBit_zero, zero, clear]
      rfl
    · have set_ : byte &&& 1 = 1 := UInt8.toNat_inj.mp (low.trans one)
      rw [Nat.testBit_zero, one, set_]
      rfl
  rw [← first]
  rfl

theorem bitsOf_injective : Function.Injective bitsOf := by
  intro byte other same
  refine uint8_ext fun k bound => ?_
  have here : (bitsOf byte)[k]? = (bitsOf other)[k]? := by rw [same]
  rw [List.getElem?_eq_getElem (by rwa [length_bitsOf]),
    List.getElem?_eq_getElem (by rwa [length_bitsOf]), getElem_bitsOf, getElem_bitsOf] at here
  exact Option.some.inj here

theorem romBits_injective {rom other : List UInt8} (size : rom.length = other.length)
    (same : romBits rom = romBits other) : rom = other := by
  induction rom generalizing other with
  | nil => exact (List.length_eq_zero_iff.mp size.symm).symm
  | cons byte rom ih =>
      obtain ⟨first, rest, rfl⟩ := List.exists_cons_of_length_eq_add_one size.symm
      obtain ⟨head, tail⟩ := List.append_inj same (by rw [length_bitsOf, length_bitsOf])
      rw [bitsOf_injective head, ih (Nat.succ.inj size) tail]

theorem length_romBits (rom : List UInt8) : (romBits rom).length = 8 * rom.length := by
  induction rom with
  | nil => rfl
  | cons byte rom ih =>
      change (bitsOf byte ++ romBits rom).length = _
      rw [List.length_append, ih, length_bitsOf, List.length_cons]
      omega

end Bits

/-! ## Slots of a search -/

/-- The rest of the identification that the device is to send. -/
def OwDevice.sending (device : OwDevice) : Option (List Bool) :=
  match device.state with
  | .send rest => some rest
  | _ => none

/-- The devices that take part in the search, with the rests of their identifications. -/
def sendings (bus : List OwDevice) : List (List Bool) := bus.filterMap OwDevice.sending

/-- The device behind the three slots of a bit. -/
def OwDevice.turned (bit : Bool) (device : OwDevice) : OwDevice where
  rom := device.rom
  state :=
    match device.state with
    | .send (first :: rest) => if bit = first then .send rest else .idle
    | state => state

section Slots

variable {bus : List OwDevice} {device : OwDevice} {bit : Bool} {n : ℕ}

/-- What a device of a search may be in. -/
def TakesPart (device : OwDevice) : Prop :=
  device.state = .idle ∨ ∃ rest, device.state = .send rest

theorem mem_sendings {string : List Bool} :
    string ∈ sendings bus ↔ ∃ device ∈ bus, device.state = .send string := by
  unfold sendings
  rw [List.mem_filterMap]
  refine exists_congr fun device => and_congr_right fun _ => ?_
  unfold OwDevice.sending
  constructor
  · intro same
    split at same
    next sends => rw [sends, Option.some.inj same]
    next => cases same
  · intro sends
    rw [sends]

theorem branch_sendings_eq_nil : branch bit (sendings bus) = [] ↔
    ∀ device ∈ bus, ∀ rest, device.state ≠ .send (bit :: rest) := by
  rw [List.eq_nil_iff_forall_not_mem]
  simp only [mem_branch, mem_sendings]
  constructor
  · exact fun none device member rest here => none rest ⟨device, member, here⟩
  · rintro none rest ⟨device, member, here⟩
    exact none device member rest here

theorem takesPart_cases (part : TakesPart device) : device.state = .idle ∨
    device.state = .send [] ∨ ∃ bit rest, device.state = .send (bit :: rest) := by
  obtain idle | ⟨rest, sends⟩ := part
  · exact .inl idle
  · cases rest with
    | nil => exact .inr (.inl sends)
    | cons bit rest => exact .inr (.inr ⟨bit, rest, sends⟩)

/-- In its first slot a device with a bit 0 pulls the bus down. -/
theorem level_iff (part : TakesPart device) :
    device.level = true ↔ ∀ rest, device.state ≠ .send (false :: rest) := by
  unfold OwDevice.level
  obtain idle | done | ⟨bit, rest, sends⟩ := takesPart_cases part
  · rw [idle]
    exact iff_of_true rfl fun _ => OwState.noConfusion
  · rw [done]
    refine iff_of_true rfl fun _ same => ?_
    cases same
  · rw [sends]
    cases bit with
    | true =>
        refine iff_of_true rfl fun _ same => ?_
        cases same
    | false => exact iff_of_false Bool.false_ne_true fun none => none rest rfl

/-- In its second slot a device with a bit 1 does so. -/
theorem level_next_iff (part : TakesPart device) (level : Bool) :
    (device.next level).level = true ↔ ∀ rest, device.state ≠ .send (true :: rest) := by
  obtain ⟨rom, state⟩ := device
  obtain idle | done | ⟨bit, rest, sends⟩ := takesPart_cases part
  · cases idle
    exact iff_of_true rfl fun _ => OwState.noConfusion
  · cases done
    refine iff_of_true rfl fun _ same => ?_
    cases same
  · cases sends
    cases bit with
    | true => exact iff_of_false Bool.false_ne_true fun none => none rest rfl
    | false =>
        refine iff_of_true rfl fun _ same => ?_
        cases same

/-- In its third slot it leaves the bus to the master. -/
theorem level_next_next (part : TakesPart device) (first second : Bool) :
    ((device.next first).next second).level = true := by
  obtain ⟨rom, state⟩ := device
  obtain idle | done | ⟨bit, rest, sends⟩ := takesPart_cases part
  · cases idle
    rfl
  · cases done
    rfl
  · cases sends
    rfl

theorem next_next_next (part : TakesPart device) (first second bit : Bool) :
    ((device.next first).next second).next bit = device.turned bit := by
  obtain ⟨rom, state⟩ := device
  obtain idle | done | ⟨own, rest, sends⟩ := takesPart_cases part
  · cases idle
    rfl
  · cases done
    rfl
  · cases sends
    rfl

theorem takesPart_turned (part : TakesPart device) (bit : Bool) :
    TakesPart (device.turned bit) := by
  obtain ⟨rom, state⟩ := device
  obtain idle | done | ⟨own, rest, sends⟩ := takesPart_cases part
  · cases idle
    exact .inl rfl
  · cases done
    exact .inr ⟨[], rfl⟩
  · cases sends
    unfold OwDevice.turned
    dsimp only
    split_ifs
    · exact .inr ⟨rest, rfl⟩
    · exact .inl rfl

/-- Behind the three slots those are left that have the bit. -/
theorem sendings_turned (part : ∀ device ∈ bus, TakesPart device)
    (long : OfLength (n + 1) (sendings bus)) (bit : Bool) :
    sendings (bus.map (OwDevice.turned bit)) = branch bit (sendings bus) := by
  induction bus with
  | nil => rfl
  | cons device bus ih =>
      obtain ⟨here, others⟩ := List.forall_mem_cons.mp part
      obtain ⟨rom, state⟩ := device
      rw [List.map_cons]
      obtain idle | done | ⟨own, rest, sends⟩ := takesPart_cases here
      · cases idle
        exact ih others long
      · cases done
        have empty : [] ∈ sendings (⟨rom, .send []⟩ :: bus) :=
          mem_sendings.mpr ⟨_, List.mem_cons_self, rfl⟩
        exact absurd (long [] empty) (Nat.succ_ne_zero n).symm
      · cases sends
        have longer : OfLength (n + 1) (sendings bus) := fun string member =>
          long string (List.mem_cons_of_mem _ member)
        change _ = branch bit ((own :: rest) :: sendings bus)
        rw [branch_cons, ← ih others longer]
        by_cases same : bit = own
        · rw [if_pos same]
          have left : (OwDevice.turned bit ⟨rom, .send (own :: rest)⟩).sending = some rest := by
            unfold OwDevice.turned
            dsimp only
            rw [if_pos same]
            rfl
          exact List.filterMap_cons_some left
        · rw [if_neg same]
          have left : (OwDevice.turned bit ⟨rom, .send (own :: rest)⟩).sending = none := by
            unfold OwDevice.turned
            dsimp only
            rw [if_neg same]
            rfl
          exact List.filterMap_cons_none left

end Slots

/-- The bus in a search with `n` bits left. -/
structure Ready (n : ℕ) (bus : List OwDevice) : Prop where
  part : ∀ device ∈ bus, TakesPart device
  long : OfLength n (sendings bus)
  some_ : sendings bus ≠ []

/-- The identifications of the devices. -/
def roms (bus : List OwDevice) : List (Vector UInt8 8) := bus.map OwDevice.rom

section Search

variable {bus : List OwDevice} {diff i last n : ℕ} {byte : UInt8} {bit : Bool}

theorem ready_turned (ready : Ready (n + 1) bus) (some_ : branch bit (sendings bus) ≠ []) :
    Ready n (bus.map (OwDevice.turned bit)) := by
  have sent := sendings_turned ready.part ready.long bit
  refine ⟨fun device member => ?_, ?_, ?_⟩
  · obtain ⟨before, inside, rfl⟩ := List.mem_map.mp member
    exact takesPart_turned (ready.part before inside) bit
  · rw [sent]
    exact ofLength_branch ready.long
  · rwa [sent]

theorem roms_map (change : OwDevice → OwDevice)
    (keeps : ∀ device, (change device).rom = device.rom) :
    roms (bus.map change) = roms bus := by
  unfold roms
  rw [List.map_map]
  exact List.map_congr_left fun device _ => keeps device

theorem all_level (ready : Ready n bus) :
    bus.all OwDevice.level = decide (branch false (sendings bus) = []) := by
  rw [Bool.eq_iff_iff, List.all_eq_true, decide_eq_true_iff, branch_sendings_eq_nil]
  exact forall₂_congr fun device member => level_iff (ready.part device member)

theorem all_level_next (ready : Ready n bus) (level : Bool) :
    (bus.map (OwDevice.next level)).all OwDevice.level =
      decide (branch true (sendings bus) = []) := by
  rw [Bool.eq_iff_iff, List.all_map, List.all_eq_true, decide_eq_true_iff,
    branch_sendings_eq_nil]
  exact forall₂_congr fun device member => level_next_iff (ready.part device member) level

theorem all_level_next_next (ready : Ready n bus) (first second : Bool) :
    ((bus.map (OwDevice.next first)).map (OwDevice.next second)).all OwDevice.level = true := by
  rw [List.all_map, List.all_map, List.all_eq_true]
  exact fun device member => level_next_next (ready.part device member) first second

theorem map_next (ready : Ready n bus) (first second bit : Bool) :
    ((bus.map (OwDevice.next first)).map (OwDevice.next second)).map (OwDevice.next bit) =
      bus.map (OwDevice.turned bit) := by
  rw [List.map_map, List.map_map]
  exact List.map_congr_left fun device member =>
    next_next_next (ready.part device member) first second bit

/-- The three slots of a bit. -/
theorem owSearchBit_eq (ready : Ready n bus) :
    owSearchBit diff ⟨byte, i, last, bus⟩ =
      let zeros := decide (branch false (sendings bus) = [])
      let ones := decide (branch true (sendings bus) = [])
      if ones && zeros then .error ⟨byte, i, last,
        (bus.map (OwDevice.next zeros)).map (OwDevice.next ones)⟩
      else
        let turns := !ones && !zeros &&
          (decide (diff > i) || (byte &&& 1 != 0 && decide (diff ≠ i)))
        .ok ⟨shiftIn (zeros || turns) byte, i - 1, if turns then i else last,
          bus.map (OwDevice.turned (zeros || turns))⟩ := by
  unfold owSearchBit owBitIo
  dsimp only
  rw [Bool.true_and, Bool.true_and, all_level ready, all_level_next ready,
    all_level_next_next ready, Bool.and_true, map_next ready]

/-- The bit that a pass takes. -/
theorem owSearchBit_spec (ready : Ready (n + 1) bus) :
    owSearchBit diff ⟨byte, n + 1, last, bus⟩ =
      .ok ⟨shiftIn (passBit diff (n + 1) last (byte &&& 1 != 0) (sendings bus)).1 byte, n,
        (passBit diff (n + 1) last (byte &&& 1 != 0) (sendings bus)).2,
        bus.map (OwDevice.turned
          (passBit diff (n + 1) last (byte &&& 1 != 0) (sendings bus)).1)⟩ := by
  have either := branch_ne_nil ready.long ready.some_
  rw [owSearchBit_eq ready]
  unfold passBit
  dsimp only
  by_cases ones : branch true (sendings bus) = []
  · have zeros := either.resolve_left (not_not.mpr ones)
    rw [if_pos ones, decide_eq_true ones, decide_eq_false zeros]
    rfl
  · rw [if_neg ones, decide_eq_false ones]
    by_cases zeros : branch false (sendings bus) = []
    · rw [if_pos zeros, decide_eq_true zeros]
      rfl
    · rw [if_neg zeros, decide_eq_false zeros]
      by_cases turns : diff > n + 1 ∨ ((byte &&& 1 != 0) = true ∧ diff ≠ n + 1)
      · have turned : (decide (diff > n + 1) || (byte &&& 1 != 0 && decide (diff ≠ n + 1))) =
            true := by
          simpa only [Bool.or_eq_true, Bool.and_eq_true, decide_eq_true_iff] using turns
        rw [if_pos turns, turned]
        rfl
      · have kept : (decide (diff > n + 1) || (byte &&& 1 != 0 && decide (diff ≠ n + 1))) =
            false := by
          rw [← Bool.not_eq_true]
          simpa only [Bool.or_eq_true, Bool.and_eq_true, decide_eq_true_iff] using turns
        rw [if_neg turns, kept]
        rfl

theorem branch_passBit (diff last : ℕ) (ready : Ready (n + 1) bus) (old : Bool) :
    branch (passBit diff (n + 1) last old (sendings bus)).1 (sendings bus) ≠ [] := by
  unfold passBit
  split_ifs with ones zeros
  · exact (branch_ne_nil ready.long ready.some_).resolve_left (not_not.mpr ones)
  · exact ones
  · exact ones
  · exact zeros

theorem owSearchBits_succ {j : ℕ} {s next : OwSearch} (stepped : owSearchBit diff s = .ok next) :
    owSearchBits diff (j + 1) s = owSearchBits diff j next := by
  rw [owSearchBits, stepped]

theorem owSearchBytes_cons {id : List UInt8} {s : OwSearch}
    (ran : owSearchBits diff 8 ⟨byte, i, last, bus⟩ = .ok s) :
    owSearchBytes diff (byte :: id) i last bus =
      { owSearchBytes diff id s.i s.nextDiff s.bus with
        id := s.byte :: (owSearchBytes diff id s.i s.nextDiff s.bus).id } := by
  rw [owSearchBytes, ran]

/-- The bits of a byte, in front of the rest of the pass. -/
theorem owSearchBits_spec (diff last j : ℕ) {old kept : List Bool} (ready : Ready (n + j) bus)
    (bits : bitsOf byte = old ++ kept) (size : old.length = j) :
    ∃ s new, owSearchBits diff j ⟨byte, n + j, last, bus⟩ = .ok s ∧ s.i = n ∧
      Ready n s.bus ∧ roms s.bus = roms bus ∧ bitsOf s.byte = kept ++ new ∧
      ∀ later, searchPass diff (n + j) last (old ++ later) (sendings bus) =
        (new ++ (searchPass diff n s.nextDiff later (sendings s.bus)).1,
          (searchPass diff n s.nextDiff later (sendings s.bus)).2) := by
  induction j generalizing byte last bus old kept with
  | zero =>
      cases List.length_eq_zero_iff.mp size
      exact ⟨_, [], rfl, rfl, ready, rfl, by rw [List.append_nil]; exact bits, fun _ => rfl⟩
  | succ j ih =>
      obtain ⟨first, rest, rfl⟩ := List.exists_cons_of_length_eq_add_one size
      have ready : Ready (n + j + 1) bus := ready
      obtain ⟨here, tail⟩ : first = (byte &&& 1 != 0) ∧ rest ++ kept = (bitsOf byte).tail :=
        List.cons.inj (bits.symm.trans (bitsOf_eq_cons byte))
      have next : Ready (n + j) _ := ready_turned ready (branch_passBit diff last ready first)
      have shifted : bitsOf (shiftIn (passBit diff (n + j + 1) last first (sendings bus)).1 byte) =
          rest ++ (kept ++ [(passBit diff (n + j + 1) last first (sendings bus)).1]) := by
        rw [bitsOf_shiftIn, ← tail, List.append_assoc]
      obtain ⟨s, new, ran, position, left, same, final, passes⟩ :=
        ih _ next shifted (Nat.succ.inj size)
      refine ⟨s, _ :: new, ?_, position, left, same.trans (roms_map _ fun _ => rfl),
        final.trans (List.append_assoc ..), fun later => ?_⟩
      · rw [← Nat.add_assoc, owSearchBits_succ (owSearchBit_spec ready), ← here]
        exact ran
      · rw [List.cons_append, ← Nat.add_assoc, searchPass_cons,
          ← sendings_turned ready.part ready.long, passes later]
        rfl

/-- The bytes of the buffer. -/
theorem owSearchBytes_spec (diff last : ℕ) (id : List UInt8) (ready : Ready (8 * id.length) bus) :
    (owSearchBytes diff id (8 * id.length) last bus).id.length = id.length ∧
      roms (owSearchBytes diff id (8 * id.length) last bus).bus = roms bus ∧
      searchPass diff (8 * id.length) last (romBits id) (sendings bus) =
        (romBits (owSearchBytes diff id (8 * id.length) last bus).id,
          (owSearchBytes diff id (8 * id.length) last bus).diff) := by
  induction id generalizing last bus with
  | nil => exact ⟨rfl, rfl, rfl⟩
  | cons byte id ih =>
      obtain ⟨s, new, ran, position, left, same, final, passes⟩ :=
        owSearchBits_spec diff last 8 (show Ready (8 * id.length + 8) bus from ready)
          (List.append_nil (bitsOf byte)).symm (length_bitsOf byte)
      obtain ⟨size, keeps, rest⟩ := ih s.nextDiff left
      have unfolded : owSearchBytes diff (byte :: id) (8 * (byte :: id).length) last bus =
          { owSearchBytes diff id (8 * id.length) s.nextDiff s.bus with
            id := s.byte :: (owSearchBytes diff id (8 * id.length) s.nextDiff s.bus).id } := by
        rw [← position]
        exact owSearchBytes_cons ran
      rw [unfolded]
      refine ⟨congrArg (· + 1) size, keeps.trans same, (passes (romBits id)).trans ?_⟩
      have final : bitsOf s.byte = new := final
      rw [rest, ← final]
      rfl

/-! ## The command -/

/-- The device behind a command. -/
def OwDevice.commanded (command : List Bool) (device : OwDevice) : OwDevice where
  rom := device.rom
  state := if command = bitsOf searchRom then .send (romBits device.rom.toList) else .idle

/-- While the devices receive a command, they leave the bus to the master. -/
theorem owBitIo_command {received : List Bool}
    (waits : ∀ device ∈ bus, device.state = .command received) (bit : Bool) :
    owBitIo bit bus = (bit, bus.map (OwDevice.next bit)) := by
  have all : bus.all OwDevice.level = true := by
    refine List.all_eq_true.mpr fun device member => ?_
    unfold OwDevice.level
    rw [waits device member]
  unfold owBitIo
  rw [all, Bool.and_true]

theorem next_command {device : OwDevice} {received : List Bool}
    (waits : device.state = .command received) (bit : Bool) :
    device.next bit =
      if received.length + 1 < 8 then ⟨device.rom, .command (received ++ [bit])⟩
      else device.commanded (received ++ [bit]) := by
  unfold OwDevice.next OwDevice.commanded
  rw [waits]
  dsimp only
  split_ifs <;> rfl

/-- The rest of a command. -/
theorem owWriteBits_spec (j : ℕ) (b : UInt8) {received : List Bool} (size : received.length + j = 7)
    (waits : ∀ device ∈ bus, device.state = .command received) :
    (owWriteBits (j + 1) b bus).2 =
      bus.map (OwDevice.commanded (received ++ (bitsOf b).take (j + 1))) := by
  induction j generalizing b received bus with
  | zero =>
      unfold owWriteBits
      rw [owBitIo_command waits, bitsOf_eq_cons, List.take_succ_cons, List.take_zero]
      refine List.map_congr_left fun device member => ?_
      rw [next_command (waits device member), if_neg (by omega)]
  | succ j ih =>
      have heard (device : OwDevice) (member : device ∈ bus) : device.next (b &&& 1 != 0) =
          ⟨device.rom, .command (received ++ [b &&& 1 != 0])⟩ := by
        rw [next_command (waits device member), if_pos (by omega)]
      have rest : (bitsOf (shiftIn (b &&& 1 != 0) b)).take (j + 1) =
          (bitsOf b).tail.take (j + 1) := by
        rw [bitsOf_shiftIn, List.take_append_of_le_length]
        rw [List.length_tail, length_bitsOf]
        omega
      have longer : (received ++ [b &&& 1 != 0]).length + j = 7 := by
        rw [List.length_append, List.length_singleton]
        omega
      unfold owWriteBits
      rw [owBitIo_command waits]
      dsimp only
      rw [ih _ longer, rest, List.map_map, bitsOf_eq_cons b, List.take_succ_cons, List.tail_cons,
        List.append_assoc, List.singleton_append]
      · rfl
      · intro device member
        obtain ⟨before, inside, rfl⟩ := List.mem_map.mp member
        rw [heard before inside]

/-- A search begins with the identifications of all devices. -/
theorem owWriteByte_search (bus : List OwDevice) :
    (owWriteByte searchRom (owReset bus).2).2 =
      bus.map fun device => ⟨device.rom, .send (romBits device.rom.toList)⟩ := by
  have waits : ∀ device ∈ (owReset bus).2, device.state = .command [] := by
    intro device member
    obtain ⟨before, -, rfl⟩ := List.mem_map.mp member
    rfl
  have all : (bitsOf searchRom).take 8 = bitsOf searchRom :=
    List.take_of_length_le (Nat.le_of_eq (length_bitsOf _))
  unfold owWriteByte
  rw [owWriteBits_spec 7 searchRom rfl waits, List.nil_append, all]
  unfold owReset
  rw [List.map_map]
  refine List.map_congr_left fun device _ => ?_
  unfold OwDevice.commanded
  dsimp only [Function.comp_apply]
  rw [if_pos rfl]

/-- The strings of a search. -/
def romStrings (bus : List OwDevice) : List (List Bool) :=
  (roms bus).map fun rom => romBits rom.toList

theorem ofLength_romStrings : OfLength 64 (romStrings bus) := by
  intro string member
  obtain ⟨rom, -, rfl⟩ := List.mem_map.mp member
  rw [length_romBits, Vector.length_toList]

theorem romStrings_ne_nil (found : bus ≠ []) : romStrings bus ≠ [] := by
  unfold romStrings roms
  rw [List.map_map]
  exact fun none => found (List.map_eq_nil_iff.mp none)

/-- A call of `ow_rom_search` is a pass through the identifications. -/
theorem owRomSearch_spec (diff : ℕ) (found : bus ≠ []) {id : List UInt8} (size : id.length = 8) :
    (owRomSearch diff id bus).id.length = 8 ∧ roms (owRomSearch diff id bus).bus = roms bus ∧
      searchPass diff 64 lastDevice (romBits id) (romStrings bus) =
        (romBits (owRomSearch diff id bus).id, (owRomSearch diff id bus).diff) := by
  have sent : sendings (owWriteByte searchRom (owReset bus).2).2 = romStrings bus := by
    rw [owWriteByte_search]
    unfold sendings romStrings roms
    rw [List.filterMap_map, List.map_map]
    exact congrFun List.filterMap_eq_map bus
  have ready : Ready (8 * id.length) (owWriteByte searchRom (owReset bus).2).2 := by
    rw [size]
    refine ⟨fun device member => ?_, sent ▸ ofLength_romStrings, sent ▸ romStrings_ne_nil found⟩
    rw [owWriteByte_search] at member
    obtain ⟨before, -, rfl⟩ := List.mem_map.mp member
    exact .inr ⟨_, rfl⟩
  have same : roms (owWriteByte searchRom (owReset bus).2).2 = roms bus := by
    rw [owWriteByte_search]
    exact roms_map _ fun _ => rfl
  have ran : owRomSearch diff id bus = owSearchBytes diff id (8 * id.length) lastDevice
      (owWriteByte searchRom (owReset bus).2).2 := by
    have present : (owReset bus).1 = false := by
      unfold owReset
      cases bus with
      | nil => exact absurd rfl found
      | cons device bus => rfl
    unfold owRomSearch
    dsimp only
    rw [present, size]
    rfl
  obtain ⟨long, keeps, passes⟩ := owSearchBytes_spec diff lastDevice id ready
  rw [ran]
  refine ⟨long.trans size, keeps.trans same, ?_⟩
  rw [← passes, sent, size]

section Discovery

variable {self dst : UInt16} {passes : ℕ}

theorem owDiscoverLoop_last (id : List UInt8) (bus : List OwDevice) :
    owDiscoverLoop self dst passes lastDevice id bus = some [] := by
  cases passes <;> exact if_pos rfl

/-- A pass that finds a device reports it. -/
theorem owDiscoverLoop_succ {id : List UInt8} (more : diff ≠ lastDevice)
    (sound : (owRomSearch diff id bus).diff ≤ 64) :
    owDiscoverLoop self dst (passes + 1) diff id bus =
      (owDiscoverLoop self dst passes (owRomSearch diff id bus).diff (owRomSearch diff id bus).id
        (owRomSearch diff id bus).bus).map
          (discovered self dst (owRomSearch diff id bus).id ++ ·) := by
  have present : (owRomSearch diff id bus).diff ≠ presenceErr := by
    intro same
    rw [same] at sound
    exact absurd sound (by decide)
  have correct : (owRomSearch diff id bus).diff ≠ dataErr := by
    intro same
    rw [same] at sound
    exact absurd sound (by decide)
  rw [owDiscoverLoop, if_neg more]
  dsimp only
  rw [if_neg present, if_neg correct]

/-- The messages about several devices. -/
def discoveredAll (self dst : UInt16) (ids : List (Vector UInt8 8)) : List CanixFrame :=
  ids.flatMap fun id => discovered self dst id.toList

/-- From this device on the loop reports these strings. -/
def Reports (self dst : UInt16) (strings : List (List Bool)) (diff : ℕ) (id : List UInt8)
    (bus : List OwDevice) (rest : List (List Bool)) : Prop :=
  id.length = 8 → bus ≠ [] → romStrings bus = strings →
    ∃ ids : List (Vector UInt8 8), (ids.map fun id => romBits id.toList) = rest ∧
      ∀ passes ≥ rest.length, owDiscoverLoop self dst passes diff id bus =
        some (discoveredAll self dst ids)

/-- A pass reports the device that it leads to, and then the rest. -/
theorem reports_cons {strings rest : List (List Bool)} {next : List Bool} {id : List UInt8}
    (more : diff ≠ lastDevice) (wide : next.length = 64)
    (leads : searchPass diff 64 lastDevice (romBits id) strings =
      (next, (turn next strings).getD lastDevice))
    (later : ∀ id bus, romBits id = next →
      Reports self dst strings ((turn next strings).getD lastDevice) id bus rest) :
    Reports self dst strings diff id bus (next :: rest) := by
  intro size found same
  obtain ⟨size', keeps, spec⟩ := owRomSearch_spec diff found size
  obtain ⟨bits, turns⟩ := Prod.ext_iff.mp ((same ▸ spec).symm.trans leads)
  dsimp only at bits turns
  have sound : (owRomSearch diff id bus).diff ≤ 64 := by
    rw [turns]
    cases deeper : turn next strings with
    | none => exact Nat.zero_le 64
    | some turn => exact wide ▸ turn_le deeper
  have found' : (owRomSearch diff id bus).bus ≠ [] := by
    intro none
    rw [none] at keeps
    exact found (List.map_eq_nil_iff.mp keeps.symm)
  have same' : romStrings (owRomSearch diff id bus).bus = strings := by
    rw [← same, romStrings, keeps]
    rfl
  obtain ⟨ids, listed, reports⟩ := later _ _ bits size' found' same'
  refine ⟨⟨⟨(owRomSearch diff id bus).id⟩, size'⟩ :: ids, ?_, fun passes enough => ?_⟩
  · rw [List.map_cons, listed, ← bits]
    rfl
  · obtain ⟨left, rfl⟩ := Nat.exists_eq_add_of_le' (Nat.lt_of_lt_of_le (Nat.succ_pos _) enough)
    have reported := reports left (Nat.le_of_succ_le_succ enough)
    rw [← turns] at reported
    rw [owDiscoverLoop_succ more sound, reported]
    rfl

/-- Behind a device the loop reports the lesser ones. -/
theorem reports_rest {strings front rest : List (List Bool)} {string : List Bool}
    (long : OfLength 64 strings) (cut : descending 64 strings = front ++ string :: rest)
    {id : List UInt8} (here : romBits id = string) :
    Reports self dst strings ((turn string strings).getD lastDevice) id bus rest := by
  induction rest generalizing front string id bus with
  | nil =>
      have last : string ∈ (descending 64 strings).getLast? := by
        rw [cut, List.getLast?_concat]
        rfl
      refine fun _ _ _ => ⟨[], rfl, fun passes _ => ?_⟩
      rw [turn_last long last]
      exact owDiscoverLoop_last id bus
  | cons next rest ih =>
      have chain := isChain_descending long
      rw [cut, List.isChain_append_cons_cons] at chain
      obtain ⟨-, wide, diff, -, positive, turned, leads⟩ := chain.2.1
      rw [List.append_cons] at cut
      rw [turned, Option.getD_some]
      exact reports_cons (Nat.ne_of_gt positive) wide (here ▸ leads lastDevice)
        fun id bus bits => ih cut bits

end Discovery

end Search

/-- The discovery reports each device of the bus once. -/
theorem owDiscover_complete (self : UInt16) (frame : CanixFrame) (id : Vector UInt8 8)
    (bus : List OwDevice) (found : bus ≠ []) (once : (roms bus).Nodup) :
    ∃ ids : List (Vector UInt8 8), ids.Perm (roms bus) ∧
      ∀ passes ≥ bus.length,
        owDiscover self passes frame id bus = some (discoveredAll self frame.src ids) := by
  have long : OfLength 64 (romStrings bus) := ofLength_romStrings
  have injective : Function.Injective fun rom : Vector UInt8 8 => romBits rom.toList := by
    intro rom other same
    refine Vector.toList_inj.mp (romBits_injective ?_ same)
    rw [Vector.length_toList, Vector.length_toList]
  have perm : (descending 64 (romStrings bus)).Perm (romStrings bus) :=
    descending_perm long (once.map injective)
  obtain ⟨first, rest, cut⟩ :=
    List.exists_cons_of_ne_nil (descending_ne_nil long (romStrings_ne_nil found))
  have greatest : first ∈ (descending 64 (romStrings bus)).head? := by
    rw [cut]
    rfl
  have wide : first.length = 64 :=
    long first ((mem_descending long).mp (List.mem_of_mem_head? greatest))
  have size : id.toList.length = 8 := Vector.length_toList
  have passed : searchPass searchFirst 64 lastDevice (romBits id.toList) (romStrings bus) = _ :=
    searchPass_first (by decide) long (by rw [length_romBits, size]) greatest
  have behind : descending 64 (romStrings bus) = [] ++ first :: rest := cut
  have all : Reports self frame.src (romStrings bus) searchFirst id.toList bus (first :: rest) :=
    reports_cons (by decide) wide passed fun _ _ here => reports_rest long behind here
  obtain ⟨ids, listed, reports⟩ := all size found rfl
  rw [← cut] at listed reports
  refine ⟨ids, (List.map_perm_map_iff injective).mp (listed ▸ perm), fun passes enough => ?_⟩
  refine reports passes ?_
  rw [perm.length_eq, romStrings, roms, List.length_map, List.length_map]
  exact enough

/-- A bus with two sensors. -/
def sensorBus : List OwDevice :=
  [⟨Vector.replicate 8 0x28, .idle⟩, ⟨Vector.replicate 8 0x10, .idle⟩]

/-- Both sensors are reported. -/
theorem sensorBus_discovered :
    ∃ ids : List (Vector UInt8 8), ids.Perm (roms sensorBus) ∧
      ∀ passes ≥ sensorBus.length,
        owDiscover 5 passes (hesFrame 7 5 3 hcanHes1wireDiscover 0 0 0 0 0 0)
          (Vector.replicate 8 0) sensorBus = some (discoveredAll 5 7 ids) :=
  owDiscover_complete 5 (hesFrame 7 5 3 hcanHes1wireDiscover 0 0 0 0 0 0) (Vector.replicate 8 0)
    sensorBus (List.cons_ne_nil _ _) (by decide)

end Hcan.Hauselektrik
