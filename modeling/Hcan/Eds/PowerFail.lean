import Hcan.Eds.Format
import Hcan.Eds.Requests

/-!
# Power failures

The content after a power failure is the old one with a prefix of the writes of
the interrupted operation.  The structural requests survive every prefix.
Formatting does not: its two magic bytes, by which `eds_init` recognises a
formatted area, are written before the chain.
-/

namespace Hcan.Eds

open Hcan.Canix Hcan.Library

variable {mcu : Mcu} {content : Nat → UInt8}

theorem edsInit_of_formated {ee : Eeprom mcu} (formated : edsFormated ee = true) :
    edsInit ee = some (ee, edsOk) := by
  rw [edsInit, if_pos formated]

theorem edsFormated_iff (ee : Eeprom mcu) :
    edsFormated ee = true ↔ ee.cell edsStart = edsMagic1 ∧ ee.cell (edsStart + 1) = edsMagic2 := by
  have limit := le_edsEnd mcu
  have first : eepromReadByte ee edsStart = ee.cell edsStart :=
    eepromReadByte_of_le ee (by
      change 32 ≤ edsEnd mcu
      omega)
  have second : eepromReadByte ee (ptrAdd edsStart 1) = ee.cell (edsStart + 1) :=
    eepromReadByte_of_le ee (by
      change 33 ≤ edsEnd mcu
      omega)
  rw [edsFormated, first, second, Bool.and_eq_true, beq_iff_eq, beq_iff_eq]

/-- Power-fail atomicity.  Whatever prefix of the writes of a structural request
is done, the area is well formed, every allocated block that the request does not
free is on the chain with its old bytes, and a board that was formatted starts
without formatting. -/
theorem powerFail_keeps_blocks (self : UInt16) (wellFormed : WellFormed mcu content)
    {frame : CanixFrame} (request : AllocatorRequest (.powerUp content : Eeprom mcu) frame) :
    ∃ later answer, edsCanCallback self (.powerUp content : Eeprom mcu) frame =
        some (later, answer) ∧
      ∀ count, WellFormed mcu (Eeprom.powerFail content later count) ∧
        (∀ p, OnChain mcu content p → content p ≠ 0 → ¬ Frees frame p →
          OnChain mcu (Eeprom.powerFail content later count) p ∧
            ∀ address, InBlock content p address →
              Eeprom.powerFail content later count address = content address) ∧
        (edsFormated (.powerUp content : Eeprom mcu) = true →
          edsInit (.powerUp (Eeprom.powerFail content later count) : Eeprom mcu) =
            some (.powerUp (Eeprom.powerFail content later count), edsOk)) := by
  obtain ⟨path, chain⟩ := wellFormed
  obtain ⟨later, answer, log, newPath, served, wrote, progress⟩ :=
    request_progress (fun p => (p ∈ path ∧ content p ≠ 0) ∧ ¬ Frees frame p) self
      (.powerUp content) request chain fun _ isKept => isKept
  have failed : ∀ count, Eeprom.powerFail content later count =
      replay (log.take count) content := by
    intro count
    rw [Eeprom.powerFail, wrote.log, Eeprom.powerUp_log, List.nil_append]
  refine ⟨later, answer, served, fun count => ?_⟩
  rw [failed count]
  obtain ⟨path', chain', kept'⟩ := progress.prefixes count
  rw [Eeprom.powerUp_cell] at chain'
  refine ⟨⟨path', chain'⟩, ?_, ?_⟩
  · intro p onChain allocated notFreed
    have isKept := And.intro (And.intro (chain.onChain_iff.mp onChain) allocated) notFreed
    exact ⟨⟨path', chain', kept' p isKept⟩,
      fun address inside => progress.unchanged_take count isKept inside⟩
  · intro formated
    apply edsInit_of_formated
    rw [edsFormated_iff] at formated ⊢
    simp only [Eeprom.powerUp_cell] at formated ⊢
    have first := progress.outside_take count (show edsStart < edsDataStart by decide)
    have second := progress.outside_take count (show edsStart + 1 < edsDataStart by decide)
    rw [Eeprom.powerUp_cell] at first second
    rwa [first, second]

/-- FREE of the block at address 291. -/
def freeSecond : CanixFrame where
  src := 2
  dst := 7
  proto := hcanProtoSfp
  size := 4
  data := #v[hcanSrvEds, hcanEdsFreeBlock, 1, 35, 0, 0, 0, 0]

theorem powerFail_keeps_blocks_fullArea :
    ∃ later answer, edsCanCallback 7 (.powerUp fullArea : Eeprom atmega32) freeSecond =
        some (later, answer) ∧
      OnChain atmega32 (Eeprom.powerFail fullArea later 1) 548 := by
  obtain ⟨later, answer, served, keeps⟩ :=
    powerFail_keeps_blocks 7 ⟨_, fullArea_isChain⟩
      (AllocatorRequest.free (show freeSecond.data[1] = hcanEdsFreeBlock from rfl))
  exact ⟨later, answer, served, ((keeps 1).2.1 548 ⟨_, fullArea_isChain, by decide⟩
    (by decide) fun frees => absurd frees.2 (by decide)).1⟩

/-! ## Formatting -/

/-- After a failure behind `count` writes, the reboot runs `eds_init` and finds
or makes a well-formed area. -/
def Recovers (mcu : Mcu) (content : Nat → UInt8) (later : Eeprom mcu) (count : Nat) : Prop :=
  ∃ rebooted result, edsInit (.powerUp (Eeprom.powerFail content later count) : Eeprom mcu) =
    some (rebooted, result) ∧ WellFormed mcu rebooted.cell

/-- Both magic bytes are in place after `count` writes: written, or there before. -/
def MagicAfter (content : Nat → UInt8) (count : Nat) : Prop :=
  (1 ≤ count ∨ content edsStart = edsMagic1) ∧ (2 ≤ count ∨ content (edsStart + 1) = edsMagic2)

/-- The first header that `count` writes have not written completely. -/
def firstMissing (mcu : Mcu) (count : Nat) : Nat :=
  formatAt mcu (min ((count - 2) / 2) (formatCount mcu))

variable {later : Eeprom mcu} {count : Nat}

theorem magic_powerFail (content : Nat → UInt8) (count : Nat) (logged : later.log = formatLog mcu) :
    edsFormated (.powerUp (Eeprom.powerFail content later count) : Eeprom mcu) = true ↔
      MagicAfter content count := by
  have startAt : edsStart ≠ edsStart + 1 := (Nat.succ_ne_self _).symm
  have behind : ∀ (rest : Nat) (memory : Nat → UInt8) (address : Nat), address < edsDataStart →
      replay ((headersLog mcu 0 (formatCount mcu)).take rest) memory address = memory address := by
    intro rest memory address before
    refine replay_other fun write member same => ?_
    have low := le_headersLog (List.mem_of_mem_take member)
    rw [formatAt_zero] at low
    omega
  rw [edsFormated_iff, Eeprom.powerUp_cell, Eeprom.powerFail, logged, formatLog, MagicAfter]
  obtain _ | _ | rest := count
  case zero => simp
  case succ.zero => simp
  case succ.succ =>
      simp only [List.take_succ_cons, replay_cons, behind rest _ edsStart (by decide),
        behind rest _ (edsStart + 1) (by decide), Function.update_of_ne startAt,
        Function.update_self]
      simp

theorem wellFormed_powerFail (logged : later.log = formatLog mcu) :
    WellFormed mcu (Eeprom.powerFail content later count) ↔
      ReachesEnd mcu content (firstMissing mcu count) := by
  have above : ∀ j, edsDataStart ≤ formatAt mcu j := by
    intro j
    have limit := le_edsEnd mcu
    have start : edsDataStart = 34 := rfl
    unfold formatAt
    omega
  rw [wellFormed_iff, Eeprom.powerFail, logged, formatLog]
  obtain _ | _ | rest := count
  case zero =>
      rw [firstMissing, Nat.zero_sub, Nat.zero_div, Nat.zero_min, formatAt_zero, List.take_zero,
        replay_nil]
  case succ.zero =>
      have magicAt : edsStart < edsDataStart := by decide
      rw [firstMissing, Nat.sub_eq_zero_of_le (by decide), Nat.zero_div, Nat.zero_min,
        formatAt_zero, List.take_succ_cons, List.take_zero, replay_cons, replay_nil]
      exact reachesEnd_congr fun address behind =>
        Function.update_of_ne (magicAt.trans behind).ne' _ _
  case succ.succ =>
      have magicAt : edsStart + 1 < edsDataStart := by decide
      rw [List.take_succ_cons, List.take_succ_cons, replay_cons, replay_cons, ← formatAt_zero mcu,
        reachesEnd_headersLog (Nat.zero_add _), Nat.zero_add, firstMissing,
          show rest + 1 + 1 - 2 = rest from rfl]
      refine reachesEnd_congr fun address behind => ?_
      have low := above (min (rest / 2) (formatCount mcu))
      rw [Function.update_of_ne (by omega), Function.update_of_ne (by omega)]

/-- Formatting from any content, cut off behind any number of writes, recovers
exactly when the magic is not yet complete or the old content is a chain from
the first missing header on. -/
theorem recovers_formatLog (logged : later.log = formatLog mcu) :
    Recovers mcu content later count ↔
      ¬ MagicAfter content count ∨ ReachesEnd mcu content (firstMissing mcu count) := by
  have magic := magic_powerFail content count logged
  by_cases formated : edsFormated (.powerUp (Eeprom.powerFail content later count) : Eeprom mcu)
  · have present := magic.mp formated
    rw [← wellFormed_powerFail logged]
    constructor
    · rintro ⟨rebooted, result, booted, wellFormed⟩
      rw [edsInit_of_formated formated] at booted
      cases booted
      exact .inr wellFormed
    · rintro (missing | wellFormed)
      · exact absurd present missing
      · exact ⟨_, _, edsInit_of_formated formated, wellFormed⟩
  · have missing : ¬ MagicAfter content count := fun present => formated (magic.mpr present)
    obtain ⟨again, format, -⟩ :=
      edsFormat_spec (.powerUp (Eeprom.powerFail content later count) : Eeprom mcu)
    refine ⟨fun _ => .inl missing, fun _ => ⟨again, edsNotFormated, ?_,
      edsFormat_wellFormed format⟩⟩
    rw [edsInit, if_neg formated, format, Option.map_some]

/-- Crash recovery of formatting, started by `eds_init` on an unformatted area
or by a request. -/
theorem format_recovers_iff (self : UInt16) (mcu : Mcu) (content : Nat → UInt8) (count : Nat) :
    (edsFormated (.powerUp content : Eeprom mcu) = false →
      ∃ later, edsInit (.powerUp content : Eeprom mcu) = some (later, edsNotFormated) ∧
        (Recovers mcu content later count ↔
          ¬ MagicAfter content count ∨ ReachesEnd mcu content (firstMissing mcu count))) ∧
    (∀ frame : CanixFrame, frame.data[1] = hcanEdsFormat →
      ∃ later, edsCanCallback self (.powerUp content : Eeprom mcu) frame = some (later, none) ∧
        (Recovers mcu content later count ↔
          ¬ MagicAfter content count ∨ ReachesEnd mcu content (firstMissing mcu count))) := by
  obtain ⟨later, format, wrote⟩ := edsFormat_spec (.powerUp content : Eeprom mcu)
  have logged : later.log = formatLog mcu := by
    rw [wrote.log, Eeprom.powerUp_log, List.nil_append]
  constructor
  · intro unformated
    refine ⟨later, ?_, recovers_formatLog logged⟩
    rw [edsInit, if_neg (by rw [unformated]; decide), format, Option.map_some]
  · intro frame command
    refine ⟨later, ?_, recovers_formatLog logged⟩
    rw [edsCanCallback_format self _ command, format, Option.map_some]

/-- An erased EEPROM. -/
def erased (_ : Nat) : UInt8 := 255

/-- The old bytes of an erased EEPROM are no chain. -/
theorem erased_not_reachesEnd : ¬ ReachesEnd atmega32 erased edsDataStart := by
  rw [reachesEnd_step (by decide), reachesEnd_step (by decide), reachesEnd_step (by decide),
    reachesEnd_step (by decide)]
  rintro ⟨path, walk, below⟩
  cases path with
  | nil => exact absurd (Walk.nil_iff.mp walk) (by decide)
  | cons p path =>
      have here := below p List.mem_cons_self
      rw [(Walk.cons_iff.mp walk).1] at here
      exact absurd here (by decide)

/-- The first start of a board with an erased EEPROM, cut off behind both magic
bytes, leaves an area that the next start takes for formatted. -/
theorem erased_not_recovered :
    edsFormated (.powerUp erased : Eeprom atmega32) = false ∧
      ∃ later, edsInit (.powerUp erased : Eeprom atmega32) = some (later, edsNotFormated) ∧
        ¬ Recovers atmega32 erased later 2 := by
  obtain ⟨later, format, wrote⟩ := edsFormat_spec (.powerUp erased : Eeprom atmega32)
  have logged : later.log = formatLog atmega32 := by
    rw [wrote.log, Eeprom.powerUp_log, List.nil_append]
  have unformated : edsFormated (.powerUp erased : Eeprom atmega32) = false := by decide
  refine ⟨unformated, later, ?_, ?_⟩
  · rw [edsInit, if_neg (by rw [unformated]; decide), format, Option.map_some]
  · rw [recovers_formatLog logged]
    rintro (missing | chain)
    · exact missing ⟨.inl (by decide), .inl (by decide)⟩
    · exact erased_not_reachesEnd chain

theorem format_recovers_iff_erased :
    ∃ later, edsInit (.powerUp erased : Eeprom atmega32) = some (later, edsNotFormated) ∧
      (Recovers atmega32 erased later 1 ↔
        ¬ MagicAfter erased 1 ∨ ReachesEnd atmega32 erased (firstMissing atmega32 1)) :=
  (format_recovers_iff 7 atmega32 erased 1).1 (by decide)

end Hcan.Eds
