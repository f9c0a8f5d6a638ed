import Hcan.Hauselektrik.Devices
import Hcan.Host.Commands
import Hcan.Library.Bits

/-!
# The heating command of telican

`heizung_command::exec`: a line is compared with one pattern after the other, its numbers
are read with `lexical_cast`, and a frame goes to all controllers.
-/

namespace Hcan.Telican

open Hcan.Canix Hcan.Host Hcan.Hauselektrik
open Hcan.Library (uint8_ofInt_natCast uint16_ofInt_natCast)

/-! ## Patterns

Every part of a pattern takes all characters that it can, and none of them can begin the
next part, so that no pattern needs a second try. -/

/-- `[[:word:]-]`. -/
def isNameChar (c : UInt8) : Bool :=
  isDigit c || (65 ≤ c && c ≤ 90) || (97 ≤ c && c ≤ 122) || c == 95 || c == 45

def isBlank (c : UInt8) : Bool := c == 32

/-- A character class with `+`: the characters and the text behind. -/
def some1 (inClass : UInt8 → Bool) (line : Text) : Option (Text × Text) :=
  let found := line.takeWhile inClass
  if found.isEmpty then none else some (found, line.dropWhile inClass)

def word (expected line : Text) : Option Text :=
  if expected.isPrefixOf line then some (line.drop expected.length) else none

/-- `" *$"`. -/
def isEnd (line : Text) : Bool := line.all isBlank

/-- `"^heizung *"`. -/
def heizungWord (line : Text) : Option Text :=
  (word (text "heizung") line).map (List.dropWhile isBlank)

/-- `"^heizung *([[:word:]-]+)"`. -/
def heizungName (line : Text) : Option (Text × Text) :=
  (heizungWord line).bind (some1 isNameChar)

/-- The name and what stands behind ` +` and the word of a mode. -/
def heizungMode (mode : Text) (line : Text) : Option (Text × Text) := do
  let (name, rest) ← heizungName line
  let (_, rest) ← some1 isBlank rest
  let rest ← word mode rest
  some (name, rest)

/-- The name behind which the line ends with the word of a mode. -/
def heizungPlain (mode : Text) (line : Text) : Option Text := do
  let (name, rest) ← heizungMode mode line
  if isEnd rest then some name else none

/-- The name and two numbers behind the word of a mode. -/
def heizungTimed (mode : Text) (inFirst : UInt8 → Bool) (line : Text) :
    Option (Text × Text × Text) := do
  let (name, rest) ← heizungMode mode line
  let (_, rest) ← some1 isBlank rest
  let (first, rest) ← some1 inFirst rest
  let (_, rest) ← some1 isBlank rest
  let (second, rest) ← some1 isDigit rest
  if isEnd rest then some (name, first, second) else none

/-- `"^heizung *([[:word:]-]+) +manuell +([0-9]+) +([0-9]+) *$"`. -/
def heizungManuell (line : Text) : Option (Text × Text × Text) :=
  heizungTimed (text "manuell") isDigit line

/-- `"^heizung *([[:word:]-]+) +therm +([0-9\\.]+) +([0-9]+) *$"`. -/
def heizungTherm (line : Text) : Option (Text × Text × Text) :=
  heizungTimed (text "therm") (fun c => isDigit c || c == 46) line

theorem some1_eq_some {inClass : UInt8 → Bool} {line found rest : Text}
    (split : some1 inClass line = some (found, rest)) :
    line = found ++ rest ∧ found ≠ [] ∧ found.all inClass = true := by
  unfold some1 at split
  dsimp only at split
  by_cases empty : (line.takeWhile inClass).isEmpty = true
  · rw [if_pos empty] at split
    cases split
  · rw [if_neg empty] at split
    cases split
    exact ⟨List.takeWhile_append_dropWhile.symm, fun none => empty (List.isEmpty_iff.mpr none),
      List.all_takeWhile⟩

/-- Behind a character that is no blank the line does not end. -/
theorem isEnd_of_some1 {inClass : UInt8 → Bool} {line found rest : Text}
    (split : some1 inClass line = some (found, rest)) (blank : inClass 32 = false) :
    isEnd line = false := by
  obtain ⟨rfl, more, all⟩ := some1_eq_some split
  cases found with
  | nil => exact absurd rfl more
  | cons c found =>
      rw [List.all_cons, Bool.and_eq_true] at all
      unfold isEnd
      rw [List.cons_append, List.all_cons]
      have other : isBlank c = false := by
        apply Bool.eq_false_of_not_eq_true
        intro same
        rw [beq_iff_eq.mp same, blank] at all
        exact Bool.false_ne_true all.1
      rw [other, Bool.false_and]

theorem word_eq_some {expected line rest : Text} (found : word expected line = some rest) :
    line = expected ++ rest := by
  unfold word at found
  by_cases start : expected.isPrefixOf line = true
  · rw [if_pos start] at found
    cases found
    exact (List.prefix_iff_eq_append.mp (List.isPrefixOf_iff_prefix.mp start)).symm
  · rw [if_neg start] at found
    cases found

theorem heizungMode_eq_some {mode line name rest : Text}
    (found : heizungMode mode line = some (name, rest)) :
    ∃ blanks, heizungName line = some (name, blanks ++ (mode ++ rest)) ∧
      some1 isBlank (blanks ++ (mode ++ rest)) = some (blanks, mode ++ rest) := by
  unfold heizungMode at found
  obtain ⟨⟨name', behind⟩, named, found⟩ := Option.bind_eq_some_iff.mp found
  obtain ⟨⟨blanks, tail⟩, split, found⟩ := Option.bind_eq_some_iff.mp found
  obtain ⟨rest', matched, found⟩ := Option.bind_eq_some_iff.mp found
  cases found
  have tailIs := word_eq_some matched
  have behindIs := (some1_eq_some split).1
  subst tailIs behindIs
  exact ⟨blanks, named, split⟩

/-! ## Execution -/

/-- What lies outside the command: the address of telican, the group of a name in the
installation, a product that does not fit into an `int`, and a temperature as
`lexical_cast<float>` reads it, times 16 and without its fraction. -/
structure HeizungCommand where
  src : UInt16
  heizungIdByName : Text → Option UInt8
  overflow : Int → Int
  sixteenths : Text → Option Nat

inductive TelicanError where
  | gruppeNotFound
  | badLexicalCast
  | transport (message : Text)
  | unknownMode
  deriving DecidableEq, Repr

/-- `false`, a listing, the details of a heating, or a frame. -/
inductive HeizungAction where
  | unknown
  | printHeizungen
  | printHeizung (id : UInt8)
  | send (frame : CanixFrame)
  deriving DecidableEq, Repr

/-- The number that digits stand for. -/
def digitsValue (digits : Text) : Nat :=
  digits.foldl (fun n digit => 10 * n + (digit.toNat - 48)) 0

/-- `boost::lexical_cast<int>` of digits. -/
def lexicalCastInt (digits : Text) : Except TelicanError Int :=
  if digitsValue digits ≤ 2147483647 then .ok (digitsValue digits) else .error .badLexicalCast

theorem lexicalCastInt_ok {digits : Text} {n : Int} (read : lexicalCastInt digits = .ok n) :
    n = digitsValue digits := by
  unfold lexicalCastInt at read
  split at read
  · cases read
    rfl
  · cases read

namespace HeizungCommand

variable (command : HeizungCommand)

/-- `uint16_t dauer = boost::lexical_cast<int>(…) * 60`. -/
def dauer (minutes : Int) : UInt16 :=
  UInt16.ofInt <| if minutes * 60 < 2147483648 then minutes * 60
    else command.overflow (minutes * 60)

def idByName (name : Text) : Except TelicanError UInt8 :=
  match command.heizungIdByName name with
  | some id => .ok id
  | none => .error .gruppeNotFound

def sendSetModeAutomatik (id : UInt8) : CanixFrame :=
  hesFrame command.src hcanMulticastControl 3 hcanHesHeizungSetModeAutomatik id 0 0 0 0 0

def sendSetModeOff (id : UInt8) : CanixFrame :=
  hesFrame command.src hcanMulticastControl 3 hcanHesHeizungSetModeOff id 0 0 0 0 0

def sendSetModeManual (id rate durationHi durationLo : UInt8) : CanixFrame :=
  hesFrame command.src hcanMulticastControl 6 hcanHesHeizungSetModeManual id rate durationHi
    durationLo 0 0

def sendSetModeThermostatDetails (id tempHi tempLo durationHi durationLo : UInt8) : CanixFrame :=
  hesFrame command.src hcanMulticastControl 7 hcanHesHeizungSetModeThermostatDetails id tempHi
    tempLo durationHi durationLo 0

def execManuell (name first second : Text) : Except TelicanError HeizungAction := do
  let id ← command.idByName name
  let stellgrad ← lexicalCastInt first
  let minutes ← lexicalCastInt second
  let dauer := command.dauer minutes
  .ok (.send (command.sendSetModeManual id (UInt8.ofInt stellgrad) (wordHi dauer) (wordLo dauer)))

def execTherm (name first second : Text) : Except TelicanError HeizungAction := do
  let id ← command.idByName name
  match command.sixteenths first with
  | none => .error .badLexicalCast
  | some temp =>
      let minutes ← lexicalCastInt second
      let dauer := command.dauer minutes
      .ok (.send (command.sendSetModeThermostatDetails id (wordHi (UInt16.ofNat temp))
        (wordLo (UInt16.ofNat temp)) (wordHi dauer) (wordLo dauer)))

/-- `heizung_command::exec` on `line.c_str()`. -/
def exec (line : Text) : Except TelicanError HeizungAction :=
  let line := line.takeWhile (· != 0)
  if (heizungWord line).any isEnd then .ok .printHeizungen
  else
    match (heizungName line).filter fun found => isEnd found.2 with
    | some (name, _) => do
        let id ← command.idByName name
        .ok (.printHeizung id)
    | none =>
      match heizungPlain (text "auto") line with
      | some name => do
          let id ← command.idByName name
          .ok (.send (command.sendSetModeAutomatik id))
      | none =>
        match heizungPlain (text "aus") line with
        | some name => do
            let id ← command.idByName name
            .ok (.send (command.sendSetModeOff id))
        | none =>
          match heizungManuell line with
          | some (name, first, second) => command.execManuell name first second
          | none =>
            match heizungTherm line with
            | some (name, first, second) => command.execTherm name first second
            | none => .ok .unknown

/-- No earlier pattern matches a line with `manuell`. -/
theorem exec_manuell {line name first second : Text}
    (found : heizungManuell (line.takeWhile (· != 0)) = some (name, first, second)) :
    command.exec line = command.execManuell name first second := by
  obtain ⟨⟨name', tail⟩, mode, -⟩ := Option.bind_eq_some_iff.mp found
  obtain ⟨blanks, named, gap⟩ := heizungMode_eq_some mode
  have others (mode : Text) (apart : word mode (text "manuell" ++ tail) = none) :
      heizungPlain mode (line.takeWhile (· != 0)) = none := by
    unfold heizungPlain heizungMode
    rw [named]
    change ((some1 isBlank (blanks ++ (text "manuell" ++ tail))).bind _).bind _ = none
    rw [gap]
    change (((word mode (text "manuell" ++ tail)).bind _).bind _) = none
    rw [apart]
    rfl
  have list : (heizungWord (line.takeWhile (· != 0))).any isEnd = false := by
    obtain ⟨behind, start, split⟩ := Option.bind_eq_some_iff.mp named
    rw [start]
    exact isEnd_of_some1 split (by decide)
  have details : (heizungName (line.takeWhile (· != 0))).filter (fun found => isEnd found.2) =
      none := by
    have more : (text "manuell").all isBlank = false := rfl
    rw [named, Option.filter_some, if_neg]
    change ¬List.all _ _ = true
    rw [List.all_append, List.all_append, more, Bool.false_and, Bool.and_false]
    exact Bool.noConfusion
  unfold exec
  dsimp only
  rw [list, details, others (text "auto") rfl, others (text "aus") rfl, found]
  rfl

/-- What an accepted line with two numbers sends. -/
theorem execManuell_send {name first second : Text} {id : UInt8} {frame : CanixFrame}
    (named : command.heizungIdByName name = some id)
    (accepted : command.execManuell name first second = .ok (.send frame)) :
    frame = command.sendSetModeManual id (UInt8.ofInt (digitsValue first))
      (wordHi (command.dauer (digitsValue second)))
      (wordLo (command.dauer (digitsValue second))) := by
  have known : command.idByName name = .ok id := by
    unfold idByName
    rw [named]
  unfold execManuell at accepted
  rw [known] at accepted
  cases rate : lexicalCastInt first with
  | error error =>
      rw [rate] at accepted
      cases accepted
  | ok stellgrad =>
      cases minutes : lexicalCastInt second with
      | error error =>
          rw [rate, minutes] at accepted
          cases accepted
      | ok dauer =>
          rw [rate, minutes] at accepted
          cases accepted
          rw [lexicalCastInt_ok rate, lexicalCastInt_ok minutes]

/-- The seconds that fit into 16 bits. -/
theorem dauer_toNat {minutes : Nat} (fits : minutes * 60 < 65536) :
    (command.dauer minutes).toNat = minutes * 60 := by
  unfold dauer
  rw [if_pos (by omega)]
  change (UInt16.ofInt ((minutes * 60 : Nat) : Int)).toNat = _
  rw [uint16_ofInt_natCast, Nat.mod_eq_of_lt fits]

end HeizungCommand

end Hcan.Telican
