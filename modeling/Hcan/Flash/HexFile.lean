import Hcan.Flash.Loader
import Hcan.Host.Commands
import Mathlib.Algebra.Ring.Nat

/-!
# Loading an Intel HEX file

The lines of the file are read into a buffer of 512 characters; the record type and the data of a
line are cut out of it and read as numbers.  A cut behind the end of the line throws.  A number
that the text does not hold leaves the variable of the source uninitialised; its content is an
argument here.  The loop that pads the data counts in eight bits and may never end, so loading
takes fuel.
-/

namespace Hcan.Flash

open Hcan.Host

inductive HexError where
  /-- `substr` throws `out_of_range`. -/
  | outOfRange
  /-- The assertion behind the padding. -/
  | assertion
  deriving DecidableEq, Repr

/-- The value of a hexadecimal digit. -/
def hexDigit (c : UInt8) : Option Nat :=
  if 48 ≤ c ∧ c ≤ 57 then some (c.toNat - 48)
  else if 65 ≤ c ∧ c ≤ 70 then some (c.toNat - 55)
  else if 97 ≤ c ∧ c ≤ 102 then some (c.toNat - 87)
  else none

/-- The digits that a text begins with. -/
def hexDigits : Text → List Nat
  | [] => []
  | c :: rest =>
      match hexDigit c with
      | some digit => digit :: hexDigits rest
      | none => []

/-- The prefix `0x`, which the base 16 allows. -/
def skipPrefix : Text → Text
  | 48 :: 120 :: rest => rest
  | 48 :: 88 :: rest => rest
  | rest => rest

/-- `sin >> setbase(16) >> value` into a `uint16_t` that held `stale`. -/
def extractHex (stale : UInt16) (s : Text) : UInt16 :=
  let signed := s.dropWhile isSpace
  let negative := signed.head? = some 45
  let unsigned := if negative ∨ signed.head? = some 43 then signed.tail else signed
  let digits := hexDigits (skipPrefix unsigned)
  if digits.isEmpty then stale
  else
    let n := digits.foldl (fun n digit => 16 * n + digit) 0
    if n ≤ 65535 then (if negative then -UInt16.ofNat n else UInt16.ofNat n) else stale

def str2hex (stale : UInt16) (s : Text) : UInt8 := (extractHex stale s).toUInt8

/-- `istream::getline` for a buffer of `room + 1` characters: the line and what follows it.  It
fails on a line that is longer than the buffer. -/
def getlineLoop : Text → Nat → Option (Text × Text)
  | [], _ => some ([], [])
  | c :: rest, room =>
      if c = 10 then some ([], rest)
      else if room = 0 then none
      else (getlineLoop rest (room - 1)).map fun read => (c :: read.1, read.2)

/-- `in.getline(buf, sizeof(buf))`; it also fails at the end of the file. -/
def getline (file : Text) : Option (Text × Text) :=
  if file.isEmpty then none else getlineLoop file 511

def linesLoop : Nat → Text → List Text
  | 0, _ => []
  | fuel + 1, file =>
      match getline file with
      | none => []
      | some (line, rest) => line.takeWhile (· != 0) :: linesLoop fuel rest

/-- The strings that the reading loop sees, each up to its first zero. -/
def fileLines (file : Text) : List Text := linesLoop file.length file

/-- `s.substr(pos, n)`. -/
def substr (s : Text) (pos n : Nat) : Except HexError Text :=
  if s.length < pos then throw .outOfRange else pure ((s.drop pos).take n)

/-- The loop over the data bytes of a record. -/
def dataBytes (stale : Nat → UInt16) (dataline : Text) : Nat → Except HexError Text
  | 0 => pure []
  | i + 1 => do
      let bytes ← dataBytes stale dataline i
      let digits ← substr dataline (i * 2) 2
      pure (bytes ++ [str2hex (stale (9 + i * 2)) digits])

/-- The body of the reading loop: what a line appends to the data.  `stale` is the content of the
uninitialised variable for the number at a position. -/
def readLine (stale : Nat → UInt16) (line : Text) : Except HexError Text :=
  if line.isEmpty then pure []
  else do
    let length := str2hex (stale 1) (← substr line 1 2)
    let rectype := str2hex (stale 7) (← substr line 7 2)
    if rectype = 0 then
      let dataline ← substr line 9 (length.toNat * 2)
      dataBytes stale dataline length.toNat
    else pure []

/-- The reading loop from the line `k` on. -/
def readLines (stale : Nat → Nat → UInt16) : Nat → List Text → Except HexError Text
  | _, [] => pure []
  | k, line :: lines => do
      let bytes ← readLine (stale k) line
      let more ← readLines stale (k + 1) lines
      pure (bytes ++ more)

/-- The data that the reading loop leaves. -/
def readFile (stale : Nat → Nat → UInt16) (file : Text) : Except HexError Text :=
  readLines stale 0 (fileLines file)

/-- `for (uint8_t i = 0; i < bound; i++) m_data.push_back(0xff)`. -/
def padLoop (bound : Nat) : Nat → UInt8 → Text → Option Text
  | 0, _, _ => none
  | fuel + 1, i, data =>
      if i.toNat < bound then padLoop bound fuel (i + 1) (data ++ [0xff]) else some data

/-- `ihexfile::load` of a readable file; no result while it runs. -/
def load (stale : Nat → Nat → UInt16) (pageSize : Nat) (file : Text) (fuel : Nat) :
    Option (Except HexError Text) :=
  match readFile stale file with
  | .error error => some (.error error)
  | .ok data =>
      let padding := data.length % pageSize
      (padLoop (pageSize - padding) fuel 0 data).map fun data =>
        if data.length % pageSize = 0 then .ok data else .error .assertion

section Padding

variable {bound fuel : Nat} {i : UInt8} {data result : Text}

/-- A counter of eight bits never reaches a bound of 256. -/
theorem padLoop_endless (large : 256 ≤ bound) : padLoop bound fuel i data = none := by
  induction fuel generalizing i data with
  | zero => rfl
  | succ fuel ih =>
      have below : i.toNat < bound := Nat.lt_of_lt_of_le i.toNat_lt large
      rw [padLoop, if_pos below, ih]

theorem padLoop_run (small : bound < 256) (reached : i.toNat ≤ bound)
    (enough : bound - i.toNat < fuel) :
    padLoop bound fuel i data = some (data ++ List.replicate (bound - i.toNat) 0xff) := by
  induction fuel generalizing i data with
  | zero => exact absurd enough (Nat.not_lt_zero _)
  | succ fuel ih =>
      by_cases below : i.toNat < bound
      · have next : (i + 1).toNat = i.toNat + 1 := by
          rw [UInt8.toNat_add, UInt8.toNat_one]
          omega
        have left : bound - i.toNat = (bound - (i.toNat + 1)) + 1 := by omega
        rw [padLoop, if_pos below, ih (by omega) (by omega), next, left, List.replicate_succ,
          List.append_assoc, List.singleton_append]
      · have done : bound - i.toNat = 0 := by omega
        rw [padLoop, if_neg below, done, List.replicate_zero, List.append_nil]

/-- Whatever the fuel, a loop that ends has pushed the same bytes. -/
theorem padLoop_some (reached : i.toNat ≤ bound) (ends : padLoop bound fuel i data = some result) :
    bound < 256 ∧ result = data ++ List.replicate (bound - i.toNat) 0xff := by
  have small : bound < 256 := by
    by_contra large
    rw [padLoop_endless (by omega)] at ends
    cases ends
  refine ⟨small, ?_⟩
  induction fuel generalizing i data with
  | zero => cases ends
  | succ fuel ih =>
      rw [padLoop] at ends
      split at ends
      next below =>
        have next : (i + 1).toNat = i.toNat + 1 := by
          rw [UInt8.toNat_add, UInt8.toNat_one]
          omega
        have left : bound - i.toNat = (bound - (i.toNat + 1)) + 1 := by omega
        rw [ih (by omega) ends, next, left, List.replicate_succ, List.append_assoc,
          List.singleton_append]
      next above =>
        have done : bound - i.toNat = 0 := by omega
        rw [done, List.replicate_zero, List.append_nil]
        exact (Option.some.inj ends).symm

end Padding

section Loading

variable (stale : Nat → Nat → UInt16) {pageSize : Nat} {file data result : Text}

theorem load_of_error {error : HexError} (thrown : readFile stale file = .error error)
    (pageSize fuel : Nat) : load stale pageSize file fuel = some (.error error) := by
  rw [load, thrown]

/-- The whole pages that the padding makes. -/
theorem padded_length (positive : 0 < pageSize) (length : Nat) :
    (length + (pageSize - length % pageSize)) % pageSize = 0 := by
  have rest := Nat.mod_lt length positive
  have split := Nat.div_add_mod length pageSize
  have whole : length + (pageSize - length % pageSize) = pageSize * (length / pageSize + 1) := by
    rw [Nat.mul_succ]
    omega
  rw [whole, Nat.mul_mod_right]

/-- Loading returns exactly when the file is read and the padding loop ends; it then has pushed
one page less the part of the last one. -/
theorem load_returns_iff (positive : 0 < pageSize) :
    (∃ fuel, load stale pageSize file fuel = some (.ok result)) ↔
      ∃ data, readFile stale file = .ok data ∧ pageSize - data.length % pageSize < 256 ∧
        result = data ++ List.replicate (pageSize - data.length % pageSize) 0xff := by
  constructor
  · rintro ⟨fuel, returns⟩
    cases read : readFile stale file with
    | error error =>
        rw [load_of_error stale read] at returns
        cases returns
    | ok data =>
        simp only [load, read, Option.map_eq_some_iff] at returns
        obtain ⟨padded, ends, checked⟩ := returns
        obtain ⟨small, bytes⟩ := padLoop_some (Nat.zero_le _) ends
        split at checked
        next => exact ⟨data, rfl, small, (Except.ok.inj checked).symm.trans bytes⟩
        next => cases checked
  · rintro ⟨data, read, small, rfl⟩
    refine ⟨257, ?_⟩
    have ends : padLoop (pageSize - data.length % pageSize) 257 0 data =
        some (data ++ List.replicate (pageSize - data.length % pageSize) 0xff) :=
      padLoop_run small (Nat.zero_le _) (by change _ - 0 < _; omega)
    simp only [load, read, ends, Option.map_some]
    rw [if_pos]
    rw [List.length_append, List.length_replicate]
    exact padded_length positive data.length

end Loading

/-- The data followed by the least number of 0xff bytes that fills the last page. -/
def IsPadded (pageSize : Nat) (data result : Text) : Prop :=
  ∃ count, result = data ++ List.replicate count 0xff ∧ pageSize ∣ data.length + count ∧
    ∀ other, pageSize ∣ data.length + other → count ≤ other

/-- The padding of the loop is the least one exactly when the last page is not full. -/
theorem isPadded_iff {pageSize : Nat} (positive : 0 < pageSize) (data : Text) :
    IsPadded pageSize data
        (data ++ List.replicate (pageSize - data.length % pageSize) 0xff) ↔
      data.length % pageSize ≠ 0 := by
  have rest := Nat.mod_lt data.length positive
  constructor
  · rintro ⟨count, same, -, least⟩ full
    have lengths := congrArg List.length same
    rw [List.length_append, List.length_append, List.length_replicate, List.length_replicate]
      at lengths
    have none := least 0 (Nat.dvd_of_mod_eq_zero full)
    omega
  · intro part
    refine ⟨_, rfl, Nat.dvd_of_mod_eq_zero (padded_length positive data.length), ?_⟩
    rintro other ⟨pages, whole⟩
    have split := Nat.div_add_mod data.length pageSize
    have more : data.length / pageSize < pages := by
      by_contra few
      have bound := Nat.mul_le_mul_left pageSize (Nat.le_of_not_lt few)
      omega
    have bound := Nat.mul_le_mul_left pageSize (Nat.succ_le_of_lt more)
    rw [Nat.mul_succ] at bound
    omega

/-! ## Files that are read -/

/-- The number of data bytes that a line names. -/
def namedLength (stale : Nat → UInt16) (line : Text) : Nat :=
  (str2hex (stale 1) ((line.drop 1).take 2)).toNat

/-- The line is a data record. -/
def IsDataLine (stale : Nat → UInt16) (line : Text) : Prop :=
  line ≠ [] ∧ str2hex (stale 7) ((line.drop 7).take 2) = 0

instance decidableIsDataLine (stale : Nat → UInt16) (line : Text) :
    Decidable (IsDataLine stale line) := by
  unfold IsDataLine
  infer_instance

/-- No cut into the line begins behind its end. -/
def Cuttable (stale : Nat → UInt16) (line : Text) : Prop :=
  line ≠ [] → 7 ≤ line.length ∧
    (IsDataLine stale line → 9 ≤ line.length ∧ 2 * namedLength stale line + 7 ≤ line.length)

/-- The lines from `k` on can be cut. -/
def AllCuttable (stale : Nat → Nat → UInt16) : Nat → List Text → Prop
  | _, [] => True
  | k, line :: lines => Cuttable (stale k) line ∧ AllCuttable stale (k + 1) lines

/-- The number of data bytes that the lines from `k` on name. -/
def bytesNamed (stale : Nat → Nat → UInt16) : Nat → List Text → Nat
  | _, [] => 0
  | k, line :: lines =>
      (if IsDataLine (stale k) line then namedLength (stale k) line else 0) +
        bytesNamed stale (k + 1) lines

theorem substr_ok {s : Text} {pos : Nat} (n : Nat) (inside : pos ≤ s.length) :
    substr s pos n = .ok ((s.drop pos).take n) := by
  rw [substr, if_neg (Nat.not_lt.mpr inside)]
  rfl

theorem substr_error {s : Text} {pos : Nat} (n : Nat) (behind : s.length < pos) :
    substr s pos n = .error .outOfRange := by
  rw [substr, if_pos behind]
  rfl

theorem dataBytes_ok (stale : Nat → UInt16) {dataline : Text} {count : Nat}
    (fits : 2 * count ≤ dataline.length + 2) :
    ∃ bytes, dataBytes stale dataline count = .ok bytes ∧ bytes.length = count := by
  induction count with
  | zero => exact ⟨[], rfl, rfl⟩
  | succ count ih =>
      obtain ⟨bytes, read, length⟩ := ih (by omega)
      let digits := (dataline.drop (count * 2)).take 2
      refine ⟨bytes ++ [str2hex (stale (9 + count * 2)) digits], ?_, ?_⟩
      · rw [dataBytes, read, substr_ok 2 (by omega)]
        rfl
      · rw [List.length_append, length, List.length_singleton]

theorem dataBytes_error (stale : Nat → UInt16) {dataline : Text} {count : Nat}
    (short : dataline.length + 2 < 2 * count) :
    ∃ error, dataBytes stale dataline count = .error error := by
  induction count with
  | zero => exact absurd short (Nat.not_lt_zero _)
  | succ count ih =>
      by_cases earlier : dataline.length + 2 < 2 * count
      · obtain ⟨error, thrown⟩ := ih earlier
        refine ⟨error, ?_⟩
        rw [dataBytes, thrown]
        rfl
      · obtain ⟨bytes, read, -⟩ := dataBytes_ok stale (Nat.le_of_not_lt earlier)
        refine ⟨.outOfRange, ?_⟩
        rw [dataBytes, read, substr_error 2 (by omega)]
        rfl

theorem readLine_ok {stale : Nat → UInt16} {line : Text} (cuttable : Cuttable stale line) :
    ∃ bytes, readLine stale line = .ok bytes ∧
      bytes.length = if IsDataLine stale line then namedLength stale line else 0 := by
  unfold readLine
  by_cases empty : line = []
  · refine ⟨[], ?_, ?_⟩
    · rw [if_pos (List.isEmpty_iff.mpr empty)]
      rfl
    · rw [if_neg fun isData => isData.1 empty]
      rfl
  · obtain ⟨header, cuts⟩ := cuttable empty
    rw [if_neg (mt List.isEmpty_iff.mp empty), substr_ok 2 (by omega), substr_ok 2 header]
    dsimp only [bind, Except.bind]
    by_cases type : str2hex (stale 7) ((line.drop 7).take 2) = 0
    · obtain ⟨behind, fits⟩ := cuts ⟨empty, type⟩
      rw [if_pos type, if_pos ⟨empty, type⟩, substr_ok _ behind]
      refine dataBytes_ok stale ?_
      change 2 * namedLength stale line ≤ _
      rw [List.length_take, List.length_drop]
      change _ ≤ min (namedLength stale line * 2) _ + 2
      omega
    · rw [if_neg type, if_neg fun isData => type isData.2]
      exact ⟨[], rfl, rfl⟩

theorem readLine_error {stale : Nat → UInt16} {line : Text} (broken : ¬ Cuttable stale line) :
    ∃ error, readLine stale line = .error error := by
  unfold readLine
  have full : line ≠ [] := fun empty => broken fun solid => absurd empty solid
  have one : 1 ≤ line.length := List.length_pos_iff.mpr full
  rw [if_neg (mt List.isEmpty_iff.mp full), substr_ok 2 one]
  dsimp only [bind, Except.bind]
  by_cases header : 7 ≤ line.length
  · rw [substr_ok 2 header]
    dsimp only
    by_cases type : str2hex (stale 7) ((line.drop 7).take 2) = 0
    · rw [if_pos type]
      by_cases behind : 9 ≤ line.length
      · rw [substr_ok _ behind]
        refine dataBytes_error stale ?_
        change _ < 2 * namedLength stale line
        rw [List.length_take, List.length_drop]
        change min (namedLength stale line * 2) _ + 2 < _
        have long : ¬ 2 * namedLength stale line + 7 ≤ line.length :=
          fun fits => broken fun _ => ⟨header, fun _ => ⟨behind, fits⟩⟩
        omega
      · rw [substr_error _ (Nat.lt_of_not_le behind)]
        exact ⟨_, rfl⟩
    · exact absurd (fun _ => ⟨header, fun isData => absurd isData.2 type⟩) broken
  · rw [substr_error 2 (Nat.lt_of_not_le header)]
    exact ⟨_, rfl⟩

theorem readLines_ok {stale : Nat → Nat → UInt16} {k : Nat} {lines : List Text}
    (cuttable : AllCuttable stale k lines) :
    ∃ data, readLines stale k lines = .ok data ∧ data.length = bytesNamed stale k lines := by
  induction lines generalizing k with
  | nil => exact ⟨[], rfl, rfl⟩
  | cons line lines ih =>
      obtain ⟨bytes, read, length⟩ := readLine_ok cuttable.1
      obtain ⟨more, rest, moreLength⟩ := ih cuttable.2
      refine ⟨bytes ++ more, ?_, ?_⟩
      · rw [readLines, read, rest]
        rfl
      · rw [List.length_append, length, moreLength, bytesNamed]

theorem readLines_error {stale : Nat → Nat → UInt16} {k : Nat} {lines : List Text}
    (broken : ¬ AllCuttable stale k lines) :
    ∃ error, readLines stale k lines = .error error := by
  induction lines generalizing k with
  | nil => exact absurd trivial broken
  | cons line lines ih =>
      by_cases first : Cuttable (stale k) line
      · obtain ⟨bytes, read, -⟩ := readLine_ok first
        obtain ⟨error, thrown⟩ := ih fun rest => broken ⟨first, rest⟩
        refine ⟨error, ?_⟩
        rw [readLines, read, thrown]
        rfl
      · obtain ⟨error, thrown⟩ := readLine_error first
        refine ⟨error, ?_⟩
        rw [readLines, thrown]
        rfl

/-- Loading returns the data read with the least padding. -/
def LoadsPadded (stale : Nat → Nat → UInt16) (pageSize : Nat) (file : Text) : Prop :=
  ∃ data result fuel, readFile stale file = .ok data ∧
    load stale pageSize file fuel = some (.ok result) ∧ IsPadded pageSize data result

/-- Loading returns with the least padding exactly when every line is as long as its header says
and the data does not fill its last page. -/
theorem loadsPadded_iff (stale : Nat → Nat → UInt16) (c : Controller) (file : Text) :
    LoadsPadded stale c.pageSize file ↔
      AllCuttable stale 0 (fileLines file) ∧
        bytesNamed stale 0 (fileLines file) % c.pageSize ≠ 0 := by
  have positive : 0 < c.pageSize := by cases c <;> decide
  have most : c.pageSize ≤ 256 := by cases c <;> decide
  by_cases cuttable : AllCuttable stale 0 (fileLines file)
  · obtain ⟨data, read, length⟩ := readLines_ok cuttable
    rw [← length]
    constructor
    · rintro ⟨other, result, fuel, otherRead, returns, padded⟩
      obtain ⟨third, thirdRead, -, rfl⟩ := (load_returns_iff stale positive).mp ⟨fuel, returns⟩
      obtain rfl : data = third := Except.ok.inj (read.symm.trans thirdRead)
      obtain rfl : data = other := Except.ok.inj (read.symm.trans otherRead)
      exact ⟨cuttable, (isPadded_iff positive data).mp padded⟩
    · rintro ⟨-, part⟩
      obtain ⟨fuel, returns⟩ :=
        (load_returns_iff stale positive).mpr ⟨data, read, by omega, rfl⟩
      exact ⟨data, _, fuel, read, returns, (isPadded_iff positive data).mpr part⟩
  · refine iff_of_false ?_ fun both => cuttable both.1
    rintro ⟨data, -, -, read, -, -⟩
    obtain ⟨error, thrown⟩ := readLines_error cuttable
    cases read.symm.trans thrown

/-- A file for a controller without firmware: the end record only. -/
def emptyFirmware : Text := [58, 48, 48, 48, 48, 48, 48, 48, 49, 70, 70, 10]

/-- On the controller with pages of 256 bytes the padding of an empty firmware never ends. -/
theorem emptyFirmware_endless :
    ¬ LoadsPadded (fun _ _ => 0) Controller.atmega644.pageSize emptyFirmware := by
  rintro ⟨data, result, fuel, -, returns, -⟩
  obtain ⟨read, isRead, small, -⟩ :=
    (load_returns_iff (fun _ _ => 0) (by decide)).mp ⟨fuel, returns⟩
  have none : (readFile (fun _ _ => 0) emptyFirmware).toOption = some [] := by decide +kernel
  rw [isRead] at none
  obtain rfl : read = [] := Option.some.inj none
  exact absurd small (by decide)

end Hcan.Flash
