import Hcan.Flash.HexFile
import Mathlib.Data.List.TakeWhile
import Mathlib.Data.List.Zip

/-!
# Intel HEX records and the loaded image

The records of the format with the addresses of their bytes, and the texts that write them.  The
loader appends the bytes of the data records in the order of the file: address fields, extended
address records and the end record have no part in it.  So an image is right for every contents
of a layout exactly when the layout has no gap, no jump and no line that the buffer cuts.
-/

namespace Hcan.Flash

open Hcan.Host

/-- A record: its address field, its type and its payload. -/
structure HexRecord where
  address : UInt16
  rectype : UInt8
  bytes : List UInt8
  deriving DecidableEq, Repr

namespace HexRecord

/-- The number of payload bytes of each type. -/
structure Valid (r : HexRecord) : Prop where
  length : r.bytes.length < 256
  rectype : r.rectype ≤ 5
  endRecord : r.rectype = 1 → r.bytes.length = 0
  segment : r.rectype = 2 → r.bytes.length = 2
  startSegment : r.rectype = 3 → r.bytes.length = 4
  linear : r.rectype = 4 → r.bytes.length = 2
  startLinear : r.rectype = 5 → r.bytes.length = 4

/-- The bytes before the checksum. -/
def fields (r : HexRecord) : List UInt8 :=
  UInt8.ofNat r.bytes.length :: (r.address >>> 8).toUInt8 :: r.address.toUInt8 :: r.rectype ::
    r.bytes

/-- The sum of all bytes of a record is 0. -/
def checksum (r : HexRecord) : UInt8 := -(r.fields.foldl (· + ·) 0)

/-- What the loader takes from a record. -/
def payload (r : HexRecord) : List UInt8 := if r.rectype = 0 then r.bytes else []

end HexRecord

/-- A text that writes bytes with two hexadecimal digits each, in either case. -/
inductive WrittenBytes : Text → List UInt8 → Prop where
  | nil : WrittenBytes [] []
  | cons {high low : UInt8} {h l : Nat} {digits : Text} {bytes : List UInt8}
      (highDigit : hexDigit high = some h) (lowDigit : hexDigit low = some l)
      (rest : WrittenBytes digits bytes) :
      WrittenBytes (high :: low :: digits) (UInt8.ofNat (16 * h + l) :: bytes)

/-- A line that writes a record: a colon, the fields and the checksum. -/
def WrittenRecord (line : Text) (r : HexRecord) : Prop :=
  ∃ digits, line = 58 :: digits ∧ WrittenBytes digits (r.fields ++ [r.checksum])

/-- Lines end in LF or in CR LF. -/
inductive LineEnding where
  | lf
  | crlf
  deriving DecidableEq, Repr

/-- The carriage return that stays in a line. -/
def LineEnding.carriage : LineEnding → Text
  | lf => []
  | crlf => [13]

/-- A file: a line for each record, the end record in the last one. -/
inductive WrittenFile (ending : LineEnding) : Text → List HexRecord → Prop where
  | last {line : Text} {r : HexRecord} (written : WrittenRecord line r) (valid : r.Valid)
      (isEnd : r.rectype = 1) :
      WrittenFile ending (line ++ ending.carriage ++ [10]) [r]
  | cons {line rest : Text} {r : HexRecord} {rs : List HexRecord}
      (written : WrittenRecord line r) (valid : r.Valid) (goesOn : r.rectype ≠ 1)
      (more : WrittenFile ending rest rs) :
      WrittenFile ending (line ++ ending.carriage ++ 10 :: rest) (r :: rs)

/-- The base of an address: the one of a segment, in which the offset wraps, or a linear one. -/
inductive Base where
  | segment (paragraph : Nat)
  | linear (upper : Nat)
  deriving DecidableEq, Repr

/-- The address of the byte `i` of a record. -/
def Base.place (address : UInt16) (i : Nat) : Base → Nat
  | segment paragraph => 16 * paragraph + (address.toNat + i) % 65536
  | linear upper => 65536 * upper + address.toNat + i

/-- The base behind a record. -/
def Base.next (base : Base) (r : HexRecord) : Base :=
  let word := r.bytes.foldl (fun n byte => 256 * n + byte.toNat) 0
  if r.rectype = 2 then segment word else if r.rectype = 4 then linear word else base

/-- The addresses that data records assign bytes to, in the order of the file. -/
def addresses : Base → List HexRecord → List Nat
  | _, [] => []
  | base, r :: rs =>
      ((List.range r.payload.length).map fun i => base.place r.address i) ++
        addresses (base.next r) rs

/-- All data bytes in the order of the file. -/
def contents (rs : List HexRecord) : List UInt8 := rs.flatMap HexRecord.payload

theorem contents_cons (r : HexRecord) (rs : List HexRecord) :
    contents (r :: rs) = r.payload ++ contents rs := List.flatMap_cons

/-- The bytes with their addresses. -/
def assignments (rs : List HexRecord) : List (Nat × UInt8) :=
  (addresses (.segment 0) rs).zip (contents rs)

/-- The memory image: an assigned byte stands at its address, all else is 0xff. -/
def Placed (data : Text) (assigned : List (Nat × UInt8)) : Prop :=
  (∀ address byte, (address, byte) ∈ assigned → data[address]? = some byte) ∧
    ∀ address < data.length, (∀ byte, (address, byte) ∉ assigned) → data[address]? = some 0xff

/-- Loading returns the memory image of the records. -/
def LoadsPlaced (stale : Nat → Nat → UInt16) (pageSize : Nat) (file : Text)
    (rs : List HexRecord) : Prop :=
  ∃ fuel data, load stale pageSize file fuel = some (.ok data) ∧ Placed data (assignments rs)

section Digits

variable {c high low : UInt8} {digit h l : Nat}

theorem hexDigit_some (isDigit : hexDigit c = some digit) :
    digit < 16 ∧ (c.toNat = digit + 48 ∨ c.toNat = digit + 55 ∨ c.toNat = digit + 87) ∧
      (48 ≤ c.toNat ∧ c.toNat ≤ 57 ∨ 65 ≤ c.toNat ∧ c.toNat ≤ 70 ∨
        97 ≤ c.toNat ∧ c.toNat ≤ 102) := by
  unfold hexDigit at isDigit
  simp only [UInt8.le_iff_toNat_le, UInt8.reduceToNat] at isDigit
  split at isDigit
  next decimal =>
    obtain rfl := Option.some.inj isDigit
    omega
  next =>
    split at isDigit
    next upper =>
      obtain rfl := Option.some.inj isDigit
      omega
    next =>
      split at isDigit
      next lower =>
        obtain rfl := Option.some.inj isDigit
        omega
      next => cases isDigit

theorem hexDigit_ne (isDigit : hexDigit c = some digit) {other : UInt8}
    (noDigit : hexDigit other = none) : c ≠ other := by
  rintro rfl
  cases isDigit.symm.trans noDigit

theorem hexDigit_solid (isDigit : hexDigit c = some digit) : isSpace c = false := by
  have range := (hexDigit_some isDigit).2.2
  have apart : c ≠ 32 := hexDigit_ne isDigit (by decide)
  have above : ¬ c ≤ 13 := by
    intro below
    have small : c.toNat ≤ 13 := below
    omega
  unfold isSpace
  rw [beq_false_of_ne apart, decide_eq_false above, Bool.and_false, Bool.or_false]

/-- Two digits are read as their byte, whatever the variable held. -/
theorem str2hex_pair (stale : UInt16) (highDigit : hexDigit high = some h)
    (lowDigit : hexDigit low = some l) : str2hex stale [high, low] = UInt8.ofNat (16 * h + l) := by
  have highBound := (hexDigit_some highDigit).1
  have lowBound := (hexDigit_some lowDigit).1
  have noPrefix : skipPrefix [high, low] = [high, low] := by
    unfold skipPrefix
    split
    next rest same =>
      cases same
      cases lowDigit
    next rest same =>
      cases same
      cases lowDigit
    next => rfl
  have digits : hexDigits [high, low] = [h, l] := by
    simp only [hexDigits, highDigit, lowDigit]
  have noMinus : high ≠ 45 := hexDigit_ne highDigit (by decide)
  have noPlus : high ≠ 43 := hexDigit_ne highDigit (by decide)
  have solid : [high, low].dropWhile isSpace = [high, low] :=
    List.dropWhile_cons_of_neg (by rw [hexDigit_solid highDigit]; exact Bool.false_ne_true)
  unfold str2hex extractHex
  simp only [solid, List.head?_cons, Option.some.injEq, noMinus, noPlus, or_self, if_false,
    noPrefix, digits, List.isEmpty_cons, Bool.false_eq_true, List.foldl_cons, List.foldl_nil]
  rw [if_pos (by omega)]
  apply UInt8.toNat_inj.mp
  change (16 * (16 * 0 + h) + l) % 65536 % 256 = (16 * h + l) % 256
  omega

end Digits

section Written

variable {digits : Text} {bytes : List UInt8}

theorem WrittenBytes.length_eq (written : WrittenBytes digits bytes) :
    digits.length = 2 * bytes.length := by
  induction written with
  | nil => rfl
  | cons _ _ _ ih =>
      simp only [List.length_cons, ih]
      omega

theorem WrittenBytes.digit (written : WrittenBytes digits bytes) :
    ∀ c ∈ digits, ∃ digit, hexDigit c = some digit := by
  induction written with
  | nil => exact fun c absent => absurd absent List.not_mem_nil
  | cons highDigit lowDigit _ ih =>
      intro c member
      rcases List.mem_cons.mp member with rfl | member
      · exact ⟨_, highDigit⟩
      rcases List.mem_cons.mp member with rfl | member
      · exact ⟨_, lowDigit⟩
      · exact ih c member

/-- The two digits of the first byte, which are read back. -/
theorem WrittenBytes.uncons {byte : UInt8} (written : WrittenBytes digits (byte :: bytes)) :
    ∃ high low rest, digits = high :: low :: rest ∧
      (∀ stale, str2hex stale [high, low] = byte) ∧ WrittenBytes rest bytes := by
  cases written with
  | cons highDigit lowDigit rest =>
      exact ⟨_, _, _, rfl, fun stale => str2hex_pair stale highDigit lowDigit, rest⟩

theorem WrittenBytes.split {more : List UInt8} (written : WrittenBytes digits (bytes ++ more)) :
    ∃ front back, digits = front ++ back ∧ WrittenBytes front bytes ∧ WrittenBytes back more := by
  induction bytes generalizing digits with
  | nil => exact ⟨[], digits, rfl, .nil, written⟩
  | cons byte bytes ih =>
      rw [List.cons_append] at written
      cases written with
      | cons highDigit lowDigit rest =>
          obtain ⟨front, back, same, first, second⟩ := ih rest
          exact ⟨_ :: _ :: front, back, by rw [same]; rfl, .cons highDigit lowDigit first, second⟩

theorem WrittenBytes.byte (written : WrittenBytes digits bytes) {i : Nat} (stale : UInt16)
    (inside : i < bytes.length) :
    str2hex stale ((digits.drop (i * 2)).take 2) = bytes[i] := by
  induction written generalizing i with
  | nil => exact absurd inside (Nat.not_lt_zero i)
  | cons highDigit lowDigit rest ih =>
      cases i with
      | zero => exact str2hex_pair stale highDigit lowDigit
      | succ i =>
          rw [Nat.succ_mul, List.getElem_cons_succ]
          exact ih (Nat.lt_of_succ_lt_succ inside)

theorem dataBytes_written (written : WrittenBytes digits bytes) (stale : Nat → UInt16) {count : Nat}
    (fits : count ≤ bytes.length) : dataBytes stale digits count = .ok (bytes.take count) := by
  induction count with
  | zero => rfl
  | succ count ih =>
      have room : count * 2 ≤ digits.length := by
        rw [written.length_eq]
        omega
      rw [dataBytes, ih (Nat.le_of_lt fits), substr_ok 2 room]
      dsimp only [bind, Except.bind, pure, Except.pure]
      rw [written.byte _ fits, List.take_append_getElem fits]

/-- A line that writes a record gives its payload, whatever follows it. -/
theorem readLine_written {line : Text} {r : HexRecord} (written : WrittenRecord line r)
    (valid : r.Valid) (stale : Nat → UInt16) (tail : Text) :
    readLine stale (line ++ tail) = .ok r.payload := by
  obtain ⟨digits, rfl, fields⟩ := written
  rw [HexRecord.fields, List.cons_append, List.cons_append, List.cons_append, List.cons_append]
    at fields
  obtain ⟨l1, l2, digits, rfl, lengthByte, fields⟩ := fields.uncons
  obtain ⟨a1, a2, digits, rfl, -, fields⟩ := fields.uncons
  obtain ⟨a3, a4, digits, rfl, -, fields⟩ := fields.uncons
  obtain ⟨t1, t2, digits, rfl, typeByte, fields⟩ := fields.uncons
  obtain ⟨front, back, rfl, payloadDigits, -⟩ := fields.split
  have length : (str2hex (stale 1) [l1, l2]).toNat = r.bytes.length := by
    rw [lengthByte, UInt8.toNat_ofNat']
    exact Nat.mod_eq_of_lt valid.length
  have dataline : (front ++ back ++ tail).take (r.bytes.length * 2) = front := by
    rw [List.append_assoc, List.take_append_of_le_length (by rw [payloadDigits.length_eq]; omega)]
    exact List.take_of_length_le (by rw [payloadDigits.length_eq]; omega)
  have rest : ∀ k, k ≤ 9 →
      k ≤ (58 :: l1 :: l2 :: a1 :: a2 :: a3 :: a4 :: t1 :: t2 :: (front ++ back) ++ tail).length :=
    fun k small => by
      simp only [List.cons_append, List.length_cons]
      omega
  rw [readLine, if_neg (by simp), substr_ok 2 (rest 1 (by decide)),
    substr_ok 2 (rest 7 (by decide))]
  dsimp only [bind, Except.bind]
  change (if str2hex (stale 7) [t1, t2] = 0 then _ else _) = _
  rw [typeByte, HexRecord.payload]
  split
  · rw [substr_ok _ (rest 9 (Nat.le_refl 9))]
    change dataBytes stale (((front ++ back ++ tail)).take
      ((str2hex (stale 1) [l1, l2]).toNat * 2)) (str2hex (stale 1) [l1, l2]).toNat = _
    rw [length, dataline, dataBytes_written payloadDigits stale (Nat.le_refl _), List.take_length]
  · rfl

end Written

section Lines

variable {line rest file : Text} {room : Nat}

theorem getlineLoop_line (unbroken : ∀ c ∈ line, c ≠ 10) :
    getlineLoop (line ++ 10 :: rest) room =
      if line.length ≤ room then some (line, rest) else none := by
  induction line generalizing room with
  | nil =>
      rw [List.nil_append, getlineLoop, if_pos rfl]
      exact (if_pos (Nat.zero_le room)).symm
  | cons c line ih =>
      rw [List.cons_append, getlineLoop, if_neg (unbroken c List.mem_cons_self)]
      cases room with
      | zero => rfl
      | succ room =>
          rw [if_neg (Nat.succ_ne_zero room), Nat.add_sub_cancel,
            ih fun d member => unbroken d (List.mem_cons_of_mem c member)]
          simp only [List.length_cons, Nat.add_le_add_iff_right]
          split <;> rfl

theorem getlineLoop_shorter (read : getlineLoop file room = some (line, rest)) :
    rest.length ≤ file.length - 1 := by
  induction file generalizing room line with
  | nil =>
      rw [getlineLoop] at read
      cases read
      exact Nat.le_refl 0
  | cons c file ih =>
      rw [getlineLoop] at read
      split at read
      next =>
        cases read
        exact Nat.le_refl _
      next =>
        split at read
        next => cases read
        next =>
          obtain ⟨pair, inner, same⟩ := Option.map_eq_some_iff.mp read
          cases same
          exact Nat.le_trans (ih inner) (Nat.sub_le _ _)

theorem getline_shorter (read : getline file = some (line, rest)) : rest.length < file.length := by
  unfold getline at read
  split at read
  next => cases read
  next full =>
    have positive : 0 < file.length := by
      rw [List.length_pos_iff]
      exact mt List.isEmpty_iff.mpr full
    have shorter := getlineLoop_shorter read
    omega

theorem linesLoop_succ {fuel : Nat} (enough : file.length ≤ fuel) :
    linesLoop (fuel + 1) file = linesLoop fuel file := by
  induction fuel generalizing file with
  | zero =>
      obtain rfl : file = [] := List.length_eq_zero_iff.mp (Nat.le_zero.mp enough)
      rfl
  | succ fuel ih =>
      rw [linesLoop, linesLoop]
      cases read : getline file with
      | none => rfl
      | some pair =>
          have shorter : pair.2.length < file.length :=
            getline_shorter (read : getline file = some (pair.1, pair.2))
          dsimp only
          rw [ih (by omega)]

theorem linesLoop_enough {fuel : Nat} (enough : file.length ≤ fuel) :
    linesLoop fuel file = fileLines file := by
  induction fuel, enough using Nat.le_induction with
  | base => rfl
  | succ fuel enough ih => rw [linesLoop_succ enough, ih]

theorem fileLines_cons (read : getline file = some (line, rest)) :
    fileLines file = line.takeWhile (· != 0) :: fileLines rest := by
  have shorter := getline_shorter read
  rw [← linesLoop_enough (Nat.le_succ file.length), linesLoop, read]
  dsimp only
  rw [linesLoop_enough (Nat.le_of_lt shorter)]

theorem fileLines_stop (fails : getline file = none) : fileLines file = [] := by
  rw [← linesLoop_enough (Nat.le_succ file.length), linesLoop, fails]

/-- A line of 511 characters is read whole, a longer one ends the reading. -/
theorem fileLines_line (unbroken : ∀ c ∈ line, c ≠ 10) (solid : ∀ c ∈ line, c ≠ 0) :
    fileLines (line ++ 10 :: rest) =
      if line.length ≤ 511 then line :: fileLines rest else [] := by
  have read : getline (line ++ 10 :: rest) =
      if line.length ≤ 511 then some (line, rest) else none := by
    rw [getline, if_neg (by simp), getlineLoop_line unbroken]
  split
  next short =>
    rw [if_pos short] at read
    have whole : line.takeWhile (· != 0) = line :=
      List.takeWhile_eq_self_iff.mpr fun c member => by simpa using solid c member
    rw [fileLines_cons read, whole]
  next long =>
    rw [if_neg long] at read
    exact fileLines_stop read

end Lines

/-! ## What the loader reads -/

/-- The length of the line of a record as the loader sees it. -/
def lineLength (ending : LineEnding) (r : HexRecord) : Nat :=
  11 + 2 * r.bytes.length + ending.carriage.length

/-- The data bytes in the order of the file, up to the first line that is too long. -/
def readBytes (ending : LineEnding) : List HexRecord → List UInt8
  | [] => []
  | r :: rs => if lineLength ending r ≤ 511 then r.payload ++ readBytes ending rs else []

section Reading

variable {ending : LineEnding} {line file : Text} {r : HexRecord} {rs : List HexRecord}

theorem WrittenRecord.length_eq (written : WrittenRecord line r) (ending : LineEnding) :
    (line ++ ending.carriage).length = lineLength ending r := by
  obtain ⟨digits, rfl, fields⟩ := written
  simp only [List.length_append, List.length_cons, fields.length_eq, HexRecord.fields,
    List.length_nil, lineLength]
  omega

/-- The characters of a line are digits, the colon and the carriage return. -/
theorem WrittenRecord.clean (written : WrittenRecord line r) (ending : LineEnding) {other : UInt8}
    (noDigit : hexDigit other = none) (noColon : other ≠ 58) (noReturn : other ≠ 13) :
    ∀ c ∈ line ++ ending.carriage, c ≠ other := by
  obtain ⟨digits, rfl, fields⟩ := written
  intro c member
  rcases List.mem_append.mp member with inLine | inEnding
  · rcases List.mem_cons.mp inLine with rfl | inDigits
    · exact noColon.symm
    · obtain ⟨digit, isDigit⟩ := fields.digit c inDigits
      exact hexDigit_ne isDigit noDigit
  · cases ending with
    | lf => exact absurd inEnding List.not_mem_nil
    | crlf =>
        obtain rfl := List.mem_singleton.mp inEnding
        exact noReturn.symm

theorem readLines_written (stale : Nat → Nat → UInt16) (written : WrittenRecord line r)
    (valid : r.Valid) (k : Nat) (rest : Text) {more : List UInt8}
    (readRest : ∀ k, readLines stale k (fileLines rest) = .ok more) :
    readLines stale k (fileLines (line ++ ending.carriage ++ 10 :: rest)) =
      .ok (if lineLength ending r ≤ 511 then r.payload ++ more else []) := by
  rw [fileLines_line (written.clean ending (by decide) (by decide) (by decide))
    (written.clean ending (by decide) (by decide) (by decide)), written.length_eq]
  split
  · rw [readLines, readLine_written written valid, readRest]
    rfl
  · rfl

/-- The loader reads the data bytes in the order of the file. -/
theorem readFile_written (stale : Nat → Nat → UInt16) (written : WrittenFile ending file rs) :
    readFile stale file = .ok (readBytes ending rs) := by
  have general : ∀ k, readLines stale k (fileLines file) = .ok (readBytes ending rs) := by
    induction written with
    | last written valid _ =>
        exact fun k => readLines_written stale written valid k [] fun _ => rfl
    | cons written valid _ _ ih =>
        exact fun k => readLines_written stale written valid k _ ih
  exact general 0

/-- A file is placed right exactly when the padding ends and the bytes in the order of the file,
padded with 0xff, are the memory image. -/
theorem loadsPlaced_iff (stale : Nat → Nat → UInt16) (c : Controller)
    (written : WrittenFile ending file rs) :
    LoadsPlaced stale c.pageSize file rs ↔
      c.pageSize - (readBytes ending rs).length % c.pageSize < 256 ∧
        Placed (readBytes ending rs ++
          List.replicate (c.pageSize - (readBytes ending rs).length % c.pageSize) 0xff)
          (assignments rs) := by
  have positive : 0 < c.pageSize := by cases c <;> decide
  have read := readFile_written stale written
  constructor
  · rintro ⟨fuel, data, returns, placed⟩
    obtain ⟨other, otherRead, ends, rfl⟩ := (load_returns_iff stale positive).mp ⟨fuel, returns⟩
    obtain rfl := Except.ok.inj (read.symm.trans otherRead)
    exact ⟨ends, placed⟩
  · rintro ⟨ends, placed⟩
    obtain ⟨fuel, returns⟩ := (load_returns_iff stale positive).mpr ⟨_, read, ends, rfl⟩
    exact ⟨fuel, _, returns, placed⟩

end Reading

/-! ## Layouts -/

/-- A record with zeros for its data bytes. -/
def HexRecord.blank (r : HexRecord) : HexRecord :=
  if r.rectype = 0 then { r with bytes := List.replicate r.bytes.length 0 } else r

/-- Two files differ in the values of their data bytes only. -/
def SameLayout (rs other : List HexRecord) : Prop :=
  rs.map HexRecord.blank = other.map HexRecord.blank

/-- The data records follow each other from address 0 on. -/
def Contiguous (rs : List HexRecord) : Prop :=
  addresses (.segment 0) rs = List.range (contents rs).length

/-- No line is cut by the buffer. -/
def Short (ending : LineEnding) (rs : List HexRecord) : Prop :=
  ∀ r ∈ rs, lineLength ending r ≤ 511

section Blank

variable {ending : LineEnding} {r : HexRecord} {rs other : List HexRecord} {base : Base}

theorem blank_length (r : HexRecord) : r.blank.bytes.length = r.bytes.length := by
  rw [HexRecord.blank]
  split
  · exact List.length_replicate
  · rfl

theorem blank_rectype (r : HexRecord) : r.blank.rectype = r.rectype := by
  rw [HexRecord.blank]
  split <;> rfl

theorem blank_address (r : HexRecord) : r.blank.address = r.address := by
  rw [HexRecord.blank]
  split <;> rfl

theorem blank_payload (r : HexRecord) : r.blank.payload.length = r.payload.length := by
  rw [HexRecord.payload, HexRecord.payload, blank_rectype]
  split
  · exact blank_length r
  · rfl

theorem blank_lineLength (r : HexRecord) : lineLength ending r.blank = lineLength ending r := by
  rw [lineLength, lineLength, blank_length]

/-- Only records without data move the base. -/
theorem blank_next (r : HexRecord) : base.next r.blank = base.next r := by
  rw [HexRecord.blank]
  split
  next data =>
    simp only [Base.next, data]
    rfl
  next => rfl

theorem addresses_blank : addresses base (rs.map HexRecord.blank) = addresses base rs := by
  induction rs generalizing base with
  | nil => rfl
  | cons r rs ih =>
      rw [List.map_cons, addresses, addresses, blank_payload, blank_address, blank_next, ih]

theorem contents_blank : (contents (rs.map HexRecord.blank)).length = (contents rs).length := by
  induction rs with
  | nil => rfl
  | cons r rs ih =>
      rw [List.map_cons, contents_cons, contents_cons, List.length_append, List.length_append,
        blank_payload, ih]

theorem readBytes_blank :
    (readBytes ending (rs.map HexRecord.blank)).length = (readBytes ending rs).length := by
  induction rs with
  | nil => rfl
  | cons r rs ih =>
      rw [List.map_cons, readBytes, readBytes, blank_lineLength]
      split
      · rw [List.length_append, List.length_append, blank_payload, ih]
      · rfl

theorem SameLayout.addresses_eq (same : SameLayout rs other) (base : Base) :
    addresses base other = addresses base rs := by
  have blank : addresses base (other.map HexRecord.blank) = addresses base other := addresses_blank
  rw [← blank, ← same, addresses_blank]

theorem SameLayout.contents_length (same : SameLayout rs other) :
    (contents other).length = (contents rs).length := by
  have blank : (contents (other.map HexRecord.blank)).length = (contents other).length :=
    contents_blank
  rw [← blank, ← same, contents_blank]

theorem SameLayout.readBytes_length (same : SameLayout rs other) (ending : LineEnding) :
    (readBytes ending other).length = (readBytes ending rs).length := by
  have blank : (readBytes ending (other.map HexRecord.blank)).length =
      (readBytes ending other).length := readBytes_blank
  rw [← blank, ← same, readBytes_blank]

end Blank

section Image

variable {ending : LineEnding} {rs : List HexRecord}

theorem addresses_length (base : Base) (rs : List HexRecord) :
    (addresses base rs).length = (contents rs).length := by
  induction rs generalizing base with
  | nil => rfl
  | cons r rs ih =>
      rw [addresses, List.length_append, List.length_map, List.length_range, ih, contents_cons,
        List.length_append]

theorem readBytes_cut (ending : LineEnding) (rs : List HexRecord) :
    readBytes ending rs <+: contents rs := by
  induction rs with
  | nil => exact List.prefix_refl []
  | cons r rs ih =>
      rw [readBytes, contents_cons]
      split
      · exact (List.prefix_append_right_inj r.payload).mpr ih
      · exact List.nil_prefix

theorem readBytes_short (short : Short ending rs) : readBytes ending rs = contents rs := by
  induction rs with
  | nil => rfl
  | cons r rs ih =>
      rw [readBytes, if_pos (short r List.mem_cons_self),
        ih fun other member => short other (List.mem_cons_of_mem r member), contents_cons]

/-- A line that is too long has data bytes, which are lost. -/
theorem short_of_length {file : Text} (written : WrittenFile ending file rs)
    (all : (contents rs).length ≤ (readBytes ending rs).length) : Short ending rs := by
  induction written with
  | @last line r written valid isEnd =>
      intro other member
      obtain rfl := List.mem_singleton.mp member
      have empty := valid.endRecord isEnd
      cases ending <;> simp [lineLength, empty, LineEnding.carriage]
  | @cons line rest r rs written valid goesOn more ih =>
      have here : lineLength ending r ≤ 511 := by
        by_contra long
        have data : r.payload.length = r.bytes.length ∨ r.bytes.length ≤ 4 := by
          by_cases type : r.rectype = 0
          · rw [HexRecord.payload, if_pos type]
            exact .inl rfl
          · have kinds : r.rectype = 1 ∨ r.rectype = 2 ∨ r.rectype = 3 ∨ r.rectype = 4 ∨
                r.rectype = 5 := by
              have range : r.rectype.toNat ≤ 5 := valid.rectype
              have positive : r.rectype.toNat ≠ 0 := fun zero => type (UInt8.toNat_inj.mp zero)
              simp only [← UInt8.toNat_inj, UInt8.reduceToNat]
              omega
            right
            rcases kinds with one | two | three | four | five
            · exact absurd one goesOn
            · rw [valid.segment two]
              decide
            · rw [valid.startSegment three]
            · rw [valid.linear four]
              decide
            · rw [valid.startLinear five]
        have few : ending.carriage.length ≤ 1 := by cases ending <;> decide
        rw [readBytes, if_neg long, contents_cons, List.length_append] at all
        unfold lineLength at long
        have lost : r.payload.length = 0 := Nat.le_zero.mp (Nat.le_trans (Nat.le_add_right _ _) all)
        omega
      intro other member
      rcases List.mem_cons.mp member with rfl | member
      · exact here
      · refine ih ?_ other member
        rw [readBytes, if_pos here, contents_cons, List.length_append, List.length_append] at all
        exact Nat.le_of_add_le_add_left all

/-- Bytes that follow each other from address 0 on are their own image. -/
theorem placed_range (bytes : Text) (count : Nat) :
    Placed (bytes ++ List.replicate count 0xff) ((List.range bytes.length).zip bytes) := by
  have assigned : ∀ address byte, (address, byte) ∈ (List.range bytes.length).zip bytes ↔
      bytes[address]? = some byte := by
    intro address byte
    rw [List.mem_iff_getElem?]
    simp only [List.getElem?_zip_eq_some]
    constructor
    · rintro ⟨i, inRange, inBytes⟩
      obtain ⟨bound, value⟩ := List.getElem?_eq_some_iff.mp inRange
      rw [List.getElem_range] at value
      rwa [← value]
    · intro value
      obtain ⟨bound, -⟩ := List.getElem?_eq_some_iff.mp value
      exact ⟨address, by rw [List.getElem?_range bound], value⟩
  constructor
  · intro address byte member
    have value := (assigned address byte).mp member
    obtain ⟨bound, -⟩ := List.getElem?_eq_some_iff.mp value
    rwa [List.getElem?_append_left bound]
  · intro address inside free
    have behind : bytes.length ≤ address := by
      by_contra before
      have bound : address < bytes.length := Nat.lt_of_not_le before
      exact free bytes[address] ((assigned _ _).mpr (List.getElem?_eq_getElem bound))
    rw [List.length_append, List.length_replicate] at inside
    rw [List.getElem?_append_right behind, List.getElem?_replicate, if_pos (by omega)]

end Image

/-- The digit of a value. -/
def hexChar (digit : Nat) : UInt8 := UInt8.ofNat (if digit < 10 then digit + 48 else digit + 55)

def writeByte (byte : UInt8) : Text := [hexChar (byte.toNat / 16), hexChar (byte.toNat % 16)]

/-- The line of a record. -/
def HexRecord.line (r : HexRecord) : Text := 58 :: (r.fields ++ [r.checksum]).flatMap writeByte

def writeFile (ending : LineEnding) : List HexRecord → Text
  | [] => []
  | r :: rs => r.line ++ ending.carriage ++ 10 :: writeFile ending rs

/-- A record with other data bytes. -/
def HexRecord.refill (f : Nat → UInt8) (r : HexRecord) : HexRecord :=
  if r.rectype = 0 then { r with bytes := (List.range r.bytes.length).map f } else r

/-- The records with `f i` for the data byte `i` of the file. -/
def refill : (Nat → UInt8) → List HexRecord → List HexRecord
  | _, [] => []
  | f, r :: rs => r.refill f :: refill (fun i => f (r.payload.length + i)) rs

theorem hexDigit_hexChar (digit : Nat) (small : digit < 16) :
    hexDigit (hexChar digit) = some digit := by
  revert digit
  decide

theorem writtenBytes_flatMap (bytes : List UInt8) :
    WrittenBytes (bytes.flatMap writeByte) bytes := by
  induction bytes with
  | nil => exact .nil
  | cons byte bytes ih =>
      have bound := byte.toNat_lt
      have value : UInt8.ofNat (16 * (byte.toNat / 16) + byte.toNat % 16) = byte := by
        rw [Nat.div_add_mod, UInt8.ofNat_toNat]
      have digits := WrittenBytes.cons (hexDigit_hexChar (byte.toNat / 16) (by omega))
        (hexDigit_hexChar (byte.toNat % 16) (by omega)) ih
      rwa [value] at digits

theorem writtenRecord_line (r : HexRecord) : WrittenRecord r.line r :=
  ⟨_, rfl, writtenBytes_flatMap _⟩

section Refill

variable (f : Nat → UInt8) {r : HexRecord} {rs : List HexRecord}

theorem refill_rectype (r : HexRecord) : (r.refill f).rectype = r.rectype := by
  rw [HexRecord.refill]
  split <;> rfl

theorem refill_blank (r : HexRecord) : (r.refill f).blank = r.blank := by
  rw [HexRecord.blank, HexRecord.blank, refill_rectype, HexRecord.refill]
  split
  · simp only [List.length_map, List.length_range]
  · rfl

theorem refill_payload (r : HexRecord) :
    (r.refill f).payload = (List.range r.payload.length).map f := by
  rw [HexRecord.payload, HexRecord.payload, refill_rectype, HexRecord.refill]
  split <;> rfl

theorem refill_valid (valid : r.Valid) : (r.refill f).Valid := by
  have length : (r.refill f).bytes.length = r.bytes.length := by
    rw [← blank_length, refill_blank, blank_length]
  have type := refill_rectype f r
  constructor
  · exact length.trans_lt valid.length
  · exact type ▸ valid.rectype
  · exact fun kind => length.trans (valid.endRecord (type.symm.trans kind))
  · exact fun kind => length.trans (valid.segment (type.symm.trans kind))
  · exact fun kind => length.trans (valid.startSegment (type.symm.trans kind))
  · exact fun kind => length.trans (valid.linear (type.symm.trans kind))
  · exact fun kind => length.trans (valid.startLinear (type.symm.trans kind))

theorem sameLayout_refill (f : Nat → UInt8) (rs : List HexRecord) :
    SameLayout rs (refill f rs) := by
  rw [SameLayout]
  induction rs generalizing f with
  | nil => rfl
  | cons r rs ih => rw [refill, List.map_cons, List.map_cons, refill_blank, ← ih]

theorem contents_refill (f : Nat → UInt8) (rs : List HexRecord) :
    contents (refill f rs) = (List.range (contents rs).length).map f := by
  induction rs generalizing f with
  | nil => rfl
  | cons r rs ih =>
      rw [refill, contents_cons, contents_cons, ih, refill_payload, List.length_append,
        List.range_add, List.map_append, List.map_map]
      rfl

/-- Every contents of a layout has a file. -/
theorem writtenFile_refill {ending : LineEnding} {file : Text}
    (written : WrittenFile ending file rs) (f : Nat → UInt8) :
    WrittenFile ending (writeFile ending (refill f rs)) (refill f rs) := by
  induction written generalizing f with
  | last _ valid isEnd =>
      exact .last (writtenRecord_line _) (refill_valid f valid) ((refill_rectype f _).trans isEnd)
  | cons _ valid goesOn _ ih =>
      exact .cons (writtenRecord_line _) (refill_valid f valid)
        (fun isEnd => goesOn ((refill_rectype f _).symm.trans isEnd)) (ih _)

end Refill

/-! ## Placement -/

section Placement

variable {ending : LineEnding} {file : Text} {rs : List HexRecord}

/-- The contents with a 0 at one place and 1 elsewhere. -/
def marked (place i : Nat) : UInt8 := if i = place then 0 else 1

/-- If the marked contents are placed right, the marked byte has its place for its address. -/
theorem placed_marked (c : Controller) {place : Nat} (inside : place < (contents rs).length)
    (placed : Placed (readBytes ending (refill (marked place) rs) ++ List.replicate
      (c.pageSize - (readBytes ending (refill (marked place) rs)).length % c.pageSize) 0xff)
      (assignments (refill (marked place) rs))) :
    (addresses (.segment 0) rs)[place]? = some place ∧
      place < (readBytes ending rs).length := by
  have layout := sameLayout_refill (marked place) rs
  have bound : place < (addresses (.segment 0) rs).length := by
    rw [addresses_length]
    exact inside
  have assigned : ((addresses (.segment 0) rs)[place], (0 : UInt8)) ∈
      assignments (refill (marked place) rs) := by
    rw [assignments, layout.addresses_eq, contents_refill, List.mem_iff_getElem?]
    refine ⟨place, ?_⟩
    rw [List.getElem?_zip_eq_some]
    refine ⟨List.getElem?_eq_getElem bound, ?_⟩
    rw [List.getElem?_map, List.getElem?_range inside, Option.map_some, marked, if_pos rfl]
  have value := placed.1 _ _ assigned
  -- The zero can only be read from the data, and only at the marked place.
  have read : (addresses (.segment 0) rs)[place] <
      (readBytes ending (refill (marked place) rs)).length := by
    by_contra behind
    rw [List.getElem?_append_right (Nat.le_of_not_lt behind), List.getElem?_replicate] at value
    split at value <;> cases value
  rw [List.getElem?_append_left read, List.getElem?_eq_getElem read] at value
  have zero := List.prefix_iff_getElem?.mp
    (readBytes_cut ending (refill (marked place) rs)) _ read
  rw [value, contents_refill, List.getElem?_map, Option.map_eq_some_iff] at zero
  obtain ⟨i, inRange, isZero⟩ := zero
  obtain ⟨_, rfl⟩ := List.getElem?_eq_some_iff.mp inRange
  rw [List.getElem_range, marked] at isZero
  split at isZero
  next same =>
    rw [same, layout.readBytes_length] at read
    exact ⟨by rw [List.getElem?_eq_getElem bound, same], read⟩
  next => cases isZero

/-- A layout is placed right with every contents exactly when its records are contiguous from
address 0 on, no line is too long and the padding ends. -/
theorem placement_iff (stale : Nat → Nat → UInt16) (c : Controller)
    (written : WrittenFile ending file rs) :
    (∀ other otherFile, SameLayout rs other → WrittenFile ending otherFile other →
        LoadsPlaced stale c.pageSize otherFile other) ↔
      Contiguous rs ∧ Short ending rs ∧
        ¬ (c.pageSize = 256 ∧ (contents rs).length % 256 = 0) := by
  constructor
  · intro places
    have marks : ∀ place < (contents rs).length,
        (addresses (.segment 0) rs)[place]? = some place ∧
          place < (readBytes ending rs).length := by
      intro place inside
      have file := writtenFile_refill written (marked place)
      have loads := places _ _ (sameLayout_refill (marked place) rs) file
      exact placed_marked c inside ((loadsPlaced_iff stale c file).mp loads).2
    have contiguous : Contiguous rs := by
      apply List.ext_getElem?
      intro i
      by_cases inside : i < (contents rs).length
      · rw [(marks i inside).1, List.getElem?_range inside]
      · rw [List.getElem?_eq_none (by rw [addresses_length]; omega),
          List.getElem?_eq_none (by rw [List.length_range]; omega)]
    have all : (contents rs).length ≤ (readBytes ending rs).length := by
      by_contra fewer
      exact Nat.lt_irrefl _ (marks _ (Nat.lt_of_not_le fewer)).2
    have short := short_of_length written all
    refine ⟨contiguous, short, ?_⟩
    rintro ⟨page, full⟩
    have ends := ((loadsPlaced_iff stale c written).mp (places _ _ rfl written)).1
    rw [readBytes_short short, page, full] at ends
    exact absurd ends (by decide)
  · rintro ⟨contiguous, short, ends⟩ other otherFile layout otherWritten
    have shortOther : readBytes ending other = contents other := by
      refine (readBytes_cut ending other).eq_of_length ?_
      rw [layout.readBytes_length, readBytes_short short, layout.contents_length]
    rw [loadsPlaced_iff stale c otherWritten, shortOther, assignments, layout.addresses_eq,
      contiguous, layout.contents_length, ← layout.contents_length]
    refine ⟨?_, placed_range _ _⟩
    rw [layout.contents_length]
    cases c with
    | atmega8 => exact Nat.lt_of_le_of_lt (Nat.sub_le 64 _) (by decide)
    | atmega32 => exact Nat.lt_of_le_of_lt (Nat.sub_le 128 _) (by decide)
    | atmega644 =>
        have part : (contents rs).length % 256 ≠ 0 := fun full => ends ⟨rfl, full⟩
        change 256 - (contents rs).length % 256 < 256
        omega

/-- Where no line is cut and the padding ends, the layouts that are placed right with every contents
are the contiguous ones. -/
theorem contiguous_iff (stale : Nat → Nat → UInt16) (c : Controller)
    (written : WrittenFile ending file rs) (short : Short ending rs)
    (ends : c.pageSize = 256 → (contents rs).length % 256 ≠ 0) :
    (∀ other otherFile, SameLayout rs other → WrittenFile ending otherFile other →
        LoadsPlaced stale c.pageSize otherFile other) ↔ Contiguous rs := by
  rw [placement_iff stale c written]
  constructor
  · exact fun right => right.1
  · exact fun contiguous => ⟨contiguous, short, fun full => ends full.1 full.2⟩

end Placement

/-- Three data bytes in two lines, and the end record. -/
def twoLines : List HexRecord := [⟨0, 0, [0xaa, 0xbb]⟩, ⟨2, 0, [0xcc]⟩, ⟨0, 1, []⟩]

theorem twoLines_written : WrittenFile .lf (writeFile .lf twoLines) twoLines :=
  .cons (writtenRecord_line _) ⟨by decide, by decide, nofun, nofun, nofun, nofun, nofun⟩ (by decide)
    (.cons (writtenRecord_line _) ⟨by decide, by decide, nofun, nofun, nofun, nofun, nofun⟩
      (by decide)
      (.last (writtenRecord_line _)
        ⟨by decide, by decide, fun _ => rfl, nofun, nofun, nofun, nofun⟩ rfl))

theorem contiguous_iff_twoLines :
    Contiguous twoLines ∧
      ∀ other otherFile, SameLayout twoLines other → WrittenFile .lf otherFile other →
        LoadsPlaced (fun _ _ => 0) Controller.atmega32.pageSize otherFile other := by
  have contiguous : Contiguous twoLines := rfl
  exact ⟨contiguous, (contiguous_iff (fun _ _ => 0) .atmega32 twoLines_written
    (show ∀ r ∈ twoLines, lineLength .lf r ≤ 511 by decide) (by decide)).mpr contiguous⟩

/-- One data byte at address 16, and the end record. -/
def gapRecords : List HexRecord := [⟨16, 0, [0xaa]⟩, ⟨0, 1, []⟩]

/-- `:01001000AA45` and `:00000001FF`. -/
def gapFile : Text := writeFile .lf gapRecords

theorem gapFile_written : WrittenFile .lf gapFile gapRecords :=
  .cons (writtenRecord_line _) ⟨by decide, by decide, nofun, nofun, nofun, nofun, nofun⟩ (by decide)
    (.last (writtenRecord_line _) ⟨by decide, by decide, fun _ => rfl, nofun, nofun, nofun, nofun⟩
      rfl)

/-- The byte for address 16 is loaded at 0. -/
theorem gapFile_misplaced :
    WrittenFile .lf gapFile gapRecords ∧
      ¬ LoadsPlaced (fun _ _ => 0) Controller.atmega32.pageSize gapFile gapRecords := by
  refine ⟨gapFile_written, fun loads => ?_⟩
  have placed := ((loadsPlaced_iff (fun _ _ => 0) .atmega32 gapFile_written).mp loads).2
  have value := placed.1 16 0xaa (by decide)
  exact absurd value (by decide)

end Hcan.Flash
