import Mathlib.Data.List.TakeWhile
import Hcan.Host.Connection
import Hcan.Library.Bits
import Hcan.Library.Decimal

/-!
# Fields of the object access protocol

A field of an object on a board, read and written by the host as a number, a time or a text.  The
board is given by what the protocol says of its replies.
-/

namespace Hcan.Host

open Hcan.Library

def oapTypeBool : UInt8 := 1
def oapTypeInt : UInt8 := 2
def oapTypeTime : UInt8 := 3

/-- What FIELD_ATTRIBUTE_REPLAY tells of a field. -/
structure OapAttributes where
  fcid : UInt8
  flags : UInt8
  arraysize : UInt8
  deriving DecidableEq, Repr

/-- A value of a board: object, field and index. -/
structure OapPlace where
  oid : UInt8
  fid : UInt8
  idx : UInt8
  deriving DecidableEq, Repr

/-- A board that answers the requests: FIELD_READ_REPLAY has the value that the place holds, and
FIELD_WRITE_REQUEST stores a value at a place that its field has. -/
structure OapBoard (σ : Type) where
  attributes : σ → UInt8 → UInt8 → OapAttributes
  read : σ → OapPlace → UInt16
  write : σ → OapPlace → UInt16 → σ
  attributes_write : ∀ state place value,
    attributes (write state place value) = attributes state
  read_write : ∀ state place value,
    place.idx.toNat < max 1 (attributes state place.oid place.fid).arraysize.toNat → ∀ other,
      read (write state place value) other = if other = place then value else read state other

/-- `oap_field`; the details are loaded when they are needed. -/
structure OapField where
  oid : UInt8
  ocid : UInt8
  fid : UInt8
  details : Option OapAttributes
  deriving DecidableEq, Repr

structure OapTime where
  hour : UInt8
  minute : UInt8
  deriving DecidableEq, Repr

/-- What a call leaves behind: the board, and the writes that it was sent. -/
structure OapWritten (σ : Type) where
  board : σ
  writes : List (OapPlace × UInt16)

/-- `c_str()` ends at the first byte 0. -/
def cStr (value : Text) : Text := value.takeWhile fun byte => byte != 0

def matchBool (value : Text) : Bool := value == text "true" || value == text "false"

/-- `(\d+):(\d+)`. -/
def matchTime (value : Text) : Option (Text × Text) :=
  let hour := value.takeWhile isDecimal
  match value.dropWhile isDecimal with
  | 58 :: minute =>
      if !hour.isEmpty && !minute.isEmpty && minute.all isDecimal then some (hour, minute) else none
  | _ => none

/-- `(\d+)`. -/
def matchInt (value : Text) : Bool := !value.isEmpty && value.all isDecimal

def lexicalCast (digits : Text) : Except Text UInt16 :=
  if decimalValue digits < 65536 then .ok (UInt16.ofNat (decimalValue digits))
  else .error (text "bad lexical cast: source type value could not be interpreted as target")

/-- `setw(2) << setfill('0')`. -/
def setw2 (n : ℕ) : Text :=
  List.replicate (2 - (decimal n).length) 48 ++ decimal n

/-- A text of digits, at least one. -/
structure Digits (value : Text) : Prop where
  all : ∀ byte ∈ value, isDecimal byte = true
  some : value ≠ []

section Digits

variable {value hour minute : Text}

theorem decimal_eq (n : ℕ) : decimal n = decimalDigits n := by
  unfold decimal text decimalDigits
  rw [Nat.toList_repr]

theorem digits_decimal (n : ℕ) : Digits (decimal n) := by
  rw [decimal_eq]
  exact ⟨decimalDigits_all n, decimalDigits_ne_nil n⟩

theorem digits_setw2 (n : ℕ) : Digits (setw2 n) := by
  refine ⟨fun byte inside => ?_, fun none => ?_⟩
  · rcases List.mem_append.mp inside with filled | printed
    · rw [List.eq_of_mem_replicate filled]
      rfl
    · exact (digits_decimal n).all byte printed
  · exact (digits_decimal n).some (List.append_eq_nil_iff.mp none).2

theorem decimalValue_decimal (n : ℕ) : decimalValue (decimal n) = n := by
  rw [decimal_eq, decimalValue_decimalDigits]

theorem decimalValue_filled (count : ℕ) (digits : Text) :
    decimalValue (List.replicate count 48 ++ digits) = decimalValue digits := by
  induction count with
  | zero => rfl
  | succ count ih => exact (decimalValue_zero_cons _).trans ih

theorem decimalValue_setw2 (n : ℕ) : decimalValue (setw2 n) = n :=
  (decimalValue_filled _ _).trans (decimalValue_decimal n)

theorem cStr_eq (solid : ∀ byte ∈ value, byte ≠ 0) : cStr value = value :=
  List.takeWhile_eq_self_iff.mpr fun byte inside => bne_iff_ne.mpr (solid byte inside)

theorem ne_zero_of_isDecimal {byte : UInt8} (digit : isDecimal byte = true) : byte ≠ 0 := by
  rintro rfl
  exact absurd digit (by decide)

theorem matchBool_digit {first : UInt8} (digit : isDecimal first = true) (rest : Text) :
    matchBool (first :: rest) = false := by
  have other {byte : UInt8} (letter : isDecimal byte = false) : first ≠ byte := by
    rintro rfl
    rw [digit] at letter
    exact Bool.false_ne_true letter.symm
  have notTrue : first :: rest ≠ text "true" := fun same =>
    @other 116 (by decide) (List.cons.inj same).1
  have notFalse : first :: rest ≠ text "false" := fun same =>
    @other 102 (by decide) (List.cons.inj same).1
  rw [matchBool, beq_eq_false_iff_ne.mpr notTrue, beq_eq_false_iff_ne.mpr notFalse]
  rfl

theorem matchBool_digits (digits : Digits value) (rest : Text) :
    matchBool (value ++ rest) = false := by
  cases value with
  | nil => exact absurd rfl digits.some
  | cons first value => exact matchBool_digit (digits.all first List.mem_cons_self) _

theorem matchTime_time (hours : Digits hour) (minutes : Digits minute) :
    matchTime (hour ++ 58 :: minute) = some (hour, minute) := by
  have colon : ¬ isDecimal 58 = true := by decide
  have front : (hour ++ 58 :: minute).takeWhile isDecimal = hour := by
    rw [List.takeWhile_append_of_pos hours.all, List.takeWhile_cons_of_neg colon, List.append_nil]
  have back : (hour ++ 58 :: minute).dropWhile isDecimal = 58 :: minute := by
    rw [List.dropWhile_append_of_pos hours.all, List.dropWhile_cons_of_neg colon]
  have filled : (!hour.isEmpty && !minute.isEmpty && minute.all isDecimal) = true := by
    rw [List.isEmpty_eq_false_iff.mpr hours.some, List.isEmpty_eq_false_iff.mpr minutes.some,
      List.all_eq_true.mpr minutes.all]
    rfl
  unfold matchTime
  dsimp only
  rw [front, back]
  exact if_pos filled

theorem matchTime_digits (digits : Digits value) : matchTime value = none := by
  have back : value.dropWhile isDecimal = [] := List.dropWhile_eq_nil_iff.mpr digits.all
  unfold matchTime
  rw [back]

theorem matchInt_digits (digits : Digits value) : matchInt value = true := by
  rw [matchInt, List.isEmpty_eq_false_iff.mpr digits.some, List.all_eq_true.mpr digits.all]
  rfl

theorem lexicalCast_of_lt (small : decimalValue value < 65536) :
    lexicalCast value = .ok (UInt16.ofNat (decimalValue value)) := if_pos small

theorem solid_digits (digits : Digits value) : ∀ byte ∈ value, byte ≠ 0 :=
  fun byte inside => ne_zero_of_isDecimal (digits.all byte inside)

theorem solid_time (hours : Digits hour) (minutes : Digits minute) :
    ∀ byte ∈ hour ++ 58 :: minute, byte ≠ 0 := by
  intro byte inside
  rcases List.mem_append.mp inside with front | back
  · exact solid_digits hours byte front
  · rcases List.mem_cons.mp back with rfl | later
    · decide
    · exact solid_digits minutes byte later

end Digits

namespace OapField

section Field

variable {σ : Type} (board : OapBoard σ)

/-- A new field of an object. -/
def new (oid ocid fid : UInt8) : OapField := ⟨oid, ocid, fid, none⟩

/-- `m_fcid`. -/
def fieldClass (field : OapField) : UInt8 :=
  match field.details with
  | some details => details.fcid
  | none => 255

def loadDetails (state : σ) (field : OapField) : OapField :=
  match field.details with
  | some _ => field
  | none => { field with details := some (board.attributes state field.oid field.fid) }

def place (field : OapField) (idx : UInt8) : OapPlace := ⟨field.oid, field.fid, idx⟩

def value (state : σ) (field : OapField) (idx : UInt8) : UInt16 :=
  board.read state (field.place idx)

def valueAsTime (state : σ) (field : OapField) (idx : UInt8) : OapTime :=
  let v := field.value board state idx
  ⟨(v >>> 8).toUInt8, (v &&& 0xff).toUInt8⟩

def valueAsString (state : σ) (field : OapField) (idx : UInt8) : Except Text Text :=
  if field.fieldClass = oapTypeBool then
    .ok (if field.value board state idx > 0 then text "true" else text "false")
  else if field.fieldClass = oapTypeInt then .ok (decimal (field.value board state idx).toNat)
  else if field.fieldClass = oapTypeTime then
    let t := field.valueAsTime board state idx
    .ok (setw2 t.hour.toNat ++ [58] ++ setw2 t.minute.toNat)
  else .error (text "oap_field::value_as_string: unknown field class")

/-- `set_value` of a number. -/
def setValue (state : σ) (field : OapField) (value : UInt16) (idx : UInt8) : OapWritten σ :=
  ⟨board.write state (field.place idx) value, [(field.place idx, value)]⟩

/-- `set_value` of a time; the call inside has the index that it has by default. -/
def setTime (state : σ) (field : OapField) (time : OapTime) (_idx : UInt8) : OapWritten σ :=
  field.setValue board state ((time.hour.toUInt16 <<< 8) ||| (time.minute.toUInt16 &&& 0xff)) 0

/-- `set_value` of a text. -/
def setText (state : σ) (field : OapField) (value : Text) (idx : UInt8) :
    Except Text (OapWritten σ) :=
  if matchBool (cStr value) then
    .ok (field.setValue board state (if cStr value = text "true" then 1 else 0) idx)
  else match matchTime (cStr value) with
    | some (hour, minute) => do
        let hour ← lexicalCast hour
        let minute ← lexicalCast minute
        .ok (field.setTime board state ⟨hour.toUInt8, minute.toUInt8⟩ idx)
    | none =>
        if matchInt (cStr value) then do
          let v ← lexicalCast (cStr value)
          .ok (field.setValue board state v idx)
        else .error (text "oap_field::set_value: invalid value format:'" ++ value ++ text "'")

end Field

/-! ## What the calls give -/

section Calls

variable {σ : Type} {board : OapBoard σ} {state : σ} {field : OapField} {idx : UInt8}
  {value hour minute : Text}

theorem setText_true : field.setText board state (text "true") idx =
    .ok (field.setValue board state 1 idx) := rfl

theorem setText_false : field.setText board state (text "false") idx =
    .ok (field.setValue board state 0 idx) := rfl

/-- A text of digits is set as a number. -/
theorem setText_digits (digits : Digits value) (small : decimalValue value < 65536) :
    field.setText board state value idx =
      .ok (field.setValue board state (UInt16.ofNat (decimalValue value)) idx) := by
  have noBool : matchBool value = false := by
    have whole := matchBool_digits digits []
    rwa [List.append_nil] at whole
  unfold setText
  rw [cStr_eq (solid_digits digits), if_neg (by rw [noBool]; exact Bool.false_ne_true),
    matchTime_digits digits]
  dsimp only
  rw [if_pos (matchInt_digits digits), lexicalCast_of_lt small]
  rfl

/-- A text of a time is set as a time. -/
theorem setText_time (hours : Digits hour) (minutes : Digits minute)
    (hourSmall : decimalValue hour < 256) (minuteSmall : decimalValue minute < 256) :
    field.setText board state (hour ++ 58 :: minute) idx =
      .ok (field.setTime board state
        ⟨UInt8.ofNat (decimalValue hour), UInt8.ofNat (decimalValue minute)⟩ idx) := by
  have noBool : matchBool (hour ++ 58 :: minute) = false := matchBool_digits hours _
  have byte {n : ℕ} (small : n < 256) : (UInt16.ofNat n).toUInt8 = UInt8.ofNat n := by
    refine UInt8.toNat_inj.mp ?_
    rw [UInt16.toNat_toUInt8, UInt16.toNat_ofNat', UInt8.toNat_ofNat']
    omega
  unfold setText
  rw [cStr_eq (solid_time hours minutes), if_neg (by rw [noBool]; exact Bool.false_ne_true),
    matchTime_time hours minutes]
  dsimp only
  rw [lexicalCast_of_lt (by omega), lexicalCast_of_lt (by omega), ← byte hourSmall,
    ← byte minuteSmall]
  rfl

/-- The number of a time. -/
theorem time_word (v : UInt16) :
    (((v >>> 8).toUInt8.toUInt16 <<< 8) ||| ((v &&& 0xff).toUInt8.toUInt16 &&& 0xff)) = v := by
  have low : (v &&& 0xff).toUInt8.toUInt16 &&& 0xff = v.toUInt8.toUInt16 := by
    refine UInt16.toNat_inj.mp ?_
    simp only [UInt16.toNat_and, UInt8.toNat_toUInt16, UInt16.toNat_toUInt8]
    change (v.toNat &&& 2 ^ 8 - 1) % 256 &&& 2 ^ 8 - 1 = _
    rw [Nat.and_two_pow_sub_one_eq_mod, Nat.and_two_pow_sub_one_eq_mod]
    omega
  have bound := v.toNat_lt
  refine UInt16.toNat_inj.mp ?_
  rw [low, joined_toNat, UInt16.toNat_toUInt8, UInt16.toNat_toUInt8, UInt16.toNat_shiftRight,
    show (8 : UInt16).toNat % 16 = 8 from rfl, Nat.shiftRight_eq_div_pow]
  omega

/-- The time of a number made from a time. -/
theorem word_time (time : OapTime) :
    (⟨(((time.hour.toUInt16 <<< 8) ||| (time.minute.toUInt16 &&& 0xff)) >>> 8).toUInt8,
      (((time.hour.toUInt16 <<< 8) ||| (time.minute.toUInt16 &&& 0xff)) &&& 0xff).toUInt8⟩ :
        OapTime) = time := by
  obtain ⟨hour, minute⟩ := time
  have low : minute.toUInt16 &&& 0xff = minute.toUInt16 := by
    refine UInt16.toNat_inj.mp ?_
    rw [UInt16.toNat_and]
    change minute.toUInt16.toNat &&& 2 ^ 8 - 1 = _
    rw [Nat.and_two_pow_sub_one_eq_mod, UInt8.toNat_toUInt16, Nat.mod_eq_of_lt minute.toNat_lt]
  have masked (v : UInt16) : (v &&& 0xff).toUInt8 = v.toUInt8 := by
    refine UInt8.toNat_inj.mp ?_
    rw [UInt16.toNat_toUInt8, UInt16.toNat_toUInt8, UInt16.toNat_and]
    change (v.toNat &&& 2 ^ 8 - 1) % 256 = _
    rw [Nat.and_two_pow_sub_one_eq_mod]
    omega
  rw [low, masked, joined_high, joined_low]

end Calls

/-! ## The lens -/

section Lens

variable {σ : Type} (board : OapBoard σ) (state : σ) (field : OapField) (idx : UInt8)

/-- The class that the board gives the field. -/
def storedClass : UInt8 := (board.attributes state field.oid field.fid).fcid

/-- What the host knows of the field comes from the board. -/
def Known : Prop :=
  ∀ details, field.details = some details → details = board.attributes state field.oid field.fid

/-- The field has the index; a field that is no array has the index 0. -/
def HasIndex : Prop :=
  idx.toNat < max 1 (board.attributes state field.oid field.fid).arraysize.toNat

/-- The value is one of its class. -/
def Typed : Prop :=
  (field.storedClass board state = oapTypeBool ∧ field.value board state idx ≤ 1) ∨
    field.storedClass board state = oapTypeInt ∨
    (field.storedClass board state = oapTypeTime ∧
      (field.valueAsTime board state idx).hour < 24 ∧
      (field.valueAsTime board state idx).minute < 60)

/-- Setting the text of the value keeps the value and writes no other place. -/
def SetsBack : Prop :=
  ∃ shown written, field.valueAsString board state idx = .ok shown ∧
    field.setText board state shown idx = .ok written ∧
    field.value board written.board idx = field.value board state idx ∧
    ∀ write ∈ written.writes, write.1 = field.place idx

/-- Setting a time gives this time back. -/
def SetsTime : Prop :=
  ∀ hour minute, Digits hour → Digits minute → decimalValue hour < 24 → decimalValue minute < 60 →
    ∃ written, field.setText board state (hour ++ 58 :: minute) idx = .ok written ∧
      field.valueAsTime board written.board idx =
        ⟨UInt8.ofNat (decimalValue hour), UInt8.ofNat (decimalValue minute)⟩

end Lens

section Proofs

variable {σ : Type} {board : OapBoard σ} {state : σ} {field : OapField} {idx : UInt8}

theorem known_new (oid ocid fid : UInt8) : (new oid ocid fid).Known board state :=
  fun details loaded => absurd loaded.symm (Option.some_ne_none details)

/-- Loading gives the field the attributes of the board. -/
theorem loadDetails_known (known : field.Known board state) :
    (field.loadDetails board state).Known board state ∧
      (field.loadDetails board state).details.isSome = true := by
  unfold loadDetails
  cases loaded : field.details with
  | some details => exact ⟨known, by rw [loaded]; rfl⟩
  | none => exact ⟨fun details same => (Option.some.inj same).symm, rfl⟩

theorem fieldClass_loaded (known : field.Known board state)
    (loaded : field.details.isSome = true) :
    field.fieldClass = field.storedClass board state := by
  obtain ⟨details, same⟩ := Option.isSome_iff_exists.mp loaded
  unfold fieldClass storedClass
  rw [same, ← known details same]

theorem hasIndex_zero : field.HasIndex board state 0 :=
  Nat.lt_of_lt_of_le Nat.zero_lt_one (Nat.le_max_left 1 _)

theorem place_inj {other : UInt8} (same : field.place idx = field.place other) : idx = other :=
  congrArg OapPlace.idx same

/-- What the field holds behind a write. -/
theorem value_setValue {target : UInt8} (valid : field.HasIndex board state target) (v : UInt16) :
    field.value board (field.setValue board state v target).board idx =
      if idx = target then v else field.value board state idx := by
  have written := board.read_write state (field.place target) v valid (field.place idx)
  by_cases same : idx = target
  · subst same
    rw [if_pos rfl] at written
    rw [if_pos rfl]
    exact written
  · rw [if_neg fun places => same (place_inj places)] at written
    rw [if_neg same]
    exact written

/-- A write of the value that is there. -/
theorem setsBack_of_setValue {shown : Text} (valid : field.HasIndex board state idx)
    (printed : field.valueAsString board state idx = .ok shown)
    (set : field.setText board state shown idx =
      .ok (field.setValue board state (field.value board state idx) idx)) :
    field.SetsBack board state idx := by
  refine ⟨shown, _, printed, set, ?_, ?_⟩
  · rw [value_setValue valid, if_pos rfl]
  · intro write inside
    rw [List.mem_singleton.mp inside]

theorem setsBack_bool (valid : field.HasIndex board state idx)
    (class_ : field.fieldClass = oapTypeBool) (small : field.value board state idx ≤ 1) :
    field.SetsBack board state idx := by
  have printed : field.valueAsString board state idx =
      .ok (if field.value board state idx > 0 then text "true" else text "false") := if_pos class_
  by_cases set : field.value board state idx > 0
  · have least : 0 < (field.value board state idx).toNat := UInt16.lt_iff_toNat_lt.mp set
    have most : (field.value board state idx).toNat ≤ 1 := UInt16.le_iff_toNat_le.mp small
    have one : field.value board state idx = 1 :=
      UInt16.toNat_inj.mp (Nat.le_antisymm most least)
    rw [if_pos set] at printed
    refine setsBack_of_setValue valid printed ?_
    rw [one]
    exact setText_true
  · have zero : field.value board state idx = 0 := UInt16.le_zero_iff.mp (UInt16.not_lt.mp set)
    rw [if_neg set] at printed
    refine setsBack_of_setValue valid printed ?_
    rw [zero]
    exact setText_false

theorem setsBack_int (valid : field.HasIndex board state idx)
    (class_ : field.fieldClass = oapTypeInt) : field.SetsBack board state idx := by
  have noBool : ¬ field.fieldClass = oapTypeBool := by
    rw [class_]
    decide
  have printed : field.valueAsString board state idx =
      .ok (decimal (field.value board state idx).toNat) := by
    unfold valueAsString
    rw [if_neg noBool, if_pos class_]
  have value_eq := decimalValue_decimal (field.value board state idx).toNat
  have set := @setText_digits _ board state field idx _
    (digits_decimal (field.value board state idx).toNat) (by rw [value_eq]; exact UInt16.toNat_lt _)
  refine setsBack_of_setValue valid printed ?_
  rw [set, value_eq, UInt16.ofNat_toNat]

/-- A time is written back at the index 0. -/
theorem setText_stored (class_ : field.fieldClass = oapTypeTime) :
    ∃ shown, field.valueAsString board state idx = .ok shown ∧
      field.setText board state shown idx =
        .ok (field.setValue board state (field.value board state idx) 0) := by
  have noBool : ¬ field.fieldClass = oapTypeBool := by
    rw [class_]
    decide
  have noInt : ¬ field.fieldClass = oapTypeInt := by
    rw [class_]
    decide
  have hour := decimalValue_setw2 (field.valueAsTime board state idx).hour.toNat
  have minute := decimalValue_setw2 (field.valueAsTime board state idx).minute.toNat
  refine ⟨_, (if_neg noBool).trans ((if_neg noInt).trans (if_pos class_)), ?_⟩
  rw [List.append_assoc, List.singleton_append, setText_time (digits_setw2 _) (digits_setw2 _)
    (by rw [hour]; exact UInt8.toNat_lt _) (by rw [minute]; exact UInt8.toNat_lt _), hour, minute,
    UInt8.ofNat_toNat, UInt8.ofNat_toNat]
  exact congrArg (fun v => Except.ok (field.setValue board state v 0)) (time_word _)

theorem setsBack_time_iff (class_ : field.fieldClass = oapTypeTime) :
    field.SetsBack board state idx ↔ idx = 0 := by
  obtain ⟨text_, printed, set⟩ := @setText_stored _ board state field idx class_
  constructor
  · rintro ⟨shown, written, shows_, sets, -, places⟩
    cases printed.symm.trans shows_
    cases set.symm.trans sets
    exact (place_inj (places _ (List.mem_singleton.mpr rfl))).symm
  · rintro rfl
    exact setsBack_of_setValue hasIndex_zero printed set

theorem digits_single {digit : UInt8} (decimal_ : isDecimal digit = true) : Digits [digit] := by
  refine ⟨fun byte inside => ?_, List.cons_ne_nil digit []⟩
  rw [List.mem_singleton.mp inside]
  exact decimal_

/-- A time reaches the index 0 and no other. -/
theorem valueAsTime_setTime (time : OapTime) {target : UInt8} :
    field.valueAsTime board (field.setTime board state time target).board idx =
      if idx = 0 then time else field.valueAsTime board state idx := by
  have written := @value_setValue _ board state field idx 0 (@hasIndex_zero _ board state field)
    ((time.hour.toUInt16 <<< 8) ||| (time.minute.toUInt16 &&& 0xff))
  unfold valueAsTime setTime
  dsimp only
  rw [written]
  by_cases same : idx = 0
  · rw [if_pos same, if_pos same]
    exact word_time time
  · rw [if_neg same, if_neg same]

/-- Times are set at the index 0. -/
theorem setsTime_iff : field.SetsTime board state idx ↔ idx = 0 := by
  have set {hour minute : Text} (hours : Digits hour) (minutes : Digits minute)
      (hourSmall : decimalValue hour < 24) (minuteSmall : decimalValue minute < 60) :=
    @setText_time _ board state field idx _ _ hours minutes
      (by omega) (by omega)
  constructor
  · intro sets
    by_contra other
    -- The first minute and the second one leave the same time at the index.
    have kept {minute : Text} (minutes : Digits minute) (small : decimalValue minute < 60) :
        field.valueAsTime board state idx = ⟨0, UInt8.ofNat (decimalValue minute)⟩ := by
      have zero : Digits [48] := digits_single rfl
      obtain ⟨written, done, shown⟩ := sets [48] minute zero minutes (by decide) small
      cases done.symm.trans (set zero minutes (by decide) small)
      rw [valueAsTime_setTime, if_neg other] at shown
      exact shown
    have first := kept (@digits_single 48 rfl) (by decide)
    have second := kept (@digits_single 49 rfl) (by decide)
    exact absurd (first.symm.trans second) (by decide)
  · rintro rfl hour minute hours minutes hourSmall minuteSmall
    refine ⟨_, set hours minutes hourSmall minuteSmall, ?_⟩
    rw [valueAsTime_setTime, if_pos rfl]

/-- The text of a value sets it back when the class is known and a time stands at the index 0; a
time is set at the index 0. -/
theorem oap_lens_iff (known : field.Known board state) (index : field.HasIndex board state idx)
    (typed : field.Typed board state idx) :
    (field.SetsBack board state idx ↔
        field.details.isSome = true ∧ (field.storedClass board state = oapTypeTime → idx = 0)) ∧
      (field.SetsTime board state idx ↔ idx = 0) := by
  refine ⟨?_, setsTime_iff⟩
  by_cases loaded : field.details.isSome = true
  · have class_ := fieldClass_loaded known loaded
    rcases typed with ⟨bool, small⟩ | int | ⟨time, -, -⟩
    · refine iff_of_true (setsBack_bool index (class_.trans bool) small) ⟨loaded, fun time => ?_⟩
      exact absurd (bool.symm.trans time) (by decide)
    · refine iff_of_true (setsBack_int index (class_.trans int)) ⟨loaded, fun time => ?_⟩
      exact absurd (int.symm.trans time) (by decide)
    · rw [setsBack_time_iff (class_.trans time)]
      exact ⟨fun zero => ⟨loaded, fun _ => zero⟩, fun both => both.2 time⟩
  · refine iff_of_false ?_ fun both => loaded both.1
    have unloaded : field.details = none := by
      cases stored : field.details with
      | some details => exact absurd (by rw [stored]; rfl) loaded
      | none => rfl
    have class_ : field.fieldClass = 255 := by
      unfold fieldClass
      rw [unloaded]
    rintro ⟨shown, written, printed, -⟩
    unfold valueAsString at printed
    rw [class_, if_neg (by decide), if_neg (by decide), if_neg (by decide)] at printed
    cases printed

end Proofs

/-- The attributes and the values of the board. -/
structure Store where
  attributes : UInt8 → UInt8 → OapAttributes
  values : OapPlace → UInt16

def storeBoard : OapBoard Store where
  attributes := Store.attributes
  read := Store.values
  write state place value :=
    { state with values := fun other => if other = place then value else state.values other }
  attributes_write := fun _ _ _ => rfl
  read_write := fun _ _ _ _ _ => rfl

/-- An array of four times, 08:30 at the index 2 and 06:45 at the others. -/
def fourTimes : Store :=
  ⟨fun _ _ => ⟨oapTypeTime, 7, 4⟩,
    fun place => if place.idx = 2 then 8 * 256 + 30 else 6 * 256 + 45⟩

def timesField : OapField := (new 4 21 1).loadDetails storeBoard fourTimes

/-- At the index 0 the stored time is read and written. -/
theorem oap_lens_times :
    fourTimes.values (timesField.place 0) = 6 * 256 + 45 ∧
    (timesField.SetsBack storeBoard fourTimes 0 ↔ True) ∧
      (timesField.SetsTime storeBoard fourTimes 0 ↔ True) := by
  have typed : timesField.Typed storeBoard fourTimes 0 := .inr (.inr (by decide))
  have lens := oap_lens_iff (loadDetails_known (known_new 4 21 1)).1 hasIndex_zero typed
  exact ⟨rfl, lens.1.trans (iff_true_intro ⟨rfl, fun _ => rfl⟩), lens.2.trans (iff_true_intro rfl)⟩

/-- The time at the index 2 is written to the index 0. -/
theorem oap_lens_fails :
    ¬ (timesField.SetsBack storeBoard fourTimes 2 ∨
      timesField.SetsTime storeBoard fourTimes 2) := by
  rintro (back | time)
  · have class_ : timesField.fieldClass = oapTypeTime := rfl
    exact absurd ((setsBack_time_iff class_).mp back) (by decide)
  · exact absurd (setsTime_iff.mp time) (by decide)

end OapField
end Hcan.Host
