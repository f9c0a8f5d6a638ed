import Mathlib.Algebra.Ring.Nat
import Mathlib.Data.List.Basic
import Mathlib.Data.List.GetD

/-!
# Records of a fixed number of bytes

A codec carries both round trips of its record as fields, so that a record and its
bytes can be exchanged freely.  Words are little endian; pairs and renamed records
are built from codecs of their parts, and a sequence of records is read back by its
index.
-/

namespace Hcan.Library

/-- The first `width` bytes of a number, the lowest first. -/
def toBytes : Nat → Nat → List UInt8
  | 0, _ => []
  | width + 1, n => UInt8.ofNat n :: toBytes width (n / 256)

def ofBytes : List UInt8 → Nat
  | [] => 0
  | byte :: bytes => byte.toNat + 256 * ofBytes bytes

@[simp]
theorem toBytes_length (width n : Nat) : (toBytes width n).length = width := by
  induction width generalizing n with
  | zero => rfl
  | succ width ih => rw [toBytes, List.length_cons, ih]

theorem ofBytes_toBytes {width n : Nat} (small : n < 256 ^ width) :
    ofBytes (toBytes width n) = n := by
  induction width generalizing n with
  | zero => exact (Nat.lt_one_iff.mp small).symm
  | succ width ih =>
      have high : n / 256 < 256 ^ width := by
        rw [Nat.pow_succ] at small
        exact Nat.div_lt_of_lt_mul (by rwa [Nat.mul_comm])
      rw [toBytes, ofBytes, ih high, UInt8.toNat_ofNat']
      exact Nat.mod_add_div n 256

theorem ofBytes_lt (bytes : List UInt8) : ofBytes bytes < 256 ^ bytes.length := by
  induction bytes with
  | nil => exact Nat.one_pos
  | cons byte bytes ih =>
      have low := byte.toNat_lt
      rw [ofBytes, List.length_cons, Nat.pow_succ]
      omega

theorem toBytes_ofBytes (bytes : List UInt8) : toBytes bytes.length (ofBytes bytes) = bytes := by
  induction bytes with
  | nil => rfl
  | cons byte bytes ih =>
      have low := byte.toNat_lt
      have quotient : (byte.toNat + 256 * ofBytes bytes) / 256 = ofBytes bytes := by omega
      have rest : UInt8.ofNat (byte.toNat + 256 * ofBytes bytes) = byte := by
        apply UInt8.toNat_inj.mp
        rw [UInt8.toNat_ofNat']
        omega
      rw [List.length_cons, ofBytes, toBytes, quotient, rest, ih]

/-- A type whose values are exactly the byte lists of one length. -/
structure Codec (α : Type) where
  size : Nat
  encode : α → List UInt8
  decode : List UInt8 → α
  encode_length : ∀ value, (encode value).length = size
  decode_encode : ∀ value, decode (encode value) = value
  encode_decode : ∀ bytes, bytes.length = size → encode (decode bytes) = bytes

namespace Codec

variable {α β : Type}

/-- A word as `width` bytes of its number. -/
def word (width : Nat) (toNat : α → Nat) (ofNat : Nat → α) (small : ∀ v, toNat v < 256 ^ width)
    (ofNat_toNat : ∀ v, ofNat (toNat v) = v)
    (toNat_ofNat : ∀ n, n < 256 ^ width → toNat (ofNat n) = n) : Codec α where
  size := width
  encode v := toBytes width (toNat v)
  decode bytes := ofNat (ofBytes bytes)
  encode_length v := toBytes_length width _
  decode_encode v := by rw [ofBytes_toBytes (small v), ofNat_toNat]
  encode_decode bytes length := by
    have bound := ofBytes_lt bytes
    rw [length] at bound
    rw [toNat_ofNat _ bound]
    subst length
    exact toBytes_ofBytes bytes

def uint16 : Codec UInt16 :=
  word 2 UInt16.toNat UInt16.ofNat (fun v => v.toNat_lt) (fun _ => UInt16.ofNat_toNat)
    fun _ small => UInt16.toNat_ofNat_of_lt' small

def uint32 : Codec UInt32 :=
  word 4 UInt32.toNat UInt32.ofNat (fun v => v.toNat_lt) (fun _ => UInt32.ofNat_toNat)
    fun _ small => UInt32.toNat_ofNat_of_lt' small

def uint64 : Codec UInt64 :=
  word 8 UInt64.toNat UInt64.ofNat (fun v => v.toNat_lt) (fun _ => UInt64.ofNat_toNat)
    fun _ small => UInt64.toNat_ofNat_of_lt' small

/-- An array of bytes. -/
def bytes (n : Nat) : Codec (Vector UInt8 n) where
  size := n
  encode v := v.toList
  decode list := Vector.ofFn fun i => list.getD i 0
  encode_length v := v.length_toList
  decode_encode v := by
    apply Vector.ext
    intro i bound
    rw [Vector.getElem_ofFn, List.getD_eq_getElem _ _ (v.length_toList.symm ▸ bound),
      Vector.getElem_toList]
  encode_decode list length := by
    apply List.ext_getElem (by rw [Vector.length_toList, length])
    intro i _ bound
    rw [Vector.getElem_toList, Vector.getElem_ofFn, List.getD_eq_getElem _ _ bound]

/-- Two records one behind the other. -/
def pair (first : Codec α) (second : Codec β) : Codec (α × β) where
  size := first.size + second.size
  encode value := first.encode value.1 ++ second.encode value.2
  decode bytes := (first.decode (bytes.take first.size), second.decode (bytes.drop first.size))
  encode_length value := by rw [List.length_append, first.encode_length, second.encode_length]
  decode_encode value := by
    rw [List.take_left' (first.encode_length _), List.drop_left' (first.encode_length _),
      first.decode_encode, second.decode_encode]
  encode_decode bytes length := by
    have front : (bytes.take first.size).length = first.size := by
      rw [List.length_take, length]
      omega
    have back : (bytes.drop first.size).length = second.size := by
      rw [List.length_drop, length]
      omega
    dsimp only
    rw [first.encode_decode _ front, second.encode_decode _ back, List.take_append_drop]

/-- A record with named fields in place of pairs. -/
def rename (codec : Codec α) (fields : β → α) (record : α → β)
    (record_fields : ∀ value, record (fields value) = value)
    (fields_record : ∀ value, fields (record value) = value) : Codec β where
  size := codec.size
  encode value := codec.encode (fields value)
  decode bytes := record (codec.decode bytes)
  encode_length value := codec.encode_length _
  decode_encode value := by rw [codec.decode_encode, record_fields]
  encode_decode bytes length := by rw [fields_record, codec.encode_decode bytes length]

/-! ## Sequences of records -/

section Sequence

variable (codec : Codec α)

def encodeAll (values : List α) : List UInt8 := values.flatMap codec.encode

@[simp]
theorem encodeAll_nil : codec.encodeAll [] = [] := rfl

theorem encodeAll_cons (value : α) (values : List α) :
    codec.encodeAll (value :: values) = codec.encode value ++ codec.encodeAll values := rfl

theorem encodeAll_append (front back : List α) :
    codec.encodeAll (front ++ back) = codec.encodeAll front ++ codec.encodeAll back :=
  List.flatMap_append

theorem encodeAll_length (values : List α) :
    (codec.encodeAll values).length = codec.size * values.length := by
  induction values with
  | nil => rfl
  | cons value values ih =>
      rw [encodeAll_cons, List.length_append, codec.encode_length, ih, List.length_cons,
        Nat.mul_succ, Nat.add_comm]

/-- The bytes of record `i`. -/
def slice (bytes : List UInt8) (i : Nat) : List UInt8 :=
  (bytes.drop (codec.size * i)).take codec.size

theorem slice_encodeAll {values : List α} {back : List UInt8} {i : Nat}
    (bound : i < values.length) :
    codec.slice (codec.encodeAll values ++ back) i = codec.encode values[i] := by
  unfold slice
  induction values generalizing i with
  | nil => exact absurd bound (Nat.not_lt_zero _)
  | cons value values ih =>
      rw [encodeAll_cons, List.append_assoc]
      cases i with
      | zero =>
          rw [Nat.mul_zero, List.drop_zero, List.take_left' (codec.encode_length value)]
          rfl
      | succ i =>
          rw [Nat.mul_succ, Nat.add_comm, ← List.drop_drop,
            List.drop_left' (codec.encode_length value)]
          exact ih (Nat.lt_of_succ_lt_succ bound)

/-- Bytes whose records are the given ones begin with their encoding. -/
theorem encodeAll_prefix {values : List α} {bytes : List UInt8}
    (long : codec.size * values.length ≤ bytes.length)
    (reads : ∀ i (bound : i < values.length), codec.decode (codec.slice bytes i) = values[i]) :
    codec.encodeAll values <+: bytes := by
  induction values generalizing bytes with
  | nil => exact List.nil_prefix
  | cons value values ih =>
      rw [List.length_cons, Nat.mul_succ] at long
      have front : (bytes.take codec.size).length = codec.size := by
        rw [List.length_take]
        omega
      have first : codec.encode value = bytes.take codec.size := by
        have read := reads 0 (Nat.zero_lt_succ _)
        unfold slice at read
        rw [Nat.mul_zero, List.drop_zero] at read
        rw [← codec.encode_decode _ front, read]
        rfl
      have rest : codec.encodeAll values <+: bytes.drop codec.size := by
        apply ih
        · rw [List.length_drop]
          omega
        · intro i bound
          have read := reads (i + 1) (Nat.succ_lt_succ bound)
          unfold slice at read ⊢
          rw [List.drop_drop, Nat.add_comm, ← Nat.mul_succ]
          exact read
      rw [encodeAll_cons, first]
      obtain ⟨back, split⟩ := rest
      exact ⟨back, by rw [List.append_assoc, split, List.take_append_drop]⟩

end Sequence

end Codec

end Hcan.Library
