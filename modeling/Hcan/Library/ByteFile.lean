import Hcan.Library.Codec
import Hcan.Library.Partial

/-!
# Files of bytes

A file with its position.  A write replaces the bytes at the position and extends the
file at its end; a read takes at most the bytes that are left.  A record that is read
short keeps what its memory held before.
-/

namespace Hcan.Library

open Program

structure ByteFile where
  content : List UInt8
  pos : Nat
  deriving DecidableEq, Repr

namespace ByteFile

/-- A hole between the end and the position reads as zeros. -/
def overwrite (content : List UInt8) (pos : Nat) (bytes : List UInt8) : List UInt8 :=
  content.take pos ++ List.replicate (pos - content.length) 0 ++ bytes ++
    content.drop (pos + bytes.length)

theorem overwrite_end (content bytes : List UInt8) :
    overwrite content content.length bytes = content ++ bytes := by
  unfold overwrite
  rw [List.take_length, Nat.sub_self, List.drop_eq_nil_of_le (Nat.le_add_right _ _)]
  simp

theorem overwrite_inside {front old back bytes : List UInt8} (same : old.length = bytes.length) :
    overwrite (front ++ old ++ back) front.length bytes = front ++ bytes ++ back := by
  have none : front.length - (front ++ old ++ back).length = 0 := by
    rw [List.append_assoc, List.length_append]
    omega
  have behind : (front ++ old ++ back).drop (front.length + bytes.length) = back :=
    List.drop_left' (by rw [List.length_append, same])
  have before : (front ++ old ++ back).take front.length = front := by
    rw [List.append_assoc]
    exact List.take_left' rfl
  unfold overwrite
  rw [none, before, behind, List.replicate_zero, List.append_nil]

variable {ε α : Type}

/-- `write`. -/
def write (bytes : List UInt8) : Program ByteFile ε PUnit :=
  modify fun file => ⟨overwrite file.content file.pos bytes, file.pos + bytes.length⟩

/-- `lseek` from the start. -/
def seekSet (pos : Nat) : Program ByteFile ε Nat := do
  modify fun file => { file with pos := pos }
  pure pos

/-- `lseek` from the end, `back` bytes before it. -/
def seekEnd (failed : ε) (back : Nat) : Program ByteFile ε Nat := do
  let file ← get
  if file.content.length < back then throw failed
  else seekSet (file.content.length - back)

/-- `read` of a record; `stale` is what its memory held. -/
def readRecord (codec : Codec α) (stale : Nat → UInt8) : Program ByteFile ε α := do
  let file ← get
  let bytes := (file.content.drop file.pos).take codec.size
  modify fun file => { file with pos := file.pos + bytes.length }
  pure (codec.decode (bytes ++
    (List.range' bytes.length (codec.size - bytes.length)).map stale))

section Rules

variable {content : List UInt8} {pos : Nat} {failed : ε → ByteFile → Prop}

theorem ends_write (bytes : List UInt8) :
    Ends (write bytes) ⟨content, pos⟩
      (fun _ last => last = ⟨overwrite content pos bytes, pos + bytes.length⟩) failed := rfl

theorem ends_seekSet (target : Nat) :
    Ends (seekSet target) ⟨content, pos⟩
      (fun reached last => reached = target ∧ last = ⟨content, target⟩) failed := ⟨rfl, rfl⟩

theorem ends_seekEnd {error : ε} {back : Nat} (inside : back ≤ content.length) :
    Ends (seekEnd error back) ⟨content, pos⟩
      (fun reached last => reached = content.length - back ∧
        last = ⟨content, content.length - back⟩) failed := by
  apply ends_get_bind
  rw [if_neg (Nat.not_lt.mpr inside)]
  exact ⟨rfl, rfl⟩

/-- Whatever a read finds, only the position changes. -/
theorem ends_readRecord (codec : Codec α) (stale : Nat → UInt8) :
    Ends (readRecord codec stale) ⟨content, pos⟩ (fun _ last => last.content = content) failed :=
  rfl

/-- A record that is there is read. -/
theorem ends_readRecord_whole {codec : Codec α} {stale : Nat → UInt8} (front : List UInt8)
    {back : List UInt8} {value : α} (split : content = front ++ codec.encode value ++ back)
    (start : pos = front.length) :
    Ends (readRecord codec stale) ⟨content, pos⟩
      (fun result last => result = value ∧ last = ⟨content, pos + codec.size⟩) failed := by
  have bytes : (content.drop pos).take codec.size = codec.encode value := by
    rw [split, start, List.append_assoc, List.drop_left' rfl,
      List.take_left' (codec.encode_length value)]
  apply ends_get_bind
  dsimp only
  rw [bytes, codec.encode_length, Nat.sub_self, List.range'_zero, List.map_nil, List.append_nil,
    codec.decode_encode]
  exact ⟨rfl, rfl⟩

end Rules

end ByteFile

end Hcan.Library
