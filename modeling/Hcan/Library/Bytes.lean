/-!
# Buffers of bytes

A buffer is read at literal positions, which are inside; the reading function is total, with 0
behind the end, and carries no proof of the bound.
-/

namespace Hcan.Library

variable {n i j : Nat} {byte : UInt8}

instance instGetElemBytes : GetElem (Vector UInt8 n) Nat UInt8 fun _ _ => True where
  getElem bytes i _ := bytes.toList.getD i 0

theorem byte_eq {bytes : Vector UInt8 n} (inside : i < n) : bytes[i] = bytes.get ⟨i, inside⟩ := by
  change bytes.toList.getD i 0 = _
  rw [List.getD_eq_getElem?_getD,
    List.getElem?_eq_getElem (by rw [Vector.length_toList]; exact inside), Option.getD_some,
    Vector.getElem_toList]
  rfl

/-- A byte of a literal array; `simp` reads the bytes of frames with it. -/
@[simp]
theorem byte_mk (list : List UInt8) (size : list.toArray.size = n) (i : Nat) :
    (Vector.mk list.toArray size)[i] = list.getD i 0 := rfl

theorem toList_byte {bytes : Vector UInt8 n} (inside : i < bytes.toList.length) :
    bytes.toList[i] = bytes[i] := by
  rw [byte_eq (by rwa [Vector.length_toList] at inside), Vector.getElem_toList]
  rfl

theorem byte_replicate (inside : i < n) : (Vector.replicate n byte)[i] = byte := by
  rw [byte_eq inside]
  exact Vector.getElem_replicate inside

theorem byte_set {bytes : Vector UInt8 n} (bound : j < n) (inside : i < n) :
    (bytes.set j byte)[i] = if j = i then byte else bytes[i] := by
  rw [byte_eq inside, byte_eq inside]
  exact Vector.getElem_set bound inside

theorem byte_set_self {bytes : Vector UInt8 n} (inside : i < n) :
    (bytes.setIfInBounds i byte)[i] = byte := by
  rw [byte_eq inside]
  exact Vector.getElem_setIfInBounds_self inside

theorem byte_set_ne {bytes : Vector UInt8 n} (inside : j < n) (other : i ≠ j) :
    (bytes.setIfInBounds i byte)[j] = bytes[j] := by
  rw [byte_eq inside, byte_eq inside]
  exact Vector.getElem_setIfInBounds_ne inside other

end Hcan.Library
