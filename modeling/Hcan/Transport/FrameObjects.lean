import Hcan.Host.Commands
import Hcan.Library.Machine
import Hcan.Transport.RoundTrip

/-!
# The frames of the library

The class `frame` keeps up to 8 bytes and their count.  A loop that would leave the array of a
frame has no result, so a run with a result stays inside its arrays.
-/

namespace Hcan.Transport

open Hcan.Canix Hcan.Host Hcan.Library

namespace Frame

/-- The constructor without arguments leaves the bytes as the memory has them. -/
def fresh (memory : Vector UInt8 8) : Frame := ⟨0, 0, 0, 0, memory, 0⟩

/-- The constructor with an array and its size. -/
def ofArray (src dst : UInt16) (proto : UInt8) (data : Vector UInt8 8) (size : UInt32) :
    Option Frame := do
  let size := if 8 < size then 8 else size
  let bytes ← copyInto (byteAt data) size.toNat (.replicate 8 0)
  some ⟨src, dst, proto, prioLo, bytes, size⟩

/-- The constructor with a vector. -/
def ofVector (src dst : UInt16) (proto : UInt8) (data : List UInt8) : Option Frame := do
  let bytes ← copyInto (data.getD · 0) data.length (.replicate 8 0)
  some ⟨src, dst, proto, prioLo, bytes, UInt32.ofNat data.length⟩

/-- The assignment. -/
def assign (target f : Frame) : Option Frame := do
  let bytes ← copyInto (byteAt f.data) f.size.toNat target.data
  some { f with data := bytes }

/-- The copy constructor writes onto bytes that the memory has. -/
def copy (memory : Vector UInt8 8) (f : Frame) : Option Frame := (fresh memory).assign f

def setData (f : Frame) (i : Int32) (data : UInt8) : Option Frame :=
  if bound : (UInt32.ofInt i.toInt &&& 0x07).toNat < 8 then
    some { f with
      data := f.data.set (UInt32.ofInt i.toInt &&& 0x07).toNat data bound
      size := UInt32.ofInt (i.toInt + 1) }
  else none

def setPrio (f : Frame) (prio : UInt8) : Frame := { f with prio := prio }

end Frame

def trim (token : Text) : Text :=
  ((token.dropWhile isSpace).reverse.dropWhile isSpace).reverse

/-- The tokens between blanks; empty ones are dropped. -/
def tokens (list : Text) : List Text := (list.splitOn 32).filter fun token => !token.isEmpty

/-- A token without a number leaves what its variable holds, `stale`. -/
def parseRawSendList (stale : ℕ → UInt16) (list : Text) : List UInt8 :=
  (tokens list).mapIdx fun n token => (extractUint16 (stale n) (trim token)).toUInt8

@[simp]
theorem length_parseRawSendList (stale : ℕ → UInt16) (list : Text) :
    (parseRawSendList stale list).length = (tokens list).length := List.length_mapIdx

/-- The operations on frames; an object is named by its place in the order of construction. -/
inductive FrameCall where
  | fresh (memory : Vector UInt8 8)
  | array (src dst : UInt16) (proto : UInt8) (data : Vector UInt8 8) (size : UInt32)
  | vector (src dst : UInt16) (proto : UInt8) (data : List UInt8)
  | send (src dst : UInt16) (stale : ℕ → UInt16) (list : Text)
  | copy (source : ℕ) (memory : Vector UInt8 8)
  | assign (target source : ℕ)
  | setData (target : ℕ) (i : Int32) (data : UInt8)
  | setPrio (target : ℕ) (prio : UInt8)
  | writeTo (source : ℕ) (stack : Vector UInt8 8)

/-- A call on an object; a call on no object does nothing. -/
def onObject (objects : List Frame) (target : ℕ) (act : Frame → Option (List Frame)) :
    Option (List Frame) :=
  match objects[target]? with
  | some f => act f
  | none => some objects

def frameCall (objects : List Frame) : FrameCall → Option (List Frame)
  | .fresh memory => some (objects ++ [Frame.fresh memory])
  | .array src dst proto data size =>
      (Frame.ofArray src dst proto data size).map fun f => objects ++ [f]
  | .vector src dst proto data => (Frame.ofVector src dst proto data).map fun f => objects ++ [f]
  | .send src dst stale list =>
      (Frame.ofVector src dst 1 (parseRawSendList stale list)).map fun f => objects ++ [f]
  | .copy source memory => onObject objects source fun f =>
      (f.copy memory).map fun copied => objects ++ [copied]
  | .assign target source => onObject objects source fun f => onObject objects target fun old =>
      (old.assign f).map fun assigned => objects.set target assigned
  | .setData target i data => onObject objects target fun f =>
      (f.setData i data).map fun changed => objects.set target changed
  | .setPrio target prio => onObject objects target fun f =>
      some (objects.set target (f.setPrio prio))
  | .writeTo source stack => onObject objects source fun f =>
      (f.writeTo stack).map fun _ => objects

/-- The objects behind a call; there are none behind an access outside of an array. -/
def frameStep (objects : Option (List Frame)) (call : FrameCall) : Option (List Frame) :=
  objects.bind fun objects => frameCall objects call

/-- `write_to` copies the bytes of the frame and leaves the others of the record. -/
def WritesSize (f : Frame) : Prop :=
  ∀ stack, ∃ cf, f.writeTo stack = some cf ∧ cf.size = f.size ∧
    ∀ i < 8, byteAt cf.data i = if i < f.size.toNat then byteAt f.data i else byteAt stack i

/-- No access has left an array, and every frame has a size that its array holds. -/
def FramesSound (objects : Option (List Frame)) : Prop :=
  ∃ frames, objects = some frames ∧ ∀ f ∈ frames, f.size ≤ 8 ∧ WritesSize f

/-- A vector has at most 8 bytes, and the index of `set_data` is -1 to 7. -/
def CallFits (objects : Option (List Frame)) : FrameCall → Prop
  | .vector _ _ _ data => data.length ≤ 8
  | .send _ _ _ list => (tokens list).length ≤ 8
  | .setData target i _ =>
      (∃ frames, objects = some frames ∧ target < frames.length) → -1 ≤ i.toInt ∧ i.toInt ≤ 7
  | _ => True

/-! ## The sizes -/

/-- Every frame has a size that its array holds. -/
def Sized (frames : List Frame) : Prop := ∀ f ∈ frames, f.size ≤ 8

theorem byteAt_overlay (source : ℕ → UInt8) (count : ℕ) (target : Vector UInt8 8) {i : ℕ}
    (inside : i < 8) : byteAt (overlay source count target) i =
      if i < count then source i else byteAt target i := by
  have same (data : Vector UInt8 8) : byteAt data i = data.get ⟨i, inside⟩ := by
    rw [byteAt, dif_pos inside]
    exact byte_eq inside
  rw [same, same]
  exact overlay_getElem source count target inside

theorem writesSize_of_le {f : Frame} (small : f.size ≤ 8) : WritesSize f := by
  intro stack
  have fits : f.size.toNat ≤ 8 := small
  refine ⟨⟨f.extid, f.size, overlay (byteAt f.data) f.size.toNat stack⟩, ?_, rfl, ?_⟩
  · rw [Frame.writeTo, copyInto_of_le _ stack fits]
    rfl
  · intro i bound
    exact byteAt_overlay _ _ _ bound

theorem framesSound_some {frames : List Frame} : FramesSound (some frames) ↔ Sized frames := by
  constructor
  · rintro ⟨known, same, sound⟩
    cases same
    exact fun f inside => (sound f inside).1
  · exact fun sized => ⟨frames, rfl, fun f inside =>
      ⟨sized f inside, writesSize_of_le (sized f inside)⟩⟩

theorem not_framesSound_none : ¬ FramesSound none := by
  rintro ⟨frames, missing, -⟩
  exact Option.some_ne_none frames missing.symm

theorem sized_snoc {frames : List Frame} (sized : Sized frames) {f : Frame} :
    Sized (frames ++ [f]) ↔ f.size ≤ 8 := by
  constructor
  · exact fun all => all f (List.mem_append_right frames (List.mem_singleton.mpr rfl))
  · intro small g inside
    rcases List.mem_append.mp inside with old | new
    · exact sized g old
    · rw [List.mem_singleton.mp new]
      exact small

theorem sized_set {frames : List Frame} (sized : Sized frames) {target : ℕ}
    (exists_ : target < frames.length) {f : Frame} :
    Sized (frames.set target f) ↔ f.size ≤ 8 := by
  constructor
  · exact fun all => all f (List.mem_set exists_ f)
  · intro small g inside
    rcases List.mem_or_eq_of_mem_set inside with old | rfl
    · exact sized g old
    · exact small

theorem ofArray_eq (src dst : UInt16) (proto : UInt8) (data : Vector UInt8 8) (size : UInt32) :
    Frame.ofArray src dst proto data size = some (Frame.ofData src dst proto data size) := by
  have fits : (if 8 < size then 8 else size : UInt32).toNat ≤ 8 := by
    by_cases large : 8 < size
    · rw [if_pos large]
      decide
    · rw [if_neg large]
      exact UInt32.not_lt.mp large
  rw [Frame.ofArray, copyInto_of_le _ _ fits]
  rfl

theorem ofData_size (src dst : UInt16) (proto : UInt8) (data : Vector UInt8 8) (size : UInt32) :
    (Frame.ofData src dst proto data size).size ≤ 8 := by
  change (if 8 < size then 8 else size : UInt32) ≤ 8
  by_cases large : 8 < size
  · rw [if_pos large]
    decide
  · rw [if_neg large]
    exact UInt32.not_lt.mp large

/-- A vector makes a sound frame exactly when it has at most 8 bytes. -/
theorem ofVector_sound_iff {frames : List Frame} (sized : Sized frames) (src dst : UInt16)
    (proto : UInt8) (data : List UInt8) :
    FramesSound ((Frame.ofVector src dst proto data).map fun f => frames ++ [f]) ↔
      data.length ≤ 8 := by
  by_cases fits : data.length ≤ 8
  · have size : UInt32.ofNat data.length ≤ 8 := by
      refine UInt32.le_iff_toNat_le.mpr ?_
      rw [UInt32.toNat_ofNat']
      exact (Nat.mod_le _ _).trans fits
    rw [Frame.ofVector, copyInto_of_le _ _ fits]
    exact iff_of_true (framesSound_some.mpr ((sized_snoc sized).mpr size)) fits
  · rw [Frame.ofVector, copyInto_of_lt _ _ (Nat.lt_of_not_le fits)]
    exact iff_of_false not_framesSound_none fits

theorem assign_of_le (target : Frame) {f : Frame} (small : f.size ≤ 8) :
    ∃ assigned, target.assign f = some assigned ∧ assigned.size = f.size := by
  have fits : f.size.toNat ≤ 8 := small
  rw [Frame.assign, copyInto_of_le _ _ fits]
  exact ⟨_, rfl, rfl⟩

/-- The mask keeps every index inside; the size takes it as it is. -/
theorem setData_eq (f : Frame) (i : Int32) (data : UInt8) :
    ∃ changed, f.setData i data = some changed ∧ changed.size = UInt32.ofInt (i.toInt + 1) := by
  have bound : (UInt32.ofInt i.toInt &&& 0x07).toNat < 8 :=
    Nat.lt_of_le_of_lt Nat.and_le_right (by decide)
  rw [Frame.setData, dif_pos bound]
  exact ⟨_, rfl, rfl⟩

theorem size_of_index_iff (i : Int32) :
    UInt32.ofInt (i.toInt + 1) ≤ 8 ↔ -1 ≤ i.toInt ∧ i.toInt ≤ 7 := by
  have low := i.le_toInt
  have high := i.toInt_lt
  have wrapped : (UInt32.ofInt (i.toInt + 1)).toNat = ((i.toInt + 1) % 4294967296).toNat := by
    refine (UInt32.toNat_ofNat (n := ((i.toInt + 1) % 4294967296).toNat)).trans ?_
    omega
  rw [UInt32.le_iff_toNat_le, wrapped]
  change ((i.toInt + 1) % 4294967296).toNat ≤ 8 ↔ _
  omega

/-- A call of an object that exists. -/
theorem onObject_of_lt {frames : List Frame} {target : ℕ} (exists_ : target < frames.length)
    (act : Frame → Option (List Frame)) :
    onObject frames target act = act frames[target] := by
  unfold onObject
  rw [List.getElem?_eq_getElem exists_]

theorem onObject_of_le {frames : List Frame} {target : ℕ} (missing : frames.length ≤ target)
    (act : Frame → Option (List Frame)) : onObject frames target act = some frames := by
  unfold onObject
  rw [List.getElem?_eq_none missing]

/-- A call that keeps every frame it is made on. -/
theorem onObject_sound {frames : List Frame} (sized : Sized frames) (target : ℕ)
    {act : Frame → Option (List Frame)}
    (kept : ∀ exists_ : target < frames.length, FramesSound (act frames[target])) :
    FramesSound (onObject frames target act) := by
  by_cases exists_ : target < frames.length
  · rw [onObject_of_lt exists_]
    exact kept exists_
  · rw [onObject_of_le (Nat.le_of_not_lt exists_)]
    exact framesSound_some.mpr sized

/-- One call keeps the frames sound exactly when it fits. -/
theorem frameCall_sound_iff {frames : List Frame} (sized : Sized frames) (call : FrameCall) :
    FramesSound (frameCall frames call) ↔ CallFits (some frames) call := by
  have small {target : ℕ} (exists_ : target < frames.length) : frames[target].size ≤ 8 :=
    sized _ (List.getElem_mem exists_)
  cases call with
  | fresh memory =>
      exact iff_of_true (framesSound_some.mpr ((sized_snoc sized).mpr (Nat.zero_le 8))) trivial
  | array src dst proto data size =>
      rw [frameCall, ofArray_eq, Option.map_some, framesSound_some, sized_snoc sized]
      exact iff_of_true (ofData_size src dst proto data size) trivial
  | vector src dst proto data => exact ofVector_sound_iff sized src dst proto data
  | send src dst stale list =>
      have parsed := ofVector_sound_iff sized src dst 1 (parseRawSendList stale list)
      rwa [length_parseRawSendList] at parsed
  | copy source memory =>
      refine iff_of_true (onObject_sound sized source fun exists_ => ?_) trivial
      obtain ⟨copied, done, size⟩ := assign_of_le (Frame.fresh memory) (small exists_)
      rw [Frame.copy, done, Option.map_some, framesSound_some, sized_snoc sized, size]
      exact small exists_
  | assign target source =>
      refine iff_of_true (onObject_sound sized source fun fromExists => ?_) trivial
      refine onObject_sound sized target fun toExists => ?_
      obtain ⟨assigned, done, size⟩ := assign_of_le frames[target] (small fromExists)
      rw [done, Option.map_some, framesSound_some, sized_set sized toExists, size]
      exact small fromExists
  | setData target i data =>
      by_cases exists_ : target < frames.length
      · have named : ∃ known, some frames = some known ∧ target < known.length :=
          ⟨frames, rfl, exists_⟩
        obtain ⟨changed, done, size⟩ := setData_eq frames[target] i data
        rw [frameCall, onObject_of_lt exists_, done, Option.map_some, framesSound_some,
          sized_set sized exists_, size, size_of_index_iff]
        exact ⟨fun inside _ => inside, fun fits => fits named⟩
      · rw [frameCall, onObject_of_le (Nat.le_of_not_lt exists_)]
        refine iff_of_true (framesSound_some.mpr sized) ?_
        rintro ⟨known, same, named⟩
        cases same
        exact absurd named exists_
  | setPrio target prio =>
      refine iff_of_true (onObject_sound sized target fun exists_ => ?_) trivial
      exact framesSound_some.mpr ((sized_set sized exists_).mpr (small exists_))
  | writeTo source stack =>
      refine iff_of_true (onObject_sound sized source fun exists_ => ?_) trivial
      obtain ⟨cf, written, -⟩ := writesSize_of_le (small exists_) stack
      rw [written]
      exact framesSound_some.mpr sized

/-- A run keeps the frames sound exactly when each of its calls fits. -/
theorem frames_sound_iff (calls : List FrameCall) :
    AlwaysHolds frameStep FramesSound (some []) calls ↔
      AlwaysFits frameStep CallFits (some []) calls := by
  refine alwaysHolds_iff (framesSound_some.mpr fun f inside => absurd inside List.not_mem_nil) ?_
  rintro objects call ⟨frames, rfl, sound⟩
  exact frameCall_sound_iff (fun f inside => (sound f inside).1) call

/-- The command `send` with nine bytes writes behind the array. -/
theorem frames_sound_fails :
    ¬ AlwaysHolds frameStep FramesSound (some [])
      [.send 1 2 (fun _ => 0) (text "1 2 3 4 5 6 7 8 9")] := by
  intro always
  have none : Sized [] := fun f inside => absurd inside List.not_mem_nil
  have sound : FramesSound
      (frameCall [] (.send 1 2 (fun _ => 0) (text "1 2 3 4 5 6 7 8 9"))) :=
    always _ (List.prefix_refl _)
  have fits := (frameCall_sound_iff none _).mp sound
  have nine : (tokens (text "1 2 3 4 5 6 7 8 9")).length = 9 := by decide
  exact absurd (nine ▸ fits : 9 ≤ 8) (by decide)

end Hcan.Transport
