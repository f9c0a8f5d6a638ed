import Hcan.Userpanel.HeizPage

/-!
# The alarm page of the user panel

`get_weck_details` waits for a reply through a flag that the callback clears.  The first frame with
the byte of the alarm ends the wait, whatever its command.
-/

namespace Hcan.Userpanel

open Hcan.Canix Hcan.Hauselektrik

def hcanHesWeckerDetailsRequest : UInt8 := 73
def hcanHesWeckerDetails : UInt8 := 74

/-- The globals `weck_details_*`. -/
structure WeckPage where
  expected : UInt8
  weckId : UInt8
  dauer : UInt16
  deriving DecidableEq, Repr

def weckPageCanCallback (v : WeckPage) (frame : CanixFrame) : WeckPage :=
  if v.expected ≠ 0 ∧ frame.data[2] = v.weckId then
    let v := { v with expected := v.expected &&& ~~~0x01 }
    if frame.data[1] = hcanHesWeckerDetails then
      { v with dauer := word frame.data[3] frame.data[4] }
    else v
  else v

def weckRequest (self : UInt16) (weckId : UInt8) : CanixFrame :=
  hesFrame self hcanMulticastControl 3 hcanHesWeckerDetailsRequest weckId 0 0 0 0 0

/-- `get_weck_details` with the frames that the callback gets in its sleep, and the duration that it
gives where it returns 0.  The request is delivered to the own callback before it is expected. -/
def getWeckDetails (self : UInt16) (v : WeckPage) (weckId : UInt8) (frames : List CanixFrame) :
    WeckPage × Option UInt16 :=
  let v := { v with weckId := weckId }
  let v := weckPageCanCallback v (weckRequest self weckId)
  let v := { v with expected := 1 }
  let v := frames.foldl weckPageCanCallback v
  if v.expected = 0 then ({ v with weckId := 0 }, some v.dauer) else (v, none)

/-- The frame has the byte of the alarm. -/
def hasWeckId (weckId : UInt8) (frame : CanixFrame) : Bool := frame.data[2] = weckId

/-- The frame is a reply for the alarm. -/
def IsWeckDetails (weckId : UInt8) (frame : CanixFrame) : Prop :=
  frame.data[1] = hcanHesWeckerDetails ∧ frame.data[2] = weckId

/-- The duration that a reply carries. -/
def weckDauer (frame : CanixFrame) : UInt16 := word frame.data[3] frame.data[4]

/-- The call returns 0 exactly when a reply came, and it gives the duration of a reply. -/
def Genuine (weckId : UInt8) (frames : List CanixFrame) (result : Option UInt16) : Prop :=
  (result.isSome = true ↔ ∃ frame ∈ frames, IsWeckDetails weckId frame) ∧
    ∀ dauer, result = some dauer →
      ∃ frame ∈ frames, IsWeckDetails weckId frame ∧ weckDauer frame = dauer

section Wait

variable {v : WeckPage} {weckId : UInt8} {frame : CanixFrame}

theorem callback_other (other : hasWeckId v.weckId frame = false) :
    weckPageCanCallback v frame = v :=
  if_neg fun both => of_decide_eq_false other both.2

theorem callback_quiet (answered : v.expected = 0) : weckPageCanCallback v frame = v :=
  if_neg fun both => both.1 answered

/-- The first frame with the byte of the alarm ends the wait. -/
theorem callback_first (waits : v.expected = 1) (own : hasWeckId v.weckId frame = true) :
    weckPageCanCallback v frame = { v with
      expected := 0
      dauer := if frame.data[1] = hcanHesWeckerDetails then weckDauer frame else v.dauer } := by
  have taken : v.expected ≠ 0 ∧ frame.data[2] = v.weckId :=
    ⟨by rw [waits]; decide, of_decide_eq_true own⟩
  have cleared : v.expected &&& ~~~0x01 = 0 := by
    rw [waits]
    decide
  unfold weckPageCanCallback
  rw [if_pos taken]
  dsimp only
  rw [cleared]
  split <;> rfl

theorem callbacks_quiet (frames : List CanixFrame) (answered : v.expected = 0) :
    frames.foldl weckPageCanCallback v = v := by
  induction frames with
  | nil => rfl
  | cons frame frames ih => rw [List.foldl_cons, callback_quiet answered, ih]

/-- What the wait ends with depends on its first frame with the byte of the alarm. -/
theorem callbacks_eq (frames : List CanixFrame) (waits : v.expected = 1) :
    frames.foldl weckPageCanCallback v =
      match frames.find? (hasWeckId v.weckId) with
      | none => v
      | some first => { v with
          expected := 0
          dauer := if first.data[1] = hcanHesWeckerDetails then weckDauer first else v.dauer } := by
  induction frames with
  | nil => rfl
  | cons frame frames ih =>
      rw [List.foldl_cons]
      cases own : hasWeckId v.weckId frame with
      | true =>
          rw [callback_first waits own, List.find?_cons_of_pos own]
          exact callbacks_quiet frames rfl
      | false =>
          rw [callback_other own, ih,
            List.find?_cons_of_neg (by rw [own]; exact Bool.false_ne_true)]

/-- The request changes neither the alarm nor the duration. -/
theorem callback_request (self : UInt16) (v : WeckPage) (weckId : UInt8) :
    (weckPageCanCallback v (weckRequest self weckId)).weckId = v.weckId ∧
      (weckPageCanCallback v (weckRequest self weckId)).dauer = v.dauer := by
  unfold weckPageCanCallback
  split
  · exact ⟨rfl, rfl⟩
  · exact ⟨rfl, rfl⟩

/-- What the call gives. -/
theorem getWeckDetails_result (self : UInt16) (v : WeckPage) (weckId : UInt8)
    (frames : List CanixFrame) : (getWeckDetails self v weckId frames).2 =
      (frames.find? (hasWeckId weckId)).map fun first =>
        if first.data[1] = hcanHesWeckerDetails then weckDauer first else v.dauer := by
  obtain ⟨id, dauer⟩ := callback_request self { v with weckId := weckId } weckId
  unfold getWeckDetails
  dsimp only
  rw [callbacks_eq frames rfl]
  dsimp only
  rw [id, dauer]
  cases frames.find? (hasWeckId weckId) with
  | none => rfl
  | some first => rfl

end Wait

/-- The result is genuine when the first frame with the byte of the alarm is a reply, or when a
reply behind it carries the duration that the panel had before. -/
theorem weckDetails_genuine_iff (self : UInt16) (v : WeckPage) (weckId : UInt8)
    (frames : List CanixFrame) :
    Genuine weckId frames (getWeckDetails self v weckId frames).2 ↔
      (∀ first ∈ frames.find? (hasWeckId weckId), first.data[1] = hcanHesWeckerDetails) ∨
        ∃ frame ∈ frames, IsWeckDetails weckId frame ∧ weckDauer frame = v.dauer := by
  rw [getWeckDetails_result]
  cases found : frames.find? (hasWeckId weckId) with
  | none =>
      have none_ : ¬ ∃ frame ∈ frames, IsWeckDetails weckId frame := by
        rintro ⟨frame, inside, -, own⟩
        exact List.find?_eq_none.mp found frame inside (decide_eq_true own)
      refine iff_of_true ⟨iff_of_false Bool.false_ne_true none_, ?_⟩ (.inl ?_)
      · exact fun dauer given => absurd given.symm (Option.some_ne_none dauer)
      · exact fun first given => absurd given.symm (Option.some_ne_none first)
  | some first =>
      have inside : first ∈ frames := List.mem_of_find?_eq_some found
      have matched : hasWeckId weckId first = true := List.find?_some found
      have own : first.data[2] = weckId := of_decide_eq_true matched
      by_cases reply : first.data[1] = hcanHesWeckerDetails
      · refine iff_of_true ?_ (.inl ?_)
        · have given : ∃ frame ∈ frames, IsWeckDetails weckId frame := ⟨first, inside, reply, own⟩
          refine ⟨iff_of_true rfl given, fun dauer result => ⟨first, inside, ⟨reply, own⟩, ?_⟩⟩
          rw [Option.map_some, if_pos reply] at result
          exact Option.some.inj result
        · exact fun other same => Option.some.inj same ▸ reply
      · rw [Option.map_some, if_neg reply]
        constructor
        · exact fun genuine => .inr (genuine.2 v.dauer rfl)
        · rintro (always | ⟨frame, member, details, dauer⟩)
          · exact absurd (always first rfl) reply
          · refine ⟨iff_of_true rfl ⟨frame, member, details⟩, fun given result => ?_⟩
            exact ⟨frame, member, details, dauer.trans (Option.some.inj result)⟩

/-- Another frame of the house with the byte of the alarm. -/
def foreignFrame : CanixFrame := hesFrame 9 hcanMulticastInfo 3 hcanHesTasterDown 5 0 0 0 0 0

/-- The old duration is taken for an answer. -/
theorem weckDetails_genuine_fails :
    ¬ Genuine 5 [foreignFrame] (getWeckDetails 7 ⟨0, 0, 1200⟩ 5 [foreignFrame]).2 := by
  intro genuine
  obtain ⟨frame, inside, ⟨reply, -⟩, -⟩ := genuine.2 1200 (by decide)
  rw [List.mem_singleton.mp inside] at reply
  exact absurd reply (by decide)

end Hcan.Userpanel
