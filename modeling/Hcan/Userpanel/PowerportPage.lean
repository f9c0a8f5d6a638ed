import Hcan.Hauselektrik.ExtendedLight
import Hcan.Library.Bits
import Hcan.Userpanel.HeizPage

/-!
# The light page of the user panel

The minutes that a light zone has left cross two bytes, a signed word and a signed byte, which says
-1 for an unknown time.  The key OK reads its sign.
-/

namespace Hcan.Userpanel

open Hcan.Canix Hcan.Hauselektrik Hcan.Library

/-- The state of the port and the minutes; both are -1 while they are not known. -/
structure PowerportPage where
  state : Int8
  timer : Int8
  deriving DecidableEq, Repr

/-- What the callback writes on the display: `[ein]` or `[aus]`, or the minutes as `,%3dmin]`. -/
inductive PowerportShown where
  | state (ein : Bool)
  | minutes (n : Int8)
  deriving DecidableEq, Repr

namespace PowerportPage

/-- The minutes of the two bytes: signed words of 16 bits, cut to a signed byte. -/
def minutesOf (hi lo : UInt8) : Int8 := (((word hi lo).toInt16 + 30) / 60).toInt8

def canCallback (v : PowerportPage) (gruppe : UInt8) (frame : CanixFrame) :
    PowerportPage × Option PowerportShown :=
  if frame.proto = hcanProtoSfp ∧ frame.data[0] = hcanSrvHes then
    if frame.data[1] = hcanHesPowerGroupStateReplay then
      if frame.data[2] = gruppe then
        ({ v with state := if frame.data[3] ≠ 0 then 1 else 0 }, some (.state (frame.data[3] ≠ 0)))
      else (v, none)
    else if frame.data[1] = hcanHesPowerGroupTimerReplay then
      if frame.data[2] = gruppe then
        if frame.data[3] = 0 ∧ frame.data[4] = 0 then ({ v with timer := 0 }, none)
        else
          let minutes := minutesOf frame.data[3] frame.data[4]
          ({ v with timer := minutes }, some (.minutes minutes))
      else (v, none)
    else (v, none)
  else (v, none)

/-- The frame that the key OK sends before the page is printed again. -/
def okFrame (self : UInt16) (v : PowerportPage) (gruppe : UInt8) : Option CanixFrame :=
  if v.state = 1 ∧ v.timer > 0 then
    some (hesFrame self hcanMulticastControl 5 hcanHesPowerGroupSetTimer gruppe 0 0 0 0 0)
  else if v.state ≠ -1 then
    some (hesFrame self hcanMulticastControl 3
      (if v.state ≠ 0 then hcanHesPowerGroupOff else hcanHesPowerGroupOn) gruppe 0 0 0 0 0)
  else none

end PowerportPage

/-- The answer of a light zone that is asked for its timer. -/
def timerReply (board asker : UInt16) (p : DeviceDataLichtzone) (group : UInt8) : CanixFrame :=
  hesFrame board asker 5 hcanHesPowerGroupTimerReplay group (wordHi p.timerCounter)
    (wordLo p.timerCounter) 0 0 0

/-- The callback of the zone sends this answer. -/
theorem lichtzone_answers {mcu : Mcu} (board : UInt16) (send : CanixFrame → OnBoard mcu Unit)
    (i : ℕ) (p : DeviceDataLichtzone) {frame : CanixFrame}
    (query : frame.data[1] = hcanHesPowerGroupTimerQuery)
    (group : frame.data[2] ∈ p.config.actionGruppe.toList) :
    lichtzoneCanCallback board send i p frame =
      send (timerReply board frame.src p frame.data[2]) := by
  have other {command : UInt8} (apart : hcanHesPowerGroupTimerQuery ≠ command) :
      ¬ frame.data[1] = command := fun same => apart (query.symm.trans same)
  unfold lichtzoneCanCallback
  dsimp only
  rw [if_neg (other (by decide)), if_neg (other (by decide)), if_neg (other (by decide)),
    if_pos query, if_pos group]
  rfl

theorem step_setTimer (p : DeviceDataLichtzone) {frame : CanixFrame}
    (set : frame.data[1] = hcanHesPowerGroupSetTimer)
    (group : frame.data[2] ∈ p.config.actionGruppe.toList) :
    (p.step (.frame frame)).timerCounter = frameWord frame.data[3] frame.data[4] := by
  have other {command : UInt8} (apart : hcanHesPowerGroupSetTimer ≠ command) :
      ¬ frame.data[1] = command := fun same => apart (set.symm.trans same)
  change (DeviceDataLichtzone.canCallback _ p frame).timerCounter = _
  unfold DeviceDataLichtzone.canCallback
  dsimp only
  rw [if_neg (other (by decide)), if_neg (other (by decide)), if_neg (other (by decide)),
    if_neg (other (by decide)), if_pos set, if_pos group]

/-- Every timer is reached: a frame can set it. -/
theorem lichtzone_reaches (p : DeviceDataLichtzone) {group : UInt8}
    (own : group ∈ p.config.actionGruppe.toList) (t : UInt16) :
    (p.step (.frame (hesFrame 0 hcanMulticastControl 5 hcanHesPowerGroupSetTimer group (wordHi t)
      (wordLo t) 0 0 0))).timerCounter = t := by
  let frame := hesFrame 0 hcanMulticastControl 5 hcanHesPowerGroupSetTimer group (wordHi t)
    (wordLo t) 0 0 0
  have set : (p.step (.frame frame)).timerCounter = frameWord (wordHi t) (wordLo t) :=
    @step_setTimer p frame rfl own
  exact set.trans (frameWord_bytes t)

/-! ## The minutes -/

namespace PowerportPage

/-- The panel has the minutes of the timer `t` and shows them, and the key OK ends a timer of a
port that is on. -/
structure ShowsTimer (src : UInt16) (gruppe : UInt8) (t : UInt16)
    (result : PowerportPage × Option PowerportShown) : Prop where
  timer : result.1.timer.toInt = ((t.toNat + 30) / 60 : ℕ)
  shown : result.2 = if t = 0 then none else some (.minutes result.1.timer)
  ok : result.1.state = 1 → 30 ≤ t.toNat → result.1.okFrame src gruppe =
    some (hesFrame src hcanMulticastControl 5 hcanHesPowerGroupSetTimer gruppe 0 0 0 0 0)

theorem word_bytes (t : UInt16) : word (wordHi t) (wordLo t) = t := by
  have bound := t.toNat_lt
  refine UInt16.toNat_inj.mp ?_
  rw [word, joined_toNat, wordHi, wordLo, UInt8.toNat_ofNat', UInt8.toNat_ofNat']
  omega

theorem minutesOf_bytes (t : UInt16) :
    minutesOf (wordHi t) (wordLo t) = ((t.toInt16 + 30) / 60).toInt8 := by
  rw [minutesOf, word_bytes]

theorem bytes_zero_iff (t : UInt16) : (wordHi t = 0 ∧ wordLo t = 0) ↔ t = 0 := by
  constructor
  · rintro ⟨hi, lo⟩
    rw [← word_bytes t, hi, lo]
    rfl
  · rintro rfl
    exact ⟨rfl, rfl⟩

theorem toInt16_toInt (t : UInt16) :
    t.toInt16.toInt = if t.toNat < 32768 then (t.toNat : ℤ) else t.toNat - 65536 := by
  change t.toBitVec.toInt = _
  rw [BitVec.toInt_eq_toNat_cond]
  change (if 2 * t.toNat < 65536 then (t.toNat : ℤ) else t.toNat - 65536) = _
  split <;> split <;> omega

/-- In the range the minutes are right. -/
theorem minutes_small {t : UInt16} (small : t.toNat ≤ 7649) :
    ((t.toInt16 + 30) / 60).toInt8.toInt = ((t.toNat + 30) / 60 : ℕ) := by
  have signed := toInt16_toInt t
  rw [if_pos (by omega)] at signed
  have sum : (t.toInt16 + 30).toInt = t.toNat + 30 := by
    rw [Int16.toInt_add, signed]
    exact Int.bmod_eq_of_le (show -32768 ≤ (t.toNat : ℤ) + 30 by omega)
      (show (t.toNat : ℤ) + 30 < 32768 by omega)
  have quotient : ((t.toNat : ℤ) + 30).tdiv 60 = ((t.toNat + 30) / 60 : ℕ) :=
    Int.tdiv_eq_ediv_of_nonneg (by omega)
  have sixty : (60 : Int16).toInt = 60 := rfl
  rw [Int16.toInt_toInt8, Int16.toInt_div, sum, sixty, quotient]
  have bound : (t.toNat + 30) / 60 ≤ 127 := by omega
  generalize (t.toNat + 30) / 60 = minutes at bound ⊢
  have word : (minutes : ℤ).bmod (2 ^ 16) = minutes :=
    Int.bmod_eq_of_le (show -32768 ≤ (minutes : ℤ) by omega) (show (minutes : ℤ) < 32768 by omega)
  have byte : (minutes : ℤ).bmod (2 ^ 8) = minutes :=
    Int.bmod_eq_of_le (show -128 ≤ (minutes : ℤ) by omega) (show (minutes : ℤ) < 128 by omega)
  rw [word, byte]

/-- Out of the range the byte has not room for the minutes. -/
theorem minutes_large {t : UInt16} (large : 7649 < t.toNat) :
    ((t.toInt16 + 30) / 60).toInt8.toInt ≠ ((t.toNat + 30) / 60 : ℕ) := by
  have most := Int8.toInt_le ((t.toInt16 + 30) / 60).toInt8
  change _ ≤ 127 at most
  omega

/-- What the callback does with the answer of the zone. -/
theorem canCallback_reply (board asker : UInt16) (p : DeviceDataLichtzone) (v : PowerportPage)
    (gruppe : UInt8) : v.canCallback gruppe (timerReply board asker p gruppe) =
      if p.timerCounter = 0 then ({ v with timer := 0 }, none)
      else ({ v with timer := ((p.timerCounter.toInt16 + 30) / 60).toInt8 },
        some (.minutes ((p.timerCounter.toInt16 + 30) / 60).toInt8)) := by
  have handled : v.canCallback gruppe (timerReply board asker p gruppe) =
      if gruppe = gruppe then
        if wordHi p.timerCounter = 0 ∧ wordLo p.timerCounter = 0 then ({ v with timer := 0 }, none)
        else ({ v with timer := minutesOf (wordHi p.timerCounter) (wordLo p.timerCounter) },
          some (.minutes (minutesOf (wordHi p.timerCounter) (wordLo p.timerCounter))))
      else (v, none) := rfl
  rw [handled, if_pos rfl, minutesOf_bytes]
  by_cases zero : p.timerCounter = 0
  · rw [if_pos zero, if_pos ((bytes_zero_iff _).mpr zero)]
  · rw [if_neg zero, if_neg fun bytes => zero ((bytes_zero_iff _).mp bytes)]

/-- The panel shows the timer of a zone, and the key OK ends it, for up to 7649 seconds. -/
theorem timer_shown_iff (self board asker : UInt16) (p : DeviceDataLichtzone) (v : PowerportPage)
    (gruppe : UInt8) : ShowsTimer self gruppe p.timerCounter
      (v.canCallback gruppe (timerReply board asker p gruppe)) ↔ p.timerCounter.toNat ≤ 7649 := by
  rw [canCallback_reply]
  by_cases zero : p.timerCounter = 0
  · rw [zero]
    exact iff_of_true ⟨rfl, rfl, fun _ long => absurd long (by decide)⟩ (by decide)
  · rw [if_neg zero]
    constructor
    · intro shows_
      by_contra large
      exact minutes_large (Nat.lt_of_not_le large) shows_.timer
    · intro small
      have minutes := minutes_small small
      refine ⟨minutes, (if_neg zero).symm, fun on long => if_pos ⟨on, ?_⟩⟩
      refine Int8.lt_iff_toInt_lt.mpr ?_
      change 0 < ((p.timerCounter.toInt16 + 30) / 60).toInt8.toInt
      rw [minutes]
      omega

/-- A zone in the extended mode for a group. -/
def extendedZone (group : UInt8) : DeviceDataLichtzone where
  config := ⟨Vector.replicate 4 255, Vector.replicate 2 255, Vector.replicate 2 255, 10,
    Vector.replicate 2 group⟩
  state := .onExt
  timerCounter := lichtzoneExtTimerinit
  extonTasterDownCounter := 0
  extonSecCounter := 0

/-- In the extended mode the key OK switches the port off. -/
theorem timer_shown_fails :
    ¬ ShowsTimer 7 20 (extendedZone 20).timerCounter
      ((⟨1, -1⟩ : PowerportPage).canCallback 20 (timerReply 9 7 (extendedZone 20) 20)) := by
  intro shows_
  have sent := shows_.ok (by decide) (by decide)
  exact absurd sent (by decide)

end PowerportPage

end Hcan.Userpanel
