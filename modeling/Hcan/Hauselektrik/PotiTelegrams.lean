import Hcan.Hauselektrik.Poti
import Hcan.Library.Bits
import Hcan.Library.Deadband
import Mathlib.Algebra.Order.Group.Abs
import Mathlib.Algebra.Order.Group.Int

/-!
# The telegrams of a potentiometer

A board sends the position of a potentiometer when the position has been outside of a tolerance for
some samples in a row.  A button on another board that listens to its group is positioned by it.
-/

namespace Hcan.Hauselektrik

open Hcan.Canix Hcan.Controller Hcan.Library

def potiValueTolerance : Int := 30

def potiTelegramCountdownInit : UInt8 := 4

structure EdsPotiBlock where
  port : UInt8
  gruppe : UInt8
  feature : UInt8

structure DeviceDataPoti where
  config : EdsPotiBlock
  lastPotiValue : Int
  potiTelegramCountdown : UInt8

/-- `setADMUX`: a port without a converter leaves the register as it is. -/
def setAdmux (configPort admux : UInt8) : UInt8 :=
  if 8 ≤ configPort ∧ configPort ≤ 15 then ((1 : UInt8) <<< 6) ||| (15 - configPort) else admux

/-- The register as the device before has left it, and the four conversions of a call at each of its
values; the converter has ten bits. -/
structure PotiTick where
  admux : UInt8
  adcw : UInt8 → Fin 4 → Fin 1024

/-- `getADCvalue`; the sum of four conversions is small. -/
def getAdcValue (adcw : Fin 4 → Fin 1024) : Int :=
  (((adcw 0).val + (adcw 1).val + (adcw 2).val + (adcw 3).val : Nat) : Int) / 4

def PotiTick.reading (t : PotiTick) (port : UInt8) : Int :=
  getAdcValue (t.adcw (setAdmux port t.admux))

def potiInit (config : EdsPotiBlock) (t : PotiTick) : DeviceDataPoti :=
  ⟨config, t.reading config.port, 0⟩

def potiTelegram (self : UInt16) (gruppe : UInt8) (value : Int) : CanixFrame :=
  hesFrame self hcanMulticastControl 5 hcanHesPotiPosChanged gruppe (wordHi (UInt16.ofInt value))
    (wordLo (UInt16.ofInt value)) 0 0 0

/-- `poti_timer_handler`, every 100 ms. -/
def potiTimerHandler (self : UInt16) (p : DeviceDataPoti) (t : PotiTick) :
    DeviceDataPoti × List CanixFrame :=
  let currentAdcValue := t.reading p.config.port
  if p.potiTelegramCountdown ≠ 0 then
    if currentAdcValue > p.lastPotiValue + potiValueTolerance ∨
        currentAdcValue < p.lastPotiValue - potiValueTolerance then
      ({ p with potiTelegramCountdown := p.potiTelegramCountdown - 1 }, [])
    else ({ p with potiTelegramCountdown := potiTelegramCountdownInit }, [])
  else
    ({ p with
        lastPotiValue := currentAdcValue
        potiTelegramCountdown := potiTelegramCountdownInit },
      [potiTelegram self p.config.gruppe currentAdcValue])

def potiAfter (self : UInt16) (p : DeviceDataPoti) (ticks : List PotiTick) : DeviceDataPoti :=
  runAll (fun p t => (potiTimerHandler self p t).1) p ticks

def potiFrames (self : UInt16) : DeviceDataPoti → List PotiTick → List CanixFrame
  | _, [] => []
  | p, t :: ticks =>
      (potiTimerHandler self p t).2 ++ potiFrames self (potiTimerHandler self p t).1 ticks

/-- What the converter has at the own pin of the potentiometer. -/
def PotiTick.knob (t : PotiTick) (port : UInt8) : Int :=
  getAdcValue (t.adcw (((1 : UInt8) <<< 6) ||| (15 - port)))

theorem getAdcValue_bounds (adcw : Fin 4 → Fin 1024) :
    0 ≤ getAdcValue adcw ∧ getAdcValue adcw ≤ 1023 := by
  have zero := (adcw 0).isLt
  have one := (adcw 1).isLt
  have two := (adcw 2).isLt
  have three := (adcw 3).isLt
  unfold getAdcValue
  omega

/-- A telegram tells its value. -/
theorem potiTelegram_value (self : UInt16) (gruppe : UInt8) {value : Int} (least : 0 ≤ value)
    (most : value ≤ 1023) :
    ((potiPosition (potiTelegram self gruppe value) : Nat) : Int) = value := by
  obtain ⟨number, rfl⟩ := Int.eq_ofNat_of_zero_le least
  change (((frameWord (wordHi (UInt16.ofInt number)) (wordLo (UInt16.ofInt number))).toNat : Nat) :
    Int) = number
  rw [frameWord_bytes, uint16_ofInt_natCast]
  omega

/-- Outside of the tolerance. -/
def potiFar (value last : Int) : Bool :=
  decide (value > last + potiValueTolerance ∨ value < last - potiValueTolerance)

theorem potiFar_self (value : Int) : potiFar value value = false := by
  unfold potiFar potiValueTolerance
  exact decide_eq_false (by omega)

def DeviceDataPoti.deadband (p : DeviceDataPoti) : Deadband Int :=
  ⟨p.lastPotiValue, p.potiTelegramCountdown.toNat⟩

section Sender

variable {self : UInt16}

/-- The handler is a step of the dead band. -/
theorem potiTimerHandler_deadband (self : UInt16) (p : DeviceDataPoti) (t : PotiTick) :
    (potiTimerHandler self p t).1.config = p.config ∧
    (potiTimerHandler self p t).1.deadband =
      (Deadband.step potiFar 4 p.deadband (t.reading p.config.port)).1 ∧
    (potiTimerHandler self p t).2 =
      ((Deadband.step potiFar 4 p.deadband (t.reading p.config.port)).2.toList.map
        (potiTelegram self p.config.gruppe)) := by
  unfold potiTimerHandler Deadband.step
  dsimp only
  by_cases due : p.potiTelegramCountdown = 0
  · have wait : p.deadband.wait = 0 := congrArg UInt8.toNat due
    rw [if_neg (not_not.mpr due), if_pos wait]
    exact ⟨rfl, rfl, rfl⟩
  · have wait : ¬ p.deadband.wait = 0 := fun zero => due (UInt8.toNat_inj.mp zero)
    rw [if_pos due, if_neg wait]
    by_cases distant : t.reading p.config.port > p.lastPotiValue + potiValueTolerance ∨
        t.reading p.config.port < p.lastPotiValue - potiValueTolerance
    · have apart : potiFar (t.reading p.config.port) p.deadband.last = true :=
        decide_eq_true distant
      rw [if_pos distant, if_pos apart]
      refine ⟨rfl, ?_, rfl⟩
      change Deadband.mk p.lastPotiValue (p.potiTelegramCountdown - 1).toNat = _
      rw [uint8_toNat_pred due]
      rfl
    · have close : ¬ potiFar (t.reading p.config.port) p.deadband.last = true := by
        rw [Bool.not_eq_true]
        exact decide_eq_false distant
      rw [if_neg distant, if_neg close]
      exact ⟨rfl, rfl, rfl⟩

theorem potiAfter_deadband (self : UInt16) (p : DeviceDataPoti) (ticks : List PotiTick) :
    (potiAfter self p ticks).config = p.config ∧
    (potiAfter self p ticks).deadband =
      Deadband.run potiFar 4 p.deadband (ticks.map fun t => t.reading p.config.port) ∧
    potiFrames self p ticks =
      (Deadband.reports potiFar 4 p.deadband (ticks.map fun t => t.reading p.config.port)).map
        (potiTelegram self p.config.gruppe) := by
  induction ticks generalizing p with
  | nil => exact ⟨rfl, rfl, rfl⟩
  | cons t ticks ih =>
      obtain ⟨config, state, sent⟩ := potiTimerHandler_deadband self p t
      obtain ⟨laterConfig, later, laterSent⟩ := ih (potiTimerHandler self p t).1
      rw [config] at laterConfig later laterSent
      rw [state] at later laterSent
      refine ⟨laterConfig, later, ?_⟩
      rw [potiFrames, laterSent, sent, ← List.map_append]
      rfl

end Sender

theorem reading_knob (t : PotiTick) {port : UInt8} (valid : 8 ≤ port ∧ port ≤ 15) :
    t.reading port = t.knob port := by
  rw [PotiTick.reading, setAdmux, if_pos valid, PotiTick.knob]

/-- Of any five samples in a row, one is within the tolerance of the last telegram. -/
theorem potiAfter_near (self : UInt16) (config : EdsPotiBlock)
    (valid : 8 ≤ config.port ∧ config.port ≤ 15) (first : PotiTick) (front back : List PotiTick)
    (many : 5 ≤ back.length) : ∃ t ∈ back,
      |t.knob config.port -
        (potiAfter self (potiInit config first) (front ++ back)).lastPotiValue| ≤ 30 := by
  obtain ⟨-, state, -⟩ := potiAfter_deadband self (potiInit config first) (front ++ back)
  have last : (potiAfter self (potiInit config first) (front ++ back)).lastPotiValue =
      (Deadband.run potiFar 4 (potiInit config first).deadband
        ((front ++ back).map fun t => t.reading config.port)).last := congrArg Deadband.last state
  rw [last, List.map_append]
  have some_ := Deadband.near_last (n := 4) potiFar_self
    (d := Deadband.run potiFar 4 (potiInit config first).deadband
      (front.map fun t => t.reading config.port))
    (Deadband.wait_le potiFar (Nat.zero_le 4) _)
    (back.map fun t => t.reading config.port) (by rw [List.length_map]; exact many)
  obtain ⟨value, inside, close⟩ := some_
  obtain ⟨t, member, rfl⟩ := List.mem_map.mp inside
  rw [reading_knob t valid] at close
  refine ⟨t, member, ?_⟩
  have whole : Deadband.run potiFar 4 (potiInit config first).deadband
      (front.map (fun t => t.reading config.port) ++ back.map fun t => t.reading config.port) =
      Deadband.run potiFar 4 (Deadband.run potiFar 4 (potiInit config first).deadband
        (front.map fun t => t.reading config.port))
        (back.map fun t => t.reading config.port) := List.foldl_append
  rw [whole, abs_le]
  have apart := of_decide_eq_false close
  unfold potiValueTolerance at apart
  omega

/-- A stretch of samples with two telegrams has at least five samples from one to the next. -/
theorem potiFrames_length_le (self : UInt16) (config : EdsPotiBlock) (first : PotiTick)
    (front back : List PotiTick) :
    (potiFrames self (potiAfter self (potiInit config first) front) back).length * 5 ≤
      back.length + 4 := by
  obtain ⟨sameConfig, state, -⟩ := potiAfter_deadband self (potiInit config first) front
  obtain ⟨-, -, sent⟩ := potiAfter_deadband self (potiAfter self (potiInit config first) front) back
  have started : (potiInit config first).deadband.wait ≤ 4 := Nat.zero_le 4
  have waits : (potiAfter self (potiInit config first) front).deadband.wait ≤ 4 := by
    rw [state]
    exact Deadband.wait_le potiFar started _
  rw [sent, List.length_map]
  generalize (potiAfter self (potiInit config first) front).deadband = d at waits ⊢
  rw [sameConfig]
  have few := Deadband.reports_length_le potiFar waits
    (back.map fun t => t.reading (potiInit config first).config.port)
  have wait := Deadband.wait_le potiFar waits
    (back.map fun t => t.reading (potiInit config first).config.port)
  rw [List.length_map] at few
  exact (Nat.le_of_add_right_le few).trans (Nat.add_le_add_left wait _)

/-- The remembered value has ten bits. -/
theorem potiAfter_bounds (self : UInt16) (config : EdsPotiBlock) (first : PotiTick)
    (ticks : List PotiTick) :
    0 ≤ (potiAfter self (potiInit config first) ticks).lastPotiValue ∧
      (potiAfter self (potiInit config first) ticks).lastPotiValue ≤ 1023 := by
  induction ticks using List.reverseRecOn with
  | nil => exact getAdcValue_bounds _
  | append_singleton ticks t ih =>
      rw [potiAfter, runAll_snoc]
      unfold potiTimerHandler
      dsimp only
      split
      · split
        · exact ih
        · exact ih
      · exact getAdcValue_bounds _

/-- A potentiometer with a valid port, whatever the other devices do with the multiplexer: in every
stretch of samples there are at least five samples from one telegram to the next; after any five
samples the last telegram is within the tolerance of one of them; and the last telegram tells the
value that is remembered. -/
theorem poti_telegrams (self : UInt16) (config : EdsPotiBlock)
    (valid : 8 ≤ config.port ∧ config.port ≤ 15) (first : PotiTick) (ticks : List PotiTick) :
    (∀ front back, ticks = front ++ back →
      (potiFrames self (potiAfter self (potiInit config first) front) back).length * 5 ≤
        back.length + 4) ∧
    (∀ front back, ticks = front ++ back → 5 ≤ back.length → ∃ t ∈ back,
      |t.knob config.port - (potiAfter self (potiInit config first) ticks).lastPotiValue| ≤ 30) ∧
    (ticks ≠ [] → ∃ telegram,
      (potiFrames self (potiInit config first) ticks).getLast? = some telegram ∧
      telegram = potiTelegram self config.gruppe
        (potiAfter self (potiInit config first) ticks).lastPotiValue ∧
      (potiPosition telegram : Int) =
        (potiAfter self (potiInit config first) ticks).lastPotiValue) := by
  obtain ⟨-, state, sent⟩ := potiAfter_deadband self (potiInit config first) ticks
  have start : (potiInit config first).deadband.wait = 0 := rfl
  have last : (potiAfter self (potiInit config first) ticks).lastPotiValue =
      (Deadband.run potiFar 4 (potiInit config first).deadband
        (ticks.map fun t => t.reading config.port)).last := congrArg Deadband.last state
  refine ⟨?_, ?_, fun some_ => ⟨_, ?_, rfl, ?_⟩⟩
  · rintro front back -
    exact potiFrames_length_le self config first front back
  · rintro front back rfl many
    exact potiAfter_near self config valid first front back many
  · rw [sent, List.getLast?_map,
      Deadband.getLast?_reports start (by rwa [ne_eq, List.map_eq_nil_iff]), last]
    rfl
  · obtain ⟨least, most⟩ := potiAfter_bounds self config first ticks
    exact potiTelegram_value self config.gruppe least most

/-- A potentiometer of the group 7, and a sample at which it stands at a value. -/
def potiSeven : EdsPotiBlock := ⟨15, 7, 0⟩

def standing (value : Fin 1024) : PotiTick := ⟨0, fun _ _ => value⟩

/-- The knob is turned twice. -/
def turnedTwice : List PotiTick :=
  List.replicate 6 (standing 300) ++ List.replicate 7 (standing 600)

theorem poti_telegrams_seven :
    (potiFrames 5 (potiInit potiSeven (standing 0)) turnedTwice).length = 2 ∧
    (∀ front back, turnedTwice = front ++ back →
      (potiFrames 5 (potiAfter 5 (potiInit potiSeven (standing 0)) front) back).length * 5 ≤
        back.length + 4) ∧
    (∀ front back, turnedTwice = front ++ back → 5 ≤ back.length → ∃ t ∈ back,
      |t.knob potiSeven.port -
        (potiAfter 5 (potiInit potiSeven (standing 0)) turnedTwice).lastPotiValue| ≤ 30) ∧
    (turnedTwice ≠ [] → ∃ telegram,
      (potiFrames 5 (potiInit potiSeven (standing 0)) turnedTwice).getLast? = some telegram ∧
      telegram = potiTelegram 5 potiSeven.gruppe
        (potiAfter 5 (potiInit potiSeven (standing 0)) turnedTwice).lastPotiValue ∧
      (potiPosition telegram : Int) =
        (potiAfter 5 (potiInit potiSeven (standing 0)) turnedTwice).lastPotiValue) :=
  ⟨by decide +kernel, poti_telegrams 5 potiSeven (by decide) (standing 0) turnedTwice⟩

/-! ## The button that is positioned -/

/-- A potentiometer and a button on the bus. -/
structure PotiBus where
  poti : DeviceDataPoti
  taster : DeviceDataMultitaster

/-- A sample of the potentiometer, or what happens to the button besides.  A telegram of the sample
arrives at the button at once, and none is lost. -/
inductive PotiBusEvent where
  | tick (t : PotiTick)
  | button (event : ButtonEvent)

def PotiBus.step (potiBoard tasterBoard : UInt16) (s : PotiBus) : PotiBusEvent → PotiBus
  | .tick t =>
      let handled := potiTimerHandler potiBoard s.poti t
      ⟨handled.1, handled.2.foldl multitasterReceive s.taster⟩
  | .button event => { s with taster := multitasterStep tasterBoard s.taster event }

def PotiBusEvent.tick? : PotiBusEvent → Option PotiTick
  | .tick t => some t
  | .button _ => none

/-- The frames for the button come from this potentiometer only. -/
def PotiBusEvent.Foreign (group : UInt8) : PotiBusEvent → Prop
  | .button (.frame frame) => ¬ (frame.data[1] = hcanHesPotiPosChanged ∧ frame.data[2] = group)
  | .tick _ | .button (.sample _) => True

instance (group : UInt8) : DecidablePred (PotiBusEvent.Foreign group)
  | .button (.frame frame) =>
      inferInstanceAs (Decidable ¬ (frame.data[1] = hcanHesPotiPosChanged ∧ frame.data[2] = group))
  | .tick _ | .button (.sample _) => .isTrue trivial

section Bus

variable {potiBoard tasterBoard : UInt16} {config : EdsPotiBlock} {taster : EdsMultitasterBlock}
  {scale : UInt16} {first : PotiTick}

def PotiBus.run (potiBoard tasterBoard : UInt16) (s : PotiBus) (events : List PotiBusEvent) :
    PotiBus := runAll (PotiBus.step potiBoard tasterBoard) s events

/-- After some samples the button stands where the last telegram has put it. -/
structure PotiAgreed (potiBoard : UInt16) (config : EdsPotiBlock) (taster : EdsMultitasterBlock)
    (scale : UInt16) (first : PotiTick) (ticks : List PotiTick) (s : PotiBus) : Prop where
  poti : s.poti = potiAfter potiBoard (potiInit config first) ticks
  taster : s.taster.config = taster
  oneScale : s.taster.oneScale = scale
  agreed : ticks ≠ [] → ∀ n, potiPos scale (UInt16.ofInt s.poti.lastPotiValue) = some n →
    s.taster.lastPotiPos = UInt8.ofNat n - 1

theorem multitasterReceive_telegram {p : DeviceDataMultitaster} {gruppe : UInt8}
    (own : p.config.potiGruppe = gruppe) (value : Int) {n : Nat}
    (found : potiPos p.oneScale (UInt16.ofInt value) = some n) :
    multitasterReceive p (potiTelegram potiBoard gruppe value) =
      { p with lastPotiPos := UInt8.ofNat n - 1 } := by
  have word : frameWord (potiTelegram potiBoard gruppe value).data[3]
      (potiTelegram potiBoard gruppe value).data[4] = UInt16.ofInt value :=
    frameWord_bytes (UInt16.ofInt value)
  have group : (potiTelegram potiBoard gruppe value).data[2] = p.config.potiGruppe := own.symm
  exact multitasterReceive_found rfl group (by rw [word]; exact found)

theorem potiBus_step {ticks : List PotiTick} {s : PotiBus}
    (own : taster.potiGruppe = config.gruppe)
    (agreed : PotiAgreed potiBoard config taster scale first ticks s) {event : PotiBusEvent}
    (foreign : event.Foreign taster.potiGruppe) :
    PotiAgreed potiBoard config taster scale first (ticks ++ event.tick?.toList)
      (s.step potiBoard tasterBoard event) := by
  cases event with
  | tick t =>
      have next : (potiTimerHandler potiBoard s.poti t).1 =
          potiAfter potiBoard (potiInit config first) (ticks ++ [t]) := by
        rw [agreed.poti, potiAfter, potiAfter, runAll_snoc]
      have potiConfig : s.poti.config = config := by
        rw [agreed.poti, (potiAfter_deadband _ _ _).1]
        rfl
      by_cases due : s.poti.potiTelegramCountdown = 0
      · have handled : potiTimerHandler potiBoard s.poti t =
            ({ s.poti with
                lastPotiValue := t.reading s.poti.config.port
                potiTelegramCountdown := potiTelegramCountdownInit },
              [potiTelegram potiBoard s.poti.config.gruppe (t.reading s.poti.config.port)]) :=
          if_neg (not_not.mpr due)
        have told : (s.step potiBoard tasterBoard (.tick t)).taster =
            multitasterReceive s.taster
              (potiTelegram potiBoard s.poti.config.gruppe (t.reading s.poti.config.port)) := by
          rw [PotiBus.step, handled]
          rfl
        obtain ⟨sameConfig, sameScale⟩ := multitasterStep_config tasterBoard s.taster
          (.frame (potiTelegram potiBoard s.poti.config.gruppe (t.reading s.poti.config.port)))
        refine ⟨next, by rw [told]; exact sameConfig.trans agreed.taster,
          by rw [told]; exact sameScale.trans agreed.oneScale, fun _ n found => ?_⟩
        have value : (s.step potiBoard tasterBoard (.tick t)).poti.lastPotiValue =
            t.reading s.poti.config.port := by
          rw [PotiBus.step, handled]
        rw [value, ← agreed.oneScale] at found
        have group : s.taster.config.potiGruppe = s.poti.config.gruppe := by
          rw [agreed.taster, potiConfig, own]
        rw [told, multitasterReceive_telegram group _ found]
      · -- there was a sample before, and no telegram is sent now
        have before : ticks ≠ [] := by
          rintro rfl
          rw [agreed.poti] at due
          exact due rfl
        have silent : (potiTimerHandler potiBoard s.poti t).2 = [] ∧
            (potiTimerHandler potiBoard s.poti t).1.lastPotiValue = s.poti.lastPotiValue := by
          unfold potiTimerHandler
          rw [if_pos due]
          split
          · exact ⟨rfl, rfl⟩
          · exact ⟨rfl, rfl⟩
        have told : (s.step potiBoard tasterBoard (.tick t)).taster = s.taster := by
          rw [PotiBus.step, silent.1]
          rfl
        refine ⟨next, by rw [told, agreed.taster], by rw [told, agreed.oneScale],
          fun _ n found => ?_⟩
        have value : (s.step potiBoard tasterBoard (.tick t)).poti.lastPotiValue =
            s.poti.lastPotiValue := silent.2
        rw [value] at found
        rw [told]
        exact agreed.agreed before n found
  | button event =>
      change PotiAgreed potiBoard config taster scale first (ticks ++ []) _
      rw [List.append_nil]
      cases event with
      | sample pressed => exact ⟨agreed.poti, agreed.taster, agreed.oneScale, agreed.agreed⟩
      | frame frame =>
          rw [← agreed.taster] at foreign
          have same : multitasterReceive s.taster frame = s.taster := if_neg foreign
          have still : s.step potiBoard tasterBoard (.button (.frame frame)) = s := by
            change PotiBus.mk s.poti (multitasterReceive s.taster frame) = s
            rw [same]
          rw [still]
          exact agreed

theorem potiBus_run (potiBoard tasterBoard : UInt16) (first : PotiTick) (byZero : Int → Int)
    (own : taster.potiGruppe = config.gruppe)
    {events : List PotiBusEvent} (foreign : ∀ event ∈ events, event.Foreign taster.potiGruppe) :
    PotiAgreed potiBoard config taster (multitasterInit byZero taster).oneScale first
      (events.filterMap PotiBusEvent.tick?)
      (PotiBus.run potiBoard tasterBoard ⟨potiInit config first, multitasterInit byZero taster⟩
        events) := by
  induction events using List.reverseRecOn with
  | nil => exact ⟨rfl, rfl, rfl, fun some_ => absurd rfl some_⟩
  | append_singleton events event ih =>
      have before := ih fun earlier inside => foreign earlier (List.mem_append_left _ inside)
      have here := foreign event (List.mem_append_right _ (List.mem_singleton_self event))
      have ticks : (events ++ [event]).filterMap PotiBusEvent.tick? =
          events.filterMap PotiBusEvent.tick? ++ event.tick?.toList := by
        rw [List.filterMap_append]
        cases event with
        | tick t => rfl
        | button event => rfl
      rw [ticks, PotiBus.run, runAll_snoc]
      exact potiBus_step own before here

/-- Where the knob has been inside of a division for five samples, further from its marks than the
tolerance, the next button event carries the group of this division: whatever the knob did before,
and however the samples of the two boards and other frames are mixed. -/
theorem poti_division_selected (byZero : Int → Int) (valid : 8 ≤ config.port ∧ config.port ≤ 15)
    (own : taster.potiGruppe = config.gruppe) {front back : List PotiBusEvent}
    (foreign : ∀ event ∈ front ++ back, event.Foreign taster.potiGruppe)
    (five : 5 ≤ (back.filterMap PotiBusEvent.tick?).length) {d : Nat}
    (searched : d < min (configuredGroups taster) 9)
    (band : ∀ t ∈ back.filterMap PotiBusEvent.tick?,
      ((d * (1023 / configuredGroups taster) : Nat) : Int) + 30 < t.knob config.port ∧
        t.knob config.port + 30 ≤ (((d + 1) * (1023 / configuredGroups taster) : Nat) : Int)) :
    ∀ t ∈ back.filterMap PotiBusEvent.tick?,
      SelectsDivision tasterBoard
        (PotiBus.run potiBoard tasterBoard ⟨potiInit config first, multitasterInit byZero taster⟩
          (front ++ back)).taster (t.knob config.port).toNat := by
  intro t inside
  have state := potiBus_run potiBoard tasterBoard first byZero own foreign
  rw [List.filterMap_append] at state
  obtain ⟨near, member, close⟩ := potiAfter_near potiBoard config valid first
    (front.filterMap PotiBusEvent.tick?) (back.filterMap PotiBusEvent.tick?) five
  generalize PotiBus.run potiBoard tasterBoard ⟨potiInit config first, multitasterInit byZero taster⟩
    (front ++ back) = s at *
  have some_ : front.filterMap PotiBusEvent.tick? ++ back.filterMap PotiBusEvent.tick? ≠ [] :=
    List.append_ne_nil_of_right_ne_nil _ (List.ne_nil_of_mem inside)
  rw [← state.poti] at close
  obtain ⟨low, high⟩ := abs_le.mp close
  obtain ⟨below, above⟩ := band near member
  have configured : 0 < configuredGroups taster := by omega
  have width := oneScale_toNat byZero taster configured
  obtain ⟨-, small, -⟩ := scale_bounds configured (configuredGroups_le taster)
  have range : 0 ≤ s.poti.lastPotiValue ∧ s.poti.lastPotiValue < 65536 := by
    have bounds := getAdcValue_bounds (near.adcw (((1 : UInt8) <<< 6) ||| (15 - config.port)))
    have knob : near.knob config.port =
      getAdcValue (near.adcw (((1 : UInt8) <<< 6) ||| (15 - config.port))) := rfl
    omega
  obtain ⟨value, number⟩ := Int.eq_ofNat_of_zero_le range.1
  have word : (UInt16.ofInt s.poti.lastPotiValue).toNat = value := by
    rw [number, uint16_ofInt_natCast]
    omega
  have found : potiPos (multitasterInit byZero taster).oneScale
      (UInt16.ofInt s.poti.lastPotiValue) = some (d + 1) := by
    refine potiPos_eq_some width small (by omega) (by rw [word]; omega) fun mark less => ?_
    have before : mark * (1023 / configuredGroups taster) ≤
        d * (1023 / configuredGroups taster) := Nat.mul_le_mul_right _ (by omega)
    rw [word]
    omega
  have index : s.taster.lastPotiPos = UInt8.ofNat d := by
    rw [state.agreed some_ _ found, UInt8.ofNat_add]
    exact UInt8.add_sub_cancel _ _
  obtain ⟨least, most⟩ := band t inside
  rw [selectsDivision_iff, state.taster]
  refine ⟨d, inDivision_of_mark (by omega) (.inr (by omega)) (by omega), ?_⟩
  rw [← state.taster]
  exact getGroup_index (by omega) index

/-- The knob is turned from the second division to the first. -/
def turnedBack : List PotiBusEvent :=
  [.tick (standing 300), .button (.sample true), .tick (standing 300), .tick (standing 310),
    .button (.frame (hesFrame 9 hcanMulticastInfo 5 hcanHesPotiPosChanged 8 3 0 0 0 0)),
    .tick (standing 300), .tick (standing 300)]

theorem poti_division_selected_twoGroups :
    standing 300 ∈ turnedBack.filterMap PotiBusEvent.tick? ∧ SelectsDivision 6
      (PotiBus.run 5 6 ⟨potiInit potiSeven (standing 0), multitasterInit id twoGroups⟩
        ([.tick (standing 1000)] ++ turnedBack)).taster
      ((standing 300).knob potiSeven.port).toNat := by
  have foreign : ∀ event ∈ [.tick (standing 1000)] ++ turnedBack,
      event.Foreign twoGroups.potiGruppe := by decide
  have last : standing 300 ∈ turnedBack.filterMap PotiBusEvent.tick? := List.mem_cons_self
  exact ⟨last, poti_division_selected (d := 0) id (by decide) rfl foreign (by decide) (by decide)
    (by decide) _ last⟩

end Bus

end Hcan.Hauselektrik
