import Hcan.Controller.Timeservice
import Mathlib.Data.List.FinRange
import Mathlib.Data.Fin.VecNotation
import Mathlib.Tactic.FinCases

/-!
# The election of the time master

A board that sends has ticked at least its takeover time since it last heard a lower
level.  Once the board with the lowest level sends, every other board hears it again
before it has ticked `interval + 3` times, whatever the order of the ticks in a second.
-/

namespace Hcan.Controller

open Hcan.Canix Hcan.Library

section Board

variable {selfaddr : UInt16} {clock : RtcClock} {p : DeviceDataTimeservice} {frame : CanixFrame}

/-- A time frame of a lower level restarts the count; nothing else does. -/
theorem deliverFrame_eq (frame : CanixFrame) (p : DeviceDataTimeservice) :
    deliverFrame frame p =
      if isTimeInfo frame = true ∧ frame.data[2] < p.config.level then
        { p with lastTimeFrameReceived := 0 }
      else p := by
  unfold deliverFrame timeserviceCanCallback isTimeInfo
  by_cases address : frame.dst = hcanMulticastInfo ∧ frame.proto = hcanProtoSfp ∧
      frame.data[0] = hcanSrvRts
  · obtain ⟨dst, proto, srv⟩ := address
    rw [if_pos ⟨dst, proto, srv⟩]
    by_cases info : frame.data[1] = hcanRtsTimeInfo
    · simp [dst, proto, srv, info]
    · simp [info]
  · rw [if_neg address, if_neg]
    rintro ⟨info, -⟩
    simp only [Bool.and_eq_true, beq_iff_eq] at info
    exact address ⟨info.1.1.1, info.1.1.2, info.1.2⟩

/-- The frames of a board carry its level. -/
theorem timeFrames_level {level : UInt8} (member : frame ∈ timeFrames selfaddr level clock) :
    frame.data[2] = level := by
  unfold timeFrames at member
  simp only [List.mem_cons, List.not_mem_nil, or_false] at member
  obtain rfl | rfl := member <;> rfl

theorem timeFrames_info (selfaddr : UInt16) (level : UInt8) (clock : RtcClock) :
    ∃ frame ∈ timeFrames selfaddr level clock, isTimeInfo frame = true :=
  ⟨_, List.mem_cons_self .., rfl⟩

/-- Frames of its own level do not change a board. -/
theorem deliver_own {frames : List CanixFrame}
    (own : ∀ frame ∈ frames, frame.data[2] = p.config.level) :
    frames.foldl (fun p frame => deliverFrame frame p) p = p := by
  induction frames with
  | nil => rfl
  | cons frame frames ih =>
      have same : deliverFrame frame p = p := by
        rw [deliverFrame_eq, if_neg]
        rintro ⟨-, lower⟩
        rw [own frame (List.mem_cons_self ..)] at lower
        exact Nat.lt_irrefl _ (UInt8.lt_iff_toNat_lt.mp lower)
      rw [List.foldl_cons, same]
      exact ih fun frame member => own frame (List.mem_cons_of_mem _ member)

/-- What a tick does to a board `p` that becomes `next`: it counts, and from the takeover
time on it either sends at the end of its interval or counts the interval. -/
structure BoardTicked (p next : DeviceDataTimeservice) (frames : List CanixFrame) : Prop where
  config : next.config = p.config
  counts : next.lastTimeFrameReceived.toNat ≤ p.lastTimeFrameReceived.toNat + 1
  keeps : p.lastTimeFrameReceived ≤ next.lastTimeFrameReceived
  levels : ∀ frame ∈ frames, frame.data[2] = p.config.level
  sends : frames ≠ [] → p.config.takeoverTime ≤ next.lastTimeFrameReceived ∧
    next.lastTimeFrameSent = 0 ∧ ∃ frame ∈ frames, isTimeInfo frame = true
  waits : frames = [] → p.config.takeoverTime ≤ p.lastTimeFrameReceived →
    p.lastTimeFrameSent ≠ p.config.interval ∧
      next.lastTimeFrameSent = p.lastTimeFrameSent + 1
  interval : p.lastTimeFrameSent ≤ p.config.interval →
    next.lastTimeFrameSent ≤ p.config.interval

/-- The count of a tick, before the handler looks at it. -/
theorem counted_tick (p : DeviceDataTimeservice) :
    ∃ k, (if p.lastTimeFrameReceived < 255 then
        { p with lastTimeFrameReceived := p.lastTimeFrameReceived + 1 } else p) =
        { p with lastTimeFrameReceived := k } ∧
      k.toNat ≤ p.lastTimeFrameReceived.toNat + 1 ∧ p.lastTimeFrameReceived ≤ k := by
  split
  · next below =>
      have less := UInt8.lt_iff_toNat_lt.mp below
      have sum : (p.lastTimeFrameReceived + 1).toNat = p.lastTimeFrameReceived.toNat + 1 := by
        rw [UInt8.toNat_add]
        exact Nat.mod_eq_of_lt (Nat.succ_lt_succ less)
      exact ⟨_, rfl, sum.le, UInt8.le_iff_toNat_le.mpr (sum ▸ Nat.le_succ _)⟩
  · exact ⟨_, rfl, Nat.le_succ _, UInt8.le_refl _⟩

theorem succ_le_interval {s interval : UInt8} (le : s ≤ interval) (ne : s ≠ interval) :
    s + 1 ≤ interval := by
  have bound := UInt8.le_iff_toNat_le.mp le
  have differs : s.toNat ≠ interval.toNat := fun same => ne (UInt8.toNat_inj.mp same)
  have top := interval.toNat_lt
  apply UInt8.le_iff_toNat_le.mpr
  rw [UInt8.toNat_add]
  exact (Nat.mod_le _ _).trans (Nat.lt_of_le_of_ne bound differs)

theorem timeserviceTimerHandler_ticked (selfaddr : UInt16) (clock : RtcClock)
    (p : DeviceDataTimeservice) :
    BoardTicked p (timeserviceTimerHandler selfaddr clock p).1
      (timeserviceTimerHandler selfaddr clock p).2 := by
  obtain ⟨k, counted, counts, keeps⟩ := counted_tick p
  unfold timeserviceTimerHandler
  rw [counted]
  dsimp only
  by_cases due : k ≥ p.config.takeoverTime
  · rw [if_pos due]
    by_cases ends : p.lastTimeFrameSent = p.config.interval
    · rw [if_pos ends]
      constructor
      · rfl
      · exact counts
      · exact keeps
      · exact fun frame => timeFrames_level
      · exact fun _ => ⟨due, rfl, timeFrames_info ..⟩
      · exact fun none => absurd none (List.cons_ne_nil _ _)
      · exact fun _ => UInt8.le_iff_toNat_le.mpr (Nat.zero_le _)
    · rw [if_neg ends]
      constructor
      · rfl
      · exact counts
      · exact keeps
      · exact fun frame member => absurd member List.not_mem_nil
      · exact fun some => absurd rfl some
      · exact fun _ _ => ⟨ends, rfl⟩
      · exact fun le => succ_le_interval le ends
  · rw [if_neg due]
    constructor
    · rfl
    · exact counts
    · exact keeps
    · exact fun frame member => absurd member List.not_mem_nil
    · exact fun some => absurd rfl some
    · exact fun _ reached => absurd (UInt8.le_trans reached keeps) due
    · exact id

theorem boardTick_ticked (selfaddr : UInt16) (clock : RtcClock) (p : DeviceDataTimeservice) :
    BoardTicked p (boardTick selfaddr clock p).1 (boardTick selfaddr clock p).2 := by
  have ticked := timeserviceTimerHandler_ticked selfaddr clock p
  have local_ : (boardTick selfaddr clock p).1 = (timeserviceTimerHandler selfaddr clock p).1 := by
    apply deliver_own
    intro frame member
    exact (ticked.levels frame member).trans
      (congrArg EdsTimeserviceBlock.level ticked.config.symm)
  rw [local_]
  exact ticked

end Board

/-! ## The bus -/

section Bus

variable {n : Nat} {selfaddr : Fin n → UInt16} {bus next : Bus n}

theorem mem_others {i j : Fin n} : j ∈ others i ↔ j ≠ i := by
  unfold others
  rw [List.mem_filter]
  simp

/-- What a step of the bus can be. -/
theorem busStep_cases {event : BusEvent n} (step : busStep selfaddr bus event = some next) :
    (∃ i clock p frames, event = .tick i clock (!frames.isEmpty) ∧
      BoardTicked (bus.boards i) p frames ∧ bus.ticks i = bus.second ∧
      (∀ item ∈ bus.inFlight, isTimeInfo item.2 = false) ∧
      next = { bus with
        boards := Function.update bus.boards i p
        inFlight := bus.inFlight ++ (others i).flatMap fun j => frames.map fun frame => (j, frame)
        ticks := Function.update bus.ticks i (bus.ticks i + 1) }) ∨
    (∃ j frame, event = .deliver j frame ∧ (j, frame) ∈ bus.inFlight ∧
      next = { bus with
        boards := Function.update bus.boards j (deliverFrame frame (bus.boards j))
        inFlight := bus.inFlight.erase (j, frame) }) ∨
    (event = .nextSecond ∧ (∀ i, bus.ticks i = bus.second + 1) ∧
      next = { bus with second := bus.second + 1 }) := by
  cases event with
  | tick i clock sent =>
      unfold busStep at step
      dsimp only at step
      split at step
      · next allowed =>
          obtain ⟨due, quiet, rfl⟩ := allowed
          exact .inl ⟨i, clock, _, _, rfl, boardTick_ticked _ _ _, due, quiet,
            (Option.some.inj step).symm⟩
      · exact nomatch step
  | deliver j frame =>
      unfold busStep at step
      dsimp only at step
      split at step
      · next present =>
          exact .inr (.inl ⟨j, frame, rfl, present, (Option.some.inj step).symm⟩)
      · exact nomatch step
  | nextSecond =>
      unfold busStep at step
      dsimp only at step
      split at step
      · next done => exact .inr (.inr ⟨rfl, done, (Option.some.inj step).symm⟩)
      · exact nomatch step

/-- What holds of every reachable state: the configurations, the phase of the seconds, the
counts of the intervals, and that each frame on its way carries the level of a board. -/
structure Sound (config : Fin n → EdsTimeserviceBlock) (bus : Bus n) : Prop where
  configs : ∀ i, (bus.boards i).config = config i
  phase : ∀ i, bus.ticks i = bus.second ∨ bus.ticks i = bus.second + 1
  interval : ∀ i, (bus.boards i).lastTimeFrameSent ≤ (config i).interval
  levels : ∀ item ∈ bus.inFlight, ∃ k, item.2.data[2] = (config k).level

variable {config : Fin n → EdsTimeserviceBlock}

theorem sound_start : Sound config (busStart config) := by
  constructor
  · exact fun _ => rfl
  · exact fun _ => .inl rfl
  · exact fun _ => UInt8.le_iff_toNat_le.mpr (Nat.zero_le _)
  · exact fun item member => absurd member List.not_mem_nil

/-- A delivered frame changes neither a configuration nor what a board has sent. -/
theorem deliver_keeps (bus : Bus n) (j : Fin n) (frame : CanixFrame) (k : Fin n) :
    (Function.update bus.boards j (deliverFrame frame (bus.boards j)) k).config =
        (bus.boards k).config ∧
      (Function.update bus.boards j (deliverFrame frame (bus.boards j)) k).lastTimeFrameSent =
        (bus.boards k).lastTimeFrameSent := by
  by_cases own : k = j
  · subst own
    rw [Function.update_self, deliverFrame_eq]
    split <;> exact ⟨rfl, rfl⟩
  · rw [Function.update_of_ne own]
    exact ⟨rfl, rfl⟩

theorem sound_step {event : BusEvent n} (step : busStep selfaddr bus event = some next)
    (sound : Sound config bus) : Sound config next := by
  rcases busStep_cases step with ⟨i, clock, p, frames, rfl, ticked, due, quiet, rfl⟩ |
    ⟨j, frame, rfl, present, rfl⟩ | ⟨rfl, done, rfl⟩
  · constructor
    · intro k
      by_cases own : k = i
      · subst own
        dsimp only
        rw [Function.update_self, ticked.config, sound.configs]
      · dsimp only
        rw [Function.update_of_ne own, sound.configs]
    · intro k
      by_cases own : k = i
      · subst own
        dsimp only
        rw [Function.update_self, due]
        exact .inr rfl
      · dsimp only
        rw [Function.update_of_ne own]
        exact sound.phase k
    · intro k
      by_cases own : k = i
      · subst own
        dsimp only
        rw [Function.update_self, ← sound.configs]
        apply ticked.interval
        rw [sound.configs]
        exact sound.interval k
      · dsimp only
        rw [Function.update_of_ne own]
        exact sound.interval k
    · intro item member
      rcases List.mem_append.mp member with before | new
      · exact sound.levels item before
      · obtain ⟨k, -, sent⟩ := List.mem_flatMap.mp new
        obtain ⟨frame, own, rfl⟩ := List.mem_map.mp sent
        exact ⟨i, (ticked.levels frame own).trans (by rw [sound.configs])⟩
  · have kept := deliver_keeps bus j frame
    constructor
    · exact fun k => (kept k).1.trans (sound.configs k)
    · exact sound.phase
    · intro k
      dsimp only
      rw [(kept k).2]
      exact sound.interval k
    · exact fun item member => sound.levels item (List.mem_of_mem_erase member)
  · exact ⟨sound.configs, fun i => .inl (done i), sound.interval, sound.levels⟩

theorem sound_run {first last : Bus n} {events : List (BusEvent n)}
    (run : BusRun selfaddr first events last) (sound : Sound config first) : Sound config last :=
  run.invariant (Sound config) (fun _ _ _ step => sound_step step) sound

/-- Counts the ticks of one board. -/
def tickOf (i : Fin n) : BusEvent n → Nat
  | .tick j _ _ => if j = i then 1 else 0
  | _ => 0

/-- The count of a board is at most the number of its ticks. -/
theorem received_step {event : BusEvent n} {i : Fin n} {k : Nat}
    (step : busStep selfaddr bus event = some next)
    (bound : (bus.boards i).lastTimeFrameReceived.toNat ≤ k) :
    (next.boards i).lastTimeFrameReceived.toNat ≤ k + tickOf i event := by
  rcases busStep_cases step with ⟨j, clock, p, frames, rfl, ticked, -, -, rfl⟩ |
    ⟨j, frame, rfl, -, rfl⟩ | ⟨rfl, -, rfl⟩
  · by_cases own : j = i
    · subst own
      dsimp only [tickOf]
      rw [Function.update_self, if_pos rfl]
      exact ticked.counts.trans (Nat.succ_le_succ bound)
    · dsimp only
      rw [Function.update_of_ne (Ne.symm own)]
      exact bound.trans (Nat.le_add_right ..)
  · by_cases own : j = i
    · subst own
      dsimp only
      rw [Function.update_self, deliverFrame_eq]
      split
      · exact Nat.zero_le _
      · exact bound
    · dsimp only
      rw [Function.update_of_ne (Ne.symm own)]
      exact bound
  · exact bound

theorem received_run {first last : Bus n} {events : List (BusEvent n)} {i : Fin n}
    (run : BusRun selfaddr first events last)
    (zero : (first.boards i).lastTimeFrameReceived = 0) :
    (last.boards i).lastTimeFrameReceived.toNat ≤ tally (tickOf i) events := by
  have bound := run.counted (tickOf i)
    (fun k bus => (bus.boards i).lastTimeFrameReceived.toNat ≤ k)
    (fun _ _ _ _ step => received_step step) (k := 0) (by rw [zero]; rfl)
  rwa [Nat.zero_add] at bound

/-- A tick that sends comes at the takeover time or later. -/
theorem sent_takeover {i : Fin n} {clock : RtcClock}
    (step : busStep selfaddr bus (.tick i clock true) = some next) (sound : Sound config bus) :
    (config i).takeoverTime ≤ (next.boards i).lastTimeFrameReceived ∧
      (next.boards i).lastTimeFrameReceived.toNat ≤
        (bus.boards i).lastTimeFrameReceived.toNat + 1 := by
  rcases busStep_cases step with ⟨j, clock, p, frames, event, ticked, -, -, rfl⟩ |
    ⟨_, _, event, -, -⟩ | ⟨event, -, -⟩
  · obtain ⟨rfl, -, sent⟩ := BusEvent.tick.inj event
    dsimp only
    rw [Function.update_self, ← sound.configs]
    exact ⟨(ticked.sends (by rintro rfl; exact nomatch sent)).1, ticked.counts⟩
  · exact nomatch event
  · exact nomatch event

/-- Between a time frame of a lower level and the next one it sends itself, a board ticks
at least its takeover time. -/
theorem silence_before_sending {i : Fin n} {frame : CanixFrame} {clock : RtcClock}
    {early back : List (BusEvent n)} {first last : Bus n} (sound : Sound config first)
    (run : BusRun selfaddr first (early ++ .deliver i frame :: back ++ [.tick i clock true]) last)
    (info : isTimeInfo frame = true) (lower : frame.data[2] < (config i).level) :
    (config i).takeoverTime.toNat ≤ tally (tickOf i) back + 1 := by
  obtain ⟨before, run, ending⟩ := Run.append_iff.mp run
  obtain ⟨start, runEarly, run⟩ := Run.append_iff.mp run
  cases run with
  | @cons _ delivered _ _ _ step runBack =>
      have soundStart := sound_run runEarly sound
      have heard : (delivered.boards i).lastTimeFrameReceived = 0 := by
        rcases busStep_cases step with ⟨_, _, _, _, event, -⟩ | ⟨j, f, event, -, rfl⟩ |
          ⟨event, -, -⟩
        · exact nomatch event
        · obtain ⟨rfl, rfl⟩ := BusEvent.deliver.inj event
          dsimp only
          rw [Function.update_self, deliverFrame_eq, if_pos ⟨info, by rwa [soundStart.configs]⟩]
        · exact nomatch event
      cases ending with
      | cons step' rest =>
          have soundBefore := sound_run runBack (sound_step step soundStart)
          have ticks := received_run runBack heard
          obtain ⟨reached, counts⟩ := sent_takeover step' soundBefore
          have reachedNat := UInt8.le_iff_toNat_le.mp reached
          omega

/-! ## The master -/

/-- The board `m` leads: it is past its takeover time, and every other board either has
its time frame on the way or has counted no more than `m` counts in its interval, up to
the order of the ticks. -/
structure Leading (config : Fin n → EdsTimeserviceBlock) (m : Fin n) (bus : Bus n) : Prop where
  takeover : (config m).takeoverTime ≤ (bus.boards m).lastTimeFrameReceived
  heard : ∀ j, j ≠ m →
    (∃ frame, (j, frame) ∈ bus.inFlight ∧ isTimeInfo frame = true ∧
      frame.data[2] = (config m).level) ∨
    (bus.boards j).lastTimeFrameReceived.toNat + bus.ticks m ≤
      (bus.boards m).lastTimeFrameSent.toNat + bus.ticks j + 1

/-- The lowest level leads the others, and soon enough. -/
structure Leader (config : Fin n → EdsTimeserviceBlock) (m : Fin n) : Prop where
  lowest : ∀ j, j ≠ m → (config m).level < (config j).level
  soon : ∀ j, j ≠ m → (config m).interval.toNat + 2 < (config j).takeoverTime.toNat

theorem leading_start {m : Fin n} {clock : RtcClock} (sound : Sound config bus)
    (step : busStep selfaddr bus (.tick m clock true) = some next) : Leading config m next := by
  rcases busStep_cases step with ⟨i, clock, p, frames, event, ticked, -, -, rfl⟩ |
    ⟨_, _, event, -, -⟩ | ⟨event, -, -⟩
  · obtain ⟨rfl, -, sent⟩ := BusEvent.tick.inj event
    obtain ⟨reached, -, frame, member, info⟩ := ticked.sends (by rintro rfl; exact nomatch sent)
    constructor
    · dsimp only
      rw [Function.update_self, ← sound.configs]
      exact reached
    · intro j other
      refine .inl ⟨frame, List.mem_append_right _ ?_, info, ?_⟩
      · exact List.mem_flatMap.mpr ⟨j, mem_others.mpr other, List.mem_map_of_mem member⟩
      · rw [ticked.levels frame member, sound.configs]
  · exact nomatch event
  · exact nomatch event

/-- With no time frame on its way the counts compare. -/
theorem Leading.compare {m j : Fin n} (leading : Leading config m bus) (other : j ≠ m)
    (quiet : ∀ item ∈ bus.inFlight, isTimeInfo item.2 = false) :
    (bus.boards j).lastTimeFrameReceived.toNat + bus.ticks m ≤
      (bus.boards m).lastTimeFrameSent.toNat + bus.ticks j + 1 := by
  rcases leading.heard j other with ⟨frame, present, info, -⟩ | compared
  · rw [quiet _ present] at info
    exact nomatch info
  · exact compared

/-- The ticks of the leader. -/
theorem leading_tick {m : Fin n} {p : DeviceDataTimeservice} {frames : List CanixFrame}
    (sound : Sound config bus) (leading : Leading config m bus)
    (ticked : BoardTicked (bus.boards m) p frames)
    (quiet : ∀ item ∈ bus.inFlight, isTimeInfo item.2 = false) :
    Leading config m { bus with
      boards := Function.update bus.boards m p
      inFlight := bus.inFlight ++ (others m).flatMap fun j => frames.map fun frame => (j, frame)
      ticks := Function.update bus.ticks m (bus.ticks m + 1) } := by
  constructor
  · dsimp only
    rw [Function.update_self]
    exact UInt8.le_trans leading.takeover ticked.keeps
  · intro j other
    dsimp only
    rw [Function.update_self, Function.update_self, Function.update_of_ne other,
      Function.update_of_ne other]
    by_cases none : frames = []
    · have compared := leading.compare other quiet
      obtain ⟨inside, next⟩ := ticked.waits none (by rw [sound.configs]; exact leading.takeover)
      have below := UInt8.le_iff_toNat_le.mp (sound.interval m)
      rw [sound.configs] at inside
      have differs : (bus.boards m).lastTimeFrameSent.toNat ≠ (config m).interval.toNat :=
        fun same => inside (UInt8.toNat_inj.mp same)
      have top := (config m).interval.toNat_lt
      have sum : p.lastTimeFrameSent.toNat = (bus.boards m).lastTimeFrameSent.toNat + 1 := by
        rw [next, UInt8.toNat_add]
        exact Nat.mod_eq_of_lt (show _ + 1 < 256 by omega)
      exact .inr (by omega)
    · obtain ⟨-, -, frame, member, info⟩ := ticked.sends none
      refine .inl ⟨frame, List.mem_append_right _ ?_, info, ?_⟩
      · exact List.mem_flatMap.mpr ⟨j, mem_others.mpr other, List.mem_map_of_mem member⟩
      · rw [ticked.levels frame member, sound.configs]

/-- The ticks of another board: it does not send. -/
theorem leading_other {m i : Fin n} {p : DeviceDataTimeservice} {frames : List CanixFrame}
    (leader : Leader config m) (sound : Sound config bus) (leading : Leading config m bus)
    (other : i ≠ m) (ticked : BoardTicked (bus.boards i) p frames)
    (due : bus.ticks i = bus.second)
    (quiet : ∀ item ∈ bus.inFlight, isTimeInfo item.2 = false) :
    frames = [] ∧ Leading config m { bus with
      boards := Function.update bus.boards i p
      inFlight := bus.inFlight ++ (others i).flatMap fun j => frames.map fun frame => (j, frame)
      ticks := Function.update bus.ticks i (bus.ticks i + 1) } := by
  have compared := leading.compare other quiet
  have counts := ticked.counts
  constructor
  · by_contra some
    have reached := UInt8.le_iff_toNat_le.mp (ticked.sends some).1
    have below := UInt8.le_iff_toNat_le.mp (sound.interval m)
    have soon := leader.soon i other
    rw [sound.configs] at reached
    rcases sound.phase m with phase | phase <;> omega
  · constructor
    · dsimp only
      rw [Function.update_of_ne (Ne.symm other)]
      exact leading.takeover
    · intro j otherJ
      dsimp only
      rw [Function.update_of_ne (Ne.symm other), Function.update_of_ne (Ne.symm other)]
      right
      by_cases own : j = i
      · subst own
        rw [Function.update_self, Function.update_self]
        omega
      · rw [Function.update_of_ne own, Function.update_of_ne own]
        exact leading.compare otherJ quiet

/-- A delivered frame. -/
theorem leading_deliver {m j : Fin n} {frame : CanixFrame} (leader : Leader config m)
    (sound : Sound config bus) (leading : Leading config m bus)
    (present : (j, frame) ∈ bus.inFlight) :
    Leading config m { bus with
      boards := Function.update bus.boards j (deliverFrame frame (bus.boards j))
      inFlight := bus.inFlight.erase (j, frame) } := by
  have sent k := (deliver_keeps bus j frame k).2
  constructor
  · dsimp only
    by_cases own : m = j
    · subst own
      have level : ¬ frame.data[2] < (config m).level := by
        obtain ⟨k, same⟩ := sound.levels _ present
        rw [same, UInt8.lt_iff_toNat_lt]
        by_cases self : k = m
        · rw [self]
          exact Nat.lt_irrefl _
        · exact Nat.lt_asymm (UInt8.lt_iff_toNat_lt.mp (leader.lowest k self))
      rw [Function.update_self, deliverFrame_eq, if_neg (by
        rw [sound.configs]
        exact fun both => level both.2)]
      exact leading.takeover
    · rw [Function.update_of_ne own]
      exact leading.takeover
  · intro k other
    dsimp only
    rw [sent]
    by_cases own : k = j
    · subst own
      rw [Function.update_self, deliverFrame_eq]
      by_cases lower : isTimeInfo frame = true ∧ frame.data[2] < (bus.boards k).config.level
      · rw [if_pos lower]
        right
        change 0 + _ ≤ _
        rcases sound.phase m with phase | phase <;>
          rcases sound.phase k with phaseK | phaseK <;> omega
      · rw [if_neg lower]
        -- a frame of the leader on its way to this board is another one
        rcases leading.heard k other with ⟨f, flying, info, level⟩ | compared
        · refine .inl ⟨f, ?_, info, level⟩
          apply (List.mem_erase_of_ne _).mpr flying
          rintro same
          cases Prod.mk.inj same
          subst f
          apply lower
          rw [level, sound.configs]
          exact ⟨info, leader.lowest k other⟩
        · exact .inr compared
    · rw [Function.update_of_ne own]
      rcases leading.heard k other with ⟨f, flying, info, level⟩ | compared
      · refine .inl ⟨f, ?_, info, level⟩
        apply (List.mem_erase_of_ne _).mpr flying
        exact fun same => own (Prod.mk.inj same).1
      · exact .inr compared

/-- While `m` leads no other board sends, and `m` goes on leading. -/
theorem leading_step {m : Fin n} {event : BusEvent n} (leader : Leader config m)
    (sound : Sound config bus) (leading : Leading config m bus)
    (step : busStep selfaddr bus event = some next) :
    Leading config m next ∧ ∀ j clock, j ≠ m → event ≠ .tick j clock true := by
  rcases busStep_cases step with ⟨i, clock, p, frames, rfl, ticked, due, quiet, rfl⟩ |
    ⟨j, frame, rfl, present, rfl⟩ | ⟨rfl, done, rfl⟩
  · by_cases own : i = m
    · subst own
      refine ⟨leading_tick sound leading ticked quiet, ?_⟩
      intro j clock' other same
      exact other (BusEvent.tick.inj same).1.symm
    · obtain ⟨rfl, after⟩ := leading_other leader sound leading own ticked due quiet
      exact ⟨after, fun j clock' _ same => nomatch (BusEvent.tick.inj same).2.2⟩
  · exact ⟨leading_deliver leader sound leading present, fun _ _ _ same => nomatch same⟩
  · exact ⟨⟨leading.takeover, leading.heard⟩, fun _ _ _ same => nomatch same⟩

/-- Once `m` leads no other board ever sends. -/
theorem leading_run {m : Fin n} {events : List (BusEvent n)} {first last : Bus n}
    (leader : Leader config m) (run : BusRun selfaddr first events last)
    (sound : Sound config first) (leading : Leading config m first) :
    ∀ j clock, j ≠ m → .tick j clock true ∉ events := by
  induction run with
  | nil state => exact fun _ _ _ => List.not_mem_nil
  | cons step rest ih =>
      obtain ⟨after, silent⟩ := leading_step leader sound leading step
      intro j clock other member
      rcases List.mem_cons.mp member with same | later
      · exact silent j clock other same.symm
      · exact ih (sound_step step sound) after j clock other later

end Bus

/-- What the election of the time master guarantees on a bus: a board that sends has heard
no lower level during its last ticks, and once the lowest level sends, no other does. -/
structure Elects {n : Nat} (selfaddr : Fin n → UInt16) (config : Fin n → EdsTimeserviceBlock) :
    Prop where
  silence : ∀ i early frame back clock last,
    BusRun selfaddr (busStart config)
      (early ++ .deliver i frame :: back ++ [.tick i clock true]) last →
    isTimeInfo frame = true → frame.data[2] < (config i).level →
    (config i).takeoverTime.toNat ≤ tally (tickOf i) back + 1
  single : ∀ m, (∀ j, (config m).level ≤ (config j).level) →
    (∀ j, j ≠ m → (config m).interval.toNat + 2 < (config j).takeoverTime.toNat) →
    ∀ front clock back last,
      BusRun selfaddr (busStart config) (front ++ .tick m clock true :: back) last →
      ∀ j clock', j ≠ m → .tick j clock' true ∉ back

/-- Boards of different levels elect their time master, in every order of ticks and
deliveries. -/
theorem time_master_elected {n : Nat} (selfaddr : Fin n → UInt16)
    (config : Fin n → EdsTimeserviceBlock)
    (distinct : Function.Injective fun i => (config i).level) : Elects selfaddr config := by
  constructor
  · intro i early frame back clock last run info lower
    exact silence_before_sending sound_start run info lower
  · intro m lowest soon front clock back last run
    have leader : Leader config m := by
      constructor
      · intro j other
        apply UInt8.lt_iff_toNat_lt.mpr
        apply Nat.lt_of_le_of_ne (UInt8.le_iff_toNat_le.mp (lowest j))
        intro same
        exact other (distinct (UInt8.toNat_inj.mp same).symm)
      · exact soon
    obtain ⟨middle, early, late⟩ := Run.append_iff.mp run
    cases late with
    | cons step rest =>
        have sound := sound_run early sound_start
        exact leading_run leader rest (sound_step step sound) (leading_start sound step)

def midnight : RtcClock := ⟨0, 0, 0, 0, 1, 1, 8⟩

/-- Two boards; the lower level sends each second, the other takes over after three. -/
def electedBoards : Fin 2 → EdsTimeserviceBlock := ![⟨0, 1, 0⟩, ⟨1, 3, 0⟩]

/-- Two seconds in which the board of the lower level sends. -/
def electedTicks : List (BusEvent 2) :=
  [.tick 0 midnight true, .deliver 1 ((timeFrames 5 0 midnight).get ⟨0, by decide⟩),
    .tick 1 midnight false, .nextSecond, .tick 1 midnight false, .tick 0 midnight true,
    .deliver 1 ((timeFrames 5 0 midnight).get ⟨0, by decide⟩), .nextSecond]

theorem time_master_elected_two :
    (∃ last, BusRun (fun _ => 5) (busStart electedBoards) electedTicks last) ∧
      ∀ back last clock, BusRun (fun _ => 5) (busStart electedBoards)
        (.tick 0 midnight true :: back) last → .tick 1 clock true ∉ back := by
  have elects : Elects (fun _ => 5) electedBoards := by
    apply time_master_elected
    intro i j same
    fin_cases i <;> fin_cases j <;> first | rfl | exact absurd same (by decide)
  constructor
  · have runs : (electedTicks.foldlM (busStep fun _ => 5) (busStart electedBoards)).isSome =
        true := by decide +kernel
    obtain ⟨last, executed⟩ := Option.isSome_iff_exists.mp runs
    exact ⟨last, Run.of_execute executed⟩
  · intro back last clock run
    exact elects.single 0 (by decide) (by decide) [] midnight back last run 1 clock (by decide)

/-- Two boards; the lower level sends each second, the other takes over after two. -/
def twoBoards : Fin 2 → EdsTimeserviceBlock := ![⟨0, 1, 0⟩, ⟨1, 2, 0⟩]

/-- A run of the two boards whose order of ticks changes between two seconds. -/
def swappedTicks : List (BusEvent 2) :=
  [.tick 0 midnight true, .deliver 1 ((timeFrames 5 0 midnight).get ⟨0, by decide⟩),
    .tick 1 midnight false, .nextSecond, .tick 1 midnight true]

/-- `interval + 1` below the takeover time of the other board is not enough. -/
theorem second_master :
    (∀ j, (twoBoards 0).level ≤ (twoBoards j).level) ∧
    (∀ j, j ≠ 0 → (twoBoards 0).interval.toNat + 1 < (twoBoards j).takeoverTime.toNat) ∧
    ∃ last, BusRun (fun _ => 5) (busStart twoBoards) swappedTicks last := by
  refine ⟨by decide, by decide, ?_⟩
  have runs : (swappedTicks.foldlM (busStep fun _ => 5) (busStart twoBoards)).isSome = true := by
    decide +kernel
  obtain ⟨last, executed⟩ := Option.isSome_iff_exists.mp runs
  exact ⟨last, Run.of_execute executed⟩

end Hcan.Controller
