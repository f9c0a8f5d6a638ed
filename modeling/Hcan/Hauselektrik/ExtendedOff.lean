import Hcan.Hauselektrik.ExtendedLight
import Hcan.Library.TimedValue

/-!
# The end of the extended mode

Without further frames the timer of a light zone is a timed value that expires to off.  The handler
counts it only for zones with a delay, and a frame can set it to any value, so the extended mode
ends in its time exactly when neither has happened.
-/

namespace Hcan.Hauselektrik

open Hcan.Canix Hcan.Eds Hcan.Controller Hcan.Library Hcan.Library.Nested

variable {mcu : Mcu}

/-- The frames of `inform_action_groups`; the zone handles each before the next one is built. -/
def announcement (self : UInt16) : List UInt8 → DeviceDataLichtzone → List CanixFrame
  | [], _ => []
  | group :: groups, p =>
      if group ≠ 255 then
        if p.state ≠ .off then
          hesFrame self hcanMulticastControl 3 hcanHesPowerGroupOn group 0 0 0 0 0 ::
            announcement self groups (lichtzonePowerGroupOn group p)
        else
          hesFrame self hcanMulticastControl 3 hcanHesPowerGroupOff group 0 0 0 0 0 ::
            announcement self groups (lichtzonePowerGroupOff group p)
      else announcement self groups p

namespace DeviceDataLichtzone

/-- The frames of a second: those of the end of the timer. -/
def timerFrames (self : UInt16) (p : DeviceDataLichtzone) : List CanixFrame :=
  if p.config.timerDelay ≠ 0 ∧ p.timerCounter > 0 then
    let counted := { p with timerCounter := p.timerCounter - 1 }
    if counted.timerCounter = 0 then
      announcement self p.config.actionGruppe.toList { counted with state := .off }
    else []
  else []

/-- The zone after some seconds without a frame. -/
def quiet (p : DeviceDataLichtzone) (seconds : ℕ) : DeviceDataLichtzone :=
  (timerHandler informed)^[seconds] p

/-- The frames that it has sent in them. -/
def quietFrames (self : UInt16) (p : DeviceDataLichtzone) (seconds : ℕ) : List CanixFrame :=
  (List.range seconds).flatMap fun second => (p.quiet second).timerFrames self

end DeviceDataLichtzone

section OnBoard

variable (self : UInt16) (send : CanixFrame → OnBoard mcu Unit)

/-- The timer in `lichtzone_timer_handler` on the board. -/
def lichtzoneCountDown (i : Nat) (p : DeviceDataLichtzone) : OnBoard mcu Unit :=
  if p.config.timerDelay ≠ 0 ∧ p.timerCounter > 0 then do
    poke i fun q : DeviceDataLichtzone => { q with timerCounter := q.timerCounter - 1 }
    let q ← deref i p
    if q.timerCounter = 0 then do
      poke i fun q : DeviceDataLichtzone => { q with state := .off }
      informActionGroups self send i p
    else pure ()
  else pure ()

/-- `lichtzone_timer_handler` on the board. -/
def lichtzoneTimerHandler (i : Nat) (p : DeviceDataLichtzone) : OnBoard mcu Unit := do
  lichtzoneCountDown self send i p
  poke i DeviceDataLichtzone.waitForPresses

end OnBoard

section OnBoard

variable {self : UInt16} {send : CanixFrame → OnBoard mcu Unit} {i : Nat} {b next : Board mcu}
  {inform : DeviceDataLichtzone → DeviceDataLichtzone} {p : DeviceDataLichtzone}

theorem ShowsZone.poke (change : DeviceDataLichtzone → DeviceDataLichtzone)
    (shows_ : ShowsZone i p b) (ran : (poke i change : OnBoard mcu Unit) b = some ((), next)) :
    ShowsZone i (change p) next := by
  rw [poke_apply shows_ rfl] at ran
  cases ran
  exact slot_set shows_ _

/-- The timer rests, or it counts down, and at 0 the zone is announced. -/
theorem countDown_cases {middle : Board mcu} (shows_ : ShowsZone i p b)
    (ran : lichtzoneCountDown self send i p b = some ((), middle)) :
    (¬ (p.config.timerDelay ≠ 0 ∧ p.timerCounter > 0) ∧ middle = b) ∨
      (p.config.timerDelay ≠ 0 ∧ p.timerCounter > 0) ∧ ∃ first,
        ShowsZone i { p with timerCounter := p.timerCounter - 1 } first ∧
          ((p.timerCounter - 1 ≠ 0 ∧ middle = first) ∨ p.timerCounter - 1 = 0 ∧
            (do
              poke i fun q : DeviceDataLichtzone => { q with state := .off }
              informActionGroups self send i p : OnBoard mcu Unit) first = some ((), middle)) := by
  unfold lichtzoneCountDown at ran
  by_cases running : p.config.timerDelay ≠ 0 ∧ p.timerCounter > 0
  · rw [if_pos running] at ran
    obtain ⟨_, first, poked, rest⟩ := ran_bind ran
    have lower :=
      ShowsZone.poke (fun q => { q with timerCounter := q.timerCounter - 1 }) shows_ poked
    obtain ⟨q, second, read, ended⟩ := ran_bind rest
    rw [deref_slot lower rfl] at read
    cases read
    dsimp only at ended
    refine .inr ⟨running, first, lower, ?_⟩
    by_cases last : p.timerCounter - 1 = 0
    · rw [if_pos last] at ended
      exact .inr ⟨last, ended⟩
    · rw [if_neg last] at ended
      cases ended
      exact .inl ⟨last, rfl⟩
  · rw [if_neg running] at ran
    cases ran
    exact .inl ⟨running, rfl⟩

/-- A second on a board does to the zone what the handler of the zone says. -/
theorem lichtzoneTimerHandler_simulated (informs : Informs self send i inform)
    (shows_ : ShowsZone i p b) (ran : lichtzoneTimerHandler self send i p b = some ((), next)) :
    ShowsZone i (p.timerHandler inform) next := by
  obtain ⟨_, middle, counted, waited⟩ := ran_bind ran
  refine ShowsZone.poke DeviceDataLichtzone.waitForPresses ?_ waited
  unfold DeviceDataLichtzone.countDown
  rcases countDown_cases shows_ counted with
    ⟨rests, rfl⟩ | ⟨running, first, lower, ⟨more, rfl⟩ | ⟨last, announced⟩⟩
  · rwa [if_neg rests]
  · rw [if_pos running]
    dsimp only
    rwa [if_neg more]
  · rw [if_pos running]
    dsimp only
    rw [if_pos last]
    exact ShowsZone.announced informs (fun q => { q with state := .off }) p lower rfl announced

theorem poke_sent {change : DeviceDataLichtzone → DeviceDataLichtzone}
    (ran : (poke i change : OnBoard mcu Unit) b = some ((), next)) : next.sent = b.sent := by
  cases ran
  rfl

/-- What a program sends stays in the log of the board. -/
def Records (send : CanixFrame → OnBoard mcu Unit) : Prop :=
  ∀ (message : CanixFrame) (b next : Board mcu), send message b = some ((), next) →
    message ∈ next.sent ∧ b.sent ⊆ next.sent

/-- The announcement is in the log of the board. -/
theorem announcement_sent (records : Records send) (delivers : Delivers send i)
    {groups : List UInt8} {q : DeviceDataLichtzone} (shows_ : ShowsZone i q b)
    (ran : (groups.forM fun group =>
      if group ≠ 255 then do
        let q ← deref i p
        send (hesFrame self hcanMulticastControl 3
          (if q.state ≠ .off then hcanHesPowerGroupOn else hcanHesPowerGroupOff) group 0 0 0 0 0)
      else pure () : OnBoard mcu Unit) b = some ((), next)) :
    b.sent ⊆ next.sent ∧ announcement self groups q ⊆ next.sent := by
  induction groups generalizing b q with
  | nil =>
      cases ran
      exact ⟨List.Subset.refl _, List.nil_subset _⟩
  | cons group groups ih =>
      obtain ⟨_, middle, first, rest⟩ := ran_bind ran
      dsimp only at first
      unfold announcement
      by_cases used : group ≠ 255
      · rw [if_pos used] at first ⊢
        obtain ⟨r, before, read, sent⟩ := ran_bind first
        rw [deref_slot shows_ rfl] at read
        cases read
        obtain ⟨here, kept⟩ := records _ _ _ sent
        by_cases lit : q.state ≠ .off
        · rw [if_pos lit] at sent here ⊢
          obtain ⟨grows, later⟩ := ih (delivers _ q b middle (.inl rfl) shows_ sent) rest
          exact ⟨List.Subset.trans kept grows, List.cons_subset.mpr ⟨grows here, later⟩⟩
        · rw [if_neg lit] at sent here ⊢
          obtain ⟨grows, later⟩ := ih (delivers _ q b middle (.inr rfl) shows_ sent) rest
          exact ⟨List.Subset.trans kept grows, List.cons_subset.mpr ⟨grows here, later⟩⟩
      · rw [if_neg used] at first ⊢
        cases first
        exact ih shows_ rest

/-- The frames of a second are in the log of the board. -/
theorem timerFrames_sent (records : Records send) (delivers : Delivers send i)
    (shows_ : ShowsZone i p b) (ran : lichtzoneTimerHandler self send i p b = some ((), next)) :
    p.timerFrames self ⊆ next.sent := by
  obtain ⟨_, middle, counted, waited⟩ := ran_bind ran
  unfold DeviceDataLichtzone.timerFrames
  rcases countDown_cases shows_ counted with
    ⟨rests, -⟩ | ⟨running, first, lower, ⟨more, -⟩ | ⟨last, ended⟩⟩
  · rw [if_neg rests]
    exact List.nil_subset _
  · rw [if_pos running]
    dsimp only
    rw [if_neg more]
    exact List.nil_subset _
  · rw [if_pos running]
    dsimp only
    rw [if_pos last]
    obtain ⟨_, second, switched, announced⟩ := ran_bind ended
    have off := ShowsZone.poke (fun q => { q with state := .off }) lower switched
    rw [poke_sent waited]
    exact (announcement_sent records delivers off announced).2

end OnBoard

/-! ## The timer as a timed value -/

namespace DeviceDataLichtzone

section Quiet

variable {self : UInt16} {p : DeviceDataLichtzone}

/-- The state with the seconds that are left. -/
def timedState (p : DeviceDataLichtzone) : TimedValue LichtzoneState :=
  ⟨p.state, p.timerCounter.toNat⟩

/-- A zone in the extended mode ignores what it announces. -/
theorem informed_onExt (ext : p.state = .onExt) : p.informed = p := by
  have ignored (group : UInt8) : lichtzonePowerGroupOn group p = p :=
    if_neg fun both => both.2 ext
  have lit : p.state ≠ .off := by
    rw [ext]
    decide
  unfold informed
  refine List.foldl_fixed' (fun group => ?_) _
  rw [if_pos lit, ignored, ite_self]

/-- A zone that is off without a timer ignores what it announces. -/
theorem informed_off (off : p.state = .off) (stopped : p.timerCounter = 0) : p.informed = p := by
  have ignored (group : UInt8) : lichtzonePowerGroupOff group p = p := by
    unfold lichtzonePowerGroupOff
    split
    next => rw [← off, ← stopped]
    next => rfl
  unfold informed
  refine List.foldl_fixed' (fun group => ?_) _
  rw [if_neg (not_not.mpr off), ignored, ite_self]

theorem timedState_waitForPresses : p.waitForPresses.timedState = p.timedState := by
  unfold waitForPresses timedState
  dsimp only
  split_ifs <;> rfl

/-- A second of a zone with a delay is a tick of its timer. -/
theorem timedState_timerHandler (timed : p.config.timerDelay ≠ 0) :
    (p.timerHandler informed).timedState = p.timedState.tick fun _ => .off := by
  refine timedState_waitForPresses.trans ?_
  unfold countDown
  by_cases running : p.timerCounter > 0
  · have ticks : p.timedState.tick (fun _ => .off) = _ :=
      TimedValue.tick_word (UInt16.pos_iff_ne_zero.mp running)
    rw [if_pos ⟨timed, running⟩, ticks]
    dsimp only
    by_cases last : p.timerCounter - 1 = 0
    · rw [if_pos last, if_pos last, informed_off rfl last]
      rfl
    · rw [if_neg last, if_neg last]
      rfl
  · have stopped : p.timerCounter = 0 := by
      by_contra left
      exact running (UInt16.pos_iff_ne_zero.mpr left)
    rw [if_neg fun both => running both.2]
    unfold timedState
    rw [stopped]
    rfl

theorem quiet_succ (p : DeviceDataLichtzone) (seconds : ℕ) :
    p.quiet (seconds + 1) = (p.quiet seconds).timerHandler informed :=
  Function.iterate_succ_apply' _ _ _

theorem config_quiet (seconds : ℕ) : (p.quiet seconds).config = p.config := by
  induction seconds with
  | zero => rfl
  | succ seconds ih =>
      rw [quiet_succ, config_timerHandler keepsPresses_informed, ih]

theorem timedState_quiet (timed : p.config.timerDelay ≠ 0) (seconds : ℕ) :
    (p.quiet seconds).timedState = (TimedValue.tick fun _ => .off)^[seconds] p.timedState := by
  induction seconds with
  | zero => rfl
  | succ seconds ih =>
      have here : (p.quiet seconds).config.timerDelay ≠ 0 := by
        rw [config_quiet]
        exact timed
      rw [quiet_succ, timedState_timerHandler here, ih, Function.iterate_succ_apply']

/-- A zone that does not count keeps its state. -/
theorem state_quiet (still : p.config.timerDelay = 0 ∨ p.timerCounter = 0) (seconds : ℕ) :
    (p.quiet seconds).timedState = p.timedState := by
  induction seconds with
  | zero => rfl
  | succ seconds ih =>
      have same : (p.quiet seconds).timerCounter = p.timerCounter :=
        UInt16.toNat_inj.mp (congrArg TimedValue.left ih)
      have stands : ¬ ((p.quiet seconds).config.timerDelay ≠ 0 ∧
          (p.quiet seconds).timerCounter > 0) := by
        rw [config_quiet, same]
        rintro ⟨timed, running⟩
        obtain none | none := still
        · exact timed none
        · rw [none] at running
          exact absurd running (by decide)
      rw [quiet_succ]
      unfold timerHandler countDown
      rw [timedState_waitForPresses, if_neg stands, ih]

theorem mem_announcement_off {groups : List UInt8} (off : p.state = .off) {group : UInt8}
    (inside : group ∈ groups) (used : group ≠ 255) :
    hesFrame self hcanMulticastControl 3 hcanHesPowerGroupOff group 0 0 0 0 0 ∈
      announcement self groups p := by
  induction groups generalizing p with
  | nil => cases inside
  | cons first groups ih =>
      have still : (lichtzonePowerGroupOff first p).state = .off := by
        unfold lichtzonePowerGroupOff
        split
        next => rfl
        next => exact off
      unfold announcement
      rw [if_neg (not_not.mpr off)]
      obtain rfl | later := List.mem_cons.mp inside
      · rw [if_pos used]
        exact List.mem_cons_self
      · split
        next => exact List.mem_cons_of_mem _ (ih still later)
        next => exact ih off later

end Quiet

/-- Within the time of the extended mode the zone goes off, and its action groups are told. -/
def EndsExtended (self : UInt16) (p : DeviceDataLichtzone) : Prop :=
  ∃ seconds ≤ lichtzoneExtTimerinit.toNat, ∀ later, seconds ≤ later →
    (p.quiet later).state = .off ∧
      ∀ group ∈ p.config.actionGruppe.toList, group ≠ 255 →
        hesFrame self hcanMulticastControl 3 hcanHesPowerGroupOff group 0 0 0 0 0 ∈
          p.quietFrames self later

/-- The timer of the zone counts down within the time of the extended mode. -/
structure InTime (p : DeviceDataLichtzone) : Prop where
  timed : p.config.timerDelay ≠ 0
  running : 0 < p.timerCounter.toNat
  least : p.timerCounter.toNat ≤ lichtzoneExtTimerinit.toNat

section Ends

variable {self : UInt16} {p : DeviceDataLichtzone}

theorem endsExtended_of_inTime (inTime : InTime p) : EndsExtended self p := by
  have timed := inTime.timed
  have positive := inTime.running
  refine ⟨p.timerCounter.toNat, inTime.least, fun later enough =>
    ⟨?_, fun group inside used => ?_⟩⟩
  · have state := congrArg TimedValue.value (timedState_quiet timed later)
    rw [TimedValue.value_ticks enough] at state
    exact state.trans (if_neg (Nat.ne_of_gt positive))
  · have left := congrArg TimedValue.left (timedState_quiet timed (p.timerCounter.toNat - 1))
    rw [TimedValue.left_ticks] at left
    have one : (p.quiet (p.timerCounter.toNat - 1)).timerCounter = 1 := by
      refine UInt16.toNat_inj.mp (left.trans ?_)
      change p.timerCounter.toNat - (p.timerCounter.toNat - 1) = 1
      omega
    refine List.mem_flatMap.mpr ⟨p.timerCounter.toNat - 1, List.mem_range.mpr (by omega), ?_⟩
    unfold timerFrames
    rw [config_quiet, one, if_pos ⟨timed, by decide⟩]
    dsimp only
    rw [if_pos (by decide)]
    exact mem_announcement_off rfl inside used

/-- A zone in the extended mode ends it exactly when its timer is in time. -/
theorem endsExtended_iff (ext : p.state = .onExt) : EndsExtended self p ↔ InTime p := by
  refine ⟨fun ends => ?_, endsExtended_of_inTime⟩
  obtain ⟨seconds, inTime, all⟩ := ends
  have off := (all seconds (Nat.le_refl _)).1
  have counts : ¬ (p.config.timerDelay = 0 ∨ p.timerCounter = 0) := by
    intro still
    have same := congrArg TimedValue.value (state_quiet still seconds)
    exact off_ne_onExt (off.symm.trans (same.trans ext))
  obtain ⟨timed, running⟩ := not_or.mp counts
  refine ⟨timed, Nat.pos_of_ne_zero fun zero => running (UInt16.toNat_inj.mp zero), ?_⟩
  by_contra long
  have state := congrArg TimedValue.value (timedState_quiet timed seconds)
  have early : seconds < p.timedState.left :=
    Nat.lt_of_le_of_lt inTime (Nat.lt_of_not_le long)
  rw [TimedValue.value_ticks_of_lt early] at state
  exact off_ne_onExt (off.symm.trans (state.trans ext))

end Ends

/-! ## What a call does to the extended mode -/

section Steps

variable {p : DeviceDataLichtzone} {taster : UInt8}

theorem away_umschalten : (p.umschalten informed).state ≠ .onExt := by
  have calm := keepsPresses_informed
  unfold umschalten
  by_cases timed : p.config.timerDelay ≠ 0
  · rw [if_pos timed]
    cases state : p.state with
    | off => exact fun entered => on_ne_onExt ((calm.onExt _).mp entered)
    | on =>
        change p.state ≠ .onExt
        rw [state]
        exact on_ne_onExt
    | onExt => exact fun entered => off_ne_onExt ((calm.onExt _).mp entered)
  · rw [if_neg timed]
    intro entered
    have switched := (calm.onExt _).mp entered
    dsimp only at switched
    split at switched
    next => cases switched
    next => cases switched

/-- Behind a press in the extended mode the timer is loaded or the same. -/
def LoadedOrSame (p q : DeviceDataLichtzone) : Prop :=
  q.state = .onExt → q.timerCounter = lichtzoneExtTimerinit ∨
    (p.state = .onExt ∧ q.timerCounter = p.timerCounter)

theorem loadedOrSame_of_away {q : DeviceDataLichtzone} (away : q.state ≠ .onExt) :
    LoadedOrSame p q :=
  fun ext => absurd ext away

theorem loadedOrSame_toggle (groups : List UInt8) :
    LoadedOrSame p (toggle informed taster groups p).2 := by
  induction groups generalizing p with
  | nil => exact fun ext => .inr ⟨ext, rfl⟩
  | cons group groups ih =>
      unfold toggle
      split_ifs
      · rw [informed_onExt rfl]
        exact fun _ => .inl rfl
      · intro ext
        obtain loaded | ⟨still, _⟩ := ih ext
        · exact .inl loaded
        · exact absurd still away_umschalten
      · exact ih

theorem loadedOrSame_pressed {q : DeviceDataLichtzone}
    {change : DeviceDataLichtzone → DeviceDataLichtzone}
    (changes : ∀ r, (change r).state ≠ .onExt) (groups : List UInt8)
    (before : LoadedOrSame p q) :
    LoadedOrSame p (pressed informed taster change groups q) := by
  induction groups generalizing q with
  | nil => exact before
  | cons group groups ih =>
      refine ih ?_
      dsimp only
      split
      next =>
        exact loadedOrSame_of_away fun entered =>
          changes q ((keepsPresses_informed.onExt _).mp entered)
      next => exact before

theorem loadedOrSame_tasterDown : LoadedOrSame p (p.tasterDown informed taster) := by
  have toggled : LoadedOrSame p (toggle informed taster p.config.toggleGruppe.toList
      (lichtzonePressed p)).2 := loadedOrSame_toggle _
  unfold tasterDown
  dsimp only
  split
  next => exact toggled
  next =>
    exact loadedOrSame_pressed state_switchOn _
      (loadedOrSame_pressed (fun _ => off_ne_onExt) _ toggled)

/-- The other frames leave the extended mode or change nothing in it. -/
theorem canCallback_ext {frame : CanixFrame} (down : frame.data[1] ≠ hcanHesTasterDown)
    (setTimer : frame.data[1] = hcanHesPowerGroupSetTimer →
      frame.data[2] ∉ p.config.actionGruppe.toList)
    (ext : (p.canCallback informed frame).state = .onExt) : p.canCallback informed frame = p := by
  unfold canCallback at ext ⊢
  dsimp only at ext ⊢
  rw [if_neg down] at ext ⊢
  split_ifs at ext ⊢ with on off query set own
  · unfold lichtzonePowerGroupOn at ext ⊢
    split at ext
    next both => exact absurd (((keepsPresses_powerGroupOn frame.data[2]).onExt p).mp (by
      unfold lichtzonePowerGroupOn
      rw [if_pos both]
      exact ext)) both.2
    next same => exact if_neg same
  · unfold lichtzonePowerGroupOff at ext ⊢
    split at ext
    next => exact absurd ext off_ne_onExt
    next same => exact if_neg same
  · rfl
  · exact absurd own (setTimer set)
  · rfl
  · rfl

end Steps

/-- No press enters the extended mode without a delay, and no frame sets its timer to 0 or to more
than its time. -/
structure KeepsTime (p : DeviceDataLichtzone) (call : DeviceCall) : Prop where
  entered : ∀ frame, call = .frame frame → frame.data[1] = hcanHesTasterDown →
    p.state ≠ .onExt → frame.data[2] ∈ p.config.toggleGruppe.toList →
      (lichtzonePressed p).extendable = true → p.config.timerDelay ≠ 0
  setTimer : ∀ frame, call = .frame frame → frame.data[1] = hcanHesPowerGroupSetTimer →
    p.state = .onExt → frame.data[2] ∈ p.config.actionGruppe.toList →
      0 < (frameWord frame.data[3] frame.data[4]).toNat ∧
        (frameWord frame.data[3] frame.data[4]).toNat ≤ lichtzoneExtTimerinit.toNat

section Exact

variable {self : UInt16} {p : DeviceDataLichtzone}

theorem inTime_tick (holds : p.state = .onExt → InTime p)
    (ext : (p.timerHandler informed).state = .onExt) : InTime (p.timerHandler informed) := by
  have before : p.state = .onExt := by
    by_contra away
    exact timerHandler_away keepsPresses_informed away ext
  obtain ⟨timed, running, least⟩ := holds before
  have ticked := timedState_timerHandler timed
  have left := congrArg TimedValue.left ticked
  rw [TimedValue.left_tick] at left
  change (p.timerHandler informed).timerCounter.toNat = p.timerCounter.toNat - 1 at left
  have more : p.timerCounter.toNat ≠ 1 := by
    intro last
    have state := congrArg TimedValue.value ticked
    rw [TimedValue.value_tick] at state
    exact off_ne_onExt ((state.trans (if_pos last)).symm.trans ext)
  refine ⟨?_, by omega, by omega⟩
  rw [config_timerHandler keepsPresses_informed]
  exact timed

/-- A press keeps the timer in time except where it enters the mode without a delay. -/
theorem inTime_press_iff (holds : p.state = .onExt → InTime p) {frame : CanixFrame}
    (down : frame.data[1] = hcanHesTasterDown) :
    ((p.step (.frame frame)).state = .onExt → InTime (p.step (.frame frame))) ↔
      KeepsTime p (.frame frame) := by
  have limit : 0 < lichtzoneExtTimerinit.toNat := by decide
  have noTimer : frame.data[1] ≠ hcanHesPowerGroupSetTimer := by
    rw [down]
    decide
  have pressed : p.step (.frame frame) = p.tasterDown informed frame.data[2] := if_pos down
  have config : (p.tasterDown informed frame.data[2]).config = p.config :=
    config_tasterDown keepsPresses_informed
  rw [pressed]
  by_cases ext : p.state = .onExt
  · have before := holds ext
    refine iff_of_true (fun still => ?_) ⟨fun _ _ _ away => absurd ext away,
      fun _ same set => absurd (DeviceCall.frame.inj same ▸ set) noTimer⟩
    obtain loaded | ⟨_, same⟩ := loadedOrSame_tasterDown still
    · exact ⟨config ▸ before.timed, by rw [loaded]; exact limit, by rw [loaded]⟩
    · exact ⟨config ▸ before.timed, by rw [same]; exact before.running,
        by rw [same]; exact before.least⟩
  · have entered : (p.tasterDown informed frame.data[2]).state = .onExt ↔ _ :=
      tasterDown_entered keepsPresses_informed ext
    constructor
    · intro inTime
      refine ⟨fun other same _ _ own ready => ?_,
        fun _ same set => absurd (DeviceCall.frame.inj same ▸ set) noTimer⟩
      obtain rfl := DeviceCall.frame.inj same
      exact config ▸ (inTime (entered.mpr ⟨own, ready⟩)).timed
    · intro keeps now
      obtain ⟨own, ready⟩ := entered.mp now
      have timed := keeps.entered frame rfl down ext own ready
      obtain loaded | ⟨still, _⟩ := loadedOrSame_tasterDown now
      · exact ⟨config ▸ timed, by rw [loaded]; exact limit, by rw [loaded]⟩
      · exact absurd still ext

/-- A frame that sets the timer keeps it in time if its value is. -/
theorem inTime_setTimer_iff (holds : p.state = .onExt → InTime p) {frame : CanixFrame}
    (set : frame.data[1] = hcanHesPowerGroupSetTimer)
    (own : frame.data[2] ∈ p.config.actionGruppe.toList) :
    ((p.step (.frame frame)).state = .onExt → InTime (p.step (.frame frame))) ↔
      KeepsTime p (.frame frame) := by
  have noPress : frame.data[1] ≠ hcanHesTasterDown := by
    rw [set]
    decide
  have loaded : p.step (.frame frame) =
      { p with timerCounter := frameWord frame.data[3] frame.data[4] } := by
    change p.canCallback informed frame = _
    unfold canCallback
    dsimp only
    rw [set, if_neg (by decide), if_neg (by decide), if_neg (by decide), if_neg (by decide),
      if_pos rfl, if_pos own]
  rw [loaded]
  constructor
  · intro inTime
    refine ⟨fun _ same press => absurd (DeviceCall.frame.inj same ▸ press) noPress,
      fun _ same _ ext _ => ?_⟩
    obtain rfl := DeviceCall.frame.inj same
    have now := inTime ext
    exact ⟨now.running, now.least⟩
  · intro keeps ext
    obtain ⟨positive, least⟩ := keeps.setTimer frame rfl set ext own
    exact ⟨(holds ext).timed, positive, least⟩

/-- In a call the timer stays in time exactly when the call keeps it so. -/
theorem inTime_step_iff (holds : p.state = .onExt → InTime p) (call : DeviceCall) :
    ((p.step call).state = .onExt → InTime (p.step call)) ↔ KeepsTime p call := by
  cases call with
  | tick =>
      exact iff_of_true (inTime_tick holds)
        ⟨fun _ same => DeviceCall.noConfusion same, fun _ same => DeviceCall.noConfusion same⟩
  | frame frame =>
      by_cases down : frame.data[1] = hcanHesTasterDown
      · exact inTime_press_iff holds down
      · by_cases set : frame.data[1] = hcanHesPowerGroupSetTimer ∧
            frame.data[2] ∈ p.config.actionGruppe.toList
        · exact inTime_setTimer_iff holds set.1 set.2
        · refine iff_of_true (fun ext => ?_)
            ⟨fun _ same press => absurd (DeviceCall.frame.inj same ▸ press) down,
              fun _ same command _ own => absurd ?_ set⟩
          · have same := canCallback_ext down (fun command own => set ⟨command, own⟩) ext
            change InTime (p.canCallback informed frame)
            change (p.canCallback informed frame).state = .onExt at ext
            rw [same] at ext ⊢
            exact holds ext
          · obtain rfl := DeviceCall.frame.inj same
            exact ⟨command, own⟩

end Exact

/-- The record behind `devices_init` with its configuration. -/
def loaded (config : EdsLichtzoneBlock) : DeviceDataLichtzone := ⟨config, .off, 0, 0, 0⟩

end DeviceDataLichtzone

/-- In a run from the power-on every extended mode ends in its time exactly when none is entered
without a delay and no frame sets its timer to 0 or to more than that time. -/
theorem extendedMode_ends_iff (self : UInt16) (config : EdsLichtzoneBlock)
    (calls : List DeviceCall) :
    AlwaysHolds DeviceDataLichtzone.step (fun p => p.state = .onExt → p.EndsExtended self)
        (.loaded config) calls ↔
      AlwaysFits DeviceDataLichtzone.step DeviceDataLichtzone.KeepsTime (.loaded config) calls := by
  have same (p : DeviceDataLichtzone) : (p.state = .onExt → p.EndsExtended self) ↔
      (p.state = .onExt → p.InTime) :=
    imp_congr_right fun ext => DeviceDataLichtzone.endsExtended_iff ext
  simp only [same]
  exact alwaysHolds_iff (fun ext => absurd ext off_ne_onExt)
    fun _ call holds => DeviceDataLichtzone.inTime_step_iff holds call

/-- A zone without a delay. -/
def attic : EdsLichtzoneBlock := { hallway with timerDelay := 0 }

/-- Three presses switch a zone without a delay on for ever. -/
theorem attic_staysOn :
    (runAll DeviceDataLichtzone.step (.loaded attic)
        [tasterPressed 7, tasterPressed 7, tasterPressed 7]).state = .onExt ∧
      ¬ (runAll DeviceDataLichtzone.step (.loaded attic)
        [tasterPressed 7, tasterPressed 7, tasterPressed 7]).EndsExtended 5 := by
  have ext : (runAll DeviceDataLichtzone.step (.loaded attic)
      [tasterPressed 7, tasterPressed 7, tasterPressed 7]).state = .onExt := by decide +kernel
  refine ⟨ext, fun ends => ?_⟩
  have timed := ((DeviceDataLichtzone.endsExtended_iff ext).mp ends).timed
  revert timed
  decide +kernel

end Hcan.Hauselektrik
