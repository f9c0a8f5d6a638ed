import Hcan.Hauselektrik.PowerTimer

/-!
# The extended mode of a light zone

The light zone as its record, with the frames that it announces delivered to it as well.  The
counters of the extended mode count every press on the bus; the mode is entered at a press of an own
button that finds two presses counted, whatever buttons they were of.
-/

namespace Hcan.Hauselektrik

open Hcan.Canix Hcan.Eds Hcan.Controller Hcan.Library Hcan.Library.Nested

variable {mcu : Mcu}

namespace DeviceDataLichtzone

/-- The presses for the extended mode are complete. -/
def extendable (p : DeviceDataLichtzone) : Bool :=
  decide (p.extonTasterDownCounter ≥ 3) && decide (p.extonSecCounter > 0) &&
    decide (p.extonSecCounter < lichtzoneExtSecCounterMax)

/-- The zone enters the extended mode. -/
def extend (p : DeviceDataLichtzone) : DeviceDataLichtzone :=
  { p with
    extonSecCounter := 0
    extonTasterDownCounter := 0
    state := .onExt
    timerCounter := lichtzoneExtTimerinit }

/-- A press of an off button. -/
def switchOff (p : DeviceDataLichtzone) : DeviceDataLichtzone :=
  { p with state := .off, timerCounter := 0 }

/-- A press of an on button. -/
def switchOn (p : DeviceDataLichtzone) : DeviceDataLichtzone :=
  if p.config.timerDelay ≠ 0 then { lichtzoneSetupTimer p with state := .on }
  else { p with state := .on }

/-- The announced frames as the zone handles them itself. -/
def informed (p : DeviceDataLichtzone) : DeviceDataLichtzone :=
  p.config.actionGruppe.toList.foldl
    (fun q group =>
      if group ≠ 255 then
        if q.state ≠ .off then lichtzonePowerGroupOn group q else lichtzonePowerGroupOff group q
      else q) p

section Handlers

-- what `inform_action_groups` does to the zone
variable (inform : DeviceDataLichtzone → DeviceDataLichtzone)

/-- The normal mode behind a toggle button. -/
def umschalten (p : DeviceDataLichtzone) : DeviceDataLichtzone :=
  if p.config.timerDelay ≠ 0 then
    match p.state with
    | .off => inform { lichtzoneSetupTimer p with state := .on }
    | .on => lichtzoneSetupTimer p
    | .onExt => inform
        { p with
          state := .off
          extonSecCounter := 0
          extonTasterDownCounter := 0
          timerCounter := 0 }
  else inform { p with state := if p.state = .off then .on else .off }

/-- The loop over the toggle groups; `true` when the callback returns from inside it. -/
def toggle (taster : UInt8) : List UInt8 → DeviceDataLichtzone → Bool × DeviceDataLichtzone
  | [], p => (false, p)
  | group :: groups, p =>
      if taster = group then
        if p.extendable then (true, inform p.extend)
        else toggle taster groups (p.umschalten inform)
      else toggle taster groups p

/-- The loops over the off groups and the on groups. -/
def pressed (taster : UInt8) (change : DeviceDataLichtzone → DeviceDataLichtzone)
    (groups : List UInt8) (p : DeviceDataLichtzone) : DeviceDataLichtzone :=
  groups.foldl (fun q group => if taster = group then inform (change q) else q) p

def tasterDown (taster : UInt8) (p : DeviceDataLichtzone) : DeviceDataLichtzone :=
  let toggled := toggle inform taster p.config.toggleGruppe.toList (lichtzonePressed p)
  if toggled.1 then toggled.2
  else pressed inform taster switchOn p.config.onGruppe.toList
    (pressed inform taster switchOff p.config.offGruppe.toList toggled.2)

/-- `lichtzone_can_callback`; the answer changes nothing. -/
def canCallback (p : DeviceDataLichtzone) (frame : CanixFrame) : DeviceDataLichtzone :=
  let group := frame.data[2]
  if frame.data[1] = hcanHesTasterDown then p.tasterDown inform group
  else if frame.data[1] = hcanHesPowerGroupOn then lichtzonePowerGroupOn group p
  else if frame.data[1] = hcanHesPowerGroupOff then lichtzonePowerGroupOff group p
  else if frame.data[1] = hcanHesPowerGroupTimerQuery then p
  else if frame.data[1] = hcanHesPowerGroupSetTimer then
    if group ∈ p.config.actionGruppe.toList then
      { p with timerCounter := frameWord frame.data[3] frame.data[4] }
    else p
  else p

/-- The timer in `lichtzone_timer_handler`. -/
def countDown (p : DeviceDataLichtzone) : DeviceDataLichtzone :=
  if p.config.timerDelay ≠ 0 ∧ p.timerCounter > 0 then
    let counted := { p with timerCounter := p.timerCounter - 1 }
    if counted.timerCounter = 0 then inform { counted with state := .off } else counted
  else p

/-- The time for the presses in `lichtzone_timer_handler`. -/
def waitForPresses (p : DeviceDataLichtzone) : DeviceDataLichtzone :=
  let waited :=
    if p.extonSecCounter ≥ 1 then { p with extonSecCounter := p.extonSecCounter + 1 } else p
  if waited.extonSecCounter ≥ lichtzoneExtSecCounterMax then
    { waited with extonSecCounter := 0, extonTasterDownCounter := 0 }
  else waited

/-- `lichtzone_timer_handler`. -/
def timerHandler (p : DeviceDataLichtzone) : DeviceDataLichtzone :=
  (p.countDown inform).waitForPresses

end Handlers

/-- A frame or a second. -/
def step (p : DeviceDataLichtzone) : DeviceCall → DeviceDataLichtzone
  | .frame frame => p.canCallback informed frame
  | .tick => p.timerHandler informed

end DeviceDataLichtzone

theorem off_ne_onExt : LichtzoneState.off ≠ .onExt := by decide

theorem on_ne_onExt : LichtzoneState.on ≠ .onExt := by decide

/-- A change that keeps the configuration and the counters of the presses, and that neither enters
nor leaves the extended mode. -/
structure KeepsPresses (change : DeviceDataLichtzone → DeviceDataLichtzone) : Prop where
  config : ∀ p, (change p).config = p.config
  taster : ∀ p, (change p).extonTasterDownCounter = p.extonTasterDownCounter
  sec : ∀ p, (change p).extonSecCounter = p.extonSecCounter
  onExt : ∀ p, (change p).state = .onExt ↔ p.state = .onExt

theorem keepsPresses_id : KeepsPresses id :=
  ⟨fun _ => rfl, fun _ => rfl, fun _ => rfl, fun _ => Iff.rfl⟩

namespace KeepsPresses

variable {first second : DeviceDataLichtzone → DeviceDataLichtzone}

theorem comp (outer : KeepsPresses second) (inner : KeepsPresses first) :
    KeepsPresses (second ∘ first) where
  config p := (outer.config (first p)).trans (inner.config p)
  taster p := (outer.taster (first p)).trans (inner.taster p)
  sec p := (outer.sec (first p)).trans (inner.sec p)
  onExt p := (outer.onExt (first p)).trans (inner.onExt p)

theorem foldl {α : Type} {change : DeviceDataLichtzone → α → DeviceDataLichtzone}
    (each : ∀ a, KeepsPresses fun p => change p a) (values : List α) :
    KeepsPresses fun p => values.foldl change p := by
  induction values with
  | nil => exact keepsPresses_id
  | cons a values ih => exact ih.comp (each a)

end KeepsPresses

theorem keepsPresses_powerGroupOn (group : UInt8) : KeepsPresses (lichtzonePowerGroupOn group) := by
  refine ⟨fun p => ?_, fun p => ?_, fun p => ?_, fun p => ?_⟩
  all_goals unfold lichtzonePowerGroupOn
  · split_ifs <;> rfl
  · split_ifs <;> rfl
  · split_ifs <;> rfl
  · split_ifs with own timed
    · exact iff_of_false not_false own.2
    · exact iff_of_false not_false own.2
    · exact Iff.rfl

/-- A zone that is off takes a power off. -/
theorem keepsPresses_announced (group : UInt8) : KeepsPresses fun p =>
    if p.state ≠ .off then lichtzonePowerGroupOn group p else lichtzonePowerGroupOff group p := by
  have on := keepsPresses_powerGroupOn group
  refine ⟨fun p => ?_, fun p => ?_, fun p => ?_, fun p => ?_⟩
  all_goals split
  next => exact on.config p
  next => unfold lichtzonePowerGroupOff; split_ifs <;> rfl
  next => exact on.taster p
  next => unfold lichtzonePowerGroupOff; split_ifs <;> rfl
  next => exact on.sec p
  next => unfold lichtzonePowerGroupOff; split_ifs <;> rfl
  next => exact on.onExt p
  next lit =>
    have off : p.state = .off := not_not.mp lit
    unfold lichtzonePowerGroupOff
    split_ifs
    · exact iff_of_false not_false (off ▸ off_ne_onExt)
    · exact Iff.rfl

namespace DeviceDataLichtzone

theorem keepsPresses_informed : KeepsPresses informed := by
  have each : ∀ config : EdsLichtzoneBlock, KeepsPresses fun p =>
      config.actionGruppe.toList.foldl
        (fun q group =>
          if group ≠ 255 then
            if q.state ≠ .off then lichtzonePowerGroupOn group q else lichtzonePowerGroupOff group q
          else q) p := by
    intro config
    refine KeepsPresses.foldl (fun group => ?_) _
    by_cases used : group ≠ 255
    · simp only [if_pos used]
      exact keepsPresses_announced group
    · simp only [if_neg used]
      exact keepsPresses_id
  exact ⟨fun p => (each p.config).config p, fun p => (each p.config).taster p,
    fun p => (each p.config).sec p, fun p => (each p.config).onExt p⟩

section Kept

variable {inform : DeviceDataLichtzone → DeviceDataLichtzone} (calm : KeepsPresses inform)
  {p : DeviceDataLichtzone} {taster : UInt8}

include calm in
theorem config_umschalten : (p.umschalten inform).config = p.config := by
  unfold umschalten
  by_cases timed : p.config.timerDelay ≠ 0
  · rw [if_pos timed]
    cases state : p.state with
    | off => exact calm.config _
    | on => rfl
    | onExt => exact calm.config _
  · rw [if_neg timed]
    exact calm.config _

include calm in
theorem config_toggle (groups : List UInt8) :
    (toggle inform taster groups p).2.config = p.config := by
  induction groups generalizing p with
  | nil => rfl
  | cons group groups ih =>
      unfold toggle
      split_ifs
      · exact calm.config _
      · exact ih.trans (config_umschalten calm)
      · exact ih

include calm in
theorem config_pressed {change : DeviceDataLichtzone → DeviceDataLichtzone}
    (kept : ∀ q, (change q).config = q.config) (groups : List UInt8) :
    (pressed inform taster change groups p).config = p.config := by
  induction groups generalizing p with
  | nil => rfl
  | cons group groups ih =>
      refine ih.trans ?_
      dsimp only
      split_ifs
      · exact (calm.config _).trans (kept p)
      · rfl

theorem config_waitForPresses (p : DeviceDataLichtzone) : p.waitForPresses.config = p.config := by
  unfold waitForPresses
  dsimp only
  split_ifs <;> rfl

theorem config_switchOff (p : DeviceDataLichtzone) : p.switchOff.config = p.config := rfl

theorem config_switchOn (p : DeviceDataLichtzone) : p.switchOn.config = p.config := by
  unfold switchOn
  split_ifs <;> rfl

include calm in
theorem config_tasterDown : (p.tasterDown inform taster).config = p.config := by
  have toggled : (toggle inform taster p.config.toggleGruppe.toList
      (lichtzonePressed p)).2.config = p.config := config_toggle calm _
  unfold tasterDown
  dsimp only
  split
  next => exact toggled
  next =>
    refine (config_pressed calm config_switchOn _).trans ?_
    exact (config_pressed calm config_switchOff _).trans toggled

include calm in
theorem config_canCallback (frame : CanixFrame) :
    (p.canCallback inform frame).config = p.config := by
  unfold canCallback
  dsimp only
  split_ifs
  · exact config_tasterDown calm
  · exact (keepsPresses_powerGroupOn _).config p
  · unfold lichtzonePowerGroupOff
    split_ifs <;> rfl
  all_goals rfl

include calm in
theorem config_timerHandler : (p.timerHandler inform).config = p.config := by
  refine (config_waitForPresses _).trans ?_
  unfold countDown
  dsimp only
  split_ifs
  · exact calm.config _
  · rfl
  · rfl

end Kept

end DeviceDataLichtzone

section OnBoard

variable {self : UInt16} {send : CanixFrame → OnBoard mcu Unit} {i : Nat} {b next : Board mcu}
  {inform : DeviceDataLichtzone → DeviceDataLichtzone} {p q : DeviceDataLichtzone}

/-- The zone is at the index. -/
def ShowsZone (i : Nat) (p : DeviceDataLichtzone) (b : Board mcu) : Prop :=
  b.devices[i]? = some (.lichtzone p)

/-- The announcement does to the zone what the function says. -/
def Informs (self : UInt16) (send : CanixFrame → OnBoard mcu Unit) (i : Nat)
    (inform : DeviceDataLichtzone → DeviceDataLichtzone) : Prop :=
  ∀ p q b next, q.config = p.config → ShowsZone i q b →
    informActionGroups self send i p b = some ((), next) → ShowsZone i (inform q) next

/-- The frames of the announcement reach the zone as well. -/
def Delivers (send : CanixFrame → OnBoard mcu Unit) (i : Nat) : Prop :=
  ∀ (message : CanixFrame) (q : DeviceDataLichtzone) (b next : Board mcu),
    message.data[1] = hcanHesPowerGroupOn ∨ message.data[1] = hcanHesPowerGroupOff →
    ShowsZone i q b → send message b = some ((), next) →
    ShowsZone i (q.canCallback DeviceDataLichtzone.informed message) next

theorem informs_informed (delivers : Delivers send i) :
    Informs self send i DeviceDataLichtzone.informed := by
  intro p q b next config shows_ ran
  unfold informActionGroups at ran
  unfold DeviceDataLichtzone.informed
  rw [config]
  generalize p.config.actionGruppe.toList = groups at ran
  clear config
  induction groups generalizing b q with
  | nil =>
      cases ran
      exact shows_
  | cons group groups ih =>
      obtain ⟨_, middle, first, rest⟩ := ran_bind ran
      dsimp only at first
      rw [List.foldl_cons]
      refine ih _ _ ?_ rest
      by_cases used : group ≠ 255
      · rw [if_pos used] at first ⊢
        obtain ⟨r, before, read, sent⟩ := ran_bind first
        rw [deref_slot shows_ rfl] at read
        cases read
        by_cases lit : q.state ≠ .off
        · rw [if_pos lit] at sent ⊢
          exact delivers _ q b middle (.inl rfl) shows_ sent
        · rw [if_neg lit] at sent ⊢
          exact delivers _ q b middle (.inr rfl) shows_ sent
      · rw [if_neg used] at first ⊢
        cases first
        exact shows_

/-- A change that is announced. -/
theorem ShowsZone.announced (informs : Informs self send i inform)
    (change : DeviceDataLichtzone → DeviceDataLichtzone) (p : DeviceDataLichtzone)
    (shows_ : ShowsZone i q b) (config : (change q).config = p.config)
    (ran : (do
      poke i change
      informActionGroups self send i p : OnBoard mcu Unit) b = some ((), next)) :
    ShowsZone i (inform (change q)) next := by
  obtain ⟨_, middle, poked, informed⟩ := ran_bind ran
  rw [poke_apply shows_ rfl] at poked
  cases poked
  exact informs p _ _ _ config (slot_set shows_ _) informed

theorem ShowsZone.umschalten (informs : Informs self send i inform) (shows_ : ShowsZone i q b)
    (ran : lichtzoneUmschalten self send i q b = some ((), next)) :
    ShowsZone i (q.umschalten inform) next := by
  unfold lichtzoneUmschalten at ran
  unfold DeviceDataLichtzone.umschalten
  by_cases timed : q.config.timerDelay ≠ 0
  · rw [if_pos timed] at ran ⊢
    cases state : q.state with
    | off =>
        rw [state] at ran
        exact ShowsZone.announced informs (fun r => { lichtzoneSetupTimer r with state := .on })
          q shows_ rfl ran
    | on =>
        rw [state] at ran
        change poke i lichtzoneSetupTimer b = _ at ran
        rw [poke_apply shows_ rfl] at ran
        cases ran
        exact slot_set shows_ _
    | onExt =>
        rw [state] at ran
        exact ShowsZone.announced informs (fun r => { r with
          state := .off
          extonSecCounter := 0
          extonTasterDownCounter := 0
          timerCounter := 0 }) q shows_ rfl ran
  · rw [if_neg timed] at ran ⊢
    exact ShowsZone.announced informs
      (fun r => { r with state := if q.state = .off then .on else .off }) q shows_ rfl ran

theorem extendable_iff : q.extendable = true ↔ q.extonTasterDownCounter ≥ 3 ∧
    q.extonSecCounter > 0 ∧ q.extonSecCounter < lichtzoneExtSecCounterMax := by
  unfold DeviceDataLichtzone.extendable
  rw [Bool.and_eq_true, Bool.and_eq_true, decide_eq_true_eq, decide_eq_true_eq, decide_eq_true_eq,
    and_assoc]

theorem ShowsZone.toggle (calm : KeepsPresses inform) (informs : Informs self send i inform)
    {taster : UInt8} {groups : List UInt8} {returned : Bool} (config : q.config = p.config)
    (shows_ : ShowsZone i q b)
    (ran : lichtzoneToggle self send i p taster groups b = some (returned, next)) :
    ShowsZone i (DeviceDataLichtzone.toggle inform taster groups q).2 next ∧
      (DeviceDataLichtzone.toggle inform taster groups q).1 = returned := by
  induction groups generalizing b q with
  | nil =>
      cases ran
      exact ⟨shows_, rfl⟩
  | cons group groups ih =>
      unfold lichtzoneToggle at ran
      unfold DeviceDataLichtzone.toggle
      by_cases own : taster = group
      · rw [if_pos own] at ran ⊢
        obtain ⟨r, first, read, rest⟩ := ran_bind ran
        rw [deref_slot shows_ rfl] at read
        cases read
        by_cases ready : q.extendable = true
        · rw [if_pos (extendable_iff.mp ready)] at rest
          rw [if_pos ready]
          obtain ⟨_, middle, poked, announced⟩ := ran_bind rest
          obtain ⟨_, last, sent, done⟩ := ran_bind announced
          cases done
          rw [poke_apply shows_ rfl] at poked
          cases poked
          exact ⟨informs p _ _ _ config (slot_set shows_ _) sent, rfl⟩
        · rw [if_neg (fun complete => ready (extendable_iff.mpr complete))] at rest
          rw [if_neg ready]
          obtain ⟨_, middle, switched, toggled⟩ := ran_bind rest
          exact ih ((DeviceDataLichtzone.config_umschalten calm).trans config)
            (shows_.umschalten informs switched) toggled
      · rw [if_neg own] at ran ⊢
        exact ih config shows_ ran

/-- The loops over the off groups and the on groups. -/
theorem ShowsZone.pressed (calm : KeepsPresses inform) (informs : Informs self send i inform)
    (change : DeviceDataLichtzone → DeviceDataLichtzone) (kept : ∀ r, (change r).config = r.config)
    {taster : UInt8} {groups : List UInt8} (config : q.config = p.config) (shows_ : ShowsZone i q b)
    (ran : (groups.forM fun group => if taster = group then do
        poke i change
        informActionGroups self send i p
      else pure () : OnBoard mcu Unit) b = some ((), next)) :
    ShowsZone i (DeviceDataLichtzone.pressed inform taster change groups q) next := by
  induction groups generalizing b q with
  | nil =>
      cases ran
      exact shows_
  | cons group groups ih =>
      obtain ⟨_, middle, first, rest⟩ := ran_bind ran
      dsimp only at first
      unfold DeviceDataLichtzone.pressed
      rw [List.foldl_cons]
      by_cases own : taster = group
      · rw [if_pos own] at first ⊢
        have changed := (kept q).trans config
        exact ih ((calm.config _).trans changed)
          (ShowsZone.announced informs change p shows_ changed first) rest
      · rw [if_neg own] at first ⊢
        cases first
        exact ih config shows_ rest

theorem ShowsZone.tasterDown (calm : KeepsPresses inform) (informs : Informs self send i inform)
    {taster : UInt8} (shows_ : ShowsZone i p b)
    (ran : lichtzoneTasterDown self send i p taster b = some ((), next)) :
    ShowsZone i (p.tasterDown inform taster) next := by
  obtain ⟨_, first, poked, loops⟩ := ran_bind ran
  rw [poke_apply shows_ rfl] at poked
  cases poked
  obtain ⟨returned, middle, toggled, behind⟩ := ran_bind loops
  obtain ⟨there, same⟩ := ShowsZone.toggle calm informs (q := lichtzonePressed p) (p := p) rfl
    (slot_set shows_ _) toggled
  unfold DeviceDataLichtzone.tasterDown
  dsimp only
  rw [same]
  cases returned with
  | true =>
      cases behind
      exact there
  | false =>
      obtain ⟨_, last, offs, ons⟩ := ran_bind behind
      have config : (DeviceDataLichtzone.toggle inform taster p.config.toggleGruppe.toList
          (lichtzonePressed p)).2.config = p.config := DeviceDataLichtzone.config_toggle calm _
      have off := ShowsZone.pressed calm informs DeviceDataLichtzone.switchOff
        DeviceDataLichtzone.config_switchOff config there offs
      refine ShowsZone.pressed calm informs DeviceDataLichtzone.switchOn
        DeviceDataLichtzone.config_switchOn ?_ off ons
      exact (DeviceDataLichtzone.config_pressed calm
        DeviceDataLichtzone.config_switchOff _).trans config

/-- The answer of a light zone. -/
theorem timerReplay_unknown :
    ∀ sent ∈ [hcanHesPowerGroupTimerReplay], ∀ other ∈ knownCommands, sent ≠ other := by
  have apart : ([hcanHesPowerGroupTimerReplay].all fun mine => !knownCommands.contains mine) =
    true := by decide
  exact fun sent mine other known => ne_of_apart apart mine known

/-- The callback on a board does to the zone what the callback of the zone says. -/
theorem lichtzoneCanCallback_simulated (calm : KeepsPresses inform)
    (informs : Informs self send i inform) (inert : Inert [hcanHesPowerGroupTimerReplay] send)
    (shows_ : ShowsZone i p b) (frame : CanixFrame)
    (ran : lichtzoneCanCallback self send i p frame b = some ((), next)) :
    ShowsZone i (p.canCallback inform frame) next := by
  unfold lichtzoneCanCallback at ran
  unfold DeviceDataLichtzone.canCallback
  dsimp only at ran ⊢
  by_cases down : frame.data[1] = hcanHesTasterDown
  · rw [if_pos down] at ran ⊢
    exact shows_.tasterDown calm informs ran
  rw [if_neg down] at ran ⊢
  by_cases on : frame.data[1] = hcanHesPowerGroupOn
  · rw [if_pos on] at ran ⊢
    rw [poke_apply shows_ rfl] at ran
    cases ran
    exact slot_set shows_ _
  rw [if_neg on] at ran ⊢
  by_cases off : frame.data[1] = hcanHesPowerGroupOff
  · rw [if_pos off] at ran ⊢
    rw [poke_apply shows_ rfl] at ran
    cases ran
    exact slot_set shows_ _
  rw [if_neg off] at ran ⊢
  by_cases query : frame.data[1] = hcanHesPowerGroupTimerQuery
  · rw [if_pos query] at ran ⊢
    by_cases own : frame.data[2] ∈ p.config.actionGruppe.toList
    · rw [if_pos own] at ran
      obtain ⟨devices, _⟩ := inert _ b next rfl rfl List.mem_cons_self ran
      exact (congrArg (·[i]?) devices).trans shows_
    · rw [if_neg own] at ran
      cases ran
      exact shows_
  rw [if_neg query] at ran ⊢
  by_cases set : frame.data[1] = hcanHesPowerGroupSetTimer
  · rw [if_pos set] at ran ⊢
    by_cases own : frame.data[2] ∈ p.config.actionGruppe.toList
    · rw [if_pos own] at ran ⊢
      rw [poke_apply shows_ rfl] at ran
      cases ran
      exact slot_set shows_ _
    · rw [if_neg own] at ran ⊢
      cases ran
      exact shows_
  · rw [if_neg set] at ran ⊢
    cases ran
    exact shows_

/-- Where the announced frames reach the zone, a frame on the board is a step of the zone. -/
theorem lichtzoneCanCallback_step (env : Environment mcu) (depth : Nat)
    (delivers : Delivers (canixFrameSend (deliver env (depth + 1))) i) (shows_ : ShowsZone i p b)
    (frame : CanixFrame) (ran : lichtzoneCanCallback self (canixFrameSend (deliver env (depth + 1)))
      i p frame b = some ((), next)) :
    ShowsZone i (p.step (.frame frame)) next :=
  lichtzoneCanCallback_simulated DeviceDataLichtzone.keepsPresses_informed
    (informs_informed delivers) (inert_canixFrameSend env depth timerReplay_unknown) shows_ frame
    ran

end OnBoard

/-! ## Entering the extended mode -/

namespace DeviceDataLichtzone

section Entering

variable {inform : DeviceDataLichtzone → DeviceDataLichtzone} (calm : KeepsPresses inform)
  {p : DeviceDataLichtzone} {taster : UInt8}

/-- Behind the normal mode the presses are as complete as before. -/
theorem extendable_congr {q : DeviceDataLichtzone}
    (taster : q.extonTasterDownCounter = p.extonTasterDownCounter)
    (sec : q.extonSecCounter = p.extonSecCounter) : q.extendable = p.extendable := by
  unfold extendable
  rw [taster, sec]

include calm in
theorem extendable_umschalten (away : p.state ≠ .onExt) :
    (p.umschalten inform).extendable = p.extendable := by
  unfold umschalten
  by_cases timed : p.config.timerDelay ≠ 0
  · rw [if_pos timed]
    cases state : p.state with
    | off => exact extendable_congr (calm.taster _) (calm.sec _)
    | on => exact extendable_congr rfl rfl
    | onExt => exact absurd state away
  · rw [if_neg timed]
    exact extendable_congr (calm.taster _) (calm.sec _)

include calm in
theorem state_umschalten (away : p.state ≠ .onExt) : (p.umschalten inform).state ≠ .onExt := by
  unfold umschalten
  by_cases timed : p.config.timerDelay ≠ 0
  · rw [if_pos timed]
    cases state : p.state with
    | off => exact fun entered => on_ne_onExt ((calm.onExt _).mp entered)
    | on => exact away
    | onExt => exact absurd state away
  · rw [if_neg timed]
    intro entered
    have switched := (calm.onExt _).mp entered
    dsimp only at switched
    split at switched
    next => cases switched
    next => cases switched

include calm in
/-- The loop over the toggle groups enters the mode at the first group that matches, or never. -/
theorem toggle_entered (away : p.state ≠ .onExt) (groups : List UInt8) :
    (toggle inform taster groups p).1 = (decide (taster ∈ groups) && p.extendable) ∧
      ((toggle inform taster groups p).2.state = .onExt ↔
        taster ∈ groups ∧ p.extendable = true) := by
  induction groups generalizing p with
  | nil => exact ⟨rfl, iff_of_false away fun found => List.not_mem_nil found.1⟩
  | cons group groups ih =>
      unfold toggle
      by_cases own : taster = group
      · have found : taster ∈ group :: groups := own ▸ List.mem_cons_self
        rw [if_pos own, decide_eq_true found, Bool.true_and]
        by_cases ready : p.extendable = true
        · rw [if_pos ready]
          exact ⟨ready.symm, iff_of_true ((calm.onExt _).mpr rfl) ⟨found, ready⟩⟩
        · have waiting : (p.umschalten inform).extendable = false :=
            (extendable_umschalten calm away).trans (Bool.not_eq_true _ ▸ ready)
          obtain ⟨returned, entered⟩ := ih (state_umschalten calm away)
          rw [waiting, Bool.and_false] at returned
          rw [waiting] at entered
          rw [if_neg ready]
          refine ⟨returned.trans (Bool.eq_false_of_not_eq_true ready).symm, entered.trans ?_⟩
          exact iff_of_false (fun now => Bool.false_ne_true now.2) fun now => ready now.2
      · have behind : taster ∈ group :: groups ↔ taster ∈ groups :=
          List.mem_cons.trans (or_iff_right own)
        rw [if_neg own, decide_eq_decide.mpr behind, behind]
        exact ih away

include calm in
theorem pressed_away {change : DeviceDataLichtzone → DeviceDataLichtzone}
    (changes : ∀ q, (change q).state ≠ .onExt) (away : p.state ≠ .onExt) (groups : List UInt8) :
    (pressed inform taster change groups p).state ≠ .onExt := by
  induction groups generalizing p with
  | nil => exact away
  | cons group groups ih =>
      refine ih ?_
      dsimp only
      split
      next => exact fun entered => changes p ((calm.onExt _).mp entered)
      next => exact away

theorem state_switchOn (q : DeviceDataLichtzone) : q.switchOn.state ≠ .onExt := by
  unfold switchOn
  split_ifs
  · exact on_ne_onExt
  · exact on_ne_onExt

include calm in
/-- A press enters the mode exactly at an own button with the presses complete. -/
theorem tasterDown_entered (away : p.state ≠ .onExt) :
    (p.tasterDown inform taster).state = .onExt ↔
      taster ∈ p.config.toggleGruppe.toList ∧ (lichtzonePressed p).extendable = true := by
  obtain ⟨returned, entered⟩ :=
    toggle_entered calm (p := lichtzonePressed p) away p.config.toggleGruppe.toList
  rw [← entered]
  unfold tasterDown
  dsimp only
  split
  next => exact Iff.rfl
  next running =>
    have still := Bool.eq_false_of_not_eq_true running
    have notEntered : (toggle inform taster p.config.toggleGruppe.toList
        (lichtzonePressed p)).2.state ≠ .onExt := by
      intro now
      obtain ⟨found, ready⟩ := entered.mp now
      rw [returned, decide_eq_true found, ready] at still
      cases still
    refine iff_of_false ?_ notEntered
    exact pressed_away calm state_switchOn
      (pressed_away calm (fun _ => off_ne_onExt) notEntered _) _

/-- A frame that is no press does not enter the mode. -/
theorem canCallback_away {frame : CanixFrame} (down : frame.data[1] ≠ hcanHesTasterDown)
    (away : p.state ≠ .onExt) : (p.canCallback inform frame).state ≠ .onExt := by
  unfold canCallback
  dsimp only
  rw [if_neg down]
  split_ifs
  · exact fun entered => away (((keepsPresses_powerGroupOn _).onExt p).mp entered)
  · unfold lichtzonePowerGroupOff
    split_ifs
    · exact off_ne_onExt
    · exact away
  all_goals exact away

theorem state_waitForPresses (q : DeviceDataLichtzone) : q.waitForPresses.state = q.state := by
  unfold waitForPresses
  dsimp only
  split_ifs <;> rfl

include calm in
/-- A second does not enter the mode. -/
theorem timerHandler_away (away : p.state ≠ .onExt) : (p.timerHandler inform).state ≠ .onExt := by
  unfold timerHandler countDown
  rw [state_waitForPresses]
  dsimp only
  split_ifs
  · exact fun entered => off_ne_onExt ((calm.onExt _).mp entered)
  · exact away
  · exact away

end Entering

end DeviceDataLichtzone

/-- The counters are the same, or cleared. -/
def KeptOrCleared (p q : DeviceDataLichtzone) : Prop :=
  (q.extonSecCounter = p.extonSecCounter ∧ q.extonTasterDownCounter = p.extonTasterDownCounter) ∨
    (q.extonSecCounter = 0 ∧ q.extonTasterDownCounter = 0)

namespace KeptOrCleared

variable {p q r : DeviceDataLichtzone}

theorem trans (first : KeptOrCleared p q) (second : KeptOrCleared q r) : KeptOrCleared p r := by
  obtain ⟨sec, taster⟩ | cleared := second
  · obtain ⟨before, count⟩ | ⟨before, count⟩ := first
    · exact .inl ⟨sec.trans before, taster.trans count⟩
    · exact .inr ⟨sec.trans before, taster.trans count⟩
  · exact .inr cleared

theorem of_keepsPresses {change : DeviceDataLichtzone → DeviceDataLichtzone}
    (calm : KeepsPresses change) (p : DeviceDataLichtzone) : KeptOrCleared p (change p) :=
  .inl ⟨calm.sec p, calm.taster p⟩

end KeptOrCleared

namespace DeviceDataLichtzone

section Counters

variable {inform : DeviceDataLichtzone → DeviceDataLichtzone} (calm : KeepsPresses inform)
  {p : DeviceDataLichtzone} {taster : UInt8}

include calm in
theorem counters_umschalten : KeptOrCleared p (p.umschalten inform) := by
  unfold umschalten
  by_cases timed : p.config.timerDelay ≠ 0
  · rw [if_pos timed]
    cases state : p.state with
    | off => exact .inl ⟨calm.sec _, calm.taster _⟩
    | on => exact .inl ⟨rfl, rfl⟩
    | onExt => exact .inr ⟨calm.sec _, calm.taster _⟩
  · rw [if_neg timed]
    exact .inl ⟨calm.sec _, calm.taster _⟩

include calm in
theorem counters_toggle (groups : List UInt8) :
    KeptOrCleared p (toggle inform taster groups p).2 := by
  induction groups generalizing p with
  | nil => exact .inl ⟨rfl, rfl⟩
  | cons group groups ih =>
      unfold toggle
      split_ifs
      · exact .inr ⟨calm.sec _, calm.taster _⟩
      · exact (counters_umschalten calm).trans ih
      · exact ih

include calm in
theorem counters_pressed {change : DeviceDataLichtzone → DeviceDataLichtzone}
    (kept : ∀ q, KeptOrCleared q (change q)) (groups : List UInt8) :
    KeptOrCleared p (pressed inform taster change groups p) := by
  induction groups generalizing p with
  | nil => exact .inl ⟨rfl, rfl⟩
  | cons group groups ih =>
      refine KeptOrCleared.trans ?_ ih
      dsimp only
      split
      next => exact (kept p).trans (.of_keepsPresses calm _)
      next => exact .inl ⟨rfl, rfl⟩

theorem counters_switchOff (q : DeviceDataLichtzone) : KeptOrCleared q q.switchOff :=
  .inl ⟨rfl, rfl⟩

theorem counters_switchOn (q : DeviceDataLichtzone) : KeptOrCleared q q.switchOn := by
  unfold switchOn
  split_ifs
  · exact .inl ⟨rfl, rfl⟩
  · exact .inl ⟨rfl, rfl⟩

include calm in
/-- A press counts, and may clear the counters. -/
theorem counters_tasterDown : KeptOrCleared (lichtzonePressed p) (p.tasterDown inform taster) := by
  have toggled : KeptOrCleared (lichtzonePressed p)
      (toggle inform taster p.config.toggleGruppe.toList (lichtzonePressed p)).2 :=
    counters_toggle calm _
  unfold tasterDown
  dsimp only
  split
  next => exact toggled
  next =>
    exact (toggled.trans (counters_pressed calm counters_switchOff _)).trans
      (counters_pressed calm counters_switchOn _)

/-- A frame that is no press changes no counter. -/
theorem counters_canCallback {frame : CanixFrame} (down : frame.data[1] ≠ hcanHesTasterDown) :
    (p.canCallback inform frame).extonSecCounter = p.extonSecCounter ∧
      (p.canCallback inform frame).extonTasterDownCounter = p.extonTasterDownCounter := by
  unfold canCallback
  dsimp only
  rw [if_neg down]
  split_ifs
  · have calm := keepsPresses_powerGroupOn frame.data[2]
    exact ⟨calm.sec p, calm.taster p⟩
  · unfold lichtzonePowerGroupOff
    split_ifs
    · exact ⟨rfl, rfl⟩
    · exact ⟨rfl, rfl⟩
  all_goals exact ⟨rfl, rfl⟩

include calm in
theorem counters_countDown :
    (p.countDown inform).extonSecCounter = p.extonSecCounter ∧
      (p.countDown inform).extonTasterDownCounter = p.extonTasterDownCounter := by
  unfold countDown
  dsimp only
  split_ifs
  · exact ⟨calm.sec _, calm.taster _⟩
  · exact ⟨rfl, rfl⟩
  · exact ⟨rfl, rfl⟩

end Counters

/-- The time for the presses is not over. -/
def Waiting (p : DeviceDataLichtzone) : Prop := p.extonSecCounter < lichtzoneExtSecCounterMax

theorem waiting_of_kept {p q : DeviceDataLichtzone} (kept : KeptOrCleared p q)
    (waiting : p.Waiting) : q.Waiting := by
  unfold Waiting
  obtain ⟨sec, _⟩ | ⟨sec, _⟩ := kept
  · rw [sec]
    exact waiting
  · rw [sec]
    decide

theorem waiting_lichtzonePressed {p : DeviceDataLichtzone} (waiting : p.Waiting) :
    (lichtzonePressed p).Waiting := by
  unfold Waiting lichtzonePressed
  dsimp only
  split
  next => decide
  next => exact waiting

theorem waiting_waitForPresses (p : DeviceDataLichtzone) : p.waitForPresses.Waiting := by
  unfold waitForPresses Waiting
  dsimp only
  generalize (if p.extonSecCounter ≥ 1 then { p with extonSecCounter := p.extonSecCounter + 1 }
    else p) = waited
  split
  next => exact show (0 : UInt8) < lichtzoneExtSecCounterMax by decide
  next open_ => exact UInt8.not_le.mp open_

theorem waiting_step {p : DeviceDataLichtzone} (waiting : p.Waiting) (call : DeviceCall) :
    (p.step call).Waiting := by
  cases call with
  | tick => exact waiting_waitForPresses _
  | frame frame =>
      change (p.canCallback informed frame).Waiting
      by_cases down : frame.data[1] = hcanHesTasterDown
      · unfold canCallback
        dsimp only
        rw [if_pos down]
        exact waiting_of_kept (counters_tasterDown keepsPresses_informed)
          (waiting_lichtzonePressed waiting)
      · exact waiting_of_kept (.inl (counters_canCallback down)) waiting

/-- While the time runs, the presses are complete when three are counted. -/
theorem extendable_lichtzonePressed {p : DeviceDataLichtzone} (waiting : p.Waiting) :
    (lichtzonePressed p).extendable = true ↔ 3 ≤ p.extonTasterDownCounter + 1 := by
  have started : (lichtzonePressed p).extonSecCounter > 0 := by
    unfold lichtzonePressed
    dsimp only
    split
    next => decide
    next running => exact UInt8.pos_iff_ne_zero.mpr running
  have open_ : (lichtzonePressed p).extonSecCounter < lichtzoneExtSecCounterMax :=
    waiting_lichtzonePressed waiting
  exact extendable_iff.trans ⟨fun ready => ready.1, fun counted => ⟨counted, started, open_⟩⟩

end DeviceDataLichtzone

/-! ## The presses of the own buttons -/

/-- The calls behind the last tick but some, the newest first. -/
def recent : Nat → List DeviceCall → List DeviceCall
  | _, [] => []
  | ticks, .frame frame :: calls => .frame frame :: recent ticks calls
  | 0, .tick :: _ => []
  | ticks + 1, .tick :: calls => .tick :: recent ticks calls

/-- A press of a button. -/
def isPress : DeviceCall → Bool
  | .frame frame => decide (frame.data[1] = hcanHesTasterDown)
  | .tick => false

/-- A press of a button for a toggle group. -/
def EdsLichtzoneBlock.isOwnPress (config : EdsLichtzoneBlock) : DeviceCall → Bool
  | .frame frame => decide
      (frame.data[1] = hcanHesTasterDown ∧ frame.data[2] ∈ config.toggleGruppe.toList)
  | .tick => false

/-- The zone with the calls that it has taken, the newest first. -/
structure LoggedZone where
  p : DeviceDataLichtzone
  calls : List DeviceCall

namespace LoggedZone

/-- The zone behind the power-on. -/
def fresh (config : EdsLichtzoneBlock) : LoggedZone := ⟨⟨config, .off, 0, 0, 0⟩, []⟩

def step (zone : LoggedZone) (call : DeviceCall) : LoggedZone :=
  ⟨zone.p.step call, call :: zone.calls⟩

/-- The presses of the own buttons within the last three ticks. -/
def ownPresses (zone : LoggedZone) : Nat :=
  (recent 2 zone.calls).countP zone.p.config.isOwnPress

/-- The zone enters the extended mode at the third own press at the earliest. -/
def EntersAtThird (zone : LoggedZone) (call : DeviceCall) : Prop :=
  zone.p.state ≠ .onExt → (zone.step call).p.state = .onExt →
    zone.p.config.isOwnPress call = true ∧
      3 ≤ (recent 2 (call :: zone.calls)).countP zone.p.config.isOwnPress

/-- An own press that completes the count has two own presses before it. -/
def CountsOwn (zone : LoggedZone) (call : DeviceCall) : Prop :=
  zone.p.config.isOwnPress call = true → zone.p.state ≠ .onExt →
    3 ≤ zone.p.extonTasterDownCounter + 1 → 2 ≤ zone.ownPresses

/-- A call enters the mode exactly when it is an own press that completes the count. -/
theorem step_entered {zone : LoggedZone} (waiting : zone.p.Waiting) (away : zone.p.state ≠ .onExt)
    (call : DeviceCall) : (zone.step call).p.state = .onExt ↔
      zone.p.config.isOwnPress call = true ∧ 3 ≤ zone.p.extonTasterDownCounter + 1 := by
  cases call with
  | tick =>
      refine iff_of_false ?_ fun own => Bool.false_ne_true own.1
      exact DeviceDataLichtzone.timerHandler_away DeviceDataLichtzone.keepsPresses_informed away
  | frame frame =>
      change (zone.p.canCallback DeviceDataLichtzone.informed frame).state = .onExt ↔
        decide (frame.data[1] = hcanHesTasterDown ∧
          frame.data[2] ∈ zone.p.config.toggleGruppe.toList) = true ∧ _
      rw [decide_eq_true_iff]
      by_cases down : frame.data[1] = hcanHesTasterDown
      · unfold DeviceDataLichtzone.canCallback
        dsimp only
        rw [if_pos down,
          DeviceDataLichtzone.tasterDown_entered DeviceDataLichtzone.keepsPresses_informed away,
          DeviceDataLichtzone.extendable_lichtzonePressed waiting]
        exact and_congr_left' (and_iff_right down).symm
      · exact iff_of_false (DeviceDataLichtzone.canCallback_away down away)
          fun own => down own.1.1

theorem recent_frame (ticks : Nat) (frame : CanixFrame) (calls : List DeviceCall) :
    recent ticks (.frame frame :: calls) = .frame frame :: recent ticks calls := by
  cases ticks <;> rfl

theorem recent_subset (ticks : Nat) (calls : List DeviceCall) : recent ticks calls ⊆ calls := by
  induction calls generalizing ticks with
  | nil => exact (show recent ticks [] = [] by cases ticks <;> rfl) ▸ List.Subset.refl []
  | cons call calls ih =>
      cases call with
      | frame frame =>
          rw [recent_frame]
          exact List.cons_subset_cons _ (ih ticks)
      | tick =>
          cases ticks with
          | zero => exact List.nil_subset _
          | succ ticks => exact List.cons_subset_cons _ (ih ticks)

/-- An own press is the newest of the presses. -/
theorem countP_own {config : EdsLichtzoneBlock} {call : DeviceCall}
    (own : config.isOwnPress call = true) (ticks : Nat) (calls : List DeviceCall) :
    (recent ticks (call :: calls)).countP config.isOwnPress =
      (recent ticks calls).countP config.isOwnPress + 1 := by
  cases call with
  | tick => cases own
  | frame frame =>
      rw [recent_frame]
      exact List.countP_cons_of_pos own

theorem entersAtThird_iff {zone : LoggedZone} (waiting : zone.p.Waiting) (call : DeviceCall) :
    zone.EntersAtThird call ↔ zone.CountsOwn call := by
  constructor
  · intro enters own away counted
    have entered := (step_entered waiting away call).mpr ⟨own, counted⟩
    have three := (enters away entered).2
    rw [countP_own own] at three
    exact Nat.le_of_succ_le_succ three
  · intro counts away entered
    obtain ⟨own, counted⟩ := (step_entered waiting away call).mp entered
    refine ⟨own, ?_⟩
    rw [countP_own own]
    exact Nat.succ_le_succ (counts own away counted)

end LoggedZone

/-! ## A house with own buttons only -/

namespace LoggedZone

theorem recent_prefix (fewer ticks : Nat) (le : fewer ≤ ticks) (calls : List DeviceCall) :
    recent fewer calls <+: recent ticks calls := by
  induction calls generalizing fewer ticks with
  | nil =>
      cases fewer <;> cases ticks <;> exact List.prefix_rfl
  | cons call calls ih =>
      cases call with
      | frame frame =>
          rw [recent_frame, recent_frame]
          exact List.prefix_cons_inj _ |>.mpr (ih fewer ticks le)
      | tick =>
          cases fewer with
          | zero => exact List.nil_prefix
          | succ fewer =>
              cases ticks with
              | zero => exact absurd le (Nat.not_succ_le_zero fewer)
              | succ ticks =>
                  exact List.prefix_cons_inj _ |>.mpr (ih fewer ticks (Nat.le_of_succ_le_succ le))

/-- The counted presses lie behind the start of the time. -/
structure Counted (zone : LoggedZone) : Prop where
  waiting : zone.p.Waiting
  idle : zone.p.extonSecCounter = 0 → zone.p.extonTasterDownCounter = 0
  counted : zone.p.extonTasterDownCounter.toNat ≤
    (recent (zone.p.extonSecCounter.toNat - 1) zone.calls).countP isPress

theorem counted_fresh (config : EdsLichtzoneBlock) : Counted (fresh config) :=
  ⟨show (0 : UInt8) < lichtzoneExtSecCounterMax by decide, fun _ => rfl, Nat.le_refl 0⟩

theorem counted_of_kept {p q : DeviceDataLichtzone} {calls : List DeviceCall}
    (kept : KeptOrCleared p q) (counted : Counted ⟨p, calls⟩) : Counted ⟨q, calls⟩ := by
  have waiting := DeviceDataLichtzone.waiting_of_kept kept counted.waiting
  obtain ⟨sec, taster⟩ | ⟨_, taster⟩ := kept
  · refine ⟨waiting, fun none => ?_, ?_⟩
    · exact taster.trans (counted.idle (sec.symm.trans none))
    · dsimp only
      rw [sec, taster]
      exact counted.counted
  · refine ⟨waiting, fun _ => taster, ?_⟩
    dsimp only
    rw [taster]
    exact Nat.zero_le _

/-- A frame behind the others. -/
theorem counted_frame {p : DeviceDataLichtzone} {calls : List DeviceCall} {frame : CanixFrame}
    (counted : Counted ⟨p, calls⟩) : Counted ⟨p, .frame frame :: calls⟩ := by
  refine ⟨counted.waiting, counted.idle, counted.counted.trans ?_⟩
  rw [recent_frame]
  exact (List.sublist_cons_self _ _).countP_le

theorem counted_press {p : DeviceDataLichtzone} {calls : List DeviceCall} {frame : CanixFrame}
    (down : frame.data[1] = hcanHesTasterDown) (counted : Counted ⟨p, calls⟩) :
    Counted ⟨lichtzonePressed p, .frame frame :: calls⟩ := by
  have press : isPress (.frame frame) = true := decide_eq_true down
  have ticks : (lichtzonePressed p).extonSecCounter.toNat - 1 = p.extonSecCounter.toNat - 1 := by
    unfold lichtzonePressed
    dsimp only
    split
    next idle => rw [idle]; rfl
    next => rfl
  have next : (p.extonTasterDownCounter + 1).toNat ≤ p.extonTasterDownCounter.toNat + 1 := by
    rw [UInt8.toNat_add]
    exact Nat.mod_le _ _
  refine ⟨DeviceDataLichtzone.waiting_lichtzonePressed counted.waiting, fun idle => ?_, ?_⟩
  · unfold lichtzonePressed at idle
    dsimp only at idle
    split at idle
    next => cases idle
    next running => exact absurd idle running
  · dsimp only
    rw [ticks, recent_frame, List.countP_cons_of_pos press]
    exact next.trans (Nat.succ_le_succ counted.counted)

theorem counted_tick {p : DeviceDataLichtzone} {calls : List DeviceCall}
    (counted : Counted ⟨p, calls⟩) : Counted ⟨p.waitForPresses, .tick :: calls⟩ := by
  have waiting := DeviceDataLichtzone.waiting_waitForPresses p
  have sec : p.extonSecCounter < 3 := counted.waiting
  by_cases first : p.extonSecCounter = 1
  · have waited : p.waitForPresses = { p with extonSecCounter := 2 } := by
      unfold DeviceDataLichtzone.waitForPresses
      rw [first]
      rfl
    rw [waited]
    refine ⟨show (2 : UInt8) < lichtzoneExtSecCounterMax by decide, fun none => ?_, ?_⟩
    · cases none
    · have before := counted.counted
      dsimp only at before ⊢
      rw [first] at before
      exact before.trans (List.sublist_cons_self _ _).countP_le
  · have none : p.waitForPresses.extonTasterDownCounter = 0 := by
      by_cases idle : p.extonSecCounter = 0
      · have stopped : ¬ p.extonSecCounter ≥ 1 := by
          rw [idle]
          decide
        have same : p.waitForPresses = p := by
          unfold DeviceDataLichtzone.waitForPresses
          rw [if_neg stopped]
          exact if_neg (UInt8.not_le.mpr counted.waiting)
        rw [same]
        exact counted.idle idle
      · have last : p.extonSecCounter = 2 := by
          rw [UInt8.lt_iff_toNat_lt] at sec
          rw [← UInt8.toNat_inj] at first idle ⊢
          change p.extonSecCounter.toNat ≠ 1 at first
          change p.extonSecCounter.toNat ≠ 0 at idle
          change p.extonSecCounter.toNat < 3 at sec
          change p.extonSecCounter.toNat = 2
          omega
        unfold DeviceDataLichtzone.waitForPresses
        rw [last]
        rfl
    refine ⟨waiting, fun _ => none, ?_⟩
    dsimp only
    rw [none]
    exact Nat.zero_le _

theorem counted_step {zone : LoggedZone} (counted : Counted zone) (call : DeviceCall) :
    Counted (zone.step call) := by
  cases call with
  | tick =>
      exact counted_tick (counted_of_kept
        (.inl (DeviceDataLichtzone.counters_countDown DeviceDataLichtzone.keepsPresses_informed))
        counted)
  | frame frame =>
      by_cases down : frame.data[1] = hcanHesTasterDown
      · have pressed : zone.p.step (.frame frame) =
            zone.p.tasterDown DeviceDataLichtzone.informed frame.data[2] := by
          change zone.p.canCallback DeviceDataLichtzone.informed frame = _
          unfold DeviceDataLichtzone.canCallback
          dsimp only
          rw [if_pos down]
        unfold step
        rw [pressed]
        exact counted_of_kept
          (DeviceDataLichtzone.counters_tasterDown DeviceDataLichtzone.keepsPresses_informed)
          (counted_press down counted)
      · exact counted_of_kept (.inl (DeviceDataLichtzone.counters_canCallback down))
          (counted_frame counted)

/-- With own presses only, the counted ones are own ones of the last ticks. -/
theorem countsOwn_of_counted {zone : LoggedZone} (counted : Counted zone)
    (own : ∀ call ∈ zone.calls, isPress call = true → zone.p.config.isOwnPress call = true)
    (call : DeviceCall) : zone.CountsOwn call := by
  intro _ _ complete
  have three : 3 ≤ (zone.p.extonTasterDownCounter + 1).toNat := UInt8.le_iff_toNat_le.mp complete
  rw [UInt8.toNat_add] at three
  have two : 2 ≤ zone.p.extonTasterDownCounter.toNat :=
    Nat.le_of_succ_le_succ (three.trans (Nat.mod_le _ _))
  have sec : zone.p.extonSecCounter.toNat < 3 := UInt8.lt_iff_toNat_lt.mp counted.waiting
  have inside : recent (zone.p.extonSecCounter.toNat - 1) zone.calls <+: recent 2 zone.calls :=
    recent_prefix _ 2 (by omega) zone.calls
  refine (two.trans counted.counted).trans ((inside.sublist.countP_le).trans ?_)
  exact List.countP_mono_left fun call found => own call (recent_subset 2 zone.calls found)

theorem config_step (zone : LoggedZone) (call : DeviceCall) :
    (zone.step call).p.config = zone.p.config := by
  have calm := DeviceDataLichtzone.keepsPresses_informed
  cases call with
  | tick => exact DeviceDataLichtzone.config_timerHandler calm
  | frame frame => exact DeviceDataLichtzone.config_canCallback calm frame

theorem calls_runAll (zone : LoggedZone) (calls : List DeviceCall) :
    (runAll step zone calls).calls = calls.reverse ++ zone.calls := by
  induction calls generalizing zone with
  | nil => rfl
  | cons call calls ih =>
      rw [runAll_cons, ih, List.reverse_cons, List.append_assoc]
      rfl

end LoggedZone

/-- Where every button that is pressed is an own one, every press that completes the count has two
own presses before it. -/
theorem ownButtons_countOwn (config : EdsLichtzoneBlock) (calls : List DeviceCall)
    (own : ∀ call ∈ calls, isPress call = true → config.isOwnPress call = true) :
    AlwaysFits LoggedZone.step LoggedZone.CountsOwn (.fresh config) calls := by
  intro front call before
  have counted : (runAll LoggedZone.step (.fresh config) front).Counted :=
    runAll_invariant LoggedZone.Counted (LoggedZone.counted_fresh config)
      fun _ call counted => LoggedZone.counted_step counted call
  have same : (runAll LoggedZone.step (.fresh config) front).p.config = config :=
    runAll_invariant (fun zone : LoggedZone => zone.p.config = config) rfl
      fun zone call same => (LoggedZone.config_step zone call).trans same
  refine LoggedZone.countsOwn_of_counted counted (fun old found press => ?_) call
  rw [LoggedZone.calls_runAll, List.mem_append, List.mem_reverse] at found
  rw [same]
  refine own old ?_ press
  have earlier := found.resolve_right List.not_mem_nil
  exact before.subset (List.mem_append_left [call] earlier)

/-- In a run from the power-on the zone enters the extended mode only at a third own press exactly
when every own press that completes the count has two own presses before it.  It is so in every
house where only own buttons are pressed. -/
theorem extendedMode_iff (config : EdsLichtzoneBlock) (calls : List DeviceCall) :
    (AlwaysFits LoggedZone.step LoggedZone.EntersAtThird (.fresh config) calls ↔
      AlwaysFits LoggedZone.step LoggedZone.CountsOwn (.fresh config) calls) ∧
    ((∀ call ∈ calls, isPress call = true → config.isOwnPress call = true) →
      AlwaysFits LoggedZone.step LoggedZone.EntersAtThird (.fresh config) calls) := by
  have exact_ : AlwaysFits LoggedZone.step LoggedZone.EntersAtThird (.fresh config) calls ↔
      AlwaysFits LoggedZone.step LoggedZone.CountsOwn (.fresh config) calls :=
    alwaysFits_congr_of_holds (fun zone : LoggedZone => zone.p.Waiting)
      (show (0 : UInt8) < lichtzoneExtSecCounterMax by decide)
      (fun _ call waiting => DeviceDataLichtzone.waiting_step waiting call)
      fun _ call waiting => LoggedZone.entersAtThird_iff waiting call
  exact ⟨exact_, fun own => exact_.mpr (ownButtons_countOwn config calls own)⟩

/-- A zone with one toggle button. -/
def hallway : EdsLichtzoneBlock where
  toggleGruppe := ⟨#[7, 255, 255, 255], rfl⟩
  offGruppe := ⟨#[255, 255], rfl⟩
  onGruppe := ⟨#[255, 255], rfl⟩
  timerDelay := 5
  actionGruppe := ⟨#[1, 255], rfl⟩

/-- A press of the button in the group. -/
def tasterPressed (group : UInt8) : DeviceCall :=
  .frame (hesFrame 5 hcanMulticastControl 4 hcanHesTasterDown group 0 0 0 0 0)

/-- Two presses of another button and one of the own enter the extended mode. -/
theorem foreignPresses_extend :
    (runAll LoggedZone.step (.fresh hallway)
        [tasterPressed 9, tasterPressed 9, tasterPressed 7]).p.state = .onExt ∧
      ¬ AlwaysFits LoggedZone.step LoggedZone.EntersAtThird (.fresh hallway)
        [tasterPressed 9, tasterPressed 9, tasterPressed 7] := by
  refine ⟨by decide +kernel, fun enters => ?_⟩
  have third := (enters [tasterPressed 9, tasterPressed 9] (tasterPressed 7) List.prefix_rfl
    (by decide +kernel) (by decide +kernel)).2
  revert third
  decide +kernel

end Hcan.Hauselektrik
