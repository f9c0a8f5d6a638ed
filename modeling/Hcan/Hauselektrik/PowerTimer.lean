import Hcan.Hauselektrik.WriteFrames
import Hcan.Hauselektrik.LocalDelivery
import Hcan.Library.Machine

/-!
# The timer of a power port

The power port as a record with the pins of its board, and its one-second handler.  While a bistable
relay switches, `canix_sleep_100th` handles further frames and ticks; it does not sleep again below
such a call.  The handler loads the timer in one branch and counts down behind all of them, so a
delay of 0 leaves 65535.
-/

namespace Hcan.Hauselektrik

open Hcan.Canix Hcan.Eds Hcan.Controller Hcan.Library Hcan.Library.Nested

variable {mcu : Mcu}

/-- The record of the power port and the pins of its board. -/
structure Port where
  p : DeviceDataPowerport
  out : Outputs

/-- The value that `powerport_setup_timer` loads. -/
def EdsPowerportBlock.delay (config : EdsPowerportBlock) : UInt16 :=
  if config.gruppe[3] &&& 0x80 ≠ 0 then (config.gruppe[3] &&& 0x7f).toUInt16
  else UInt16.ofNat (config.gruppe[3].toNat * 60)

/-- `config.feature &= ~(1 << bit)` on a byte. -/
def clearFeature (feature bit : UInt8) : UInt8 := feature &&& ~~~(1 <<< bit)

/-- A call of the frame callback or of the timer handler. -/
inductive DeviceCall where
  | frame (frame : CanixFrame)
  | tick
  deriving DecidableEq

/-- A call from outside, with the calls that are handled below it while a bistable relay
switches. -/
structure PortEvent where
  call : DeviceCall
  during : List DeviceCall
  deriving DecidableEq

namespace Port

/-- The output is switched on. -/
def isOn (port : Port) : Bool := port.out.isOn port.p.config.port

def setupTimer (port : Port) : Port := { port with p := powerportSetupTimer port.p }

def setTimer (port : Port) (value : UInt16) : Port :=
  { port with p := { port.p with countDownTimer := value } }

def setFeatures (port : Port) (feature : UInt8) : Port :=
  { port with p := { port.p with config := { port.p.config with feature := feature } } }

section Handlers

-- what is handled while a bistable relay switches
variable (during : Port → Port)

/-- `relais_on`. -/
def relaisOn (port : Port) : Port :=
  if port.p.hasFeature powerportFeatureBistableRelais then
    let slept := during
      { port with out := darlingtonoutputSetpin port.out port.p.config.port true }
    { p := { slept.p with bistableRelaisState := slept.p.bistableRelaisState ^^^ 1 }
      out := darlingtonoutputSetpin slept.out port.p.config.port false }
  else { port with out := darlingtonoutputSetpin port.out port.p.config.port true }

/-- `relais_off`. -/
def relaisOff (port : Port) : Port :=
  { port with out := darlingtonoutputSetpin port.out port.p.config.port false }

/-- `set_powerport_or_timer`. -/
def setOrTimer (port : Port) : Flanke → Port
  | .steigende =>
      if port.p.hasFeature powerportFeatureAutoAus then (port.relaisOn during).setupTimer
      else if port.p.hasFeature powerportFeatureVerzoegertEin then port.setupTimer
      else (port.relaisOn during).setTimer 0
  | .fallende =>
      if port.p.hasFeature powerportFeatureNachlauf then port.setupTimer
      else port.relaisOff.setTimer 0

/-- `powerport_toggle`. -/
def toggle (port : Port) : Port :=
  if port.isOn = true then port.setOrTimer during .fallende else port.setOrTimer during .steigende

/-- `powerport_can_callback`; the answers change nothing. -/
def canCallback (port : Port) (frame : CanixFrame) : Port :=
  if powerportIsInGroup port.p frame.data[2] then
    if frame.data[1] = hcanHesTasterDown then port.toggle during
    else if frame.data[1] = hcanHesPowerGroupOn then port.setOrTimer during .steigende
    else if frame.data[1] = hcanHesPowerGroupOff then port.setOrTimer during .fallende
    else if frame.data[1] = hcanHesPowerGroupStateQuery then port
    else if frame.data[1] = hcanHesWeckerSet then
      if port.p.config.gruppe[0] = frame.data[2] then
        let waking := (port.setFeatures (setFeature port.p.config.feature frame.data[3])).setTimer
          (frameWord frame.data[4] frame.data[5])
        if waking.p.hasFeature powerportFeatureWeckAutoAus then waking.relaisOn during else waking
      else port
    else port
  else port

/-- The end of the timer in `powerport_timer_handler`. -/
def runOut (port : Port) : Port :=
  if port.p.hasFeature powerportFeatureWeckVerzoegertEin then
    let on := port.relaisOn during
    (on.setFeatures (clearFeature on.p.config.feature 4)).setupTimer
  else if port.p.hasFeature powerportFeatureWeckAutoAus then
    port.relaisOff.setFeatures (clearFeature port.p.config.feature 5)
  else if port.p.hasFeature powerportFeatureVerzoegertEin then port.relaisOn during
  else if port.p.hasFeature powerportFeatureAutoAus || port.p.hasFeature powerportFeatureNachlauf
  then port.relaisOff
  else port

/-- `powerport_timer_handler`. -/
def timerHandler (port : Port) : Port :=
  if port.p.countDownTimer > 0 then
    let counted := if port.p.countDownTimer = 1 then port.runOut during else port
    counted.setTimer (counted.p.countDownTimer - 1)
  else port

def handle (port : Port) : DeviceCall → Port
  | .frame frame => port.canCallback during frame
  | .tick => port.timerHandler during

end Handlers

/-- What is handled during a sleep; the calls below it do not sleep. -/
def sleep (during : List DeviceCall) (port : Port) : Port := runAll (handle id) port during

def step (port : Port) (event : PortEvent) : Port := port.handle (sleep event.during) event.call

end Port

/-! ## The port on its board -/

section OnBoard

/-- The board has the record at the index and the pins. -/
structure ShowsPort (i : Nat) (port : Port) (b : Board mcu) : Prop where
  slot : b.devices[i]? = some (.powerport port.p)
  out : b.out = port.out

/-- A program on the board does to the port what the function says. -/
def Simulated (i : Nat) (program : OnBoard mcu Unit) (change : Port → Port) : Prop :=
  ∀ port b next, ShowsPort i port b → program b = some ((), next) → ShowsPort i (change port) next

/-- The messages of a power port. -/
def portMessages : List UInt8 :=
  [hcanHesPowerGroupStateReplay, hcanHesPowerGroupStateInfo, hcanHesWeckerDetails]

theorem portMessages_unknown : ∀ sent ∈ portMessages, ∀ other ∈ knownCommands, sent ≠ other := by
  have apart : (portMessages.all fun mine => !knownCommands.contains mine) = true := by decide
  exact fun sent mine other known => ne_of_apart apart mine known

/-- Messages that change neither the records nor the pins of the board. -/
def Inert (messages : List UInt8) (send : CanixFrame → OnBoard mcu Unit) : Prop :=
  ∀ (message : CanixFrame) (b next : Board mcu), message.proto = hcanProtoSfp →
    message.data[0] = hcanSrvHes → message.data[1] ∈ messages →
    send message b = some ((), next) → next.devices = b.devices ∧ next.out = b.out

/-- Messages that no callback knows are inert. -/
theorem inert_canixFrameSend (env : Environment mcu) (depth : Nat) {messages : List UInt8}
    (unknown : ∀ sent ∈ messages, ∀ other ∈ knownCommands, sent ≠ other) :
    Inert messages (canixFrameSend (deliver env (depth + 1))) := by
  intro message b next proto srv command ran
  rw [canixFrameSend, bind_apply] at ran
  change deliver env (depth + 1) message _ = _ at ran
  rw [deliver_unknown depth _ proto srv (unknown _ command)] at ran
  cases ran
  exact ⟨rfl, rfl⟩

variable {self : UInt16} {send : CanixFrame → OnBoard mcu Unit} {sleep : OnBoard mcu Unit}
  {during : Port → Port} {i : Nat} {port : Port} {b next : Board mcu}

theorem ran_bind {α β : Type} {x : OnBoard mcu α} {f : α → OnBoard mcu β} {result : β}
    (ran : (x >>= f) b = some (result, next)) :
    ∃ a middle, x b = some (a, middle) ∧ f a middle = some (result, next) := by
  rw [bind_apply] at ran
  obtain ⟨⟨a, middle⟩, first, rest⟩ := Option.bind_eq_some_iff.mp ran
  exact ⟨a, middle, first, rest⟩

theorem slot_set {device : Device} (slot : b.devices[i]? = some device) (other : Device) :
    ({ b with devices := b.devices.set i other } : Board mcu).devices[i]? = some other :=
  List.getElem?_set_self (List.getElem?_eq_some_iff.mp slot).1

theorem deref_slot {ρ : Type} [DeviceRecord ρ] {device : Device} {q : ρ}
    (slot : b.devices[i]? = some device) (found : DeviceRecord.select device = some q) (p : ρ) :
    (deref i p : OnBoard mcu ρ) b = some (q, b) := by
  change some (((b.devices[i]?.bind DeviceRecord.select).getD p), b) = _
  rw [slot, Option.bind_some, found]
  rfl

theorem ShowsPort.poke (shows_ : ShowsPort i port b)
    {change : DeviceDataPowerport → DeviceDataPowerport}
    (ran : (poke i change : OnBoard mcu Unit) b = some ((), next)) :
    ShowsPort i { port with p := change port.p } next := by
  rw [poke_apply shows_.slot rfl] at ran
  cases ran
  exact ⟨slot_set shows_.slot _, shows_.out⟩

theorem ShowsPort.setpin (shows_ : ShowsPort i port b) {pin : UInt8} {state : Bool}
    (ran : (setpin pin state : OnBoard mcu Unit) b = some ((), next)) :
    ShowsPort i { port with out := darlingtonoutputSetpin port.out pin state } next := by
  cases ran
  exact ⟨shows_.slot, by rw [← shows_.out]⟩

theorem ShowsPort.deref (shows_ : ShowsPort i port b) (p : DeviceDataPowerport) :
    (deref i p : OnBoard mcu DeviceDataPowerport) b = some (port.p, b) :=
  deref_slot shows_.slot rfl p

theorem ShowsPort.sent (inert : Inert portMessages send) (shows_ : ShowsPort i port b)
    {message : CanixFrame} (proto : message.proto = hcanProtoSfp)
    (srv : message.data[0] = hcanSrvHes) (known : message.data[1] ∈ portMessages)
    (ran : send message b = some ((), next)) : ShowsPort i port next := by
  obtain ⟨devices, out⟩ := inert message b next proto srv known ran
  exact ⟨by rw [devices]; exact shows_.slot, out.trans shows_.out⟩

theorem ShowsPort.sendStateInfo (inert : Inert portMessages send) (shows_ : ShowsPort i port b)
    {p : DeviceDataPowerport}
    (ran : powerportSendStateInfo self send i p b = some ((), next)) : ShowsPort i port next := by
  obtain ⟨q, first, read, rest⟩ := ran_bind ran
  rw [shows_.deref p] at read
  cases read
  obtain ⟨out, second, pins, sent⟩ := ran_bind rest
  cases pins
  exact shows_.sent inert rfl rfl (List.mem_cons_of_mem _ List.mem_cons_self) sent

theorem ShowsPort.relaisOn (inert : Inert portMessages send) (sleeps : Simulated i sleep during)
    (shows_ : ShowsPort i port b) {p : DeviceDataPowerport}
    (ran : Hauselektrik.relaisOn self send sleep i p b = some ((), next)) :
    ShowsPort i (port.relaisOn during) next := by
  obtain ⟨q, first, read, rest⟩ := ran_bind ran
  rw [shows_.deref p] at read
  cases read
  obtain ⟨_, second, switched, sent⟩ := ran_bind rest
  refine ShowsPort.sendStateInfo inert ?_ sent
  unfold relaisEinschalten at switched
  unfold Port.relaisOn
  by_cases bistable : port.p.hasFeature powerportFeatureBistableRelais = true
  · rw [if_pos bistable] at switched ⊢
    obtain ⟨_, third, on, pulse⟩ := ran_bind switched
    obtain ⟨_, fourth, slept, behind⟩ := ran_bind pulse
    obtain ⟨_, fifth, off, toggled⟩ := ran_bind behind
    exact ((sleeps _ _ _ (shows_.setpin on) slept).setpin off).poke toggled
  · rw [if_neg bistable] at switched ⊢
    exact shows_.setpin switched

theorem ShowsPort.relaisOff (inert : Inert portMessages send) (shows_ : ShowsPort i port b)
    (ran : Hauselektrik.relaisOff self send i port.p b = some ((), next)) :
    ShowsPort i port.relaisOff next := by
  obtain ⟨_, first, off, sent⟩ := ran_bind ran
  exact (shows_.setpin off).sendStateInfo inert sent

theorem ShowsPort.setOrTimer (inert : Inert portMessages send) (sleeps : Simulated i sleep during)
    (shows_ : ShowsPort i port b) {flanke : Flanke}
    (ran : setPowerportOrTimer self send sleep i port.p flanke b = some ((), next)) :
    ShowsPort i (port.setOrTimer during flanke) next := by
  cases flanke with
  | steigende =>
      unfold setPowerportOrTimer at ran
      unfold Port.setOrTimer
      dsimp only at ran ⊢
      split_ifs at ran ⊢
      · obtain ⟨_, first, on, loaded⟩ := ran_bind ran
        exact (shows_.relaisOn inert sleeps on).poke loaded
      · exact shows_.poke ran
      · obtain ⟨_, first, on, stopped⟩ := ran_bind ran
        exact (shows_.relaisOn inert sleeps on).poke stopped
  | fallende =>
      unfold setPowerportOrTimer at ran
      unfold Port.setOrTimer
      dsimp only at ran ⊢
      split_ifs at ran ⊢
      · exact shows_.poke ran
      · obtain ⟨_, first, off, stopped⟩ := ran_bind ran
        exact (shows_.relaisOff inert off).poke stopped

theorem ShowsPort.toggle (inert : Inert portMessages send) (sleeps : Simulated i sleep during)
    (shows_ : ShowsPort i port b)
    (ran : powerportToggle self send sleep i port.p b = some ((), next)) :
    ShowsPort i (port.toggle during) next := by
  obtain ⟨out, first, pins, toggled⟩ := ran_bind ran
  cases pins
  have same : b.out.isOn port.p.config.port = port.isOn := by rw [shows_.out]; rfl
  unfold Port.toggle
  by_cases on : port.isOn = true
  · rw [if_pos (same.trans on)] at toggled
    rw [if_pos on]
    exact shows_.setOrTimer inert sleeps toggled
  · rw [if_neg (fun isOn => on (same.symm.trans isOn))] at toggled
    rw [if_neg on]
    exact shows_.setOrTimer inert sleeps toggled

/-- A call that sets the feature WECK_AUTO_AUS switches on at once. -/
theorem ShowsPort.wake (inert : Inert portMessages send) (sleeps : Simulated i sleep during)
    (shows_ : ShowsPort i port b) {p : DeviceDataPowerport}
    (ran : (do
      let q ← Hauselektrik.deref i p
      if q.hasFeature powerportFeatureWeckAutoAus then Hauselektrik.relaisOn self send sleep i p
      else pure () : OnBoard mcu Unit) b = some ((), next)) :
    ShowsPort i
      (if port.p.hasFeature powerportFeatureWeckAutoAus then port.relaisOn during else port)
      next := by
  obtain ⟨q, first, read, woken⟩ := ran_bind ran
  rw [shows_.deref p] at read
  cases read
  by_cases autoAus : port.p.hasFeature powerportFeatureWeckAutoAus = true
  · rw [if_pos autoAus] at woken ⊢
    exact shows_.relaisOn inert sleeps woken
  · rw [if_neg autoAus] at woken ⊢
    cases woken
    exact shows_

/-- The answer about the waking call. -/
theorem ShowsPort.details (inert : Inert portMessages send) (shows_ : ShowsPort i port b)
    {frame : CanixFrame} {answer : CanixFrame} (proto : answer.proto = hcanProtoSfp)
    (srv : answer.data[0] = hcanSrvHes) (known : answer.data[1] = hcanHesWeckerDetails)
    (ran : (if frame.data[1] = hcanHesWeckerDetailsRequest then
        if port.p.config.gruppe[0] = frame.data[2] then send answer else pure ()
      else pure () : OnBoard mcu Unit) b = some ((), next)) : ShowsPort i port next := by
  by_cases request : frame.data[1] = hcanHesWeckerDetailsRequest
  · rw [if_pos request] at ran
    by_cases own : port.p.config.gruppe[0] = frame.data[2]
    · rw [if_pos own] at ran
      exact shows_.sent inert proto srv (by rw [known]; decide) ran
    · rw [if_neg own] at ran
      cases ran
      exact shows_
  · rw [if_neg request] at ran
    cases ran
    exact shows_

/-- The callback on a board does to the port what the callback of the port says. -/
theorem powerportCanCallback_simulated (inert : Inert portMessages send)
    (sleeps : Simulated i sleep during) (shows_ : ShowsPort i port b) (frame : CanixFrame)
    (ran : powerportCanCallback self send sleep i port.p frame b = some ((), next)) :
    ShowsPort i (port.canCallback during frame) next := by
  unfold powerportCanCallback at ran
  unfold Port.canCallback
  by_cases inGroup : powerportIsInGroup port.p frame.data[2] = true
  · rw [if_pos inGroup] at ran ⊢
    by_cases down : frame.data[1] = hcanHesTasterDown
    · rw [if_pos down] at ran ⊢
      exact shows_.toggle inert sleeps ran
    rw [if_neg down] at ran ⊢
    by_cases on : frame.data[1] = hcanHesPowerGroupOn
    · rw [if_pos on] at ran ⊢
      exact shows_.setOrTimer inert sleeps ran
    rw [if_neg on] at ran ⊢
    by_cases off : frame.data[1] = hcanHesPowerGroupOff
    · rw [if_pos off] at ran ⊢
      exact shows_.setOrTimer inert sleeps ran
    rw [if_neg off] at ran ⊢
    by_cases query : frame.data[1] = hcanHesPowerGroupStateQuery
    · rw [if_pos query] at ran ⊢
      obtain ⟨out, first, pins, answered⟩ := ran_bind ran
      cases pins
      exact shows_.sent inert rfl rfl List.mem_cons_self answered
    rw [if_neg query] at ran ⊢
    by_cases set : frame.data[1] = hcanHesWeckerSet
    · rw [if_pos set] at ran ⊢
      by_cases wakes : port.p.config.gruppe[0] = frame.data[2]
      · rw [if_pos wakes] at ran ⊢
        obtain ⟨_, first, stored, woken⟩ := ran_bind ran
        have waking : ShowsPort i ((port.setFeatures
            (setFeature port.p.config.feature frame.data[3])).setTimer
              (frameWord frame.data[4] frame.data[5])) first := shows_.poke stored
        exact waking.wake inert sleeps woken
      · rw [if_neg wakes] at ran ⊢
        cases ran
        exact shows_
    rw [if_neg set] at ran ⊢
    exact shows_.details inert rfl rfl rfl ran
  · rw [if_neg inGroup] at ran ⊢
    cases ran
    exact shows_

/-- The messages of the port reach no callback that knows them. -/
theorem powerportCanCallback_step (env : Environment mcu) (depth : Nat)
    (sleeps : Simulated i sleep during) (shows_ : ShowsPort i port b) (frame : CanixFrame)
    (ran : powerportCanCallback self (canixFrameSend (deliver env (depth + 1))) sleep i port.p frame
      b = some ((), next)) :
    ShowsPort i (port.canCallback during frame) next :=
  powerportCanCallback_simulated (inert_canixFrameSend env depth portMessages_unknown) sleeps shows_
    frame ran

end OnBoard

namespace Port

section Kept

variable {during : Port → Port} {port : Port}

/-- A change that keeps the pin and the groups of a port. -/
def KeepsConfig (change : Port → Port) : Prop :=
  ∀ port, (change port).p.config.port = port.p.config.port ∧
    (change port).p.config.gruppe = port.p.config.gruppe

theorem keepsConfig_relaisOn (slept : KeepsConfig during) : KeepsConfig (relaisOn during) := by
  intro port
  unfold relaisOn
  split
  next => exact slept _
  next => exact ⟨rfl, rfl⟩

theorem keepsConfig_setOrTimer (slept : KeepsConfig during) (flanke : Flanke) :
    KeepsConfig fun port => port.setOrTimer during flanke := by
  intro port
  cases flanke with
  | steigende =>
      unfold setOrTimer
      dsimp only
      split_ifs
      · exact keepsConfig_relaisOn slept port
      · exact ⟨rfl, rfl⟩
      · exact keepsConfig_relaisOn slept port
  | fallende =>
      unfold setOrTimer
      dsimp only
      split_ifs
      · exact ⟨rfl, rfl⟩
      · exact ⟨rfl, rfl⟩

theorem keepsConfig_runOut (slept : KeepsConfig during) : KeepsConfig (runOut during) := by
  intro port
  unfold runOut
  split_ifs
  · exact keepsConfig_relaisOn slept port
  · exact ⟨rfl, rfl⟩
  · exact keepsConfig_relaisOn slept port
  · exact ⟨rfl, rfl⟩
  · exact ⟨rfl, rfl⟩

theorem keepsConfig_handle (slept : KeepsConfig during) (call : DeviceCall) :
    KeepsConfig fun port => port.handle during call := by
  intro port
  cases call with
  | frame frame =>
      change (port.canCallback during frame).p.config.port = _ ∧
        (port.canCallback during frame).p.config.gruppe = _
      unfold canCallback toggle
      dsimp only
      split_ifs
      · exact keepsConfig_setOrTimer slept .fallende port
      · exact keepsConfig_setOrTimer slept .steigende port
      · exact keepsConfig_setOrTimer slept .steigende port
      · exact keepsConfig_setOrTimer slept .fallende port
      · exact ⟨rfl, rfl⟩
      · exact keepsConfig_relaisOn slept _
      · exact ⟨rfl, rfl⟩
      · exact ⟨rfl, rfl⟩
      · exact ⟨rfl, rfl⟩
      · exact ⟨rfl, rfl⟩
  | tick =>
      change (port.timerHandler during).p.config.port = _ ∧
        (port.timerHandler during).p.config.gruppe = _
      unfold timerHandler
      split_ifs
      · exact keepsConfig_runOut slept port
      · exact ⟨rfl, rfl⟩
      · exact ⟨rfl, rfl⟩

theorem keepsConfig_sleep (calls : List DeviceCall) : KeepsConfig (sleep calls) := by
  intro port
  refine runAll_invariant (fun now : Port =>
    now.p.config.port = port.p.config.port ∧ now.p.config.gruppe = port.p.config.gruppe)
    ⟨rfl, rfl⟩ ?_
  rintro now call ⟨pin, gruppe⟩
  obtain ⟨samePin, sameGruppe⟩ := keepsConfig_handle (fun _ => ⟨rfl, rfl⟩) call now
  exact ⟨samePin.trans pin, sameGruppe.trans gruppe⟩

end Kept

end Port

/-! ## The bound of the timer -/

/-- A tick leaves the timer at the value before less one, or at the delay, at most. -/
def TickBounded (port : Port) (event : PortEvent) : Prop :=
  event.call = .tick →
    (port.step event).p.countDownTimer.toNat ≤
      max (port.p.countDownTimer.toNat - 1) port.p.config.delay.toNat

/-- The timer that runs out is not loaded with 0, and the calls handled while a bistable relay
switches on leave it between 1 and the delay plus 1. -/
structure TickFits (port : Port) (event : PortEvent) : Prop where
  loaded : event.call = .tick → port.p.countDownTimer = 1 →
    port.p.hasFeature powerportFeatureWeckVerzoegertEin = true → port.p.config.delay ≠ 0
  slept : event.call = .tick → port.p.countDownTimer = 1 →
    port.p.hasFeature powerportFeatureWeckVerzoegertEin = false →
    port.p.hasFeature powerportFeatureWeckAutoAus = false →
    port.p.hasFeature powerportFeatureVerzoegertEin = true →
    port.p.hasFeature powerportFeatureBistableRelais = true →
    ∃ left, (Port.sleep event.during
        { port with out := darlingtonoutputSetpin port.out port.p.config.port true }
      ).p.countDownTimer.toNat = left + 1 ∧ left ≤ port.p.config.delay.toNat

section Bound

variable {port : Port}

theorem pred_toNat_le_iff (timer : UInt16) {bound : Nat} (small : bound < 65535) :
    (timer - 1).toNat ≤ bound ↔ ∃ left, timer.toNat = left + 1 ∧ left ≤ bound := by
  have size := UInt16.toNat_lt timer
  have one : (1 : UInt16).toNat = 1 := rfl
  rw [UInt16.toNat_sub, one]
  constructor
  · intro below
    exact ⟨timer.toNat - 1, by omega, by omega⟩
  · rintro ⟨left, loaded, below⟩
    omega

theorem delay_lt (config : EdsPowerportBlock) : config.delay.toNat < 65535 := by
  have byte := UInt8.toNat_lt config.gruppe[3]
  unfold EdsPowerportBlock.delay
  split
  next =>
    have seconds := UInt8.toNat_lt (config.gruppe[3] &&& 0x7f)
    rw [UInt8.toNat_toUInt16]
    omega
  next =>
    rw [UInt16.toNat_ofNat']
    omega

theorem timer_of_ne_one (during : Port → Port) (counting : port.p.countDownTimer ≠ 1) :
    (port.timerHandler during).p.countDownTimer.toNat = port.p.countDownTimer.toNat - 1 := by
  have one : (1 : UInt16).toNat = 1 := rfl
  unfold Port.timerHandler
  by_cases running : port.p.countDownTimer > 0
  · rw [if_pos running]
    dsimp only
    rw [if_neg counting]
    change (port.p.countDownTimer - 1).toNat = _
    have loaded : 0 < port.p.countDownTimer.toNat := UInt16.lt_iff_toNat_lt.mp running
    have size := UInt16.toNat_lt port.p.countDownTimer
    rw [UInt16.toNat_sub, one]
    omega
  · rw [if_neg running]
    have stopped : ¬ 0 < port.p.countDownTimer.toNat :=
      fun loaded => running (UInt16.lt_iff_toNat_lt.mpr loaded)
    omega

theorem timerHandler_of_one (during : Port → Port) (last : port.p.countDownTimer = 1) :
    port.timerHandler during =
      (port.runOut during).setTimer ((port.runOut during).p.countDownTimer - 1) := by
  unfold Port.timerHandler
  rw [if_pos (by rw [last]; decide)]
  dsimp only
  rw [if_pos last]

/-- The delay that a wake-up loads at the end of its timer. -/
theorem runOut_woken {during : Port → Port} (slept : Port.KeepsConfig during)
    (woken : port.p.hasFeature powerportFeatureWeckVerzoegertEin = true) :
    (port.runOut during).p.countDownTimer = port.p.config.delay := by
  have groups := (Port.keepsConfig_relaisOn slept port).2
  unfold Port.runOut
  rw [if_pos woken]
  change EdsPowerportBlock.delay { (port.relaisOn during).p.config with
    feature := clearFeature (port.relaisOn during).p.config.feature 4 } = _
  unfold EdsPowerportBlock.delay
  dsimp only
  rw [groups]

/-- The timer that runs out without a wake-up keeps its value, but for the calls handled while a
bistable relay switches on. -/
theorem runOut_timer (during : Port → Port)
    (asleep : port.p.hasFeature powerportFeatureWeckVerzoegertEin = false) :
    (port.runOut during).p.countDownTimer =
      if port.p.hasFeature powerportFeatureWeckAutoAus = false ∧
        port.p.hasFeature powerportFeatureVerzoegertEin = true ∧
        port.p.hasFeature powerportFeatureBistableRelais = true then
        (during { port with out := darlingtonoutputSetpin port.out port.p.config.port true }
          ).p.countDownTimer
      else port.p.countDownTimer := by
  unfold Port.runOut Port.relaisOn
  rw [if_neg (by rw [asleep]; decide)]
  by_cases off : port.p.hasFeature powerportFeatureWeckAutoAus = true
  · rw [if_pos off, if_neg (by rw [off]; exact fun both => Bool.noConfusion both.1)]
    rfl
  · rw [if_neg off]
    by_cases on : port.p.hasFeature powerportFeatureVerzoegertEin = true
    · rw [if_pos on]
      by_cases bistable : port.p.hasFeature powerportFeatureBistableRelais = true
      · rw [if_pos bistable, if_pos ⟨Bool.eq_false_iff.mpr off, on, bistable⟩]
      · rw [if_neg bistable, if_neg fun all => bistable all.2.2]
    · have awake : ¬ (port.p.hasFeature powerportFeatureWeckAutoAus = false ∧
          port.p.hasFeature powerportFeatureVerzoegertEin = true ∧
          port.p.hasFeature powerportFeatureBistableRelais = true) := fun all => on all.2.1
      rw [if_neg on, if_neg awake]
      split
      next => rfl
      next => rfl

theorem tickBounded_iff (event : PortEvent) : TickBounded port event ↔ TickFits port event := by
  by_cases tick : event.call = .tick
  · have handled : port.step event = port.timerHandler (Port.sleep event.during) := by
      rw [Port.step, tick]
      rfl
    have small := delay_lt port.p.config
    unfold TickBounded
    rw [handled, imp_iff_right tick]
    by_cases last : port.p.countDownTimer = 1
    · have bound : max (port.p.countDownTimer.toNat - 1) port.p.config.delay.toNat =
          port.p.config.delay.toNat := by
        rw [last]
        exact Nat.zero_max _
      rw [timerHandler_of_one _ last, bound]
      change ((port.runOut _).p.countDownTimer - 1).toNat ≤ _ ↔ _
      rw [pred_toNat_le_iff _ small]
      by_cases woken : port.p.hasFeature powerportFeatureWeckVerzoegertEin = true
      · rw [runOut_woken (Port.keepsConfig_sleep _) woken]
        constructor
        · rintro ⟨left, loaded, -⟩
          refine ⟨fun _ _ _ zero => ?_, fun _ _ asleep => ?_⟩
          · rw [zero] at loaded
            exact Nat.succ_ne_zero left loaded.symm
          · rw [woken] at asleep
            exact Bool.noConfusion asleep
        · intro fits
          have loaded : port.p.config.delay.toNat ≠ 0 :=
            fun zero => fits.loaded tick last woken (UInt16.toNat_inj.mp zero)
          exact ⟨port.p.config.delay.toNat - 1, by omega, by omega⟩
      · have asleep := Bool.eq_false_iff.mpr woken
        rw [runOut_timer _ asleep]
        split
        next slept =>
          exact ⟨fun bounded => ⟨fun _ _ now => absurd now woken, fun _ _ _ _ _ _ => bounded⟩,
            fun fits => fits.slept tick last asleep slept.1 slept.2.1 slept.2.2⟩
        next awake =>
          refine ⟨fun _ => ⟨fun _ _ now => absurd now woken, fun _ _ _ off on bistable =>
            absurd ⟨off, on, bistable⟩ awake⟩, fun _ => ⟨0, ?_, Nat.zero_le _⟩⟩
          rw [last]
          rfl
    · rw [timer_of_ne_one _ last]
      exact ⟨fun _ => ⟨fun _ now => absurd now last, fun _ now => absurd now last⟩,
        fun _ => Nat.le_max_left _ _⟩
  · exact ⟨fun _ => ⟨fun now => absurd now tick, fun now => absurd now tick⟩,
      fun _ now => absurd now tick⟩

end Bound

/-- In a run every tick respects the bound exactly when every tick fits. -/
theorem timer_bounded_iff (start : Port) (events : List PortEvent) :
    AlwaysFits Port.step TickBounded start events ↔ AlwaysFits Port.step TickFits start events :=
  alwaysFits_congr fun _ event => tickBounded_iff event

/-- A port without features in the group 1, after power-on. -/
def plainPort : Port where
  p := ⟨⟨1, 0, ⟨#[1, 255, 255, 0], rfl⟩⟩, 0, 0⟩
  out := darlingtonoutputInit (.reset 0 0 0 0)

/-- The alarm of one second. -/
def weckerSet : PortEvent :=
  ⟨.frame (Hauselektrik.hesFrame 5 hcanMulticastControl 6 hcanHesWeckerSet 1 4 0 1 0 0), []⟩

/-- The alarm of a port with the delay 0 leaves 65535 seconds. -/
theorem zeroDelay_underflow :
    (runAll Port.step plainPort [weckerSet, ⟨.tick, []⟩]).p.countDownTimer = 65535 ∧
      ¬ AlwaysFits Port.step TickBounded plainPort [weckerSet, ⟨.tick, []⟩] := by
  refine ⟨by decide +kernel, fun bounded => ?_⟩
  have tick := bounded [weckerSet] ⟨.tick, []⟩ List.prefix_rfl rfl
  revert tick
  decide +kernel

end Hcan.Hauselektrik
