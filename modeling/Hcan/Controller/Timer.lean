import Mathlib.Logic.Function.Basic

/-!
# Timer interrupt and idle handler

`timer_handler` is called 100 times a second by an interrupt, between any two steps of
`idle_handler`.  A round of handlers may call `canix_sleep_100th`, which runs the idle
handler again but is not reentrant itself; the callbacks of the main loop may call it
too.  So at most one idle handler runs below a sleep and one above it.
-/

namespace Hcan.Controller

/-- The clocks of 10 ms, 100 ms and 1 s. -/
inductive Takt where
  | hundredth
  | tenth
  | one
  deriving DecidableEq, Repr

/-- Where an idle handler stands: before the test of an event, before its reset, in the loop over
the devices, or behind the last loop. -/
inductive IdlePhase where
  | test (t : Takt)
  | reset (t : Takt)
  | round (t : Takt)
  | done
  deriving DecidableEq, Repr

def Takt.behind : Takt → IdlePhase
  | .hundredth => .test .tenth
  | .tenth => .test .one
  | .one => .done

structure TimerState where
  counter100th : UInt8
  counter10th : UInt8
  counter1 : UInt8
  event : Takt → Bool
  /-- The idle handler that the main loop has called. -/
  outer : Option IdlePhase
  /-- `running` in `canix_sleep_100th`. -/
  sleeping : Bool
  /-- The idle handler that the sleep has called. -/
  inner : Option IdlePhase
  /-- The calls of `timer_handler` and the rounds of handlers so far. -/
  calls : Nat
  rounds : Takt → Nat

namespace TimerState

def start : TimerState where
  counter100th := 0
  counter10th := 0
  counter1 := 0
  event _ := false
  outer := none
  sleeping := false
  inner := none
  calls := 0
  rounds _ := 0

def timerHandler (s : TimerState) : TimerState :=
  let s := { s with
    counter100th := s.counter100th + 1
    event := Function.update s.event .hundredth true
    calls := s.calls + 1 }
  let s := if s.counter100th = 10 then
    { s with
      counter10th := s.counter10th + 1
      counter100th := 0
      event := Function.update s.event .tenth true }
    else s
  if s.counter10th = 10 then
    { s with
      counter1 := s.counter1 + 1
      counter10th := 0
      event := Function.update s.event .one true }
  else s

/-- One step of an idle handler; `none` when it returns. -/
def proceed (s : TimerState) : IdlePhase → TimerState × Option IdlePhase
  | .test t => (s, some (if s.event t then .reset t else t.behind))
  | .reset t =>
      ({ s with
        event := Function.update s.event t false
        rounds := Function.update s.rounds t (s.rounds t + 1) }, some (.round t))
  | .round t => (s, some t.behind)
  | .done => (s, none)

/-- The idle handler that is running. -/
def top (s : TimerState) : Option IdlePhase :=
  match s.inner with
  | some phase => some phase
  | none => if s.sleeping then none else s.outer

/-- A callback of the main loop, or a handler in a round, may sleep. -/
def maySleep : Option IdlePhase → Bool
  | none | some (.round _) => true
  | _ => false

end TimerState

inductive TimerEvent where
  | timer
  /-- The main loop or the sleep calls the idle handler. -/
  | idle
  | advance
  | sleep
  | wake
  deriving DecidableEq, Repr

namespace TimerState

/-- What is not possible in a state leaves it as it is. -/
def step (s : TimerState) : TimerEvent → TimerState
  | .timer => s.timerHandler
  | .idle =>
      if s.sleeping then
        if s.inner = none then { s with inner := some (.test .hundredth) } else s
      else if s.outer = none then { s with outer := some (.test .hundredth) } else s
  | .advance =>
      match s.inner with
      | some phase => { (s.proceed phase).1 with inner := (s.proceed phase).2 }
      | none =>
          if s.sleeping then s
          else
            match s.outer with
            | some phase => { (s.proceed phase).1 with outer := (s.proceed phase).2 }
            | none => s
  | .sleep => if !s.sleeping && maySleep s.outer then { s with sleeping := true } else s
  | .wake => if s.sleeping && s.inner.isNone then { s with sleeping := false } else s

def run (events : List TimerEvent) : TimerState := events.foldl step start

end TimerState

end Hcan.Controller
