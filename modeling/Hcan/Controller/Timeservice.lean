import Hcan.Canix.Frame
import Hcan.Library.Run
import Mathlib.Data.Fintype.Basic
import Mathlib.Logic.Function.Basic

/-!
# The time service

The one-second handler and the frame callback of a timeservice instance, and a bus of
boards with one instance each.  Every board ticks once in each second, in any order; no
board ticks while a time frame is on its way.
-/

namespace Hcan.Controller

open Hcan.Canix Hcan.Library

def hcanSrvRts : UInt8 := 6
def hcanRtsTimeInfo : UInt8 := 1
def hcanRtsDateInfo : UInt8 := 2

structure EdsTimeserviceBlock where
  level : UInt8
  takeoverTime : UInt8
  interval : UInt8
  deriving DecidableEq, Repr

structure DeviceDataTimeservice where
  config : EdsTimeserviceBlock
  lastTimeFrameReceived : UInt8
  lastTimeFrameSent : UInt8
  deriving DecidableEq, Repr

/-- `canix_rtc_clock`. -/
structure RtcClock where
  dayOfWeek : UInt8
  hour : UInt8
  minute : UInt8
  second : UInt8
  dayOfMonth : UInt8
  monthOfYear : UInt8
  year : UInt8
  deriving DecidableEq, Repr

/-- The two frames of a time master; the second one is built over the first. -/
def timeFrames (selfaddr : UInt16) (level : UInt8) (clock : RtcClock) : List CanixFrame :=
  [{ src := selfaddr
     dst := hcanMulticastInfo
     proto := hcanProtoSfp
     size := 7
     data := #v[hcanSrvRts, hcanRtsTimeInfo, level, clock.dayOfWeek, clock.hour, clock.minute,
       clock.second, 0] },
   { src := selfaddr
     dst := hcanMulticastInfo
     proto := hcanProtoSfp
     size := 6
     data := #v[hcanSrvRts, hcanRtsDateInfo, level, clock.dayOfMonth, clock.monthOfYear,
       clock.year, clock.second, 0] }]

/-- `timeservice_timer_handler`: the instance and the frames sent. -/
def timeserviceTimerHandler (selfaddr : UInt16) (clock : RtcClock) (p : DeviceDataTimeservice) :
    DeviceDataTimeservice × List CanixFrame :=
  let p := if p.lastTimeFrameReceived < 255 then
      { p with lastTimeFrameReceived := p.lastTimeFrameReceived + 1 }
    else p
  if p.lastTimeFrameReceived ≥ p.config.takeoverTime then
    if p.lastTimeFrameSent = p.config.interval then
      ({ p with lastTimeFrameSent := 0 }, timeFrames selfaddr p.config.level clock)
    else ({ p with lastTimeFrameSent := p.lastTimeFrameSent + 1 }, [])
  else (p, [])

/-- `timeservice_can_callback` for one instance. -/
def timeserviceCanCallback (frame : CanixFrame) (p : DeviceDataTimeservice) :
    DeviceDataTimeservice :=
  if frame.data[1] = hcanRtsTimeInfo then
    if frame.data[2] < p.config.level then { p with lastTimeFrameReceived := 0 } else p
  else p

/-- The callback is registered for the real-time service at the info address. -/
def deliverFrame (frame : CanixFrame) (p : DeviceDataTimeservice) : DeviceDataTimeservice :=
  if frame.dst = hcanMulticastInfo ∧ frame.proto = hcanProtoSfp ∧
      frame.data[0] = hcanSrvRts then
    timeserviceCanCallback frame p
  else p

/-- A tick of a board with the frames it puts on the bus; they are also delivered
locally. -/
def boardTick (selfaddr : UInt16) (clock : RtcClock) (p : DeviceDataTimeservice) :
    DeviceDataTimeservice × List CanixFrame :=
  let (p, frames) := timeserviceTimerHandler selfaddr clock p
  (frames.foldl (fun p frame => deliverFrame frame p) p, frames)

variable {n : Nat}

/-- The boards, the frames on their way to a board, and the ticks in this and all earlier
seconds. -/
structure Bus (n : Nat) where
  boards : Fin n → DeviceDataTimeservice
  inFlight : List (Fin n × CanixFrame)
  ticks : Fin n → Nat
  second : Nat

inductive BusEvent (n : Nat) where
  | tick (i : Fin n) (clock : RtcClock) (sent : Bool)
  | deliver (j : Fin n) (frame : CanixFrame)
  | nextSecond
  deriving DecidableEq

def isTimeInfo (frame : CanixFrame) : Bool :=
  frame.dst == hcanMulticastInfo && frame.proto == hcanProtoSfp && frame.data[0] == hcanSrvRts &&
    frame.data[1] == hcanRtsTimeInfo

/-- The other boards of the bus. -/
def others (i : Fin n) : List (Fin n) := (List.finRange n).filter (· ≠ i)

/-- One step of the bus.  A board ticks once in a second, and only when no time frame is
on its way; a frame on its way may be delivered at any time. -/
def busStep (selfaddr : Fin n → UInt16) (bus : Bus n) : BusEvent n → Option (Bus n)
  | .tick i clock sent =>
      let (p, frames) := boardTick (selfaddr i) clock (bus.boards i)
      if bus.ticks i = bus.second ∧ (∀ item ∈ bus.inFlight, isTimeInfo item.2 = false) ∧
          sent = !frames.isEmpty then
        some { bus with
          boards := Function.update bus.boards i p
          inFlight := bus.inFlight ++ (others i).flatMap fun j => frames.map fun frame => (j, frame)
          ticks := Function.update bus.ticks i (bus.ticks i + 1) }
      else none
  | .deliver j frame =>
      if (j, frame) ∈ bus.inFlight then
        some { bus with
          boards := Function.update bus.boards j (deliverFrame frame (bus.boards j))
          inFlight := bus.inFlight.erase (j, frame) }
      else none
  | .nextSecond =>
      if ∀ i, bus.ticks i = bus.second + 1 then some { bus with second := bus.second + 1 }
      else none

/-- The boards after they loaded their configurations. -/
def busStart (config : Fin n → EdsTimeserviceBlock) : Bus n where
  boards i := ⟨config i, 0, 0⟩
  inFlight := []
  ticks _ := 0
  second := 0

/-- A run of the bus. -/
def BusRun (selfaddr : Fin n → UInt16) (first : Bus n) (events : List (BusEvent n))
    (last : Bus n) : Prop :=
  Run (fun bus event next => busStep selfaddr bus event = some next) first events last

end Hcan.Controller
