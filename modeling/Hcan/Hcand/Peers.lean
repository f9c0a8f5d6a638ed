import Hcan.Transport.Hid

/-!
# The daemon `hcand`

The table of peers, the alarm that frees silent ones and one turn of the main loop.  A
freed slot keeps its port; only its address is zero.
-/

namespace Hcan.Hcand

open Hcan.Transport

def maxPeers : Nat := 1024

/-- `TIMEOUT`, in alarms. -/
def timeout : Nat := 60

structure SockaddrIn where
  family : UInt16
  port : UInt16
  addr : UInt32
  zero : Vector UInt8 8
  deriving DecidableEq, Repr

/-- The address that `recvfrom` stores for a sender. -/
def sockaddr (addr : UInt32) (port : UInt16) : SockaddrIn := ⟨2, port, addr, .replicate 8 0⟩

/-- An entry of `peer_addr` and of `peer_timeout`. -/
structure Peer where
  addr : SockaddrIn
  timeout : Nat
  deriving DecidableEq, Repr

/-- The tables as `main` initialises them. -/
def noPeers : List Peer :=
  .replicate maxPeers ⟨⟨0, 0, 0, .replicate 8 0⟩, timeout⟩

/-- `addr_cmp` compares all bytes. -/
def addrCmp (a b : SockaddrIn) : Bool := a == b

def doesPeerExist (peers : List Peer) (peer : SockaddrIn) : Option Nat :=
  peers.findIdx? fun p => addrCmp peer p.addr

def addPeer (peers : List Peer) (peer : SockaddrIn) : Option Nat × List Peer :=
  match peers.findIdx? fun p => p.addr.addr == 0 with
  | some i => (some i, peers.modify i fun p => { p with addr := peer })
  | none => (none, peers)

/-- What the alarm does to one slot. -/
def alarmPeer (p : Peer) : Peer :=
  if p.addr.addr ≠ 0 then
    if p.timeout + 1 > timeout then ⟨{ p.addr with addr := 0 }, 0⟩
    else { p with timeout := p.timeout + 1 }
  else p

def sigAlarm (peers : List Peer) : List Peer := peers.map alarmPeer

/-- A datagram that `sendto` passes on. -/
structure Sent where
  peer : SockaddrIn
  frame : CANFrame
  deriving DecidableEq, Repr

/-- The loop over all peers. -/
def distribute (peers : List Peer) (peer : SockaddrIn) (f : CANFrame) : List Sent :=
  peers.filterMap fun p =>
    if p.addr.addr ≠ 0 ∧ addrCmp p.addr peer = false then some ⟨p.addr, f⟩ else none

/-- One turn of the main loop with a datagram of `peer`. -/
def receive (peers : List Peer) (peer : SockaddrIn) (f : CANFrame) : List Peer × List Sent :=
  let (slot, peers) := match doesPeerExist peers peer with
    | some i => (some i, peers)
    | none => addPeer peers peer
  match slot with
  | some i =>
      let peers := peers.modify i fun p => { p with timeout := 0 }
      if f.id = 0 then (peers, []) else (peers, distribute peers peer f)
  | none => (peers, [])

/-- A received datagram with the address and port of its sender, or the alarm. -/
inductive Event where
  | datagram (addr : UInt32) (port : UInt16) (f : CANFrame)
  | alarm
  deriving DecidableEq, Repr

def step (peers : List Peer) : Event → List Peer × List Sent
  | .datagram addr port f => receive peers (sockaddr addr port) f
  | .alarm => (sigAlarm peers, [])

/-- The peers after a sequence of events. -/
def run (events : List Event) : List Peer :=
  events.foldl (fun peers event => (step peers event).1) noPeers

end Hcan.Hcand
