import Mathlib.Algebra.Ring.Int.Defs
import Mathlib.Data.List.Basic
import Mathlib.Logic.Function.Basic

/-!
# The daemon `hcanaddressd`

Each connected client holds one of the dynamic addresses as long as its connection lasts.
The turns of the select loop are modelled together with what the kernel knows of the
connections: the bytes not read yet and how the connection ended.
-/

namespace Hcan.Hcanaddressd

def maxPeer : Nat := 32

/-- The server's end of a connection. -/
structure Conn where
  unread : Nat
  /-- `none` while the client keeps the connection; else the number of calls that report an
  error before the end of the stream is read. -/
  ending : Option Nat
  /-- The address that the client was sent. -/
  address : Option Nat
  deriving DecidableEq, Repr

def Conn.fresh : Conn := ⟨0, none, none⟩

/-- What `select` reports. -/
def Conn.readable (conn : Conn) : Bool := 0 < conn.unread || conn.ending.isSome

def Conn.read (conn : Conn) (size : Nat) : Int × Conn :=
  if 0 < conn.unread then (min size conn.unread, { conn with unread := conn.unread - size })
  else match conn.ending with
    -- the call would block, but `select` has not reported the socket
    | none => (-1, conn)
    | some 0 => (0, conn)
    | some (errors + 1) => (-1, { conn with ending := some errors })

/-- A pending error is reported by the first call, be it `write` or `read`. -/
def Conn.write (conn : Conn) (address : Nat) : Conn :=
  match conn.ending with
  | some (errors + 1) => { conn with ending := some errors }
  | _ => { conn with address := some address }

/-- An `ssize_t` as the `size_t` that it is stored in. -/
def sizeT (n : Int) : Nat := (n % 2 ^ 64).toNat

/-- `peer_t`; `none` is the socket -1. -/
structure Peer where
  socket : Option Nat
  address : Nat
  deriving DecidableEq, Repr

def initPeerArray : List Peer := (List.range maxPeer).map fun i => ⟨none, 512 + i⟩

def assignAddress (peers : List Peer) (sock : Nat) : Option Nat × List Peer :=
  match peers.findIdx? fun p => p.socket.isNone with
  | some i => ((peers[i]?).map Peer.address, peers.modify i fun p => { p with socket := some sock })
  | none => (none, peers)

/-- The daemon, its clients and the connections between them.  A descriptor is named by the
number of its connection, so that no number is used twice. -/
structure State where
  peers : List Peer
  conns : Nat → Conn
  /-- The connections that wait for `accept`. -/
  backlog : List Nat
  /-- The number of connections so far. -/
  next : Nat

def State.start : State := ⟨initPeerArray, fun _ => .fresh, [], 0⟩

/-- `FD_ISSET` behind `select`: the descriptors of the peers that can be read. -/
def State.ready (s : State) (sock : Nat) : Bool :=
  s.peers.any (fun p => p.socket == some sock) && (s.conns sock).readable

/-- The `accept` of one waiting connection and what becomes of it. -/
def State.accept (s : State) : State :=
  match s.backlog with
  | [] => s
  | sock :: backlog =>
      match assignAddress s.peers sock with
      | (some address, peers) =>
          { s with
            peers
            conns := Function.update s.conns sock ((s.conns sock).write address)
            backlog }
      | (none, peers) => { s with peers, backlog }

/-- The loop over all peers. -/
def readPeers (ready : Nat → Bool) : List Peer → (Nat → Conn) → List Peer × (Nat → Conn)
  | [], conns => ([], conns)
  | p :: peers, conns =>
      match p.socket with
      | some sock =>
          if ready sock then
            let (nread, conn) := (conns sock).read 64
            let (rest, conns) := readPeers ready peers (Function.update conns sock conn)
            ((if sizeT nread = 0 then { p with socket := none } else p) :: rest, conns)
          else
            let (rest, conns) := readPeers ready peers conns
            (p :: rest, conns)
      | none =>
          let (rest, conns) := readPeers ready peers conns
          (p :: rest, conns)

/-- One turn of the main loop. -/
def State.round (s : State) : State :=
  let accepted := s.accept
  let (peers, conns) := readPeers s.ready accepted.peers accepted.conns
  { accepted with peers, conns }

inductive Event where
  | connect
  | data (client bytes : Nat)
  | close (client : Nat)
  | reset (client : Nat)
  | round
  deriving DecidableEq, Repr

/-- Something that a client does as long as it has its connection. -/
def State.modify (s : State) (client : Nat) (change : Conn → Conn) : State :=
  if client < s.next ∧ (s.conns client).ending = none then
    { s with conns := Function.update s.conns client (change (s.conns client)) }
  else s

def State.step (s : State) : Event → State
  | .connect => { s with backlog := s.backlog ++ [s.next], next := s.next + 1 }
  | .data client bytes =>
      s.modify client fun conn => { conn with unread := conn.unread + bytes }
  | .close client => s.modify client fun conn => { conn with ending := some 0 }
  | .reset client => s.modify client fun conn => { conn with ending := some 1 }
  | .round => s.round

def run (events : List Event) : State := events.foldl State.step .start

end Hcan.Hcanaddressd
