import Hcan.Hcand.Distribution
import Hcan.Library.Codec

/-!
# The receive buffer of `hcand`

`CANFrame f` of the main loop is the buffer that every `recvfrom` writes and every
`sendto` reads whole.  The number of bytes read is compared with nothing, so what a
short datagram leaves of the buffer goes out with it.
-/

namespace Hcan.Hcand

open Hcan.Library Hcan.Transport

/-- `sizeof(CANFrame)`. -/
def frameSize : Nat := 16

/-- The bytes of `CANFrame f`. -/
abbrev Buffer := Vector UInt8 frameSize

/-- `CANFrame` in memory. -/
def canFrame : Codec CANFrame :=
  (Codec.uint32.pair (Codec.uint32.pair (Codec.bytes 8))).rename
    (fun f => (f.id, f.size, f.data)) (fun p => ⟨p.1, p.2.1, p.2.2⟩)
    (fun _ => rfl) (fun _ => rfl)

/-- `recvfrom` stores as much of a datagram as fits and leaves the bytes behind it. -/
def recvfrom (f : Buffer) (data : List UInt8) : Buffer := .ofFn fun k => data.getD k f[k]

/-- A datagram as it arrives with the address and port of its sender, or the alarm. -/
inductive Arrival where
  | datagram (addr : UInt32) (port : UInt16) (data : List UInt8)
  | alarm
  deriving DecidableEq, Repr

structure Daemon where
  peers : List Peer
  f : Buffer

/-- A datagram for the peer of an address. -/
abbrev Forward := SockaddrIn × List UInt8

/-- One turn of the main loop, or the alarm between two turns. -/
def Daemon.step (daemon : Daemon) : Arrival → Daemon × List Forward
  | .datagram addr port data =>
      let f := recvfrom daemon.f data
      let (peers, sent) := receive daemon.peers (sockaddr addr port) (canFrame.decode f.toList)
      (⟨peers, f⟩, sent.map fun s => (s.peer, canFrame.encode s.frame))
  | .alarm => (⟨sigAlarm daemon.peers, daemon.f⟩, [])

/-- The daemon behind a sequence of arrivals; `f` is what the buffer holds at the start. -/
def Daemon.run (f : Buffer) (arrivals : List Arrival) : Daemon :=
  arrivals.foldl (fun daemon arrival => (daemon.step arrival).1) ⟨noPeers, f⟩

/-- What the daemon forwards for a datagram that arrives behind the others. -/
def forwarded (f : Buffer) (before : List Arrival) (addr : UInt32) (port : UInt16)
    (data : List UInt8) : List Forward :=
  ((Daemon.run f before).step (.datagram addr port data)).2

/-- An arrival without the contents of its datagram. -/
def Arrival.sender : Arrival → Option (UInt32 × UInt16)
  | .datagram addr port _ => some (addr, port)
  | .alarm => none

/-- The daemon forwards nothing but the bytes of the datagram that it has just received,
the same ones whatever was in the datagrams before, and no short datagram. -/
structure OnlyReceived (f : Buffer) (before : List Arrival) (addr : UInt32) (port : UInt16)
    (data : List UInt8) : Prop where
  own : ∀ sent ∈ forwarded f before addr port data, sent.2 <+: data
  blind : ∀ other : List Arrival, other.map Arrival.sender = before.map Arrival.sender →
    forwarded f other addr port data = forwarded f before addr port data
  whole : data.length < frameSize → forwarded f before addr port data = []

/-- No slot belongs to another live peer, or none is left for the sender. -/
def NoReceiver (peers : List Peer) (peer : SockaddrIn) : Prop :=
  (∀ p ∈ peers, p.addr.addr ≠ 0 → p.addr = peer) ∨
    ∀ p ∈ peers, p.addr.addr ≠ 0 ∧ p.addr ≠ peer

/-- The datagram brings an identifier of its own, and that is the zero of a special packet. -/
def ZeroId (data : List UInt8) : Prop := 4 ≤ data.length ∧ ∀ b ∈ data.take 4, b = 0

theorem canFrame_encode_decode (f : Buffer) :
    canFrame.encode (canFrame.decode f.toList) = f.toList :=
  canFrame.encode_decode _ f.length_toList

/-- A datagram that fills the buffer leaves nothing of what was in it. -/
theorem recvfrom_whole {data : List UInt8} (long : frameSize ≤ data.length) (f : Buffer) :
    (recvfrom f data).toList = data.take frameSize := by
  apply List.ext_getElem
  · rw [Vector.length_toList, List.length_take, Nat.min_eq_left long]
  · intro k inBuffer inData
    have bound : k < data.length := by
      rw [Vector.length_toList] at inBuffer
      omega
    rw [Vector.getElem_toList, List.getElem_take]
    simp [recvfrom, bound]

theorem ofBytes_eq_zero_iff {bytes : List UInt8} : ofBytes bytes = 0 ↔ ∀ b ∈ bytes, b = 0 := by
  induction bytes with
  | nil => simp [ofBytes]
  | cons b bytes ih =>
      rw [List.forall_mem_cons, ← ih, ofBytes, ← UInt8.toNat_inj]
      simp

/-- The identifier is the first four bytes of the buffer. -/
theorem decode_id_eq_zero_iff (f : Buffer) :
    (canFrame.decode f.toList).id = 0 ↔ ∀ b ∈ f.toList.take 4, b = 0 := by
  have small : ofBytes (f.toList.take 4) < 2 ^ 32 := by
    have bound := ofBytes_lt (f.toList.take 4)
    rw [List.length_take, f.length_toList] at bound
    exact bound
  have id : (canFrame.decode f.toList).id.toNat = ofBytes (f.toList.take 4) :=
    UInt32.toNat_ofNat_of_lt' small
  rw [← ofBytes_eq_zero_iff, ← id, ← UInt32.toNat_inj]
  rfl

/-- A datagram of four bytes decides the identifier alone. -/
theorem recvfrom_take_four {data : List UInt8} (long : 4 ≤ data.length) (f : Buffer) :
    (recvfrom f data).toList.take 4 = data.take 4 := by
  apply List.ext_getElem
  · rw [List.length_take, List.length_take, Vector.length_toList, Nat.min_eq_left long]
    rfl
  · intro k inBuffer inData
    have bound : k < data.length := by
      rw [List.length_take] at inData
      omega
    rw [List.getElem_take, List.getElem_take, Vector.getElem_toList]
    simp [recvfrom, bound]

theorem distribute_eq_nil_iff {peers : List Peer} {peer : SockaddrIn} {f : CANFrame} :
    distribute peers peer f = [] ↔ ∀ p ∈ peers, p.addr.addr ≠ 0 → p.addr = peer := by
  unfold distribute addrCmp
  rw [List.filterMap_eq_nil_iff]
  refine forall₂_congr fun p _ => ?_
  simp

/-- A slot that is free or the sender's does not change who else receives. -/
theorem distribute_modify_eq_nil_iff {peers : List Peer} {peer : SockaddrIn} {f : CANFrame}
    {i : Nat} {change : Peer → Peer}
    (own : ∀ p, peers[i]? = some p → (p.addr.addr ≠ 0 → p.addr = peer) ∧
      ((change p).addr.addr ≠ 0 → (change p).addr = peer)) :
    distribute (peers.modify i change) peer f = [] ↔ distribute peers peer f = [] := by
  rw [distribute_eq_nil_iff, distribute_eq_nil_iff]
  constructor
  · intro all p member live
    obtain ⟨j, at_⟩ := List.mem_iff_getElem?.mp member
    by_cases same : i = j
    · subst same
      exact (own p at_).1 live
    · exact all p (List.mem_iff_getElem?.mpr ⟨j, by simp [same, at_]⟩) live
  · intro all p member live
    obtain ⟨j, at_⟩ := List.mem_iff_getElem?.mp member
    rw [List.getElem?_modify] at at_
    obtain ⟨q, was, rfl⟩ := Option.map_eq_some_iff.mp at_
    by_cases same : i = j
    · subst same
      simp only [if_true] at live ⊢
      exact (own q was).2 live
    · simp only [if_neg same] at live ⊢
      exact all q (List.mem_iff_getElem?.mpr ⟨j, was⟩) live

theorem receive_eq_nil_iff (peers : List Peer) (peer : SockaddrIn) (f : CANFrame) :
    (receive peers peer f).2 = [] ↔ f.id = 0 ∨ NoReceiver peers peer := by
  cases known : doesPeerExist peers peer with
  | some i =>
      obtain ⟨bound, found, -⟩ := List.findIdx?_eq_some_iff_getElem.mp known
      have own : peers[i].addr = peer := by
        have same : peer = peers[i].addr := by simpa [addrCmp] using found
        exact same.symm
      have noRoom : ¬∀ p ∈ peers, p.addr.addr ≠ 0 ∧ p.addr ≠ peer :=
        fun all => (all _ (List.getElem_mem bound)).2 own
      have kept : distribute (peers.modify i fun p => { p with timeout := 0 }) peer f = [] ↔
          distribute peers peer f = [] := by
        apply distribute_modify_eq_nil_iff
        intro p at_
        rw [List.getElem?_eq_getElem bound] at at_
        cases at_
        exact ⟨fun _ => own, fun _ => own⟩
      unfold receive
      rw [known]
      dsimp only
      split
      · next special => simp [special]
      · next regular =>
          unfold NoReceiver
          rw [kept, distribute_eq_nil_iff]
          simp [regular, noRoom]
  | none =>
      have absent : ∀ p ∈ peers, p.addr ≠ peer := by
        intro p member same
        have differs := List.findIdx?_eq_none_iff.mp known p member
        simp [addrCmp, same] at differs
      cases free : peers.findIdx? (fun p => p.addr.addr == 0) with
      | some i =>
          obtain ⟨bound, found, -⟩ := List.findIdx?_eq_some_iff_getElem.mp free
          have zero : peers[i].addr.addr = 0 := by simpa using found
          have room : ¬∀ p ∈ peers, p.addr.addr ≠ 0 ∧ p.addr ≠ peer :=
            fun all => (all _ (List.getElem_mem bound)).1 zero
          have kept : distribute ((peers.modify i fun p => { p with addr := peer }).modify i
              fun p => { p with timeout := 0 }) peer f = [] ↔ distribute peers peer f = [] := by
            rw [List.modify_modify_eq]
            apply distribute_modify_eq_nil_iff
            intro p at_
            rw [List.getElem?_eq_getElem bound] at at_
            cases at_
            exact ⟨fun live => absurd zero live, fun _ => rfl⟩
          unfold receive addPeer
          rw [known, free]
          dsimp only
          split
          · next special => simp [special]
          · next regular =>
              unfold NoReceiver
              rw [kept, distribute_eq_nil_iff]
              simp [regular, room]
      | none =>
          have full : ∀ p ∈ peers, p.addr.addr ≠ 0 ∧ p.addr ≠ peer := by
            intro p member
            have used := List.findIdx?_eq_none_iff.mp free p member
            exact ⟨by simpa using used, absent p member⟩
          unfold receive addPeer
          rw [known, free]
          exact ⟨fun _ => .inr (.inr full), fun _ => rfl⟩

theorem receive_frame {peers : List Peer} {peer : SockaddrIn} {f : CANFrame} {sent : Sent}
    (member : sent ∈ (receive peers peer f).2) : sent.frame = f := by
  unfold receive at member
  dsimp only at member
  split at member
  · split at member
    · exact nomatch member
    · exact distribute_frame member
  · exact nomatch member

theorem receive_peers (peers : List Peer) (peer : SockaddrIn) (f g : CANFrame) :
    (receive peers peer f).1 = (receive peers peer g).1 := by
  have one : ∀ h : CANFrame, (receive peers peer h).1 = (receive peers peer ⟨0, 0, f.data⟩).1 := by
    intro h
    unfold receive
    dsimp only
    split
    · rw [apply_ite Prod.fst, ite_self, if_pos rfl]
    · rfl
  rw [one f, one g]

variable {f : Buffer} {before : List Arrival} {addr : UInt32} {port : UInt16}
  {data : List UInt8}

theorem forwarded_eq (f : Buffer) (before : List Arrival) (addr : UInt32) (port : UInt16)
    (data : List UInt8) :
    forwarded f before addr port data =
      (receive (Daemon.run f before).peers (sockaddr addr port)
        (canFrame.decode (recvfrom (Daemon.run f before).f data).toList)).2.map fun s =>
          (s.peer, canFrame.encode s.frame) := rfl

/-- What goes out is the buffer. -/
theorem forwarded_bytes {sent : Forward} (member : sent ∈ forwarded f before addr port data) :
    sent.2 = (recvfrom (Daemon.run f before).f data).toList := by
  rw [forwarded_eq] at member
  obtain ⟨s, inside, rfl⟩ := List.mem_map.mp member
  dsimp only
  rw [receive_frame inside, canFrame_encode_decode]

theorem forwarded_eq_nil_iff :
    forwarded f before addr port data = [] ↔
      (∀ b ∈ (recvfrom (Daemon.run f before).f data).toList.take 4, b = 0) ∨
        NoReceiver (Daemon.run f before).peers (sockaddr addr port) := by
  rw [forwarded_eq, List.map_eq_nil_iff, receive_eq_nil_iff, decode_id_eq_zero_iff]

theorem step_peers {daemon other : Daemon} {arrival arrival' : Arrival}
    (peers : daemon.peers = other.peers) (sender : arrival.sender = arrival'.sender) :
    (daemon.step arrival).1.peers = (other.step arrival').1.peers := by
  cases arrival with
  | alarm =>
      cases arrival' with
      | alarm => exact congrArg sigAlarm peers
      | datagram addr port data => exact nomatch sender
  | datagram addr port data =>
      cases arrival' with
      | alarm => exact nomatch sender
      | datagram addr' port' data' =>
          cases sender
          unfold Daemon.step
          dsimp only
          rw [peers]
          exact receive_peers ..

/-- The table depends on who has sent, not on what. -/
theorem run_peers {other : List Arrival} (f : Buffer)
    (senders : other.map Arrival.sender = before.map Arrival.sender) :
    (Daemon.run f other).peers = (Daemon.run f before).peers := by
  have all : ∀ (before other : List Arrival) (first second : Daemon),
      other.map Arrival.sender = before.map Arrival.sender → first.peers = second.peers →
      (other.foldl (fun daemon arrival => (daemon.step arrival).1) first).peers =
        (before.foldl (fun daemon arrival => (daemon.step arrival).1) second).peers := by
    intro before
    induction before with
    | nil =>
        intro other first second senders peers
        rw [List.map_eq_nil_iff.mp senders]
        exact peers
    | cons arrival before ih =>
        intro other first second senders peers
        cases other with
        | nil => exact nomatch senders
        | cons arrival' other =>
            obtain ⟨sender, senders⟩ := List.cons_eq_cons.mp senders
            exact ih other _ _ senders (step_peers peers sender)
  exact all before other _ _ senders rfl

/-! ## Datagrams of other contents -/

/-- The same arrival with a whole frame of ones. -/
def Arrival.fill : Arrival → Arrival
  | .datagram addr port _ => .datagram addr port (.replicate frameSize 1)
  | .alarm => .alarm

theorem fill_sender (arrival : Arrival) : arrival.fill.sender = arrival.sender := by
  cases arrival <;> rfl

/-- Whole frames of ones fill the buffer as soon as there is a peer. -/
theorem run_fill (f : Buffer) (before : List Arrival) :
    (Daemon.run f (before.map Arrival.fill)).f = .replicate frameSize 1 ∨
      ∀ p ∈ (Daemon.run f (before.map Arrival.fill)).peers, p.addr.addr = 0 := by
  induction before using List.reverseRecOn with
  | nil =>
      right
      intro p member
      rw [List.eq_of_mem_replicate member]
  | append_singleton before arrival ih =>
      have last : Daemon.run f ((before ++ [arrival]).map Arrival.fill) =
          ((Daemon.run f (before.map Arrival.fill)).step arrival.fill).1 := by
        unfold Daemon.run
        rw [List.map_append, List.foldl_append]
        rfl
      rw [last]
      cases arrival with
      | datagram addr port data =>
          left
          apply Vector.ext
          intro k bound
          simp [Arrival.fill, Daemon.step, recvfrom]
      | alarm =>
          rcases ih with full | free
          · exact .inl full
          · right
            intro p member
            obtain ⟨q, was, rfl⟩ := List.mem_map.mp member
            unfold alarmPeer
            rw [if_neg (not_not_intro (free q was))]
            exact free q was

theorem noReceiver_of_free {peers : List Peer} {peer : SockaddrIn}
    (free : ∀ p ∈ peers, p.addr.addr = 0) : NoReceiver peers peer :=
  .inl fun p member live => absurd (free p member) live

/-- A datagram that does not decide the identifier goes out behind other ones than before. -/
theorem forwarded_fill_ne_nil (short : data.length < 4)
    (receiver : ¬NoReceiver (Daemon.run f before).peers (sockaddr addr port)) :
    forwarded f (before.map Arrival.fill) addr port data ≠ [] := by
  have table : (Daemon.run f (before.map Arrival.fill)).peers = (Daemon.run f before).peers := by
    apply run_peers
    rw [List.map_map]
    exact List.map_congr_left fun arrival _ => fill_sender arrival
  rw [Ne, forwarded_eq_nil_iff, table, not_or]
  refine ⟨fun zero => ?_, receiver⟩
  rcases run_fill f before with full | free
  · have short' : data.length ≤ 3 := Nat.le_of_lt_succ short
    rw [full] at zero
    have inside : (1 : UInt8) ∈ (recvfrom (.replicate frameSize 1) data).toList.take 4 := by
      rw [List.mem_iff_getElem?]
      exact ⟨3, by simp [recvfrom, List.getElem?_eq_none short', show 3 < frameSize by decide,
        Hcan.Library.byte_replicate]⟩
    exact absurd (zero 1 inside) (by decide)
  · rw [table] at free
    exact receiver (noReceiver_of_free free)

/-- A datagram that is forwarded in no run with these senders. -/
theorem onlyReceived_of_silent
    (nothing : ∀ other : List Arrival,
      other.map Arrival.sender = before.map Arrival.sender →
      forwarded f other addr port data = []) :
    OnlyReceived f before addr port data where
  own sent member := by
    rw [nothing before rfl] at member
    exact nomatch member
  blind other senders := (nothing other senders).trans (nothing before rfl).symm
  whole _ := nothing before rfl

/-- Only the bytes of the datagram just received are forwarded exactly when it fills the
buffer, when nobody is to receive it, or when its own first four bytes are the identifier
of a special packet. -/
theorem onlyReceived_iff (f : Buffer) (before : List Arrival) (addr : UInt32) (port : UInt16)
    (data : List UInt8) :
    OnlyReceived f before addr port data ↔
      frameSize ≤ data.length ∨
        NoReceiver (Daemon.run f before).peers (sockaddr addr port) ∨ ZeroId data := by
  constructor
  · intro only
    by_contra fails
    obtain ⟨short, receiver, id⟩ := not_or.mp fails |>.imp_right not_or.mp
    have nothing := only.whole (Nat.lt_of_not_le short)
    have zero := (forwarded_eq_nil_iff.mp nothing).resolve_right receiver
    have shorter : data.length < 4 := by
      by_contra long
      have long := Nat.le_of_not_lt long
      rw [recvfrom_take_four long] at zero
      exact id ⟨long, zero⟩
    have fill := only.blind (before.map Arrival.fill) (by
      rw [List.map_map]
      exact List.map_congr_left fun arrival _ => fill_sender arrival)
    exact forwarded_fill_ne_nil shorter receiver (fill.trans nothing)
  · rintro (long | receiver | ⟨long, zero⟩)
    · refine ⟨fun sent member => ?_, fun other senders => ?_, fun short => ?_⟩
      · rw [forwarded_bytes member, recvfrom_whole long]
        exact List.take_prefix ..
      · have buffer : recvfrom (Daemon.run f other).f data =
            recvfrom (Daemon.run f before).f data := by
          apply Vector.toList_inj.mp
          rw [recvfrom_whole long, recvfrom_whole long]
        rw [forwarded_eq, forwarded_eq, buffer, run_peers f senders]
      · exact absurd short (Nat.not_lt_of_le long)
    · have nothing : ∀ other : List Arrival,
          other.map Arrival.sender = before.map Arrival.sender →
          forwarded f other addr port data = [] := by
        intro other senders
        rw [forwarded_eq_nil_iff, run_peers f senders]
        exact .inr receiver
      exact onlyReceived_of_silent nothing
    · have nothing : ∀ other : List Arrival,
          other.map Arrival.sender = before.map Arrival.sender →
          forwarded f other addr port data = [] := by
        intro other _
        rw [forwarded_eq_nil_iff, recvfrom_take_four long]
        exact .inl zero
      exact onlyReceived_of_silent nothing

/-- An empty datagram sends the frame of another peer once more. -/
theorem empty_forwards :
    ¬OnlyReceived (.replicate frameSize 0)
      [.datagram 1 1000 (.replicate 16 7), .datagram 2 1000 (.replicate 16 7)] 2 1000 [] := by
  intro only
  rcases forwarded_eq_nil_iff.mp (only.whole (by decide)) with zero | alone | full
  · revert zero
    decide +kernel
  · revert alone
    decide +kernel
  · revert full
    decide +kernel

end Hcan.Hcand
