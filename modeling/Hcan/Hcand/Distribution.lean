import Hcan.Hcand.Peers
import Hcan.Library.Keyed
import Mathlib.Data.List.Induction

/-!
# What `hcand` distributes

In every state that `hcand` reaches the live peers have different addresses and the
timeout of a live slot counts the alarms since the last datagram of its peer.  So each
datagram goes once to every other live peer, and a peer that keeps sending keeps its slot.
-/

namespace Hcan.Hcand

open Hcan.Library Hcan.Transport

/-- The address of a live slot. -/
def Peer.key (p : Peer) : Option SockaddrIn := if p.addr.addr ≠ 0 then some p.addr else none

def livePeers (peers : List Peer) : List SockaddrIn := peers.filterMap Peer.key

def HasSlot (peers : List Peer) (i : Nat) (a : SockaddrIn) : Prop :=
  ∃ p, peers[i]? = some p ∧ p.key = some a

theorem key_eq_some {p : Peer} {a : SockaddrIn} :
    p.key = some a ↔ p.addr = a ∧ a.addr ≠ 0 := by
  unfold Peer.key
  split
  · next live =>
      constructor
      · intro same
        cases Option.some.inj same
        exact ⟨rfl, live⟩
      · rintro ⟨rfl, _⟩
        rfl
  · next free =>
      constructor
      · intro same
        exact nomatch same
      · rintro ⟨rfl, live⟩
        exact absurd live free

/-- The alarm leaves a slot free or with its address. -/
theorem alarmPeer_key {p : Peer} {a : SockaddrIn} (live : (alarmPeer p).key = some a) :
    p.key = some a := by
  unfold alarmPeer at live
  split at live
  · split at live
    · obtain ⟨rfl, nonzero⟩ := key_eq_some.mp live
      exact absurd rfl nonzero
    · exact live
  · exact live

/-- The timeout of a slot that stays live counts the alarm. -/
theorem alarmPeer_timeout {p : Peer} {a : SockaddrIn} (live : (alarmPeer p).key = some a) :
    (alarmPeer p).timeout = p.timeout + 1 := by
  have before := key_eq_some.mp (alarmPeer_key live)
  unfold alarmPeer at live ⊢
  rw [if_pos (before.1 ▸ before.2)] at live ⊢
  split at live
  · obtain ⟨rfl, nonzero⟩ := key_eq_some.mp live
    exact absurd rfl nonzero
  · next early => rw [if_neg early]

/-- Before the timeout a live slot survives the alarm. -/
theorem alarmPeer_survives {p : Peer} {a : SockaddrIn} (live : p.key = some a)
    (early : p.timeout + 1 ≤ timeout) : (alarmPeer p).key = some a := by
  have held := key_eq_some.mp live
  unfold alarmPeer
  rw [if_pos (held.1 ▸ held.2), if_neg (Nat.not_lt.mpr early)]
  exact live

section Receive

variable {peers : List Peer} {peer : SockaddrIn} {f : CANFrame}

/-- What a received datagram does to the table: its slot `i`, which held the peer or was
free while no slot held it, holds the peer with timeout 0.  With no free slot nothing
changes. -/
theorem receive_cases (peers : List Peer) (peer : SockaddrIn) (f : CANFrame)
    (nonzero : peer.addr ≠ 0) :
    (∃ i p, peers[i]? = some p ∧
      (p.key = some peer ∨ p.key = none ∧ ∀ q ∈ peers, q.key ≠ some peer) ∧
      (receive peers peer f).1 = peers.modify i (fun _ => ⟨peer, 0⟩) ∧
      (receive peers peer f).2 = if f.id = 0 then [] else
        distribute (receive peers peer f).1 peer f) ∨
    ((∀ q ∈ peers, q.key ≠ some peer) ∧ receive peers peer f = (peers, [])) := by
  cases exists_ : doesPeerExist peers peer with
  | some i =>
      obtain ⟨bound, found, -⟩ := List.findIdx?_eq_some_iff_getElem.mp exists_
      have same : peer = peers[i].addr := by simpa [addrCmp] using found
      have at_ : peers[i]? = some peers[i] := List.getElem?_eq_getElem bound
      have table : (receive peers peer f).1 = peers.modify i fun p => { p with timeout := 0 } := by
        unfold receive
        rw [exists_]
        dsimp only
        split <;> rfl
      refine .inl ⟨i, peers[i], at_, .inl (key_eq_some.mpr ⟨same.symm, nonzero⟩), ?_, ?_⟩
      · rw [table]
        exact modify_congr _ _ at_ (by rw [← same])
      · rw [table]
        unfold receive
        rw [exists_]
        dsimp only
        split <;> rfl
  | none =>
      have absent : ∀ q ∈ peers, q.key ≠ some peer := by
        intro q member held
        have differs := List.findIdx?_eq_none_iff.mp exists_ q member
        rw [(key_eq_some.mp held).1] at differs
        simp [addrCmp] at differs
      cases free : peers.findIdx? (fun p => p.addr.addr == 0) with
      | some i =>
          obtain ⟨bound, found, -⟩ := List.findIdx?_eq_some_iff_getElem.mp free
          have zero : peers[i].addr.addr = 0 := by simpa using found
          have at_ : peers[i]? = some peers[i] := List.getElem?_eq_getElem bound
          have table : (receive peers peer f).1 =
              (peers.modify i fun p => { p with addr := peer }).modify i
                fun p => { p with timeout := 0 } := by
            unfold receive addPeer
            rw [exists_, free]
            dsimp only
            split <;> rfl
          refine .inl ⟨i, peers[i], at_, .inr ⟨?_, absent⟩, ?_, ?_⟩
          · unfold Peer.key
            rw [if_neg (not_not_intro zero)]
          · rw [table, List.modify_modify_eq]
            exact modify_congr _ _ at_ rfl
          · rw [table]
            unfold receive addPeer
            rw [exists_, free]
            dsimp only
            split <;> rfl
      | none =>
          refine .inr ⟨absent, ?_⟩
          unfold receive addPeer
          rw [exists_, free]

/-- The loop over the peers sends to every live one but the sender. -/
theorem distribute_peers :
    (distribute peers peer f).map Sent.peer = (livePeers peers).filter (· ≠ peer) := by
  have one : ∀ p : Peer, (if p.addr.addr ≠ 0 ∧ addrCmp p.addr peer = false then
      some (Sent.mk p.addr f) else none).map Sent.peer = p.key.filter (· ≠ peer) := by
    intro p
    unfold Peer.key addrCmp
    by_cases live : p.addr.addr = 0
    · rw [if_neg (fun both => both.1 live), if_neg (not_not_intro live)]
      rfl
    · rw [if_pos live]
      by_cases same : p.addr = peer
      · simp [same, Option.filter]
      · simp [live, same, Option.filter]
  unfold distribute livePeers
  rw [List.map_filterMap, List.filter_filterMap]
  exact congrArg (List.filterMap · peers) (funext one)

theorem distribute_frame {s : Sent} (member : s ∈ distribute peers peer f) : s.frame = f := by
  obtain ⟨p, -, sent⟩ := List.mem_filterMap.mp member
  split at sent
  · cases Option.some.inj sent
    rfl
  · exact nomatch sent

end Receive

/-- The alarms since the last datagram of a peer. -/
def alarmsSince (a : SockaddrIn) (events : List Event) : Nat :=
  events.foldl (fun n event =>
    match event with
    | .datagram addr port _ => if sockaddr addr port = a then 0 else n
    | .alarm => n + 1) 0

theorem run_snoc (events : List Event) (event : Event) :
    run (events ++ [event]) = (step (run events) event).1 := by
  unfold run
  rw [List.foldl_append]
  rfl

theorem alarmsSince_alarm (a : SockaddrIn) (events : List Event) :
    alarmsSince a (events ++ [.alarm]) = alarmsSince a events + 1 := by
  unfold alarmsSince
  rw [List.foldl_append]
  rfl

theorem alarmsSince_datagram (a : SockaddrIn) (events : List Event) (addr : UInt32)
    (port : UInt16) (f : CANFrame) :
    alarmsSince a (events ++ [.datagram addr port f]) =
      if sockaddr addr port = a then 0 else alarmsSince a events := by
  unfold alarmsSince
  rw [List.foldl_append]
  rfl

/-- The address is that of a sender of the run. -/
def Sender (events : List Event) (a : SockaddrIn) : Prop :=
  ∃ addr port f, a = sockaddr addr port ∧ Event.datagram addr port f ∈ events

theorem Sender.snoc {events : List Event} {a : SockaddrIn} (sender : Sender events a)
    (event : Event) : Sender (events ++ [event]) a := by
  obtain ⟨addr, port, f, same, member⟩ := sender
  exact ⟨addr, port, f, same, List.mem_append_left _ member⟩

/-- The table after some events: live slots hold different senders, and their timeouts
count alarms. -/
structure Table (events : List Event) (peers : List Peer) : Prop where
  distinct : Distinct Peer.key peers
  sender : ∀ a ∈ livePeers peers, Sender events a
  silent : ∀ {p a}, p ∈ peers → p.key = some a → p.timeout = alarmsSince a events

/-- The senders of a run have addresses other than zero. -/
def Nonzero (events : List Event) : Prop :=
  ∀ addr port f, Event.datagram addr port f ∈ events → addr ≠ 0

theorem mem_livePeers {peers : List Peer} {a : SockaddrIn} :
    a ∈ livePeers peers ↔ ∃ p ∈ peers, p.key = some a := List.mem_filterMap

theorem table_alarm {events : List Event} {peers : List Peer} (table : Table events peers) :
    Table (events ++ [.alarm]) (sigAlarm peers) := by
  have origin : ∀ {q a}, q ∈ sigAlarm peers → q.key = some a →
      ∃ p ∈ peers, p.key = some a ∧ q.timeout = p.timeout + 1 := by
    intro q a member live
    obtain ⟨p, before, rfl⟩ := List.mem_map.mp member
    exact ⟨p, before, alarmPeer_key live, alarmPeer_timeout live⟩
  constructor
  · exact table.distinct.map fun _ _ => alarmPeer_key
  · intro a live
    obtain ⟨q, member, live⟩ := mem_livePeers.mp live
    obtain ⟨p, before, live, -⟩ := origin member live
    exact (table.sender a (mem_livePeers.mpr ⟨p, before, live⟩)).snoc .alarm
  · intro q a member live
    obtain ⟨p, before, live, time⟩ := origin member live
    rw [time, table.silent before live, alarmsSince_alarm]

theorem table_datagram {events : List Event} {peers : List Peer} {addr : UInt32} {port : UInt16}
    {f : CANFrame} (table : Table events peers) (nonzero : addr ≠ 0) :
    Table (events ++ [.datagram addr port f]) (receive peers (sockaddr addr port) f).1 := by
  rcases receive_cases peers (sockaddr addr port) f nonzero with
    ⟨i, p, at_, held, changed, -⟩ | ⟨absent, same⟩
  · rw [changed]
    have others : ∀ {q}, q ∈ peers.modify i (fun _ => ⟨sockaddr addr port, 0⟩) →
        q = ⟨sockaddr addr port, 0⟩ ∨ ∃ j, i ≠ j ∧ peers[j]? = some q := by
      intro q member
      obtain ⟨j, atJ⟩ := List.mem_iff_getElem?.mp member
      rw [List.getElem?_modify] at atJ
      obtain ⟨q, found, rfl⟩ := Option.map_eq_some_iff.mp atJ
      split
      · exact .inl rfl
      · next elsewhere => exact .inr ⟨j, elsewhere, found⟩
    have own : Peer.key ⟨sockaddr addr port, 0⟩ = some (sockaddr addr port) :=
      key_eq_some.mpr ⟨rfl, nonzero⟩
    constructor
    · apply table.distinct.modify
      intro q k atQ keyQ
      cases at_.symm.trans atQ
      cases own.symm.trans keyQ
      exact held.imp_right And.right
    · intro a live
      obtain ⟨q, member, live⟩ := mem_livePeers.mp live
      rcases others member with rfl | ⟨j, -, found⟩
      · cases own.symm.trans live
        exact ⟨addr, port, f, rfl, List.mem_append_right _ (List.mem_singleton_self _)⟩
      · exact (table.sender a (mem_livePeers.mpr ⟨q, List.mem_of_getElem? found, live⟩)).snoc _
    · intro q a member live
      rw [alarmsSince_datagram]
      rcases others member with rfl | ⟨j, elsewhere, found⟩
      · rw [if_pos (Option.some.inj (own.symm.trans live))]
      · have different : sockaddr addr port ≠ a := by
          rintro rfl
          rcases held with here | ⟨-, absent⟩
          · exact elsewhere (table.distinct at_ found here live)
          · exact absent q (List.mem_of_getElem? found) live
        rw [if_neg different]
        exact table.silent (List.mem_of_getElem? found) live
  · rw [same]
    refine ⟨table.distinct, fun a live => (table.sender a live).snoc _, ?_⟩
    intro q a member live
    have different : sockaddr addr port ≠ a := by
      rintro rfl
      exact absent q member live
    rw [alarmsSince_datagram, if_neg different]
    exact table.silent member live

/-- The invariant holds after every run. -/
theorem table_run {events : List Event} (nonzero : Nonzero events) :
    Table events (run events) := by
  induction events using List.reverseRecOn with
  | nil =>
      have free : ∀ p ∈ noPeers, p.key = none := by
        intro p member
        rw [List.eq_of_mem_replicate member]
        rfl
      constructor
      · exact .of_free free
      · intro a live
        obtain ⟨p, member, live⟩ := mem_livePeers.mp live
        exact nomatch (free p member).symm.trans live
      · intro p a member live
        exact nomatch (free p member).symm.trans live
  | append_singleton events event ih =>
      have before := ih fun addr port f member =>
        nonzero addr port f (List.mem_append_left _ member)
      rw [run_snoc]
      cases event with
      | alarm => exact table_alarm before
      | datagram addr port f =>
          exact table_datagram before (nonzero addr port f (by simp))

/-! ## Distribution -/

/-- A peer that sends between any `timeout` alarms: behind its first datagram no stretch of the run
with that many alarms is without a datagram of it. -/
def Regular (addr : UInt32) (port : UInt16) (events : List Event) : Prop :=
  ∀ front stretch back, events = front ++ stretch ++ back →
    (∃ f, Event.datagram addr port f ∈ front) → stretch.count .alarm = timeout →
      ∃ f, Event.datagram addr port f ∈ stretch

/-- The last alarms without a datagram of a peer. -/
theorem silent_stretch (addr : UInt32) (port : UInt16) (events : List Event) {n : Nat}
    (many : n ≤ alarmsSince (sockaddr addr port) events) :
    ∃ front stretch, events = front ++ stretch ∧ stretch.count .alarm = n ∧
      ∀ f, Event.datagram addr port f ∉ stretch := by
  induction events using List.reverseRecOn generalizing n with
  | nil =>
      refine ⟨[], [], rfl, ?_, fun _ => List.not_mem_nil⟩
      exact (Nat.le_zero.mp many).symm
  | append_singleton events event ih =>
      cases n with
      | zero => exact ⟨events ++ [event], [], (List.append_nil _).symm, rfl,
          fun _ => List.not_mem_nil⟩
      | succ n =>
          cases event with
          | alarm =>
              rw [alarmsSince_alarm] at many
              obtain ⟨front, stretch, rfl, count, none⟩ := ih (Nat.le_of_succ_le_succ many)
              refine ⟨front, stretch ++ [.alarm], List.append_assoc _ _ _, ?_, ?_⟩
              · rw [List.count_append, count]
                rfl
              · intro f member
                rcases List.mem_append.mp member with early | last
                · exact none f early
                · exact nomatch List.mem_singleton.mp last
          | datagram addr' port' f' =>
              rw [alarmsSince_datagram] at many
              split at many
              · exact absurd many (Nat.not_succ_le_zero n)
              · next different =>
                  obtain ⟨front, stretch, rfl, count, none⟩ := ih many
                  refine ⟨front, stretch ++ [.datagram addr' port' f'],
                    List.append_assoc _ _ _, ?_, ?_⟩
                  · rw [List.count_append, count]
                    rfl
                  · intro f member
                    rcases List.mem_append.mp member with early | last
                    · exact none f early
                    · cases List.mem_singleton.mp last
                      exact different rfl

theorem regular_alarmsSince {addr : UInt32} {port : UInt16} {events later : List Event}
    (regular : Regular addr port (events ++ later))
    (sender : Sender events (sockaddr addr port)) :
    alarmsSince (sockaddr addr port) events < timeout := by
  by_contra long
  obtain ⟨front, stretch, rfl, count, none⟩ :=
    silent_stretch addr port events (Nat.le_of_not_lt long)
  obtain ⟨_, _, g, same, sent⟩ := sender
  cases same
  have before : Event.datagram addr port g ∈ front :=
    (List.mem_append.mp sent).resolve_right (none g)
  obtain ⟨f, member⟩ := regular front stretch later rfl ⟨g, before⟩ count
  exact none f member

/-- One event leaves the slot of a regular peer. -/
theorem slot_step {addr : UInt32} {port : UInt16} {events later : List Event} {event : Event}
    {i : Nat} (nonzero : Nonzero (events ++ [event]))
    (regular : Regular addr port (events ++ [event] ++ later))
    (slot : HasSlot (run events) i (sockaddr addr port)) :
    HasSlot (run (events ++ [event])) i (sockaddr addr port) := by
  obtain ⟨p, at_, live⟩ := slot
  have table : Table events (run events) :=
    table_run fun addr port f member => nonzero addr port f (List.mem_append_left _ member)
  rw [run_snoc]
  cases event with
  | alarm =>
      have time := table.silent (List.mem_of_getElem? at_) live
      have sender := table.sender _ (mem_livePeers.mpr ⟨p, List.mem_of_getElem? at_, live⟩)
      have early := regular_alarmsSince regular (sender.snoc .alarm)
      rw [alarmsSince_alarm, ← time] at early
      refine ⟨alarmPeer p, ?_, alarmPeer_survives live early.le⟩
      change (sigAlarm (run events))[i]? = _
      rw [sigAlarm, List.getElem?_map, at_]
      rfl
  | datagram addr' port' f =>
      have sender : addr' ≠ 0 := nonzero addr' port' f (by simp)
      change HasSlot (receive _ _ _).1 _ _
      rcases receive_cases (run events) (sockaddr addr' port') f sender
        with ⟨j, q, atJ, held, changed, -⟩ | ⟨-, same⟩
      · rw [changed]
        by_cases here : j = i
        · subst here
          cases at_.symm.trans atJ
          have own : sockaddr addr' port' = sockaddr addr port := by
            rcases held with mine | ⟨free, -⟩
            · exact Option.some.inj (mine.symm.trans live)
            · exact nomatch free.symm.trans live
          refine ⟨⟨sockaddr addr' port', 0⟩, ?_, ?_⟩
          · rw [List.getElem?_modify, atJ]
            exact congrArg some (if_pos rfl)
          · rw [own]
            exact key_eq_some.mpr ⟨rfl, (key_eq_some.mp live).2⟩
        · refine ⟨p, ?_, live⟩
          rw [List.getElem?_modify, at_]
          exact congrArg some (if_neg here)
      · rw [same]
        exact ⟨p, at_, live⟩

theorem slot_run {addr : UInt32} {port : UInt16} {before after : List Event} {i : Nat}
    (nonzero : Nonzero (before ++ after)) (regular : Regular addr port (before ++ after))
    (slot : HasSlot (run before) i (sockaddr addr port)) :
    HasSlot (run (before ++ after)) i (sockaddr addr port) := by
  induction after generalizing before with
  | nil => rwa [List.append_nil]
  | cons event after ih =>
      rw [List.append_cons] at nonzero regular ⊢
      apply ih nonzero regular
      exact slot_step (fun addr port f member =>
        nonzero addr port f (List.mem_append_left _ member)) regular slot

/-- A datagram of a sender with a slot goes once to every other live peer. -/
theorem receive_sent {peers : List Peer} {peer : SockaddrIn} {f : CANFrame}
    (distinct : (livePeers (receive peers peer f).1).Nodup) (nonzero : peer.addr ≠ 0)
    (id : f.id ≠ 0) (slot : peer ∈ livePeers (receive peers peer f).1) :
    (∀ s ∈ (receive peers peer f).2, s.frame = f) ∧ ∀ a,
      ((receive peers peer f).2.map Sent.peer).count a =
        if a ∈ livePeers (receive peers peer f).1 ∧ a ≠ peer then 1 else 0 := by
  rcases receive_cases peers peer f nonzero with
    ⟨_, _, _, _, -, sent⟩ | ⟨absent, same⟩
  · rw [sent, if_neg id]
    refine ⟨fun s => distribute_frame, ?_⟩
    intro a
    rw [distribute_peers, (distinct.filter _).count]
    simp only [List.mem_filter, decide_eq_true_eq]
  · rw [same] at slot
    obtain ⟨q, member, live⟩ := mem_livePeers.mp slot
    exact absurd live (absent q member)

/-- What a run distributes and whom it keeps. -/
structure Distributes (events : List Event) : Prop where
  /-- The live entries are pairwise different addresses. -/
  different : ((livePeers (run events)).map fun a => (a.addr, a.port)).Nodup
  /-- A datagram with id 0 goes to nobody. -/
  special : ∀ before addr port f after, events = before ++ .datagram addr port f :: after →
    f.id = 0 → (step (run before) (.datagram addr port f)).2 = []
  /-- Any other one of a sender with a slot goes once to each other live peer. -/
  once : ∀ before addr port f after, events = before ++ .datagram addr port f :: after →
    let (peers, sent) := step (run before) (.datagram addr port f)
    f.id ≠ 0 → sockaddr addr port ∈ livePeers peers →
      (∀ s ∈ sent, s.frame = f) ∧ ∀ a, (sent.map Sent.peer).count a =
        if a ∈ livePeers peers ∧ a ≠ sockaddr addr port then 1 else 0
  /-- A peer that keeps sending keeps its slot. -/
  keeps : ∀ before after addr port i, events = before ++ after → Regular addr port events →
    HasSlot (run before) i (sockaddr addr port) → HasSlot (run events) i (sockaddr addr port)

/-- Every run of datagrams and alarms distributes. -/
theorem hcand_distributes (events : List Event) (nonzero : Nonzero events) :
    Distributes events := by
  constructor
  · have table := table_run nonzero
    apply table.distinct.nodup.map_on
    intro a memberA b memberB same
    obtain ⟨_, _, _, rfl, -⟩ := table.sender a memberA
    obtain ⟨_, _, _, rfl, -⟩ := table.sender b memberB
    exact congrArg₂ sockaddr (Prod.mk.inj same).1 (Prod.mk.inj same).2
  · rintro before addr port f after rfl zero
    have sender : addr ≠ 0 := nonzero addr port f (by simp)
    rcases receive_cases (run before) (sockaddr addr port) f sender with
      ⟨_, _, _, _, -, sent⟩ | ⟨-, same⟩
    · exact sent.trans (if_pos zero)
    · exact congrArg Prod.snd same
  · rintro before addr port f after rfl
    have sender : addr ≠ 0 := nonzero addr port f (by simp)
    have table : Table (before ++ [.datagram addr port f]) (run _) :=
      table_run fun addr port f member => nonzero addr port f (by
        rw [List.append_cons]
        exact List.mem_append_left _ member)
    rw [run_snoc] at table
    exact receive_sent table.distinct.nodup sender
  · rintro before after addr port i rfl regular slot
    exact slot_run nonzero regular slot

/-- Two senders and an alarm. -/
def twoSenders : List Event :=
  [.datagram 1 7 ⟨0, 0, .replicate 8 0⟩, .datagram 2 7 ⟨9, 1, .replicate 8 3⟩, .alarm]

theorem hcand_distributes_twoSenders : Distributes twoSenders := by
  apply hcand_distributes
  intro addr port f member
  simp only [twoSenders, List.mem_cons, List.not_mem_nil, or_false, reduceCtorEq] at member
  rcases member with first | second
  · rw [(Event.datagram.inj first).1]
    decide
  · rw [(Event.datagram.inj second).1]
    decide

end Hcan.Hcand
