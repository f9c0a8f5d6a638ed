import Hcan.Hcanaddressd.Peers
import Hcan.Library.Countdown
import Hcan.Library.Keyed

/-!
# When `hcanaddressd` releases an address

A slot becomes free in the turn whose `read` sees the end of the stream.  A connection that
has ended keeps its slot for one turn for each 64 unread bytes begun, one for a reset and
one more, and the `accept` of a turn comes before its reads.
-/

namespace Hcan.Hcanaddressd

open Hcan.Library

/-- The turns until the slot of an ended connection is free. -/
def Conn.turns (conn : Conn) : Nat := (conn.unread + 63) / 64 + conn.ending.getD 0 + 1

/-- The next `read` sees the end of the stream. -/
def Conn.AtEnd (conn : Conn) : Prop := conn.unread = 0 ∧ conn.ending = some 0

instance (conn : Conn) : Decidable conn.AtEnd := inferInstanceAs (Decidable (_ ∧ _))

theorem sizeT_min_ne_zero {unread : Nat} (some_ : 0 < unread) :
    sizeT (min (64 : Nat) (unread : Int)) ≠ 0 := by
  unfold sizeT
  omega

/-- Only the end of the stream counts as 0; -1 is a large `size_t`. -/
theorem sizeT_read_eq_zero_iff (conn : Conn) : sizeT (conn.read 64).1 = 0 ↔ conn.AtEnd := by
  unfold Conn.read Conn.AtEnd
  split
  · next some_ =>
      constructor
      · intro zero
        exact absurd zero (sizeT_min_ne_zero some_)
      · rintro ⟨nothing, -⟩
        omega
  · next nothing =>
      have empty : conn.unread = 0 := by omega
      cases ending : conn.ending with
      | none => simp [sizeT]
      | some errors =>
          cases errors with
          | zero => simp [sizeT, empty]
          | succ errors => simp [sizeT]

theorem read_ending_none_iff (conn : Conn) :
    (conn.read 64).2.ending = none ↔ conn.ending = none := by
  unfold Conn.read
  split
  · rfl
  · cases ending : conn.ending with
    | none => simp [ending]
    | some errors => cases errors <;> simp [ending]

theorem read_address (conn : Conn) : (conn.read 64).2.address = conn.address := by
  unfold Conn.read
  split
  · rfl
  · cases conn.ending with
    | none => rfl
    | some errors => cases errors <;> rfl

/-- A `read` before the end of the stream takes one turn off. -/
theorem read_turns {conn : Conn} (ended : conn.ending ≠ none) (before : ¬conn.AtEnd) :
    (conn.read 64).2.turns + 1 = conn.turns := by
  unfold Conn.read Conn.turns
  unfold Conn.AtEnd at before
  split
  · dsimp only
    omega
  · cases ending : conn.ending with
    | none => exact absurd ending ended
    | some errors =>
        cases errors with
        | zero => exact absurd ⟨by omega, ending⟩ before
        | succ errors =>
            simp only [Option.getD_some]
            omega

theorem turns_atEnd {conn : Conn} (end_ : conn.AtEnd) : conn.turns = 1 := by
  unfold Conn.turns
  rw [end_.1, end_.2]
  rfl

theorem readable_of_ended {conn : Conn} (ended : conn.ending ≠ none) : conn.readable = true := by
  unfold Conn.readable
  cases ending : conn.ending with
  | none => exact absurd ending ended
  | some errors => simp

/-- A slot behind the loop. -/
def readPeer (ready : Nat → Bool) (conns : Nat → Conn) (p : Peer) : Peer :=
  match p.socket with
  | some sock => if ready sock ∧ (conns sock).AtEnd then { p with socket := none } else p
  | none => p

/-- The distinct sockets are read once each. -/
theorem readPeers_eq (ready : Nat → Bool) {peers : List Peer} (conns : Nat → Conn)
    (distinct : Distinct Peer.socket peers) :
    (readPeers ready peers conns).1 = peers.map (readPeer ready conns) ∧
      ∀ sock, (readPeers ready peers conns).2 sock =
        if ready sock ∧ ∃ p ∈ peers, p.socket = some sock then ((conns sock).read 64).2
        else conns sock := by
  induction peers generalizing conns with
  | nil => exact ⟨rfl, fun sock => by simp [readPeers]⟩
  | cons p peers ih =>
      cases held : p.socket with
      | none =>
          obtain ⟨slots, reads⟩ := ih conns distinct.tail
          constructor
          · simp [readPeers, readPeer, held, slots]
          · intro sock
            simp [readPeers, held, reads]
      | some first =>
          have others := distinct.head held
          by_cases isReady : ready first = true
          · obtain ⟨slots, reads⟩ :=
              ih (Function.update conns first ((conns first).read 64).2) distinct.tail
            constructor
            · have rest : peers.map (readPeer ready
                  (Function.update conns first ((conns first).read 64).2)) =
                  peers.map (readPeer ready conns) := by
                apply List.map_congr_left
                intro q member
                unfold readPeer
                cases heldQ : q.socket with
                | none => rfl
                | some sock =>
                    have other : sock ≠ first := fun same => others q member (same ▸ heldQ)
                    dsimp only
                    rw [Function.update_of_ne other]
              simp only [readPeers, held, isReady, if_true, slots, rest, List.map_cons,
                sizeT_read_eq_zero_iff]
              simp [readPeer, held, isReady]
            · intro sock
              simp only [readPeers, held, isReady, if_true, reads]
              by_cases same : sock = first
              · subst same
                have none_ : ¬∃ q ∈ peers, q.socket = some sock := by
                  rintro ⟨q, member, again⟩
                  exact others q member again
                simp [none_, held, isReady]
              · have swap : first ≠ sock := fun eq => same eq.symm
                simp [Function.update_of_ne same, held, swap]
          · obtain ⟨slots, reads⟩ := ih conns distinct.tail
            constructor
            · simp [readPeers, readPeer, held, isReady, slots]
            · intro sock
              simp only [readPeers, held, isReady, reads, Bool.false_eq_true, if_false]
              by_cases same : sock = first
              · subst same
                simp [isReady]
              · have swap : first ≠ sock := fun eq => same eq.symm
                simp [held, swap]

theorem mem_readPeers {ready : Nat → Bool} {peers : List Peer} {conns : Nat → Conn}
    {sock address : Nat} :
    (⟨some sock, address⟩ : Peer) ∈ peers.map (readPeer ready conns) ↔
      (⟨some sock, address⟩ : Peer) ∈ peers ∧ ¬(ready sock ∧ (conns sock).AtEnd) := by
  rw [List.mem_map]
  constructor
  · rintro ⟨⟨socket, own⟩, member, read⟩
    unfold readPeer at read
    cases socket with
    | none => exact nomatch read
    | some other =>
        dsimp only at read
        split at read
        · exact nomatch read
        · next kept =>
            cases read
            exact ⟨member, kept⟩
  · rintro ⟨member, kept⟩
    exact ⟨_, member, if_neg kept⟩

/-! ## The turns and the clients -/

/-- A client has the slot of an address. -/
def State.Holds (s : State) (client address : Nat) : Prop :=
  (⟨some client, address⟩ : Peer) ∈ s.peers

/-- What holds in every reachable state. -/
structure Invariant (s : State) : Prop where
  addresses : s.peers.map Peer.address = (List.range maxPeer).map (512 + ·)
  distinct : Distinct Peer.socket s.peers
  holders : ∀ client address, s.Holds client address → client < s.next ∧ client ∉ s.backlog
  waiting : s.backlog.Nodup
  connected : ∀ client ∈ s.backlog, client < s.next
  fresh : ∀ client, s.next ≤ client → s.conns client = .fresh
  /-- A client with a connection knows the address of its slot and no other. -/
  known : ∀ client address, (s.conns client).ending = none →
    ((s.conns client).address = some address ↔ s.Holds client address)

theorem invariant_start : Invariant .start where
  addresses := by simp [State.start, initPeerArray, Function.comp_def]
  distinct := .of_free fun p member => by
    obtain ⟨i, -, rfl⟩ := List.mem_map.mp member
    rfl
  holders client address held := by
    obtain ⟨i, -, same⟩ := List.mem_map.mp held
    exact nomatch same
  waiting := List.nodup_nil
  connected client member := nomatch member
  fresh _ _ := rfl
  known client address _ := by
    refine ⟨fun known => (nomatch known), fun held => ?_⟩
    obtain ⟨i, -, same⟩ := List.mem_map.mp held
    exact nomatch same

theorem invariant_connect {s : State} (inv : Invariant s) : Invariant (s.step .connect) where
  addresses := inv.addresses
  distinct := inv.distinct
  holders client address held := by
    obtain ⟨old, accepted⟩ := inv.holders client address held
    refine ⟨Nat.lt_succ_of_lt old, fun waits => ?_⟩
    rcases List.mem_append.mp waits with before | new
    · exact accepted before
    · exact absurd (List.mem_singleton.mp new) (Nat.ne_of_lt old)
  waiting := by
    refine List.nodup_append.mpr ⟨inv.waiting, List.nodup_singleton _, ?_⟩
    intro client before new there same
    rw [List.mem_singleton.mp there] at same
    exact absurd same (Nat.ne_of_lt (inv.connected client before))
  connected client waits := by
    rcases List.mem_append.mp waits with before | new
    · exact Nat.lt_succ_of_lt (inv.connected client before)
    · exact List.mem_singleton.mp new ▸ Nat.lt_succ_self _
  fresh client beyond := inv.fresh client (Nat.le_of_succ_le beyond)
  known := inv.known

/-- A client that writes, closes or resets keeps what it was sent. -/
theorem invariant_modify {s : State} (inv : Invariant s) {client : Nat} {change : Conn → Conn}
    (address : ∀ conn, (change conn).address = conn.address) :
    Invariant (s.modify client change) := by
  unfold State.modify
  split
  · next active =>
      refine ⟨inv.addresses, inv.distinct, inv.holders, inv.waiting, inv.connected, ?_, ?_⟩
      · intro other beyond
        have differs : other ≠ client := by
          rintro rfl
          exact absurd active.1 (Nat.not_lt.mpr beyond)
        exact (Function.update_of_ne differs ..).trans (inv.fresh other beyond)
      · intro other own open_
        by_cases same : other = client
        · subst same
          dsimp only
          rw [Function.update_self, address]
          exact inv.known other own active.2
        · dsimp only at open_ ⊢
          rw [Function.update_of_ne same] at open_ ⊢
          exact inv.known other own open_
  · exact inv

/-- No slot is free. -/
def State.Full (s : State) : Prop := ∀ p ∈ s.peers, p.socket ≠ none

/-- What becomes of the connection that has waited longest. -/
theorem accept_cases (s : State) :
    (s.backlog = [] ∧ s.accept = s) ∨
    (∃ sock backlog i p, s.backlog = sock :: backlog ∧ s.peers[i]? = some p ∧ p.socket = none ∧
      (assignAddress s.peers sock).1 = some p.address ∧
      s.accept = { s with
        peers := s.peers.modify i fun p => { p with socket := some sock }
        conns := Function.update s.conns sock ((s.conns sock).write p.address)
        backlog }) ∨
    ∃ sock backlog, s.backlog = sock :: backlog ∧ s.Full ∧
      (assignAddress s.peers sock).1 = none ∧ s.accept = { s with backlog } := by
  unfold State.accept
  cases waits : s.backlog with
  | nil => exact .inl ⟨rfl, rfl⟩
  | cons sock backlog =>
      right
      cases free : s.peers.findIdx? (fun p => p.socket.isNone) with
      | some i =>
          obtain ⟨bound, found, -⟩ := List.findIdx?_eq_some_iff_getElem.mp free
          have at_ : s.peers[i]? = some s.peers[i] := List.getElem?_eq_getElem bound
          have assigned : assignAddress s.peers sock = (some s.peers[i].address,
              s.peers.modify i fun p => { p with socket := some sock }) := by
            unfold assignAddress
            rw [free]
            dsimp only
            rw [at_]
            rfl
          refine .inl ⟨sock, backlog, i, s.peers[i], rfl, at_, by simpa using found, ?_, ?_⟩
          · rw [assigned]
          · simp only [assigned]
      | none =>
          have assigned : assignAddress s.peers sock = (none, s.peers) := by
            unfold assignAddress
            rw [free]
          refine .inr ⟨sock, backlog, rfl, ?_, ?_, ?_⟩
          · intro p member unused
            have used := List.findIdx?_eq_none_iff.mp free p member
            simp [unused] at used
          · rw [assigned]
          · simp only [assigned]

/-- The slot that an accepted connection takes. -/
theorem mem_modify_socket {peers : List Peer} {i sock client address : Nat} {p : Peer}
    (at_ : peers[i]? = some p) (free : p.socket = none) :
    (⟨some client, address⟩ : Peer) ∈ peers.modify i (fun p => { p with socket := some sock }) ↔
      (⟨some client, address⟩ : Peer) ∈ peers ∨ client = sock ∧ address = p.address := by
  simp only [List.mem_iff_getElem?, List.getElem?_modify]
  constructor
  · rintro ⟨j, there⟩
    obtain ⟨q, was, same⟩ := Option.map_eq_some_iff.mp there
    split at same
    · next here =>
        subst here
        rw [at_] at was
        cases was
        cases same
        exact .inr ⟨rfl, rfl⟩
    · cases same
      exact .inl ⟨j, was⟩
  · rintro (⟨j, there⟩ | ⟨rfl, rfl⟩)
    · refine ⟨j, ?_⟩
      by_cases same : i = j
      · subst same
        rw [at_] at there
        cases there
        exact nomatch free
      · simp [same, there]
    · exact ⟨i, by simp [at_]⟩

theorem write_ending_none_iff (conn : Conn) (address : Nat) :
    (conn.write address).ending = none ↔ conn.ending = none := by
  unfold Conn.write
  split
  · next errors pending => simp [pending]
  · rfl

theorem write_address {conn : Conn} (open_ : conn.ending = none) (address : Nat) :
    (conn.write address).address = some address := by
  unfold Conn.write
  rw [open_]

theorem invariant_accept {s : State} (inv : Invariant s) : Invariant s.accept := by
  rcases accept_cases s with ⟨-, same⟩ | ⟨sock, backlog, i, p, waits, at_, free, -, accepted⟩ |
    ⟨sock, backlog, waits, -, -, refused⟩
  · rwa [same]
  · rw [accepted]
    have waiting := inv.waiting
    rw [waits] at waiting
    obtain ⟨once, rest⟩ := List.nodup_cons.mp waiting
    have first : sock ∈ s.backlog := waits ▸ List.mem_cons_self
    have later : ∀ client ∈ backlog, client ∈ s.backlog := fun client member =>
      waits ▸ List.mem_cons_of_mem _ member
    refine ⟨?_, ?_, ?_, rest, fun client member => inv.connected client (later client member),
      ?_, ?_⟩
    · rw [← inv.addresses]
      apply List.ext_getElem?
      intro j
      simp only [List.getElem?_map, List.getElem?_modify]
      cases s.peers[j]? with
      | none => rfl
      | some q => split <;> rfl
    · apply inv.distinct.modify
      intro q k atQ new
      cases new
      refine .inr fun r member held => (inv.holders sock r.address ?_).2 first
      unfold State.Holds
      rw [← held]
      exact member
    · intro client address held
      rcases (mem_modify_socket at_ free).mp held with before | ⟨rfl, rfl⟩
      · obtain ⟨old, gone⟩ := inv.holders client address before
        exact ⟨old, fun waits => gone (later client waits)⟩
      · exact ⟨inv.connected client first, once⟩
    · intro client beyond
      have differs : client ≠ sock := by
        rintro rfl
        exact absurd (inv.connected client first) (Nat.not_lt.mpr beyond)
      exact (Function.update_of_ne differs ..).trans (inv.fresh client beyond)
    · intro client address open_
      unfold State.Holds
      dsimp only at open_ ⊢
      rw [mem_modify_socket at_ free]
      by_cases same : client = sock
      · subst same
        rw [Function.update_self] at open_ ⊢
        have none_ : ¬s.Holds client address := fun held =>
          (inv.holders client address held).2 first
        rw [write_address ((write_ending_none_iff ..).mp open_), Option.some_inj]
        constructor
        · rintro rfl
          exact .inr ⟨rfl, rfl⟩
        · rintro (held | ⟨-, rfl⟩)
          · exact absurd held none_
          · rfl
      · rw [Function.update_of_ne same] at open_ ⊢
        rw [inv.known client address open_]
        simp [State.Holds, same]
  · rw [refused]
    have waiting := inv.waiting
    rw [waits] at waiting
    have later : ∀ client ∈ backlog, client ∈ s.backlog := fun client member =>
      waits ▸ List.mem_cons_of_mem _ member
    refine ⟨inv.addresses, inv.distinct, ?_, (List.nodup_cons.mp waiting).2,
      fun client member => inv.connected client (later client member), inv.fresh, inv.known⟩
    intro client address held
    obtain ⟨old, gone⟩ := inv.holders client address held
    exact ⟨old, fun waits => gone (later client waits)⟩

theorem holds_socket {s : State} {client : Nat} :
    (∃ p ∈ s.peers, p.socket = some client) ↔ ∃ address, s.Holds client address := by
  constructor
  · rintro ⟨⟨socket, address⟩, member, rfl⟩
    exact ⟨address, member⟩
  · rintro ⟨address, member⟩
    exact ⟨_, member, rfl⟩

/-- The slots and the connections behind one turn. -/
theorem round_spec {s : State} (inv : Invariant s) :
    s.round.peers = s.accept.peers.map (readPeer s.ready s.accept.conns) ∧
      ∀ client, s.round.conns client =
        if s.ready client ∧ ∃ p ∈ s.accept.peers, p.socket = some client then
          ((s.accept.conns client).read 64).2
        else s.accept.conns client :=
  readPeers_eq s.ready s.accept.conns (invariant_accept inv).distinct

theorem invariant_round {s : State} (inv : Invariant s) : Invariant s.round := by
  have inv' := invariant_accept inv
  obtain ⟨peers, conns⟩ := round_spec inv
  have holds : ∀ client address, s.round.Holds client address ↔
      s.accept.Holds client address ∧
        ¬(s.ready client ∧ (s.accept.conns client).AtEnd) := by
    intro client address
    unfold State.Holds
    rw [peers]
    exact mem_readPeers
  have keeps : ∀ p, (readPeer s.ready s.accept.conns p).address = p.address := by
    intro p
    unfold readPeer
    split
    · split <;> rfl
    · rfl
  refine ⟨?_, ?_, ?_, inv'.waiting, inv'.connected, ?_, ?_⟩
  · rw [peers, List.map_map, ← inv'.addresses]
    exact List.map_congr_left fun p _ => keeps p
  · rw [peers]
    apply inv'.distinct.map
    intro p k held
    unfold readPeer at held
    split at held
    · next sock was =>
        split at held
        · exact nomatch held
        · exact held
    · exact held
  · intro client address held
    exact inv'.holders client address ((holds client address).mp held).1
  · intro client beyond
    have none_ : ¬∃ p ∈ s.accept.peers, p.socket = some client := by
      rw [holds_socket]
      rintro ⟨address, held⟩
      exact absurd (inv'.holders client address held).1 (Nat.not_lt.mpr beyond)
    rw [conns, if_neg (fun both => none_ both.2)]
    exact inv'.fresh client beyond
  · intro client address open_
    have before : (s.accept.conns client).ending = none := by
      rw [conns] at open_
      split at open_
      · exact (read_ending_none_iff _).mp open_
      · exact open_
    have sent : (s.round.conns client).address = (s.accept.conns client).address := by
      rw [conns]
      split
      · exact read_address _
      · rfl
    have notAtEnd : ¬(s.accept.conns client).AtEnd := fun end_ =>
      absurd (end_.2.symm.trans before) (Option.some_ne_none _)
    rw [sent, inv'.known client address before, holds]
    simp [notAtEnd]

theorem invariant_step {s : State} (inv : Invariant s) (event : Event) :
    Invariant (s.step event) := by
  unfold State.step
  cases event with
  | connect => exact invariant_connect inv
  | data client bytes => exact invariant_modify inv fun _ => rfl
  | close client => exact invariant_modify inv fun _ => rfl
  | reset client => exact invariant_modify inv fun _ => rfl
  | round => exact invariant_round inv

theorem run_snoc (events : List Event) (event : Event) :
    run (events ++ [event]) = (run events).step event := List.foldl_concat ..

theorem invariant_run (events : List Event) : Invariant (run events) := by
  induction events using List.reverseRecOn with
  | nil => exact invariant_start
  | append_singleton events event ih =>
      rw [run_snoc]
      exact invariant_step ih event

/-- A client has a slot although its connection has ended. -/
def State.Lingers (s : State) (client : Nat) : Prop :=
  (∃ address, s.Holds client address) ∧ (s.conns client).ending ≠ none

/-- The turns of the select loop. -/
def turn : Event → Nat
  | .round => 1
  | _ => 0

theorem lingers_modify {s : State} {client : Nat} (lingers : s.Lingers client) (other : Nat)
    (change : Conn → Conn) :
    (s.modify other change).Lingers client ∧
      (s.modify other change).conns client = s.conns client := by
  unfold State.modify
  split
  · next active =>
      have differs : client ≠ other := by
        rintro rfl
        exact lingers.2 active.2
      have same : Function.update s.conns other (change (s.conns other)) client =
          s.conns client := Function.update_of_ne differs ..
      exact ⟨⟨lingers.1, fun open_ => lingers.2 (same ▸ open_)⟩, same⟩
  · exact ⟨lingers, rfl⟩

/-- The `accept` of another connection. -/
theorem lingers_accept {s : State} (inv : Invariant s) {client : Nat}
    (lingers : s.Lingers client) :
    (∃ address, s.accept.Holds client address) ∧ s.accept.conns client = s.conns client := by
  obtain ⟨⟨address, held⟩, -⟩ := lingers
  rcases accept_cases s with ⟨-, same⟩ | ⟨sock, backlog, i, p, waits, at_, free, -, accepted⟩ |
    ⟨sock, backlog, -, -, -, refused⟩
  · rw [same]
    exact ⟨⟨address, held⟩, rfl⟩
  · have differs : client ≠ sock := by
      rintro rfl
      exact (inv.holders client address held).2 (waits ▸ List.mem_cons_self)
    rw [accepted]
    exact ⟨⟨address, (mem_modify_socket at_ free).mpr (.inl held)⟩,
      Function.update_of_ne differs ..⟩
  · rw [refused]
    exact ⟨⟨address, held⟩, rfl⟩

/-- One turn reads once from a connection that has ended. -/
theorem lingers_round {s : State} (inv : Invariant s) {client : Nat}
    (lingers : s.Lingers client) :
    if (s.conns client).AtEnd then ¬∃ address, s.round.Holds client address
    else s.round.Lingers client ∧
      (s.round.conns client).turns + 1 = (s.conns client).turns := by
  obtain ⟨⟨address, held⟩, same⟩ := lingers_accept inv lingers
  obtain ⟨peers, conns⟩ := round_spec inv
  have ready : s.ready client = true := by
    obtain ⟨⟨own, before⟩, ended⟩ := lingers
    unfold State.ready
    rw [readable_of_ended ended, Bool.and_true, List.any_eq_true]
    exact ⟨_, before, by simp⟩
  have holds : ∀ own, s.round.Holds client own ↔
      s.accept.Holds client own ∧ ¬(s.conns client).AtEnd := by
    intro own
    unfold State.Holds
    rw [peers, mem_readPeers, same]
    simp [ready]
  have read : s.round.conns client = ((s.conns client).read 64).2 := by
    rw [conns, if_pos ⟨ready, _, held, rfl⟩, same]
  split
  · next end_ =>
      rintro ⟨own, again⟩
      exact ((holds own).mp again).2 end_
  · next before =>
      refine ⟨⟨⟨address, (holds address).mpr ⟨held, before⟩⟩, ?_⟩, ?_⟩
      · rw [read]
        exact fun open_ => lingers.2 ((read_ending_none_iff _).mp open_)
      · rw [read]
        exact read_turns lingers.2 before

theorem turns_eq_one_iff {conn : Conn} (ended : conn.ending ≠ none) :
    conn.turns = 1 ↔ conn.AtEnd := by
  refine ⟨fun one => ?_, turns_atEnd⟩
  unfold Conn.turns at one
  cases ending : conn.ending with
  | none => exact absurd ending ended
  | some errors =>
      rw [ending, Option.getD_some] at one
      have zero : errors = 0 := by omega
      exact ⟨by omega, zero ▸ ending⟩

/-- A client that has gone keeps its slot for the turns of its connection. -/
theorem lingers_countdown (client : Nat) :
    Countdown State.step (fun s => Invariant s ∧ s.Lingers client)
      (fun s => (s.conns client).turns) turn where
  stays s event := by
    rintro ⟨inv, lingers⟩ more
    have inv' := invariant_step inv event
    cases event with
    | connect => exact ⟨⟨inv', lingers⟩, rfl⟩
    | data other bytes =>
        obtain ⟨still, same⟩ := lingers_modify lingers other _
        exact ⟨⟨inv', still⟩, congrArg Conn.turns same⟩
    | close other =>
        obtain ⟨still, same⟩ := lingers_modify lingers other _
        exact ⟨⟨inv', still⟩, congrArg Conn.turns same⟩
    | reset other =>
        obtain ⟨still, same⟩ := lingers_modify lingers other _
        exact ⟨⟨inv', still⟩, congrArg Conn.turns same⟩
    | round =>
        have turned := lingers_round inv lingers
        rw [if_neg (fun end_ => by
          rw [turns_atEnd end_] at more
          exact Nat.lt_irrefl _ more)] at turned
        exact ⟨⟨inv', turned.1⟩, turned.2⟩
  ends s event := by
    rintro ⟨inv, lingers⟩ last ⟨-, still⟩
    have positive : 0 < (s.conns client).turns := Nat.succ_pos _
    cases event with
    | connect => exact absurd last (Nat.not_le.mpr positive)
    | data other bytes => exact absurd last (Nat.not_le.mpr positive)
    | close other => exact absurd last (Nat.not_le.mpr positive)
    | reset other => exact absurd last (Nat.not_le.mpr positive)
    | round =>
        have turned := lingers_round inv lingers
        rw [if_pos ((turns_eq_one_iff lingers.2).mp (Nat.le_antisymm last positive))] at turned
        exact turned still.1

/-! ## Addresses over a run -/

/-- The connection that has waited longest is closed without an address. -/
def State.Refuses (s : State) : Prop :=
  ∃ sock backlog, s.backlog = sock :: backlog ∧ (assignAddress s.peers sock).1 = none

/-- A client that was sent an address and has its connection. -/
def State.Connected (s : State) (client address : Nat) : Prop :=
  (s.conns client).address = some address ∧ (s.conns client).ending = none

/-- Connected clients have different dynamic addresses, and none is refused one unless all
addresses are theirs. -/
structure Allots (events : List Event) : Prop where
  range : ∀ front, front <+: events → ∀ client address, (run front).Connected client address →
    512 ≤ address ∧ address < 512 + maxPeer
  different : ∀ front, front <+: events → ∀ client other address,
    (run front).Connected client address → (run front).Connected other address → client = other
  refused : ∀ front, front ++ [.round] <+: events → (run front).Refuses →
    ∀ p ∈ (run front).peers, ∃ client, p.socket = some client ∧
      (run front).Connected client p.address

/-- When a client waits while no slot is free, the turns of every connection that has ended,
counted from the event that left an ended connection in its slot, are over. -/
def Unhurried (events : List Event) : Prop :=
  ∀ front event back client, front ++ event :: back ++ [.round] <+: events →
    ¬(run front).Lingers client → (run (front ++ [event])).Lingers client →
    (run (front ++ event :: back)).backlog ≠ [] → (run (front ++ event :: back)).Full →
    ((run (front ++ [event])).conns client).turns ≤ tally turn back

theorem refuses_iff {s : State} : s.Refuses ↔ s.backlog ≠ [] ∧ s.Full := by
  unfold State.Refuses
  rcases accept_cases s with ⟨none_, -⟩ | ⟨sock, backlog, i, p, waits, at_, free, assigned, -⟩ |
    ⟨sock, backlog, waits, full, refused, -⟩
  · simp [none_]
  · constructor
    · rintro ⟨_, _, same, none_⟩
      cases waits.symm.trans same
      exact nomatch assigned.symm.trans none_
    · rintro ⟨-, full⟩
      exact absurd free (full p (List.mem_of_getElem? at_))
  · refine ⟨fun _ => ⟨waits ▸ List.cons_ne_nil _ _, full⟩, fun _ => ⟨sock, backlog, waits, refused⟩⟩

theorem connected_iff {s : State} (inv : Invariant s) {client address : Nat} :
    s.Connected client address ↔ s.Holds client address ∧ (s.conns client).ending = none := by
  unfold State.Connected
  exact and_congr_left fun open_ => inv.known client address open_

theorem holds_range {s : State} (inv : Invariant s) {client address : Nat}
    (held : s.Holds client address) : 512 ≤ address ∧ address < 512 + maxPeer := by
  have member : address ∈ s.peers.map Peer.address := List.mem_map_of_mem held
  rw [inv.addresses] at member
  obtain ⟨i, inside, rfl⟩ := List.mem_map.mp member
  exact ⟨Nat.le_add_right .., Nat.add_lt_add_left (List.mem_range.mp inside) _⟩

theorem holds_different {s : State} (inv : Invariant s) {client other address : Nat}
    (held : s.Holds client address) (held' : s.Holds other address) : client = other := by
  have nodup : (s.peers.map Peer.address).Nodup := by
    rw [inv.addresses]
    exact List.nodup_range.map fun _ _ => Nat.add_left_cancel
  have same := List.inj_on_of_nodup_map nodup held held' rfl
  cases same
  rfl

/-- All clients that hold an address when one is refused are connected exactly in the runs
that leave the daemon its turns. -/
theorem allots_iff (events : List Event) : Allots events ↔ Unhurried events := by
  constructor
  · intro allots front event back client inside before begun waits full
    by_contra more
    have countdown := lingers_countdown client
    have now := countdown.persists back ⟨invariant_run (front ++ [event]), begun⟩
      (Nat.lt_of_not_le more)
    have reached : back.foldl State.step (run (front ++ [event])) =
        run (front ++ event :: back) := by
      unfold run
      rw [← List.foldl_append, List.append_assoc, List.singleton_append]
    rw [reached] at now
    obtain ⟨-, ⟨address, held⟩, ended⟩ := now
    obtain ⟨other, same, -, open_⟩ :=
      allots.refused _ inside (refuses_iff.mpr ⟨waits, full⟩) _ held
    cases same
    exact ended open_
  · intro unhurried
    refine ⟨fun front _ client address connected => ?_,
      fun front _ client other address first second => ?_, fun front inside refuses => ?_⟩
    · have inv := invariant_run front
      exact holds_range inv ((connected_iff inv).mp connected).1
    · have inv := invariant_run front
      exact holds_different inv ((connected_iff inv).mp first).1 ((connected_iff inv).mp second).1
    · obtain ⟨waits, full⟩ := refuses_iff.mp refuses
      rintro ⟨socket, address⟩ member
      obtain ⟨client, rfl⟩ := Option.ne_none_iff_exists'.mp (full _ member)
      refine ⟨client, rfl, (connected_iff (invariant_run front)).mpr ⟨member, ?_⟩⟩
      by_contra ended
      have lingers : (run front).Lingers client := ⟨⟨address, member⟩, ended⟩
      have before : ¬(Invariant State.start ∧ State.start.Lingers client) := fun both => both.2.2 rfl
      obtain ⟨first, event, back, rfl, notYet, begun, measured⟩ :=
        (lingers_countdown client).onset front before ⟨invariant_run front, lingers⟩
      have passed := unhurried first event back client inside
        (fun lingers => notYet ⟨invariant_run first, lingers⟩) begun.2 waits full
      have left : 0 < ((run (first ++ event :: back)).conns client).turns := Nat.succ_pos _
      have total : ((run (first ++ event :: back)).conns client).turns + tally turn back =
          ((run (first ++ [event])).conns client).turns := measured
      omega

/-- All addresses are assigned; the first connection is reset, and a turn later another
client connects. -/
def resetBeforeConnect : List Event :=
  (List.replicate maxPeer [Event.connect, .round]).flatten ++ [.reset 0, .round, .connect]

/-- The client is refused an address although the first one has gone two turns ago. -/
theorem resetBeforeConnect_refused : ¬Allots (resetBeforeConnect ++ [.round]) := by
  intro allots
  have refuses : (run resetBeforeConnect).Refuses := ⟨32, [], by decide +kernel⟩
  obtain ⟨client, same, -, open_⟩ := allots.refused _ List.prefix_rfl refuses ⟨some 0, 512⟩
    (by decide +kernel)
  cases same
  revert open_
  decide +kernel

end Hcan.Hcanaddressd
