import Hcan.Library.Run
import Mathlib.Logic.Function.Basic

/-!
# The keys of the panel

The polling of the keys with its float counters.  A key event may sleep, and while it does the
idle callback polls the keys again: a call of `keys_handle_pressed` then runs inside another one,
which goes on with its old sample afterwards.  In every interleaving the events of a key alternate,
four ticks of 10 ms lie between two of them, and a key that six visits in a row have seen in one
position is in that state.
-/

namespace Hcan.Userpanel

open Hcan.Library

def keyCounterStart : UInt8 := 5
def keyMask : UInt16 := 0x3fcf

/-- `key_counter` and `key_state`, where 1 is true. -/
structure Keys where
  counter : Fin 16 → UInt8
  state : Fin 16 → Bool

def keysInit : Keys := ⟨fun _ => 0, fun _ => false⟩

/-- A pressed key pulls its pin to ground. -/
def keysKeyPressed (pina pind : UInt8) : UInt16 :=
  ~~~(pina.toUInt16 <<< 8 ||| pind.toUInt16) &&& keyMask

def keyBit (keys : UInt16) (key : Fin 16) : Bool := keys.toNat.testBit key

/-- Esc, up and down together. -/
def magicReset (keys : UInt16) : Bool := keyBit keys 2 && keyBit keys 7 && keyBit keys 6

/-- One round of the loop in `keys_handle_pressed`, and the event it raises.  The second test of
the round reads the same sample, so that a key whose down event has slept is not tested again. -/
def Keys.visit (k : Keys) (bit : Bool) (i : Fin 16) : Keys × Option Bool :=
  if k.counter i = 0 then
    if k.state i = false ∧ bit = true then
      (⟨Function.update k.counter i keyCounterStart, Function.update k.state i true⟩, some true)
    else if k.state i = true ∧ bit = false then
      (⟨Function.update k.counter i keyCounterStart, Function.update k.state i false⟩, some false)
    else (k, none)
  else ({ k with counter := Function.update k.counter i (k.counter i - 1) }, none)

/-- A call of `keys_handle_pressed`: its sample, the key it visits next, and whether the event of
the key before sleeps. -/
structure KeysCall where
  sample : UInt16
  next : Nat
  sleeping : Bool

/-- What has happened: a tick of 10 ms, a visit of a key that has found it pressed or not, and an
event, down or up. -/
inductive PanelEntry where
  | tick
  | visit (key : Fin 16) (bit : Bool)
  | event (key : Fin 16) (down : Bool)
  deriving DecidableEq

/-- `running` is the flag of `canix_sleep_100th`.  The innermost call and the newest entry stand
first. -/
structure PanelKeys where
  keys : Keys
  timerEvent100th : Bool
  running : Bool
  calls : List KeysCall
  log : List PanelEntry

inductive KeysEvent where
  | tick
  | idle (pina pind : UInt8)
  | visit (sleeps : Bool)
  | wake
  | finish
  | sleep
  | endSleep

namespace PanelKeys

def init : PanelKeys := ⟨keysInit, false, false, [], []⟩

/-- The call on top goes through one round of its loop.  Where the event sleeps while another
sleep is running, `canix_sleep_100th` returns at once. -/
def round (s : PanelKeys) (call : KeysCall) (rest : List KeysCall) (i : Fin 16) (sleeps : Bool) :
    PanelKeys :=
  let bit := keyBit call.sample i
  let visited := s.keys.visit bit i
  let asleep := visited.2.isSome && sleeps && !s.running
  { s with
    keys := visited.1
    running := s.running || asleep
    calls := { call with next := call.next + 1, sleeping := asleep } :: rest
    log := (visited.2.map (PanelEntry.event i)).toList ++ .visit i bit :: s.log }

/-- The idle callback runs in the main loop and in a sleep, also in that of a key event; other
code sleeps between two calls. -/
def step (s : PanelKeys) : KeysEvent → Option PanelKeys
  | .tick => some { s with timerEvent100th := true, log := .tick :: s.log }
  | .idle pina pind =>
      if s.calls.all KeysCall.sleeping then
        if s.timerEvent100th then
          let keys := keysKeyPressed pina pind
          if magicReset keys then some init
          else some { s with timerEvent100th := false, calls := ⟨keys, 0, false⟩ :: s.calls }
        else some s
      else none
  | .visit sleeps =>
      match s.calls with
      | call :: rest =>
          if inside : call.next < 16 then
            if call.sleeping then none else some (s.round call rest ⟨call.next, inside⟩ sleeps)
          else none
      | [] => none
  | .wake =>
      match s.calls with
      | call :: rest =>
          if call.sleeping then
            some { s with running := false, calls := { call with sleeping := false } :: rest }
          else none
      | [] => none
  | .finish =>
      match s.calls with
      | call :: rest =>
          if call.next = 16 ∧ call.sleeping = false then some { s with calls := rest } else none
      | [] => none
  | .sleep => if s.calls = [] ∧ s.running = false then some { s with running := true } else none
  | .endSleep => if s.calls = [] ∧ s.running = true then some { s with running := false } else none

end PanelKeys

/-- The last event of a key. -/
def lastEdge (key : Fin 16) : List PanelEntry → Option Bool
  | [] => none
  | .event other down :: log => if other = key then some down else lastEdge key log
  | .tick :: log | .visit _ _ :: log => lastEdge key log

/-- The ticks since the last event of a key. -/
def ticksSince (key : Fin 16) : List PanelEntry → Nat
  | [] => 0
  | .tick :: log => ticksSince key log + 1
  | .event other _ :: log => if other = key then 0 else ticksSince key log
  | .visit _ _ :: log => ticksSince key log

/-- How many visits of a key in a row have last found it in a position. -/
def steady (key : Fin 16) (bit : Bool) : List PanelEntry → Nat
  | [] => 0
  | .visit other found :: log =>
      if other = key then if found = bit then steady key bit log + 1 else 0
      else steady key bit log
  | .tick :: log | .event _ _ :: log => steady key bit log

/-- An event of a key after the entries before it: it is not the one the key had last, four ticks
lie between the two, and the key exists. -/
def Fits (log : List PanelEntry) (key : Fin 16) (down : Bool) : Prop :=
  down ≠ (lastEdge key log).getD false ∧ ((lastEdge key log).isSome → 4 ≤ ticksSince key log) ∧
    keyBit keyMask key = true

/-- Every event of the log fits. -/
def Debounced : List PanelEntry → Prop
  | [] => True
  | .event key down :: log => Fits log key down ∧ Debounced log
  | .tick :: log | .visit _ _ :: log => Debounced log

theorem Debounced.split {later earlier : List PanelEntry} {key : Fin 16} {down : Bool}
    (debounced : Debounced (later ++ .event key down :: earlier)) : Fits earlier key down := by
  induction later with
  | nil => exact debounced.1
  | cons entry later ih =>
      cases entry with
      | tick => exact ih debounced
      | visit => exact ih debounced
      | event => exact ih debounced.2

/-- Only keys that exist have events. -/
theorem Debounced.real {log : List PanelEntry} (debounced : Debounced log) {key : Fin 16}
    {down : Bool} (last : lastEdge key log = some down) : keyBit keyMask key = true := by
  induction log with
  | nil => cases last
  | cons entry log ih =>
      cases entry with
      | tick => exact ih debounced last
      | visit => exact ih debounced last
      | event other edge =>
          rw [lastEdge] at last
          split at last
          · rename_i same
            exact same ▸ debounced.1.2.2
          · exact ih debounced.2 last

/-! ## The invariant -/

/-- How many of the calls have still to visit a key. -/
def pending (calls : List KeysCall) (key : Fin 16) : Nat :=
  calls.countP fun call => decide (call.next ≤ key.val)

/-- There are two calls at most; the outer one of two sleeps. -/
def Nested (s : PanelKeys) : Prop :=
  s.calls = [] ∨ (∃ call, s.calls = [call] ∧ (call.sleeping = true → s.running = true)) ∨
    ∃ inner outer, s.calls = [inner, outer] ∧ s.running = true ∧ inner.sleeping = false

/-- Every call that has not visited the key yet, and the tick that has not been polled yet, takes
one of the ticks that the counter waits for. -/
structure KeyKept (s : PanelKeys) (key : Fin 16) : Prop where
  bound : (s.keys.counter key).toNat ≤ 5
  state : s.keys.state key = (lastEdge key s.log).getD false
  steady : ∀ bit, s.keys.state key ≠ bit →
    (s.keys.counter key).toNat + steady key bit s.log ≤ 5
  spaced : (lastEdge key s.log).isSome → 5 + pending s.calls key + s.timerEvent100th.toNat ≤
    (s.keys.counter key).toNat + ticksSince key s.log + 2

structure PanelKept (s : PanelKeys) : Prop where
  nested : Nested s
  samples : ∀ call ∈ s.calls, ∀ key, keyBit call.sample key = true → keyBit keyMask key = true
  debounced : Debounced s.log
  key : ∀ key, KeyKept s key

theorem Keys.visit_cases (k : Keys) (bit : Bool) (i : Fin 16) :
    (k.counter i = 0 ∧ k.state i ≠ bit ∧ k.visit bit i =
      (⟨Function.update k.counter i keyCounterStart, Function.update k.state i bit⟩, some bit)) ∨
    (k.counter i = 0 ∧ k.state i = bit ∧ k.visit bit i = (k, none)) ∨
    (k.counter i ≠ 0 ∧ k.visit bit i =
      (⟨Function.update k.counter i (k.counter i - 1), k.state⟩, none)) := by
  by_cases zero : k.counter i = 0
  · cases state : k.state i <;> cases bit <;> simp [visit, zero, state]
  · simp [visit, zero]

theorem keysKeyPressed_mask {pina pind : UInt8} {key : Fin 16}
    (pressed : keyBit (keysKeyPressed pina pind) key = true) : keyBit keyMask key = true := by
  rw [keyBit, keysKeyPressed, UInt16.toNat_and, Nat.testBit_and] at pressed
  exact (Bool.and_eq_true_iff.mp pressed).2

namespace PanelKeys

theorem init_kept : PanelKept init where
  nested := .inl rfl
  samples := fun _ inside => (List.not_mem_nil inside).elim
  debounced := trivial
  key := fun key => ⟨Nat.zero_le _, rfl, fun _ _ => Nat.zero_le _, fun event => by cases event⟩

variable {s t : PanelKeys}

/-- What a call on top needs of the calls below. -/
theorem nested_rest {call : KeysCall} {rest : List KeysCall} (nested : Nested s)
    (calls : s.calls = call :: rest) : rest.length ≤ 1 := by
  rcases nested with none_ | ⟨_, one, -⟩ | ⟨_, _, two, -⟩
  · rw [none_] at calls
    cases calls
  · rw [one] at calls
    cases calls
    exact Nat.zero_le _
  · rw [two] at calls
    cases calls
    exact le_rfl

theorem pending_le (calls : List KeysCall) (key : Fin 16) : pending calls key ≤ calls.length :=
  List.countP_le_length

theorem pending_cons (call : KeysCall) (rest : List KeysCall) (key : Fin 16) :
    pending (call :: rest) key = pending rest key + if call.next ≤ key.val then 1 else 0 := by
  rw [pending, List.countP_cons, pending]
  simp only [decide_eq_true_eq]

/-- The visited key is behind the call then, and the other keys are where they were. -/
theorem pending_advance (call : KeysCall) (rest : List KeysCall) (asleep : Bool) {i : Fin 16}
    (here : call.next = i.val) (key : Fin 16) :
    pending ({ call with next := call.next + 1, sleeping := asleep } :: rest) key +
      (if key = i then 1 else 0) = pending (call :: rest) key := by
  rw [pending_cons, pending_cons, here]
  by_cases same : key = i
  · subst same
    rw [if_neg (Nat.not_succ_le_self _), if_pos rfl, if_pos le_rfl, Nat.add_zero]
  · have apart : key.val ≠ i.val := fun equal => same (Fin.ext equal)
    have bounds : i.val + 1 ≤ key.val ↔ i.val ≤ key.val := by omega
    simp only [bounds, if_neg same, Nat.add_zero]

/-- A visit of another key changes nothing. -/
theorem key_other {i key : Fin 16} (other : key ≠ i) (kept : KeyKept s key) {bit : Bool}
    {t : PanelKeys} (counter : t.keys.counter key = s.keys.counter key)
    (state : t.keys.state key = s.keys.state key)
    (log : t.log = .visit i bit :: s.log ∨ ∃ down, t.log = .event i down :: .visit i bit :: s.log)
    (waiting : pending t.calls key = pending s.calls key)
    (timer : t.timerEvent100th = s.timerEvent100th) : KeyKept t key := by
  have apart : ¬ i = key := fun same => other same.symm
  have edge : lastEdge key t.log = lastEdge key s.log := by
    rcases log with log | ⟨down, log⟩ <;> rw [log] <;> simp only [lastEdge, if_neg apart]
  have ticks : ticksSince key t.log = ticksSince key s.log := by
    rcases log with log | ⟨down, log⟩ <;> rw [log] <;> simp only [ticksSince, if_neg apart]
  have stays : ∀ found, Userpanel.steady key found t.log = Userpanel.steady key found s.log := by
    intro found
    rcases log with log | ⟨down, log⟩ <;> rw [log] <;>
      simp only [Userpanel.steady, if_neg apart]
  refine ⟨?_, ?_, ?_, ?_⟩
  · rw [counter]
    exact kept.bound
  · rw [state, edge]
    exact kept.state
  · intro found
    rw [state, counter, stays]
    exact kept.steady found
  · rw [edge, counter, ticks, waiting, timer]
    exact kept.spaced

/-- The key that is visited without an event: the visit takes one of the ticks off the counter,
which the position now has been found once more. -/
theorem key_visited {i : Fin 16} (kept : KeyKept s i) {bit : Bool} {t : PanelKeys}
    (counter : (t.keys.counter i).toNat = (s.keys.counter i).toNat - 1)
    (quiet : s.keys.counter i = 0 → s.keys.state i = bit)
    (state : t.keys.state i = s.keys.state i) (log : t.log = .visit i bit :: s.log)
    (waiting : pending t.calls i + 1 = pending s.calls i)
    (timer : t.timerEvent100th = s.timerEvent100th) : KeyKept t i := by
  have edge : lastEdge i t.log = lastEdge i s.log := by rw [log]; rfl
  have ticks : ticksSince i t.log = ticksSince i s.log := by rw [log]; rfl
  refine ⟨?_, ?_, ?_, ?_⟩
  · have old := kept.bound
    omega
  · rw [state, edge]
    exact kept.state
  · intro found differs
    rw [state] at differs
    have old := kept.steady found differs
    rw [log, Userpanel.steady, if_pos rfl]
    by_cases same : bit = found
    · have running : s.keys.counter i ≠ 0 := fun zero => differs ((quiet zero).trans same)
      have positive : (s.keys.counter i).toNat ≠ 0 := fun zero => running (UInt8.toNat_inj.mp zero)
      rw [if_pos same]
      omega
    · rw [if_neg same]
      omega
  · intro event
    rw [edge] at event
    have old := kept.spaced event
    rw [ticks, timer]
    omega

/-- The key that has raised an event: one call at most has still to visit it. -/
theorem key_event {i : Fin 16} {bit : Bool} {t : PanelKeys}
    (counter : t.keys.counter i = keyCounterStart) (state : t.keys.state i = bit)
    (log : t.log = .event i bit :: .visit i bit :: s.log) (waiting : pending t.calls i ≤ 1) :
    KeyKept t i := by
  have five : (t.keys.counter i).toNat = 5 := by rw [counter]; rfl
  refine ⟨?_, ?_, ?_, ?_⟩
  · rw [five]
  · rw [state, log, lastEdge, if_pos rfl]
    rfl
  · intro found differs
    rw [state] at differs
    rw [five, log]
    simp only [Userpanel.steady, if_neg differs, if_true, Nat.add_zero, le_refl]
  · intro _
    have timer := Bool.toNat_le t.timerEvent100th
    rw [five, log, ticksSince, if_pos rfl]
    omega

theorem nested_round (nested : Nested s) {call : KeysCall} {rest : List KeysCall}
    (calls : s.calls = call :: rest) {asleep : Bool}
    (only : asleep = true → s.running = false) {t : PanelKeys}
    (next : t.calls = { call with next := call.next + 1, sleeping := asleep } :: rest)
    (flag : t.running = (s.running || asleep)) : Nested t := by
  cases rest with
  | nil =>
      refine .inr (.inl ⟨_, next, fun sleeping => ?_⟩)
      rw [flag, show asleep = true from sleeping, Bool.or_true]
  | cons outer rest =>
      rcases nested with none_ | ⟨_, one, -⟩ | ⟨inner, outer', two, sleeping, -⟩
      · rw [none_] at calls
        cases calls
      · rw [one] at calls
        cases calls
      · rw [two] at calls
        cases calls
        refine .inr (.inr ⟨_, outer, next, by rw [flag, sleeping, Bool.true_or], ?_⟩)
        change asleep = false
        rw [sleeping] at only
        exact Bool.eq_false_iff.mpr fun up => absurd (only up) Bool.true_eq_false.mp

/-- Advancing the call on top leaves one call less for the visited key. -/
theorem pending_round {call : KeysCall} {rest : List KeysCall} (calls : s.calls = call :: rest)
    {i : Fin 16} (here : call.next = i.val) {asleep : Bool} {t : PanelKeys}
    (next : t.calls = { call with next := call.next + 1, sleeping := asleep } :: rest) :
    pending t.calls i + 1 = pending s.calls i ∧
      ∀ key, key ≠ i → pending t.calls key = pending s.calls key := by
  have advance := pending_advance call rest asleep here
  rw [next, calls]
  refine ⟨?_, fun key other => ?_⟩
  · rw [← advance i, if_pos rfl]
  · have same := advance key
    rwa [if_neg other, Nat.add_zero] at same

theorem samples_round (kept : PanelKept s) {call : KeysCall} {rest : List KeysCall}
    (calls : s.calls = call :: rest) {n : Nat} {asleep : Bool} :
    ∀ other ∈ { call with next := n, sleeping := asleep } :: rest, ∀ key,
      keyBit other.sample key = true → keyBit keyMask key = true := by
  intro other inside key
  rcases List.mem_cons.mp inside with rfl | below
  · exact kept.samples call (by rw [calls]; exact List.mem_cons_self) key
  · exact kept.samples other (by rw [calls]; exact List.mem_cons_of_mem _ below) key

/-- The event that a visit raises fits. -/
theorem fits_round (kept : PanelKept s) {call : KeysCall} (inside : call ∈ s.calls) {i : Fin 16}
    (zero : s.keys.counter i = 0) (differs : s.keys.state i ≠ keyBit call.sample i)
    (waiting : 1 ≤ pending s.calls i) : Fits (.visit i (keyBit call.sample i) :: s.log) i
      (keyBit call.sample i) := by
  have key := kept.key i
  refine ⟨?_, ?_, ?_⟩
  · rw [lastEdge, ← key.state]
    exact differs.symm
  · intro event
    have spaced := key.spaced event
    have none_ : (s.keys.counter i).toNat = 0 := by rw [zero]; rfl
    rw [ticksSince]
    omega
  · cases pressed : keyBit call.sample i with
    | true => exact kept.samples call inside i pressed
    | false =>
        -- an up event of a key follows its down event, which was that of a real key
        rw [pressed] at differs
        have down : s.keys.state i = true := by simpa using differs
        rw [key.state] at down
        cases last : lastEdge i s.log with
        | none =>
            rw [last] at down
            cases down
        | some edge => exact kept.debounced.real last

/-- The log grows by the visit and by the event that fits. -/
theorem debounced_round (kept : PanelKept s) {call : KeysCall} {rest : List KeysCall}
    (calls : s.calls = call :: rest) {i : Fin 16} (here : call.next = i.val) (sleeps : Bool) :
    Debounced (s.round call rest i sleeps).log := by
  have on_top : call ∈ s.calls := by rw [calls]; exact List.mem_cons_self
  have waiting : 1 ≤ pending s.calls i := by
    rw [calls, pending_cons, if_pos (Nat.le_of_eq here)]
    exact Nat.le_add_left _ _
  rcases s.keys.visit_cases (keyBit call.sample i) i with
    ⟨zero, differs, visit⟩ | ⟨-, -, visit⟩ | ⟨-, visit⟩
  · simp only [round, visit]
    exact ⟨fits_round kept on_top zero differs waiting, kept.debounced⟩
  · simp only [round, visit]
    exact kept.debounced
  · simp only [round, visit]
    exact kept.debounced

/-- What a round does to a key that it does not visit. -/
theorem round_other (call : KeysCall) (rest : List KeysCall) {i key : Fin 16} (other : key ≠ i)
    (sleeps : Bool) : (s.round call rest i sleeps).keys.counter key = s.keys.counter key ∧
      (s.round call rest i sleeps).keys.state key = s.keys.state key ∧
      ((s.round call rest i sleeps).log = .visit i (keyBit call.sample i) :: s.log ∨
        ∃ down, (s.round call rest i sleeps).log =
          .event i down :: .visit i (keyBit call.sample i) :: s.log) := by
  rcases s.keys.visit_cases (keyBit call.sample i) i with
    ⟨-, -, visit⟩ | ⟨-, -, visit⟩ | ⟨-, visit⟩
  · simp only [round, visit, Function.update_of_ne other, true_and]
    exact .inr ⟨_, rfl⟩
  · simp only [round, visit, true_and]
    exact .inl rfl
  · simp only [round, visit, Function.update_of_ne other, true_and]
    exact .inl rfl

theorem key_round (kept : PanelKept s) {call : KeysCall} {rest : List KeysCall}
    (calls : s.calls = call :: rest) {i : Fin 16} (here : call.next = i.val) (sleeps : Bool)
    (key : Fin 16) : KeyKept (s.round call rest i sleeps) key := by
  obtain ⟨own, others⟩ := pending_round calls here (t := s.round call rest i sleeps) rfl
  by_cases same : key = i
  · subst same
    rcases s.keys.visit_cases (keyBit call.sample key) key with
      ⟨zero, differs, visit⟩ | ⟨zero, stays, visit⟩ | ⟨running, visit⟩
    · have few : pending (s.round call rest key sleeps).calls key ≤ 1 := by
        change pending ({ call with next := call.next + 1, sleeping := _ } :: rest) key ≤ 1
        rw [pending_cons, here, if_neg (Nat.not_succ_le_self _)]
        exact Nat.le_trans (pending_le rest key) (nested_rest kept.nested calls)
      have counter : (s.round call rest key sleeps).keys.counter key = keyCounterStart := by
        simp only [round, visit, Function.update_self]
      have state : (s.round call rest key sleeps).keys.state key = keyBit call.sample key := by
        simp only [round, visit, Function.update_self]
      have log : (s.round call rest key sleeps).log = .event key (keyBit call.sample key) ::
          .visit key (keyBit call.sample key) :: s.log := by
        simp only [round, visit]
        rfl
      exact key_event counter state log few
    · have counter : ((s.round call rest key sleeps).keys.counter key).toNat =
          (s.keys.counter key).toNat - 1 := by
        simp only [round, visit, zero]
        rfl
      have state : (s.round call rest key sleeps).keys.state key = s.keys.state key := by
        simp only [round, visit]
      have log : (s.round call rest key sleeps).log =
          .visit key (keyBit call.sample key) :: s.log := by
        simp only [round, visit]
        rfl
      exact key_visited (kept.key key) counter (fun _ => stays) state log own rfl
    · have counter : ((s.round call rest key sleeps).keys.counter key).toNat =
          (s.keys.counter key).toNat - 1 := by
        simp only [round, visit, Function.update_self]
        have positive : 1 ≤ (s.keys.counter key).toNat := by
          refine Nat.one_le_iff_ne_zero.mpr fun zero => running ?_
          exact UInt8.toNat_inj.mp zero
        have one_le : (1 : UInt8) ≤ s.keys.counter key := UInt8.le_iff_toNat_le.mpr positive
        rw [UInt8.toNat_sub_of_le _ _ one_le]
        rfl
      have state : (s.round call rest key sleeps).keys.state key = s.keys.state key := by
        simp only [round, visit]
      have log : (s.round call rest key sleeps).log =
          .visit key (keyBit call.sample key) :: s.log := by
        simp only [round, visit]
        rfl
      exact key_visited (kept.key key) counter (fun zero => absurd zero running) state log own rfl
  · obtain ⟨counter, state, log⟩ := round_other (s := s) call rest same sleeps
    exact key_other same (kept.key key) counter state log (others key same) rfl

theorem round_kept (kept : PanelKept s) {call : KeysCall} {rest : List KeysCall}
    (calls : s.calls = call :: rest) (inside : call.next < 16) (sleeps : Bool) :
    PanelKept (s.round call rest ⟨call.next, inside⟩ sleeps) where
  nested := nested_round kept.nested calls (fun asleep => by simp at asleep; exact asleep.2) rfl rfl
  samples := samples_round kept calls
  debounced := debounced_round kept calls rfl sleeps
  key := key_round kept calls rfl sleeps

/-- A step that leaves the keys and the log alone, and the calls that have still to visit a key. -/
theorem key_same {key : Fin 16} (kept : KeyKept s key) (keys : t.keys = s.keys)
    (log : t.log = s.log) (waiting : pending t.calls key = pending s.calls key)
    (timer : t.timerEvent100th = s.timerEvent100th) : KeyKept t key := by
  refine ⟨?_, ?_, ?_, ?_⟩
  · rw [keys]
    exact kept.bound
  · rw [keys, log]
    exact kept.state
  · rw [keys, log]
    exact kept.steady
  · rw [keys, log, waiting, timer]
    exact kept.spaced

theorem tick_kept (kept : PanelKept s) :
    PanelKept { s with timerEvent100th := true, log := .tick :: s.log } where
  nested := kept.nested
  samples := kept.samples
  debounced := kept.debounced
  key := fun key => by
    obtain ⟨bound, state, steady, spaced⟩ := kept.key key
    refine ⟨bound, state, steady, fun event => ?_⟩
    have old := spaced event
    change 5 + pending s.calls key + 1 ≤ (s.keys.counter key).toNat + (ticksSince key s.log + 1) + 2
    omega

/-- A call begins: it takes the tick that has been waiting. -/
theorem begin_kept (kept : PanelKept s) (asleep : s.calls.all KeysCall.sleeping = true)
    (timer : s.timerEvent100th = true) (pina pind : UInt8) :
    PanelKept { s with timerEvent100th := false,
                       calls := ⟨keysKeyPressed pina pind, 0, false⟩ :: s.calls } where
  nested := by
    rcases kept.nested with none_ | ⟨call, one, running⟩ | ⟨inner, outer, two, -, awake⟩
    · exact .inr (.inl ⟨_, by rw [none_], fun up => by cases up⟩)
    · rw [one, List.all_cons, Bool.and_eq_true] at asleep
      exact .inr (.inr ⟨_, call, by rw [one], running asleep.1, rfl⟩)
    · rw [two, List.all_cons, awake] at asleep
      cases asleep
  samples := fun other inside key pressed => by
    rcases List.mem_cons.mp inside with rfl | below
    · exact keysKeyPressed_mask pressed
    · exact kept.samples other below key pressed
  debounced := kept.debounced
  key := fun key => by
    obtain ⟨bound, state, steady, spaced⟩ := kept.key key
    refine ⟨bound, state, steady, fun event => ?_⟩
    have old := spaced event
    rw [timer] at old
    rw [pending_cons, if_pos (Nat.zero_le _)]
    exact old

/-- Only the single call sleeps; it wakes with nothing running. -/
theorem nested_wake (nested : Nested s) {call : KeysCall} {rest : List KeysCall}
    (calls : s.calls = call :: rest) (asleep : call.sleeping = true) :
    Nested { s with running := false, calls := { call with sleeping := false } :: rest } := by
  rcases nested with none_ | ⟨only, one, -⟩ | ⟨inner, outer, two, -, awake⟩
  · rw [none_] at calls
    cases calls
  · rw [one] at calls
    cases calls
    exact .inr (.inl ⟨_, rfl, fun up => by cases up⟩)
  · rw [two] at calls
    cases calls
    rw [awake] at asleep
    cases asleep

theorem nested_finish (nested : Nested s) {call : KeysCall} {rest : List KeysCall}
    (calls : s.calls = call :: rest) : Nested { s with calls := rest } := by
  rcases nested with none_ | ⟨only, one, -⟩ | ⟨inner, outer, two, running, -⟩
  · rw [none_] at calls
    cases calls
  · rw [one] at calls
    cases calls
    exact .inl rfl
  · rw [two] at calls
    cases calls
    exact .inr (.inl ⟨outer, rfl, fun _ => running⟩)

theorem step_kept (kept : PanelKept s) {event : KeysEvent} (taken : s.step event = some t) :
    PanelKept t := by
  cases event with
  | tick =>
      cases taken
      exact tick_kept kept
  | idle pina pind =>
      simp only [step] at taken
      split at taken
      · rename_i asleep
        split at taken
        · rename_i timer
          split at taken
          · cases taken
            exact init_kept
          · cases taken
            exact begin_kept kept asleep timer pina pind
        · cases taken
          exact kept
      · cases taken
  | visit sleeps =>
      simp only [step] at taken
      split at taken
      · rename_i call rest calls
        split at taken
        · split at taken
          · cases taken
          · cases taken
            exact round_kept kept calls _ sleeps
        · cases taken
      · cases taken
  | wake =>
      simp only [step] at taken
      split at taken
      · rename_i call rest calls
        split at taken
        · rename_i asleep
          cases taken
          refine ⟨nested_wake kept.nested calls asleep, samples_round kept calls,
            kept.debounced, fun key => key_same (kept.key key) rfl rfl ?_ rfl⟩
          rw [calls, pending_cons, pending_cons]
        · cases taken
      · cases taken
  | finish =>
      simp only [step] at taken
      split at taken
      · rename_i call rest calls
        split at taken
        · rename_i ended
          cases taken
          have below : ∀ other ∈ rest, other ∈ s.calls := fun other inside => by
            rw [calls]
            exact List.mem_cons_of_mem _ inside
          refine ⟨nested_finish kept.nested calls, fun other inside =>
            kept.samples other (below other inside), kept.debounced,
            fun key => key_same (kept.key key) rfl rfl ?_ rfl⟩
          rw [calls, pending_cons, ended.1, if_neg (Nat.not_le.mpr key.isLt), Nat.add_zero]
        · cases taken
      · cases taken
  | sleep =>
      simp only [step] at taken
      split at taken
      · rename_i idle
        cases taken
        exact ⟨.inl idle.1, kept.samples, kept.debounced,
          fun key => key_same (kept.key key) rfl rfl rfl rfl⟩
      · cases taken
  | endSleep =>
      simp only [step] at taken
      split at taken
      · rename_i idle
        cases taken
        exact ⟨.inl idle.1, kept.samples, kept.debounced,
          fun key => key_same (kept.key key) rfl rfl rfl rfl⟩
      · cases taken

end PanelKeys

/-- In every run, whatever the keys do and however the calls are nested: the events of a key
alternate and begin with down, four ticks lie between two of them, a key that does not exist has
none, and a key that six visits in a row have found in one position is in that state. -/
theorem keys_debounced {events : List KeysEvent} {last : PanelKeys}
    (run : Run (fun s event t => PanelKeys.step s event = some t) PanelKeys.init events last) :
    (∀ key down later earlier, last.log = later ++ .event key down :: earlier →
      (down = !(lastEdge key earlier).getD false) ∧
        ((lastEdge key earlier).isSome → 4 ≤ ticksSince key earlier) ∧
        keyBit keyMask key = true) ∧
    ∀ key bit, 6 ≤ steady key bit last.log → last.keys.state key = bit := by
  have kept : PanelKept last :=
    run.invariant PanelKept (fun _ _ _ taken kept => PanelKeys.step_kept kept taken)
      PanelKeys.init_kept
  constructor
  · intro key down later earlier cut
    obtain ⟨differs, ticks, real⟩ := (cut ▸ kept.debounced).split
    exact ⟨Bool.eq_not_of_ne differs, ticks, real⟩
  · intro key bit many
    by_contra differs
    have few := (kept.key key).steady bit differs
    omega

/-- A call that looks at the keys of a tick and returns. -/
def wholeCall (pind : UInt8) : List KeysEvent :=
  [.tick, .idle 0xff pind] ++ List.replicate 16 (.visit false) ++ [.finish]

/-- F2 is pressed, its event sleeps, and a call inside the first one finds it released; after more
calls the release is an event. -/
def nestedEvents : List KeysEvent :=
  [.tick, .idle 0xff 0xfe, .visit true] ++ wholeCall 0xff ++ [.wake] ++
    List.replicate 15 (.visit false) ++ [.finish] ++ wholeCall 0xff ++ wholeCall 0xff ++
    wholeCall 0xff ++ wholeCall 0xff ++ [.tick, .idle 0xff 0xff, .visit false]

def nestedPanel : PanelKeys := (nestedEvents.foldlM PanelKeys.step PanelKeys.init).getD .init

theorem keys_debounced_nested :
    Run (fun s event t => PanelKeys.step s event = some t) PanelKeys.init nestedEvents
        nestedPanel ∧
      ∃ earlier, nestedPanel.log = .event 0 false :: earlier ∧ lastEdge 0 earlier = some true ∧
        4 ≤ ticksSince 0 earlier := by
  have run : Run (fun s event t => PanelKeys.step s event = some t) PanelKeys.init nestedEvents
      nestedPanel := by
    have runs : (nestedEvents.foldlM PanelKeys.step PanelKeys.init).isSome = true := by
      decide +kernel
    obtain ⟨last, executed⟩ := Option.isSome_iff_exists.mp runs
    have same : nestedPanel = last := by rw [nestedPanel, executed, Option.getD_some]
    exact same ▸ Run.of_execute executed
  have log : nestedPanel.log = [] ++ .event 0 false :: nestedPanel.log.tail := by decide +kernel
  have edge : lastEdge 0 nestedPanel.log.tail = some true := by decide +kernel
  refine ⟨run, nestedPanel.log.tail, log, edge, ?_⟩
  exact ((keys_debounced run).1 0 false _ _ log).2.1 (by rw [edge]; rfl)

end Hcan.Userpanel
