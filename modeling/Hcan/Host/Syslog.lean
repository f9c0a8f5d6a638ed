import Hcan.Canix.Syslog
import Hcan.Host.Descriptions

/-!
# Reading the syslog on the host

`transport_connection::syslog` keeps one open message for each sender.  The first packet
is stored as it is, with its priority byte, and never looked at for the newline; so what
it prints, and what stays open, is the stream of all bytes on the bus.
-/

namespace Hcan.Host

open Hcan.Canix

structure MessageEntry where
  prio : UInt8
  msg : Text
  deriving DecidableEq, Repr

/-- A printed line: sender, priority and text; the time of day is left out. -/
structure SyslogLine where
  src : UInt16
  prio : Text
  s : Text
  deriving DecidableEq, Repr

def prioName (prio : UInt8) : Text :=
  if prio = 1 then text "CRITICAL"
  else if prio = 2 then text "ERROR"
  else if prio = 3 then text "Warning"
  else if prio = 4 then text "debug"
  else []

/-- The open messages and what has been printed. -/
structure SyslogState where
  messages : UInt16 → Option MessageEntry
  out : List SyslogLine

def noMessages : SyslogState := ⟨fun _ => none, []⟩

/-- One received frame. -/
def syslogFrame (state : SyslogState) (f : CanixFrame) : SyslogState :=
  if f.proto = 3 ∧ f.dst = hcanMulticastSyslog then
    match state.messages f.src with
    | some it =>
        let s := it.msg ++ f.payload
        if s.getLast? = some newline then
          { messages := fun src => if src = f.src then none else state.messages src
            out := state.out ++ [⟨f.src, prioName it.prio, s⟩] }
        else
          { state with messages := fun src =>
              if src = f.src then some { it with msg := s } else state.messages src }
    | none =>
        { state with messages := fun src =>
            if src = f.src then some ⟨f.payload.headD 0, f.payload⟩ else state.messages src }
  else state

/-- `syslog` on the frames it receives. -/
def syslog (frames : List CanixFrame) : SyslogState := frames.foldl syslogFrame noMessages

/-- The open text of a sender. -/
def openText (state : SyslogState) (src : UInt16) : Text :=
  ((state.messages src).map MessageEntry.msg).getD []

/-- All text of a sender that has arrived: the printed lines and the open message. -/
def arrived (state : SyslogState) (src : UInt16) : Text :=
  state.out.flatMap SyslogLine.s ++ openText state src

/-- A frame of the sender adds its bytes, the priority like any other. -/
theorem arrived_frame {state : SyslogState} {f : CanixFrame} {src : UInt16}
    (sender : f.src = src) (dst : f.dst = hcanMulticastSyslog) (proto : f.proto = hcanProtoSyslog) :
    arrived (syslogFrame state f) src = arrived state src ++ f.payload := by
  subst sender
  unfold syslogFrame
  rw [if_pos ⟨proto, dst⟩]
  cases held : state.messages f.src with
  | none =>
      have nothing : openText state f.src = [] := by
        unfold openText
        rw [held]
        rfl
      unfold arrived
      rw [nothing, List.append_nil]
      simp [openText]
  | some it =>
      have before : openText state f.src = it.msg := by
        unfold openText
        rw [held]
        rfl
      unfold arrived
      rw [before]
      dsimp only
      split <;> simp [openText]

/-- Nothing is lost or added: the lines and the open message are the bytes received. -/
theorem arrived_syslog {src : UInt16} (frames : List CanixFrame)
    (sender : ∀ f ∈ frames, f.src = src ∧ f.dst = hcanMulticastSyslog ∧ f.proto = hcanProtoSyslog) :
    arrived (syslog frames) src = frames.flatMap CanixFrame.payload := by
  have from_ : ∀ state, arrived (frames.foldl syslogFrame state) src =
      arrived state src ++ frames.flatMap CanixFrame.payload := by
    induction frames with
    | nil =>
        intro state
        exact (List.append_nil _).symm
    | cons f frames ih =>
        intro state
        obtain ⟨own, dst, proto⟩ := sender f (List.mem_cons_self ..)
        rw [List.foldl_cons, ih fun g member => sender g (List.mem_cons_of_mem _ member),
          arrived_frame own dst proto, List.flatMap_cons, List.append_assoc]
  exact from_ noMessages

/-! ## Messages and lines -/

/-- A word with a letter in front is a word with one behind only if both letters agree. -/
theorem head_eq_of_shift {x y : UInt8} {word : Text} (shift : x :: word = word ++ [y]) : x = y := by
  induction word generalizing x with
  | nil => exact (List.cons.inj shift).1
  | cons c word ih =>
      obtain ⟨same, rest⟩ := List.cons.inj shift
      rw [same]
      exact ih rest

theorem printed_shift {call : SyslogCall} {tail : Text} :
    ¬ call.printed ++ [newline] <+: call.prio.code :: (call.printed ++ [newline]) ++ tail := by
  rintro ⟨back, same⟩
  have front := congrArg (List.take (call.printed.length + 1)) same
  have left : (call.printed ++ [newline] ++ back).take (call.printed.length + 1) =
      call.printed ++ [newline] := List.take_left' (by simp)
  have right : (call.prio.code :: (call.printed ++ [newline]) ++ tail).take
      (call.printed.length + 1) = call.prio.code :: call.printed := by
    rw [List.cons_append, List.take_succ_cons, List.append_assoc, List.take_left' rfl]
  rw [left, right] at front
  have agree := head_eq_of_shift front.symm
  cases prio : call.prio <;> rw [prio] at agree <;> exact absurd agree (by decide)

/-- The lines that are printed are the messages sent, in order and without protocol bytes,
only if no message is sent: any first line begins with its priority byte. -/
theorem syslog_lines_iff (src : UInt16) (calls : List SyslogCall) :
    (syslog (calls.flatMap (canixSyslogP src))).out.map SyslogLine.s =
        (calls.filter SyslogCall.Logged).map (fun call => call.printed ++ [newline]) ↔
      calls.filter SyslogCall.Logged = [] := by
  have frames : calls.flatMap (canixSyslogP src) =
      (calls.filter SyslogCall.Logged).flatMap (canixSyslogP src) := by
    induction calls with
    | nil => rfl
    | cons call calls ih =>
        rw [List.flatMap_cons, ih]
        by_cases logged : call.Logged
        · rw [List.filter_cons, if_pos (decide_eq_true logged), List.flatMap_cons]
        · rw [List.filter_cons, if_neg (by simpa using logged),
            show canixSyslogP src call = [] from if_neg logged, List.nil_append]
  constructor
  · intro lines
    cases sent : calls.filter SyslogCall.Logged with
    | nil => rfl
    | cons call later =>
        have logged : call.Logged := by
          have member : call ∈ calls.filter SyslogCall.Logged := by
            rw [sent]
            exact List.mem_cons_self ..
          simpa using List.of_mem_filter member
        have own : ∀ f ∈ calls.flatMap (canixSyslogP src),
            f.src = src ∧ f.dst = hcanMulticastSyslog ∧ f.proto = hcanProtoSyslog := by
          intro f member
          obtain ⟨call, -, sent⟩ := List.mem_flatMap.mp member
          exact canixSyslogP_header sent
        have stream := arrived_syslog (calls.flatMap (canixSyslogP src)) own
        have bytes : (calls.flatMap (canixSyslogP src)).flatMap CanixFrame.payload =
            call.prio.code :: (call.printed ++ [newline]) ++
              (later.flatMap (canixSyslogP src)).flatMap CanixFrame.payload := by
          rw [frames, sent, List.flatMap_cons, List.flatMap_append, canixSyslogP_payload src logged]
        -- the first line begins the stream of all bytes, and so does the priority byte
        rw [sent, List.map_cons] at lines
        obtain ⟨line, rest, out, s, -⟩ := List.map_eq_cons_iff.mp lines
        unfold arrived at stream
        rw [bytes, out, List.flatMap_cons, s, List.append_assoc] at stream
        exact absurd ⟨_, stream⟩ printed_shift
  · intro none
    rw [frames, none]
    rfl

/-- A message in two frames is printed with its priority byte. -/
theorem syslog_line_prio :
    (syslog (canixSyslogP 5 ⟨4, .error, text "Hello HCAN"⟩)).out.map SyslogLine.s =
        [2 :: text "Hello HCAN\n"] ∧
      (syslog (canixSyslogP 5 ⟨4, .error, text "Hello HCAN"⟩)).out.map SyslogLine.s ≠
        [text "Hello HCAN" ++ [newline]] := by
  decide

end Hcan.Host
