import Hcan.Data.Log
import Hcan.Library.Decimal
import Hcan.Library.Run

/-!
# The archive mode of the log daemon

`run_archive_mode` writes every frame to the file of a day and begins a new file when the day
changes; a SIGHUP closes the file, a SIGTERM ends the daemon behind the next frame.  Every frame
it has read and answered is in exactly one file, and only a frame that ended a file may be of a
later day.
-/

namespace Hcan.Data

open Hcan.Library Program

/-- The fields of `struct tm` that the name of a file shows. -/
structure Tm where
  year : Nat
  month : Nat
  day : Nat
  month_le : month ≤ 12
  day_le : day ≤ 31
  deriving DecidableEq

abbrev FileName := List UInt8

/-- `%02d`. -/
def pad2 (n : Nat) : List UInt8 := if n < 10 then 48 :: decimalDigits n else decimalDigits n

/-- The bytes of `.hdump`. -/
def hdump : List UInt8 := [46, 104, 100, 117, 109, 112]

/-- The name begins with the year, the month and the day of the month. -/
def generateFilename (t : Tm) : FileName :=
  decimalDigits t.year ++ pad2 t.month ++ pad2 t.day ++ hdump

theorem pad2_length {n : Nat} (small : n < 100) : (pad2 n).length = 2 := by
  by_cases one : n < 10
  · rw [pad2, if_pos one, decimalDigits, Nat.toDigits_of_lt_base one]
    rfl
  · rw [pad2, if_neg one, decimalDigits, Nat.toDigits_of_base_le (by decide) (Nat.le_of_not_lt one),
      Nat.toDigits_of_lt_base (by omega)]
    rfl

theorem decimalValue_pad2 (n : Nat) : decimalValue (pad2 n) = n := by
  by_cases one : n < 10
  · rw [pad2, if_pos one, decimalValue_zero_cons, decimalValue_decimalDigits]
  · rw [pad2, if_neg one, decimalValue_decimalDigits]

/-- The name of a file tells its day. -/
theorem generateFilename_injective : Function.Injective generateFilename := by
  intro t u same
  have days : (pad2 t.day ++ hdump).length = (pad2 u.day ++ hdump).length := by
    have tDay := t.day_le
    have uDay := u.day_le
    rw [List.length_append, List.length_append, pad2_length (by omega), pad2_length (by omega)]
  have months : (pad2 t.month).length = (pad2 u.month).length := by
    have tMonth := t.month_le
    have uMonth := u.month_le
    rw [pad2_length (by omega), pad2_length (by omega)]
  rw [generateFilename, generateFilename, List.append_assoc _ _ hdump, List.append_assoc _ _ hdump]
    at same
  obtain ⟨front, back⟩ := List.append_inj' same days
  obtain ⟨years, month⟩ := List.append_inj' front months
  have year : t.year = u.year := by
    rw [← decimalValue_decimalDigits t.year, years, decimalValue_decimalDigits]
  have sameMonth : t.month = u.month := by
    rw [← decimalValue_pad2 t.month, month, decimalValue_pad2]
  have day : t.day = u.day := by
    rw [← decimalValue_pad2 t.day, List.append_cancel_right back, decimalValue_pad2]
  cases t
  cases u
  cases year
  cases sameMonth
  cases day
  rfl

/-- The open file; `waiting` after the test of the inner loop, in `read_from`.  `stale` is what the
records of the writer held before they were read. -/
structure OpenLog where
  name : FileName
  file : ByteFile
  stale : Nat → UInt8
  waiting : Bool

/-- A frame that was read, the file it went to, and whether it has ended this file. -/
structure Stored where
  name : FileName
  entry : FrameEntry
  rotated : Bool

/-- `files` are the closed files of the directory, `received` is the history of the frames. -/
structure Archive where
  files : FileName → Option (List UInt8)
  current : Option OpenLog
  signalReload : Bool
  signalQuit : Bool
  received : List Stored

/-- The times are those of the calls of `time`: for the name, in the constructor of the writer, in
`write_frame` (that of the entry) and for the name again. -/
inductive ArchiveEvent where
  | sighup
  | sigterm
  | opens (named now : UInt64) (stale : Nat → UInt8)
  | wait
  | read (entry : FrameEntry) (checked : UInt64)
  | fail
  | leave

namespace Archive

/-- The destructor of the writer. -/
def close (s : Archive) (log : OpenLog) : Option Archive :=
  match sync log.stale log.file with
  | some (.ok _, file) => some { s with
      files := Function.update s.files log.name (some file.content)
      current := none
      signalReload := false }
  | _ => none

/-- `localtime` is that of the time zone.  No result: the loop is elsewhere, or an exception of the
writer has ended the daemon. -/
def step (localtime : UInt64 → Tm) (s : Archive) : ArchiveEvent → Option Archive
  | .sighup => some { s with signalReload := true }
  | .sigterm => some { s with signalQuit := true }
  | .opens named now stale =>
      if s.current.isNone ∧ s.signalQuit = false then
        let name := generateFilename (localtime named)
        match openWriter stale now (.mk ((s.files name).getD []) 0) with
        | some (.ok _, file) => some { s with current := some ⟨name, file, stale, false⟩ }
        | _ => none
      else none
  | .wait =>
      match s.current with
      | some log =>
          if log.waiting = false ∧ s.signalQuit = false ∧ s.signalReload = false then
            some { s with current := some { log with waiting := true } }
          else none
      | none => none
  | .read entry checked =>
      match s.current with
      | some log =>
          if log.waiting then
            match writeFrame entry.timestamp entry.src entry.dst entry.proto entry.size entry.data
                log.file with
            | some (.ok _, file) =>
                let rotated := decide (generateFilename (localtime checked) ≠ log.name)
                let s := { s with received := s.received ++ [Stored.mk log.name entry rotated] }
                if rotated then s.close { log with file := file }
                else some { s with current := some { log with file := file, waiting := false } }
            | _ => none
          else none
      | none => none
  | .fail =>
      -- an `io_error` of `read_from` or of `keep_connection_alive`, whose frame is in no file: the
      -- writer is destroyed, and the daemon ends
      match s.current with
      | some log =>
          if log.waiting then ({ s with signalQuit := true }).close log else none
      | none => none
  | .leave =>
      match s.current with
      | some log =>
          if log.waiting = false ∧ (s.signalQuit = true ∨ s.signalReload = true) then s.close log
          else none
      | none => none

end Archive

/-- The frames of a file, in their order. -/
def framesOf (name : FileName) (received : List Stored) : List FrameEntry :=
  (received.filter fun stored => stored.name == name).map Stored.entry

theorem framesOf_snoc (name : FileName) (received : List Stored) (stored : Stored) :
    framesOf name (received ++ [stored]) =
      framesOf name received ++ if stored.name = name then [stored.entry] else [] := by
  rw [framesOf, List.filter_append, List.map_append, framesOf, List.filter_singleton]
  congr 1
  by_cases same : stored.name = name
  · rw [if_pos same, beq_iff_eq.mpr same]
    rfl
  · rw [if_neg same, beq_eq_false_iff_ne.mpr same]
    rfl

section Files

variable {old : FileName → Option (List FrameEntry)} {s t : Archive}

/-- All frames of a file: those it had at the start and those read since. -/
def allFrames (old : FileName → Option (List FrameEntry)) (received : List Stored)
    (name : FileName) : List FrameEntry :=
  (old name).getD [] ++ framesOf name received

/-- A closed file holds its frames; a file that was never opened does not exist. -/
def FileHolds (old : FileName → Option (List FrameEntry)) (s : Archive) (name : FileName) : Prop :=
  (s.files name = none ∧ old name = none ∧ framesOf name s.received = []) ∨
    s.files name = some (closedFile (allFrames old s.received name))

/-- The open file has all entries, and its position is at the end. -/
def OpenHolds (old : FileName → Option (List FrameEntry)) (received : List Stored)
    (log : OpenLog) : Prop :=
  ∃ block : DataBlock, block.type = dataFileTypeData ∧ block.lastTimestamp = 0 ∧
    log.file = ⟨logFile block (entryCodec.encodeAll (allFrames old received log.name)),
      (logFile block (entryCodec.encodeAll (allFrames old received log.name))).length⟩

structure ArchiveKept (old : FileName → Option (List FrameEntry)) (s : Archive) : Prop where
  closed : ∀ name, (∀ log, s.current = some log → log.name ≠ name) → FileHolds old s name
  opened : ∀ log, s.current = some log → OpenHolds old s.received log

theorem close_eq {log : OpenLog} (here : OpenHolds old s.received log) :
    s.close log = some { s with
      files := Function.update s.files log.name
        (some (closedFile (allFrames old s.received log.name)))
      current := none
      signalReload := false } := by
  obtain ⟨block, type, last, file⟩ := here
  have ends : Ends (sync log.stale) log.file
      (fun _ last => last.content =
        logFile (syncedBlock log.stale block
            (entryCodec.encodeAll (allFrames old s.received log.name)))
          (entryCodec.encodeAll (allFrames old s.received log.name)))
      fun _ _ => False := by
    rw [file]
    exact sync_ends
  obtain ⟨_, synced, ran, content⟩ := ends.ok
  rw [Archive.close, ran]
  dsimp only
  rw [content, syncedBlock_encodeAll type last]
  rfl

/-- Closing keeps the files: the open one has all its frames then. -/
theorem close_kept {log : OpenLog}
    (others : ∀ name, name ≠ log.name → FileHolds old s name)
    (here : OpenHolds old s.received log) (closed : s.close log = some t) : ArchiveKept old t := by
  rw [close_eq here] at closed
  cases closed
  refine ⟨fun name _ => ?_, fun log open_ => by cases open_⟩
  by_cases same : name = log.name
  · subst same
    exact .inr (Function.update_self ..)
  · rcases others name same with ⟨absent, rest⟩ | stored
    · exact .inl ⟨(Function.update_of_ne same ..).trans absent, rest⟩
    · exact .inr ((Function.update_of_ne same ..).trans stored)

theorem ArchiveKept.others (kept : ArchiveKept old s) {log : OpenLog}
    (open_ : s.current = some log) :
    ∀ name, name ≠ log.name → FileHolds old s name := by
  intro name other
  refine kept.closed name fun log' here => ?_
  rw [open_] at here
  cases here
  exact fun same => other same.symm

theorem opens_kept (kept : ArchiveKept old s) (idle : s.current = none) {name : FileName}
    {now : UInt64} {stale : Nat → UInt8} {file : ByteFile}
    (opened : openWriter stale now (.mk ((s.files name).getD []) 0) = some (.ok ⟨⟩, file)) :
    OpenHolds old s.received ⟨name, file, stale, false⟩ := by
  have nothing_open : ∀ log, s.current = some log → log.name ≠ name := by
    intro log open_
    rw [idle] at open_
    cases open_
  rcases kept.closed name nothing_open with ⟨absent, fresh, unread⟩ | stored
  · rw [absent] at opened
    obtain ⟨_, last, ran, rfl⟩ := (@openWriter_empty_ends stale [] rfl now).ok
    have all : allFrames old s.received name = [] := by
      rw [allFrames, fresh, unread]
      rfl
    refine ⟨⟨dataFileTypeData, 24, now, 0⟩, rfl, rfl, ?_⟩
    rw [Option.getD_none, ran] at opened
    cases opened
    change _ = ByteFile.mk (logFile _ (entryCodec.encodeAll (allFrames old s.received name)))
      (logFile _ (entryCodec.encodeAll (allFrames old s.received name))).length
    rw [all, entryCodec.encodeAll_nil, logFile_length]
    rfl
  · rw [stored, Option.getD_some, closedFile] at opened
    obtain ⟨_, last, ran, rfl⟩ := (@openWriter_ends stale _ _ now
      (rfl : (closedBlock (allFrames old s.received name)).type = dataFileTypeData)).ok
    rw [ran] at opened
    cases opened
    exact ⟨closedBlock (allFrames old s.received name), rfl, rfl, rfl⟩

/-- Appending a frame to the open file. -/
theorem write_kept {log : OpenLog} (here : OpenHolds old s.received log) {entry : FrameEntry}
    {file : ByteFile} (rotated waiting : Bool)
    (wrote : writeFrame entry.timestamp entry.src entry.dst entry.proto entry.size entry.data
      log.file = some (.ok ⟨⟩, file)) :
    OpenHolds old (s.received ++ [⟨log.name, entry, rotated⟩])
      { log with file := file, waiting := waiting } := by
  obtain ⟨block, type, last, file_eq⟩ := here
  have all : allFrames old (s.received ++ [⟨log.name, entry, rotated⟩]) log.name =
      allFrames old s.received log.name ++ [entry] := by
    rw [allFrames, framesOf_snoc, if_pos rfl, ← List.append_assoc, allFrames]
  refine ⟨block, type, last, ?_⟩
  have written : writeFrame entry.timestamp entry.src entry.dst entry.proto entry.size entry.data
      log.file = some (.ok ⟨⟩, ⟨ByteFile.overwrite log.file.content log.file.pos
        (entryCodec.encode entry), log.file.pos + (entryCodec.encode entry).length⟩) := rfl
  rw [written] at wrote
  cases wrote
  change ByteFile.mk _ _ = ByteFile.mk (logFile block (entryCodec.encodeAll (allFrames old
    (s.received ++ [⟨log.name, entry, rotated⟩]) log.name))) (logFile block (entryCodec.encodeAll
      (allFrames old (s.received ++ [⟨log.name, entry, rotated⟩]) log.name))).length
  rw [all, file_eq, ByteFile.overwrite_end, entryCodec.encodeAll_append, ← logFile_append,
    List.length_append]
  congr 1
  · rw [entryCodec.encodeAll_cons, entryCodec.encodeAll_nil, List.append_nil]
  · rw [entryCodec.encodeAll_cons, entryCodec.encodeAll_nil, List.append_nil]

theorem received_other {name : FileName} {received : List Stored} {stored : Stored}
    (other : stored.name ≠ name) : allFrames old (received ++ [stored]) name =
      allFrames old received name := by
  rw [allFrames, framesOf_snoc, if_neg other, List.append_nil, allFrames]

theorem FileHolds.read {name : FileName} {stored : Stored} (holds : FileHolds old s name)
    (other : name ≠ stored.name) :
    FileHolds old { s with received := s.received ++ [stored] } name := by
  have same : allFrames old (s.received ++ [stored]) name = allFrames old s.received name :=
    received_other other.symm
  rcases holds with ⟨absent, fresh, unread⟩ | held
  · refine .inl ⟨absent, fresh, ?_⟩
    change framesOf name (s.received ++ [stored]) = []
    rw [framesOf_snoc, unread, if_neg other.symm, List.append_nil]
  · refine .inr ?_
    change s.files name = some (closedFile (allFrames old (s.received ++ [stored]) name))
    rw [same, held]

/-- What reading a frame does: it is written, and where the day has changed the file is closed. -/
theorem read_step {localtime : UInt64 → Tm} {entry : FrameEntry} {checked : UInt64}
    (taken : s.step localtime (.read entry checked) = some t) :
    ∃ log file, s.current = some log ∧
      writeFrame entry.timestamp entry.src entry.dst entry.proto entry.size entry.data log.file =
        some (.ok ⟨⟩, file) ∧
      ((generateFilename (localtime checked) = log.name ∧
        t = { s with received := s.received ++ [⟨log.name, entry, false⟩]
                     current := some { log with file := file, waiting := false } }) ∨
      (generateFilename (localtime checked) ≠ log.name ∧
        Archive.close { s with received := s.received ++ [⟨log.name, entry, true⟩] }
          { log with file := file } = some t)) := by
  simp only [Archive.step] at taken
  split at taken
  · rename_i log open_
    split at taken
    · split at taken
      · rename_i file wrote
        refine ⟨log, file, open_, wrote, ?_⟩
        by_cases same : generateFilename (localtime checked) = log.name
        · rw [decide_eq_false (not_not.mpr same)] at taken
          cases taken
          exact .inl ⟨same, rfl⟩
        · rw [decide_eq_true same] at taken
          exact .inr ⟨same, taken⟩
      · cases taken
    · cases taken
  · cases taken

/-- A file is opened by the name of the day when none is open. -/
theorem opens_step {localtime : UInt64 → Tm} {named now : UInt64} {stale : Nat → UInt8}
    (taken : s.step localtime (.opens named now stale) = some t) :
    s.current = none ∧ ∃ file,
      openWriter stale now (.mk ((s.files (generateFilename (localtime named))).getD []) 0) =
        some (.ok ⟨⟩, file) ∧
      t = { s with current := some ⟨generateFilename (localtime named), file, stale, false⟩ } := by
  simp only [Archive.step] at taken
  split at taken
  · rename_i idle
    split at taken
    · rename_i file opened
      cases taken
      exact ⟨Option.isNone_iff_eq_none.mp idle.1, file, opened, rfl⟩
    · cases taken
  · cases taken

theorem wait_step {localtime : UInt64 → Tm} (taken : s.step localtime .wait = some t) :
    ∃ log, s.current = some log ∧ t = { s with current := some { log with waiting := true } } := by
  simp only [Archive.step] at taken
  split at taken
  · rename_i log open_
    split at taken
    · cases taken
      exact ⟨log, open_, rfl⟩
    · cases taken
  · cases taken

theorem fail_step {localtime : UInt64 → Tm} (taken : s.step localtime .fail = some t) :
    ∃ log, s.current = some log ∧ Archive.close { s with signalQuit := true } log = some t := by
  simp only [Archive.step] at taken
  split at taken
  · rename_i log open_
    split at taken
    · exact ⟨log, open_, taken⟩
    · cases taken
  · cases taken

theorem leave_step {localtime : UInt64 → Tm} (taken : s.step localtime .leave = some t) :
    ∃ log, s.current = some log ∧ s.close log = some t := by
  simp only [Archive.step] at taken
  split at taken
  · rename_i log open_
    split at taken
    · exact ⟨log, open_, taken⟩
    · cases taken
  · cases taken

theorem archive_step_kept (localtime : UInt64 → Tm) (kept : ArchiveKept old s)
    {event : ArchiveEvent} (taken : s.step localtime event = some t) : ArchiveKept old t := by
  cases event with
  | sighup =>
      cases taken
      exact ⟨kept.closed, kept.opened⟩
  | sigterm =>
      cases taken
      exact ⟨kept.closed, kept.opened⟩
  | opens named now stale =>
      obtain ⟨none_, file, opened, rfl⟩ := opens_step taken
      refine ⟨fun name _ => kept.closed name fun log open_ => ?_, fun log open_ => ?_⟩
      · rw [none_] at open_
        cases open_
      · cases open_
        exact opens_kept kept none_ opened
  | wait =>
      obtain ⟨log, open_, rfl⟩ := wait_step taken
      refine ⟨fun name elsewhere => kept.closed name fun other here => ?_, fun other here => ?_⟩
      · rw [open_] at here
        cases here
        exact elsewhere { log with waiting := true } rfl
      · cases here
        exact kept.opened log open_
  | read entry checked =>
      obtain ⟨log, file, open_, wrote, stays | ends⟩ := read_step taken
      · obtain ⟨same, rfl⟩ := stays
        have stored := write_kept (kept.opened log open_) false false wrote
        refine ⟨fun name elsewhere => ?_, fun other here => ?_⟩
        · exact (kept.others open_ name fun same => elsewhere _ rfl same.symm).read
            fun same => elsewhere _ rfl same.symm
        · cases here
          exact stored
      · have stored := write_kept (kept.opened log open_) true log.waiting wrote
        have others : ∀ name, name ≠ ({ log with file := file } : OpenLog).name → FileHolds old
            { s with received := s.received ++ [⟨log.name, entry, true⟩] } name :=
          fun name other => (kept.others open_ name other).read other
        obtain ⟨-, closed⟩ := ends
        exact close_kept others stored closed
  | fail =>
      obtain ⟨log, open_, closed⟩ := fail_step taken
      have others : ∀ name, name ≠ log.name →
          FileHolds old { s with signalQuit := true } name := kept.others open_
      exact close_kept others (kept.opened log open_) closed
  | leave =>
      obtain ⟨log, open_, closed⟩ := leave_step taken
      exact close_kept (kept.others open_) (kept.opened log open_) closed

end Files

/-! ## Runs of the daemon -/

/-- The daemon is started on a directory. -/
def Archive.start (files : FileName → Option (List UInt8)) : Archive :=
  ⟨files, none, false, false, []⟩

def ArchiveEvent.entry? : ArchiveEvent → Option FrameEntry
  | .read entry _ => some entry
  | .sighup | .sigterm | .opens _ _ _ | .wait | .fail | .leave => none

theorem close_received {s t : Archive} {log : OpenLog} (closed : s.close log = some t) :
    t.received = s.received ∧ t.current = none := by
  rw [Archive.close] at closed
  split at closed
  · cases closed
    exact ⟨rfl, rfl⟩
  · cases closed

/-- A step adds the frame it has read. -/
theorem step_received {localtime : UInt64 → Tm} {s t : Archive} {event : ArchiveEvent}
    (taken : s.step localtime event = some t) :
    t.received.map Stored.entry = s.received.map Stored.entry ++ event.entry?.toList := by
  cases event with
  | sighup | sigterm =>
      cases taken
      exact (List.append_nil _).symm
  | opens named now stale =>
      obtain ⟨-, file, -, rfl⟩ := opens_step taken
      exact (List.append_nil _).symm
  | wait =>
      obtain ⟨log, -, rfl⟩ := wait_step taken
      exact (List.append_nil _).symm
  | read entry checked =>
      obtain ⟨log, file, -, -, ⟨-, rfl⟩ | ⟨-, closed⟩⟩ := read_step taken
      · exact List.map_append
      · rw [(close_received closed).1]
        exact List.map_append
  | fail =>
      obtain ⟨log, -, closed⟩ := fail_step taken
      rw [(close_received closed).1]
      exact (List.append_nil _).symm
  | leave =>
      obtain ⟨log, -, closed⟩ := leave_step taken
      rw [(close_received closed).1]
      exact (List.append_nil _).symm

theorem run_received {localtime : UInt64 → Tm} {s t : Archive} {events : List ArchiveEvent}
    (run : Run (fun s event t => Archive.step localtime s event = some t) s events t) :
    t.received.map Stored.entry =
      s.received.map Stored.entry ++ events.filterMap ArchiveEvent.entry? := by
  induction run with
  | nil => exact (List.append_nil _).symm
  | @cons s middle t event events taken rest ih =>
      rw [ih, step_received taken, List.append_assoc]
      congr 1
      cases entry : event.entry? with
      | none => rw [List.filterMap_cons_none entry]; rfl
      | some e => rw [List.filterMap_cons_some entry]; rfl

/-- Every frame the daemon has read is in one file, the one that was open, and in the order of
reading; and a reader of a closed file finds the frames it had at the start and these, if an `int`
can count them.  Other files do not change. -/
theorem archive_stored {localtime : UInt64 → Tm} {old : FileName → Option (List FrameEntry)}
    {last : Archive} {events : List ArchiveEvent}
    (run : Run (fun s event t => Archive.step localtime s event = some t)
      (.start fun name => (old name).map closedFile) events last) :
    last.received.map Stored.entry = events.filterMap ArchiveEvent.entry? ∧
      ∀ name, (∀ log, last.current = some log → log.name ≠ name) →
        (last.files name = none ∧ old name = none ∧ framesOf name last.received = []) ∨
        ∃ content, last.files name = some content ∧
          ((allFrames old last.received name).length < 2 ^ 31 →
            Returns content (allFrames old last.received name)) := by
  refine ⟨run_received run, fun name elsewhere => ?_⟩
  have start : ArchiveKept old (.start fun name => (old name).map closedFile) := by
    refine ⟨fun name _ => ?_, fun log open_ => by cases open_⟩
    cases before : old name with
    | none => exact .inl ⟨congrArg (Option.map closedFile) before, before, rfl⟩
    | some frames =>
        refine .inr ?_
        change (old name).map closedFile = some (closedFile ((old name).getD [] ++ []))
        rw [before, List.append_nil]
        rfl
  have kept : ArchiveKept old last :=
    run.invariant (ArchiveKept old) (fun _ _ _ taken kept => archive_step_kept localtime kept taken)
      start
  rcases kept.closed name elsewhere with absent | held
  · exact .inl absent
  · exact .inr ⟨_, held, (returns_closedFile_iff _).mpr⟩

/-- The days of January 1970 in UTC; every later time is given the last of them. -/
def january (time : UInt64) : Tm where
  year := 1970
  month := 1
  day := min (time.toNat / 86400 + 1) 31
  month_le := by decide
  day_le := Nat.min_le_right _ _

/-- An evening: a frame of the first day, one behind midnight that ends the file, and a SIGTERM. -/
def eveningEvents : List (ArchiveEvent × UInt64) :=
  [(.opens 86000 86000 fun _ => 0, 86000), (.wait, 86000),
    (.read ⟨86010, 1, 2, 3, 8, Vector.replicate 8 5⟩ 86010, 86010), (.wait, 86010),
    (.read ⟨86500, 1, 2, 3, 8, Vector.replicate 8 6⟩ 86500, 86500),
    (.opens 86500 86500 fun _ => 0, 86500), (.wait, 86500), (.sigterm, 86600),
    (.read ⟨86700, 1, 2, 3, 8, Vector.replicate 8 7⟩ 86700, 86700), (.leave, 86700)]

theorem evening_runs : ((eveningEvents.map Prod.fst).foldlM (Archive.step january)
    (.start fun _ => none)).isSome = true := by
  decide +kernel

/-- The directory is empty. -/
def eveningFiles : FileName → Option (List FrameEntry) := fun _ => none

theorem archive_stored_evening : ∃ last,
    Run (fun s event t => Archive.step january s event = some t)
      (.start fun name => (eveningFiles name).map closedFile) (eveningEvents.map Prod.fst) last ∧
    last.received.map Stored.entry = (eveningEvents.map Prod.fst).filterMap ArchiveEvent.entry? ∧
    ∀ name, (∀ log, last.current = some log → log.name ≠ name) →
      (last.files name = none ∧ eveningFiles name = none ∧ framesOf name last.received = []) ∨
      ∃ content, last.files name = some content ∧
        ((allFrames eveningFiles last.received name).length < 2 ^ 31 →
          Returns content (allFrames eveningFiles last.received name)) := by
  obtain ⟨last, executed⟩ := Option.isSome_iff_exists.mp evening_runs
  have run : Run (fun s event t => Archive.step january s event = some t)
      (.start fun name => (eveningFiles name).map closedFile) (eveningEvents.map Prod.fst) last :=
    Run.of_execute executed
  exact ⟨last, run, archive_stored run⟩

/-! ## The days of the frames -/

/-- A clock that does not go back: its times at an event, and where it stands then. -/
def ArchiveEvent.Clocked (before after : UInt64) : ArchiveEvent → Prop
  | .opens named now _ => before ≤ named ∧ named ≤ now ∧ now ≤ after
  | .read entry checked => before ≤ entry.timestamp ∧ entry.timestamp ≤ checked ∧ checked ≤ after
  | .sighup | .sigterm | .wait | .fail | .leave => before ≤ after

/-- The daemon with the clock. -/
def ClockedStep (localtime : UInt64 → Tm) (c : UInt64 × Archive) (event : ArchiveEvent)
    (d : UInt64 × Archive) : Prop :=
  c.2.step localtime event = some d.2 ∧ event.Clocked c.1 d.1

/-- The clock at the ends of the events. -/
def Clocked : UInt64 → List (ArchiveEvent × UInt64) → UInt64 → Prop
  | first, [], last => first = last
  | first, (event, after) :: events, last => event.Clocked first after ∧ Clocked after events last

theorem clocked_run {localtime : UInt64 → Tm} {first last : UInt64} {s t : Archive}
    {events : List (ArchiveEvent × UInt64)} (clock : Clocked first events last)
    (executed : (events.map Prod.fst).foldlM (Archive.step localtime) s = some t) :
    Run (ClockedStep localtime) (first, s) (events.map Prod.fst) (last, t) := by
  induction events generalizing first s with
  | nil =>
      cases executed
      cases clock
      exact .nil _
  | cons event events ih =>
      obtain ⟨event, after⟩ := event
      obtain ⟨here, rest⟩ := clock
      rw [List.map_cons, List.foldlM_cons] at executed
      obtain ⟨middle, taken, later⟩ := Option.bind_eq_some_iff.mp executed
      exact Run.cons ⟨taken, here⟩ (ih rest later)

/-- The open file has had the name of its day at some time, and a frame that has not ended its file
was written on the day of it. -/
structure DaysKept (localtime : UInt64 → Tm) (c : UInt64 × Archive) : Prop where
  opened : ∀ log, c.2.current = some log → ∃ time, time ≤ c.1 ∧
    generateFilename (localtime time) = log.name
  days : ∀ stored ∈ c.2.received, stored.rotated = false →
    generateFilename (localtime stored.entry.timestamp) = stored.name

variable {localtime : UInt64 → Tm}

theorem days_close {later : UInt64} {s t : Archive} {log : OpenLog}
    (days : ∀ stored ∈ s.received, stored.rotated = false →
      generateFilename (localtime stored.entry.timestamp) = stored.name)
    (closed : s.close log = some t) : DaysKept localtime (later, t) := by
  obtain ⟨received, none_⟩ := close_received closed
  refine ⟨fun log open_ => ?_, ?_⟩
  · rw [none_] at open_
    cases open_
  · rw [received]
    exact days

theorem days_step (stretch : ∀ a b c, a ≤ b → b ≤ c → localtime a = localtime c →
      localtime b = localtime a)
    {c d : UInt64 × Archive} {event : ArchiveEvent} (taken : ClockedStep localtime c event d)
    (kept : DaysKept localtime c) : DaysKept localtime d := by
  obtain ⟨step, clock⟩ := taken
  obtain ⟨before, s⟩ := c
  obtain ⟨after, t⟩ := d
  have grown : before ≤ after → ∀ log, s.current = some log → ∃ time, time ≤ after ∧
      generateFilename (localtime time) = log.name := by
    intro order log open_
    obtain ⟨time, early, name⟩ := kept.opened log open_
    exact ⟨time, UInt64.le_trans early order, name⟩
  cases event with
  | sighup =>
      cases step
      exact ⟨grown clock, kept.days⟩
  | sigterm =>
      cases step
      exact ⟨grown clock, kept.days⟩
  | opens named now stale =>
      obtain ⟨-, early, late⟩ := clock
      obtain ⟨-, file, -, rfl⟩ := opens_step step
      refine ⟨fun log open_ => ?_, kept.days⟩
      cases open_
      exact ⟨named, UInt64.le_trans early late, rfl⟩
  | wait =>
      obtain ⟨log, open_, rfl⟩ := wait_step step
      refine ⟨fun other here => ?_, kept.days⟩
      cases here
      exact grown clock log open_
  | read entry checked =>
      obtain ⟨first, second, third⟩ := clock
      obtain ⟨log, file, open_, -, ⟨same, rfl⟩ | ⟨-, closed⟩⟩ := read_step step
      · obtain ⟨time, early, name⟩ := kept.opened log open_
        -- the frame was written between two times that have the day of the file
        have day : localtime entry.timestamp = localtime time :=
          stretch time entry.timestamp checked (UInt64.le_trans early first) second
            (generateFilename_injective (name.trans same.symm))
        refine ⟨fun other here => ?_, fun stored inside unrotated => ?_⟩
        · cases here
          exact ⟨checked, third, same⟩
        · rcases List.mem_append.mp inside with earlier | new
          · exact kept.days stored earlier unrotated
          · rw [List.mem_singleton.mp new, day]
            exact name
      · refine days_close ?_ closed
        intro stored inside unrotated
        rcases List.mem_append.mp inside with earlier | new
        · exact kept.days stored earlier unrotated
        · rw [List.mem_singleton.mp new] at unrotated
          cases unrotated
  | fail =>
      obtain ⟨log, -, closed⟩ := fail_step step
      exact days_close (s := { s with signalQuit := true }) kept.days closed
  | leave =>
      obtain ⟨log, -, closed⟩ := leave_step step
      exact days_close kept.days closed

/-- How often a file is opened. -/
def ArchiveEvent.openings : ArchiveEvent → Nat
  | .opens _ _ _ => 1
  | .sighup | .sigterm | .wait | .read _ _ | .fail | .leave => 0

/-- Every frame that has ended a file needs an opening of its own. -/
def FewRotated (k : Nat) (s : Archive) : Prop :=
  s.received.countP Stored.rotated + s.current.isSome.toNat ≤ k

theorem few_close {k : Nat} {s t : Archive} {log : OpenLog}
    (few : s.received.countP Stored.rotated ≤ k) (closed : s.close log = some t) :
    FewRotated k t := by
  obtain ⟨received, none_⟩ := close_received closed
  rw [FewRotated, received, none_]
  exact few

theorem few_step {k : Nat} {s t : Archive} {event : ArchiveEvent}
    (step : s.step localtime event = some t) (few : FewRotated k s) :
    FewRotated (k + event.openings) t := by
  have less : s.received.countP Stored.rotated ≤ k := Nat.le_of_add_right_le few
  cases event with
  | sighup =>
      cases step
      exact few
  | sigterm =>
      cases step
      exact few
  | opens named now stale =>
      obtain ⟨-, file, -, rfl⟩ := opens_step step
      exact Nat.add_le_add_right less 1
  | wait =>
      obtain ⟨log, open_, rfl⟩ := wait_step step
      rw [FewRotated, open_] at few
      exact few
  | read entry checked =>
      obtain ⟨log, file, open_, -, ⟨-, rfl⟩ | ⟨-, closed⟩⟩ := read_step step
      · rw [FewRotated, open_] at few
        rw [FewRotated, List.countP_append]
        exact few
      · rw [FewRotated, open_] at few
        refine few_close ?_ closed
        rw [List.countP_append]
        exact few
  | fail =>
      obtain ⟨log, -, closed⟩ := fail_step step
      exact few_close (s := { s with signalQuit := true }) less closed
  | leave =>
      obtain ⟨log, -, closed⟩ := leave_step step
      exact few_close less closed

/-- Where a day is one stretch of the clock and the clock does not go back, every frame was written
on the day of its file, but for the frames that have ended a file, of which each opening of a file
has one at most. -/
theorem archive_days (stretch : ∀ a b c, a ≤ b → b ≤ c → localtime a = localtime c →
      localtime b = localtime a)
    {files : FileName → Option (List UInt8)} {first last : UInt64} {s : Archive}
    {events : List ArchiveEvent}
    (run : Run (ClockedStep localtime) (first, .start files) events (last, s)) :
    (∀ stored ∈ s.received, stored.rotated = false →
      generateFilename (localtime stored.entry.timestamp) = stored.name) ∧
    s.received.countP Stored.rotated ≤ tally ArchiveEvent.openings events := by
  constructor
  · have start : DaysKept localtime (first, .start files) :=
      ⟨fun _ open_ => (Option.some_ne_none _ open_.symm).elim,
        fun _ inside => (List.not_mem_nil inside).elim⟩
    have kept : DaysKept localtime (last, s) :=
      run.invariant (DaysKept localtime) (fun _ _ _ taken kept => days_step stretch taken kept)
        start
    exact kept.days
  · have few : FewRotated (0 + tally ArchiveEvent.openings events) s :=
      run.counted ArchiveEvent.openings (fun k c => FewRotated k c.2)
        (fun _ _ _ _ taken few => few_step taken.1 few) le_rfl
    rw [Nat.zero_add] at few
    exact Nat.le_of_add_right_le few

theorem january_stretch (a b c : UInt64) (early : a ≤ b) (late : b ≤ c)
    (same : january a = january c) : january b = january a := by
  have days := congrArg Tm.day same
  have first : a.toNat / 86400 ≤ b.toNat / 86400 :=
    Nat.div_le_div_right (UInt64.le_iff_toNat_le.mp early)
  have second : b.toNat / 86400 ≤ c.toNat / 86400 :=
    Nat.div_le_div_right (UInt64.le_iff_toNat_le.mp late)
  have day : (january b).day = (january a).day := by
    change min _ _ = min _ _ at days ⊢
    omega
  rw [Tm.mk.injEq]
  exact ⟨rfl, rfl, day⟩

theorem evening_clocked : Clocked 86000 eveningEvents 86700 := by
  refine ⟨⟨?_, ?_, ?_⟩, ?_, ⟨?_, ?_, ?_⟩, ?_, ⟨?_, ?_, ?_⟩, ⟨?_, ?_, ?_⟩, ?_, ?_, ⟨?_, ?_, ?_⟩, ?_,
    rfl⟩
  all_goals
    change (_ : UInt64) ≤ _
    decide

theorem archive_days_evening : ∃ s : Archive,
    Run (ClockedStep january) (86000, .start fun _ => none) (eveningEvents.map Prod.fst)
      (86700, s) ∧
    (∀ stored ∈ s.received, stored.rotated = false →
      generateFilename (january stored.entry.timestamp) = stored.name) ∧
    s.received.countP Stored.rotated ≤
      tally ArchiveEvent.openings (eveningEvents.map Prod.fst) := by
  obtain ⟨last, executed⟩ := Option.isSome_iff_exists.mp evening_runs
  have run := clocked_run evening_clocked executed
  exact ⟨last, run, archive_days january_stretch run⟩

end Hcan.Data
