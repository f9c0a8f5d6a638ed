import Hcan.Data.Sessions

/-!
# The log as a list of frames

A reader finds the entries behind the data block as long as their number is an `int`.
After any sessions these are the frames in the order they were written; the last time
stamp of the data block never reaches the file, and bytes of a torn entry stay in front
of everything that is appended later.
-/

namespace Hcan.Data

open Hcan.Library Program ByteFile

section Reader

variable {block : DataBlock} {body : List UInt8} {entries : List FrameEntry}

/-- A record that lies whole in the file is decoded from its bytes. -/
theorem record_whole {α : Type} {codec : Codec α} (front : List UInt8) {back : List UInt8}
    {value : α} {content : List UInt8} (split : content = front ++ codec.encode value ++ back) :
    (DataFile.mk content).record codec front.length = value := by
  unfold DataFile.record
  dsimp only
  rw [split, List.append_assoc, List.drop_left' rfl, List.take_left' (codec.encode_length value),
    codec.encode_length, Nat.sub_self, List.replicate_zero, List.append_nil, codec.decode_encode]

theorem dataFile_logFile (type : block.type = dataFileTypeData) :
    dataFile (logFile block body) = .ok ⟨logFile block body⟩ := by
  have header : (DataFile.mk (logFile block body)).record headerCodec 0 = standardHeader :=
    record_whole [] (by rw [logFile, List.append_assoc]; rfl)
  have data : (DataFile.mk (logFile block body)).record dataCodec headerCodec.size = block := by
    rw [← headerCodec.encode_length standardHeader]
    exact record_whole _ (by rw [logFile])
  unfold dataFile
  dsimp only
  rw [header, data, if_neg (show (logFile block body).length ≠ 0 by rw [logFile_length]; omega),
    if_neg (not_not_intro (show standardHeader.magic = dataFileMagic1 from rfl)),
    if_neg (not_not_intro (show standardHeader.magic2 = dataFileMagic2 from rfl)),
    if_neg (not_not_intro (show standardHeader.type = dataFileTypeHeader from rfl)),
    if_neg (not_not_intro type)]
  rfl

theorem count_logFile (block : DataBlock) (body : List UInt8) :
    (DataFile.mk (logFile block body)).count =
      Int.bmod (UInt64.ofNat body.length / 24).toNat (2 ^ 32) := by
  have size : UInt64.ofNat (logFile block body).length - UInt64.ofNat headerCodec.size -
      UInt64.ofNat dataCodec.size = UInt64.ofNat body.length := by
    rw [logFile_length, show 40 + body.length = body.length + 24 + 16 by omega,
      UInt64.ofNat_add, UInt64.ofNat_add]
    exact (congrArg (· - UInt64.ofNat 24) (UInt64.add_sub_cancel ..)).trans
      (UInt64.add_sub_cancel ..)
  unfold DataFile.count
  dsimp only
  rw [size]
  rfl

theorem count_small (block : DataBlock) (few : body.length / 24 < 2 ^ 31) :
    (DataFile.mk (logFile block body)).count = (body.length / 24 : Nat) := by
  have whole : (UInt64.ofNat body.length / 24).toNat = body.length / 24 := by
    rw [UInt64.toNat_div, UInt64.toNat_ofNat_of_lt' (show body.length < 2 ^ 64 by omega)]
    rfl
  rw [count_logFile, whole]
  apply Int.bmod_eq_of_le <;> omega

/-- The entries are decoded from the slices of the body. -/
theorem frame_logFile {i : Nat} (bound : (i : Int) < (DataFile.mk (logFile block body)).count)
    (inside : 24 * (i + 1) ≤ body.length) :
    (DataFile.mk (logFile block body)).frame i =
      .ok (entryCodec.decode (entryCodec.slice body i)) := by
  have slice : (((logFile block body).drop (16 + 24 + 24 * i)).take 24) =
      entryCodec.slice body i := by
    rw [← List.drop_drop, logFile_drop]
    rfl
  have length : (entryCodec.slice body i).length = 24 := by
    unfold Codec.slice
    rw [List.length_take, List.length_drop]
    change min 24 (body.length - 24 * i) = 24
    omega
  unfold DataFile.frame
  rw [if_neg (by omega)]
  unfold DataFile.record
  rw [Int.toNat_natCast, headerCodec_size, dataCodec_size, entryCodec_size, slice]
  dsimp only
  rw [length, Nat.sub_self, List.replicate_zero, List.append_nil]
  rfl

/-- A reader finds exactly these entries if and only if the body begins with them and
their number is an `int`. -/
theorem returns_iff (type : block.type = dataFileTypeData)
    (number : body.length / 24 = entries.length) :
    Returns (logFile block body) entries ↔
      entries.length < 2 ^ 31 ∧ entryCodec.encodeAll entries <+: body := by
  have inside : ∀ {i : Nat}, i < entries.length → 24 * (i + 1) ≤ body.length := by
    intro i bound
    omega
  unfold Returns
  rw [dataFile_logFile type]
  constructor
  · rintro ⟨file, opened, count, frames⟩
    cases Except.ok.inj opened
    have few : entries.length < 2 ^ 31 := by
      have bounded := @Int.bmod_lt (UInt64.ofNat body.length / 24).toNat (2 ^ 32) (by decide)
      rw [← count_logFile block, count] at bounded
      omega
    refine ⟨few, entryCodec.encodeAll_prefix ?_ ?_⟩
    · rw [entryCodec_size]
      omega
    · intro i bound
      have read := frames i bound
      rw [frame_logFile (by rw [count]; omega) (inside bound)] at read
      exact Except.ok.inj read
  · rintro ⟨few, back, rfl⟩
    have count := count_small block (number ▸ few)
    rw [number] at count
    refine ⟨_, rfl, count, ?_⟩
    intro i bound
    rw [frame_logFile (by rw [count]; omega) (inside bound), entryCodec.slice_encodeAll bound,
      entryCodec.decode_encode]

end Reader

theorem returns_closedFile_iff (frames : List FrameEntry) :
    Returns (closedFile frames) frames ↔ frames.length < 2 ^ 31 := by
  have number : (entryCodec.encodeAll frames).length / 24 = frames.length := by
    rw [entryCodec.encodeAll_length, entryCodec_size]
    omega
  unfold closedFile
  rw [returns_iff rfl number]
  exact and_iff_left (List.prefix_refl _)

/-- After any sessions on one file a reader finds all frames in the order they were
written, if an `int` can count them. -/
theorem log_round_trip (first : Session) (later : List Session)
    (few : (written (first :: later)).length < 2 ^ 31) :
    ∃ content, sessions (first :: later) [] = some content ∧
      Returns content (written (first :: later)) :=
  ⟨_, sessions_closedFile first later, (returns_closedFile_iff _).mpr few⟩

def zeroEntry : FrameEntry := ⟨0, 0, 0, 0, 0, Vector.replicate 8 0⟩

theorem log_round_trip_two :
    ∃ content, sessions [⟨fun _ => 0, 7, [zeroEntry]⟩, ⟨fun _ => 1, 9, [⟨8, 1, 2, 3, 4,
        Vector.replicate 8 5⟩]⟩] [] = some content ∧
      Returns content [zeroEntry, ⟨8, 1, 2, 3, 4, Vector.replicate 8 5⟩] :=
  log_round_trip ⟨fun _ => 0, 7, [zeroEntry]⟩
    [⟨fun _ => 1, 9, [⟨8, 1, 2, 3, 4, Vector.replicate 8 5⟩]⟩] (by decide)

/-- A session of 2^31 frames, which no reader counts. -/
def longSession : Session := ⟨fun _ => 0, 0, List.replicate (2 ^ 31) zeroEntry⟩

theorem long_log_unread :
    ∃ content, sessions [longSession] [] = some content ∧
      ¬ Returns content (written [longSession]) := by
  refine ⟨_, sessions_closedFile longSession [], ?_⟩
  have length : (written [longSession]).length = 2 ^ 31 := by
    rw [written, List.flatMap_singleton]
    exact List.length_replicate
  rw [returns_closedFile_iff, length]
  exact Nat.lt_irrefl _

/-- The data block in a file. -/
def storedBlock (content : List UInt8) : DataBlock :=
  dataCodec.decode ((content.drop 16).take 24)

theorem storedBlock_logFile {block : DataBlock} {body : List UInt8} :
    storedBlock (logFile block body) = block := by
  unfold storedBlock logFile
  have behind : (headerCodec.encode standardHeader ++ (dataCodec.encode block ++ body)).drop 16 =
      dataCodec.encode block ++ body := List.drop_left' (headerCodec.encode_length _)
  have front : (dataCodec.encode block ++ body).take 24 = dataCodec.encode block :=
    List.take_left' (dataCodec.encode_length _)
  rw [List.append_assoc, behind, front, dataCodec.decode_encode]

/-- The stored header is right: the bytes up to the end of the file and the two time
stamps. -/
structure HeaderRight (content : List UInt8) (frames : List FrameEntry) : Prop where
  size : (storedBlock content).size.toNat = content.length - 16
  first : frames.head?.map FrameEntry.timestamp = some (storedBlock content).firstTimestamp
  last : frames.getLast?.map FrameEntry.timestamp = some (storedBlock content).lastTimestamp

theorem closedBlock_small {e : FrameEntry} {frames : List FrameEntry}
    (small : 24 + 24 * (e :: frames).length < 2 ^ 32) :
    (closedBlock (e :: frames)).size.toNat = 24 + 24 * (e :: frames).length ∧
      (closedBlock (e :: frames)).firstTimestamp = e.timestamp := by
  have word : (UInt64.ofNat (24 + 24 * (e :: frames).length)).toNat =
      24 + 24 * (e :: frames).length :=
    UInt64.toNat_ofNat_of_lt' (Nat.lt_trans small (by decide))
  have more : UInt64.ofNat (24 + 24 * (e :: frames).length) > 24 := by
    apply UInt64.lt_iff_toNat_lt.mpr
    rw [word, List.length_cons]
    change 24 < _
    omega
  unfold closedBlock
  dsimp only
  constructor
  · rw [UInt64.toNat_toUInt32, word]
    exact Nat.mod_eq_of_lt small
  · rw [if_pos more]
    rfl

theorem headerRight_iff {frames : List FrameEntry} (some_ : frames ≠ []) :
    HeaderRight (closedFile frames) frames ↔
      24 + 24 * frames.length < 2 ^ 32 ∧ frames.getLast?.map FrameEntry.timestamp = some 0 := by
  have length : (closedFile frames).length - 16 = 24 + 24 * frames.length := by
    unfold closedFile
    rw [logFile_length, entryCodec.encodeAll_length, entryCodec_size]
    omega
  have stored : storedBlock (closedFile frames) = closedBlock frames := storedBlock_logFile
  constructor
  · intro right
    have size := right.size
    rw [length, stored] at size
    have last := right.last
    rw [stored] at last
    exact ⟨size ▸ (closedBlock frames).size.toNat_lt, last⟩
  · rintro ⟨small, last⟩
    cases frames with
    | nil => exact absurd rfl some_
    | cons e frames =>
        obtain ⟨size, first⟩ := closedBlock_small small
        constructor
        · rw [length, stored, size]
        · rw [stored, first]
          rfl
        · rw [stored, last]
          rfl

/-- After any sessions that wrote a frame the stored header is right if and only if its
size fits 32 bits and the last frame was written at time zero. -/
theorem stored_header_iff (first : Session) (later : List Session)
    (some_ : written (first :: later) ≠ []) :
    ∃ content, sessions (first :: later) [] = some content ∧
      (HeaderRight content (written (first :: later)) ↔
        24 + 24 * (written (first :: later)).length < 2 ^ 32 ∧
          (written (first :: later)).getLast?.map FrameEntry.timestamp = some 0) :=
  ⟨_, sessions_closedFile first later, headerRight_iff some_⟩

/-- One frame at the given time. -/
def shortSession (time : UInt64) : Session :=
  ⟨fun _ => 0, time, [{ zeroEntry with timestamp := time }]⟩

theorem stored_header_iff_short :
    ∃ content, sessions [shortSession 5] [] = some content ∧
      (HeaderRight content (written [shortSession 5]) ↔
        24 + 24 * (written [shortSession 5]).length < 2 ^ 32 ∧
          (written [shortSession 5]).getLast?.map FrameEntry.timestamp = some 0) :=
  stored_header_iff (shortSession 5) [] (List.cons_ne_nil _ _)

/-- The last time stamp of a frame written at time 1 is not in the stored header. -/
theorem last_timestamp_lost :
    ∃ content, sessions [shortSession 1] [] = some content ∧
      ¬ HeaderRight content (written [shortSession 1]) := by
  refine ⟨_, sessions_closedFile (shortSession 1) [], ?_⟩
  rw [headerRight_iff (show written [shortSession 1] ≠ [] from List.cons_ne_nil _ _)]
  rintro ⟨_, last⟩
  exact absurd last (by decide)

/-! ## A torn entry -/

/-- The file when the process dies in `write_frame`: of the last entry `k` bytes reached
the disk, and no destructor ran. -/
def Session.tornOn (session : Session) (e : FrameEntry) (k : Nat) (content : List UInt8) :
    Option (List UInt8) :=
  match (do
      openWriter session.stale session.now
      writeFrames session.frames
      write ((entryCodec.encode e).take k) : Writer PUnit) ⟨content, 0⟩ with
  | some (.ok _, file) => some file.content
  | _ => none

section Torn

variable {block : DataBlock} {body : List UInt8}

/-- Whatever the body is, later sessions append to it. -/
theorem sessions_append (list : List Session) (block : DataBlock) (body : List UInt8)
    (type : block.type = dataFileTypeData) :
    ∃ last, last.type = dataFileTypeData ∧ sessions list (logFile block body) =
      some (logFile last (body ++ entryCodec.encodeAll (written list))) := by
  induction list generalizing block body with
  | nil => exact ⟨block, type, by rw [sessions, written, List.flatMap_nil, Codec.encodeAll_nil,
      List.append_nil]⟩
  | cons session list ih =>
      obtain ⟨last, lastType, later⟩ := ih (syncedBlock session.stale block
        (body ++ entryCodec.encodeAll session.frames))
        (body ++ entryCodec.encodeAll session.frames) type
      refine ⟨last, lastType, ?_⟩
      rw [sessions, session_append session type, Option.bind_some, later, List.append_assoc,
        ← entryCodec.encodeAll_append]
      rfl

theorem torn_ends (block : DataBlock) (body : List UInt8) (session : Session) (e : FrameEntry)
    (k : Nat) {content : List UInt8}
    (opened : Ends (openWriter session.stale session.now) ⟨content, 0⟩
      (fun _ last => last = ⟨logFile block body, (logFile block body).length⟩)
      fun _ _ => False) :
    session.tornOn e k content = some (logFile block
      (body ++ entryCodec.encodeAll session.frames ++ (entryCodec.encode e).take k)) := by
  have ends : Ends (do
      openWriter session.stale session.now
      writeFrames session.frames
      write ((entryCodec.encode e).take k) : Writer PUnit) ⟨content, 0⟩
      (fun _ last => last.content = logFile block
        (body ++ entryCodec.encodeAll session.frames ++ (entryCodec.encode e).take k))
      fun _ _ => False := by
    refine opened.bind ?_
    rintro _ _ rfl
    refine (writeFrames_ends session.frames).bind ?_
    rintro _ _ rfl
    apply (ends_write _).weaken
    rintro _ _ rfl
    rw [logFile_append]
    exact (overwrite_end _ _).trans (logFile_append _)
  obtain ⟨_, last, ran, content_⟩ := ends.ok
  unfold Session.tornOn
  rw [ran]
  exact congrArg some content_

/-- The file that a crash leaves behind. -/
theorem torn_file (before : List Session) (crashed : Session) (e : FrameEntry) (k : Nat) :
    ∃ block : DataBlock, block.type = dataFileTypeData ∧
      (sessions before []).bind (crashed.tornOn e k) = some (logFile block
        (entryCodec.encodeAll (written before ++ crashed.frames) ++
          (entryCodec.encode e).take k)) := by
  rw [entryCodec.encodeAll_append]
  cases before with
  | nil =>
      refine ⟨⟨dataFileTypeData, 24, crashed.now, 0⟩, rfl, ?_⟩
      rw [sessions, Option.bind_some, torn_ends ⟨dataFileTypeData, 24, crashed.now, 0⟩ []
        crashed e k]
      · rfl
      · rw [logFile_length]
        exact openWriter_empty_ends rfl crashed.now
  | cons first later =>
      refine ⟨closedBlock (written (first :: later)), rfl, ?_⟩
      rw [sessions_closedFile, Option.bind_some]
      exact torn_ends _ _ crashed e k (openWriter_ends crashed.now rfl)

/-- Later sessions append behind the torn bytes. -/
theorem torn_appended (before : List Session) (crashed : Session) (e : FrameEntry) (k : Nat)
    (later : List Session) :
    ∃ block : DataBlock, block.type = dataFileTypeData ∧
      ((sessions before []).bind (crashed.tornOn e k)).bind (sessions later) =
        some (logFile block (entryCodec.encodeAll (written before ++ crashed.frames) ++
          (entryCodec.encode e).take k ++ entryCodec.encodeAll (written later))) := by
  obtain ⟨block, type, torn⟩ := torn_file before crashed e k
  obtain ⟨last, lastType, appended⟩ := sessions_append later block
    (entryCodec.encodeAll (written before ++ crashed.frames) ++ (entryCodec.encode e).take k) type
  exact ⟨last, lastType, by rw [torn, Option.bind_some, appended]⟩

theorem returns_torn_iff (complete : List FrameEntry) {appended : List FrameEntry}
    {torn : List UInt8} (type : block.type = dataFileTypeData) (proper : torn.length < 24) :
    Returns (logFile block
        (entryCodec.encodeAll complete ++ torn ++ entryCodec.encodeAll appended))
        (complete ++ appended) ↔
      (complete ++ appended).length < 2 ^ 31 ∧
        entryCodec.encodeAll appended <+: torn ++ entryCodec.encodeAll appended := by
  have number : (entryCodec.encodeAll complete ++ torn ++
      entryCodec.encodeAll appended).length / 24 = (complete ++ appended).length := by
    simp only [List.length_append, entryCodec.encodeAll_length, entryCodec_size]
    omega
  rw [returns_iff type number, entryCodec.encodeAll_append, List.append_assoc,
    List.prefix_append_right_inj]

end Torn

/-- After a crash that left `k` bytes of an entry, and any later sessions, a reader finds
the complete frames and the appended ones if and only if the appended bytes begin the torn
ones followed by themselves. -/
theorem torn_log_iff (before : List Session) (crashed : Session) (e : FrameEntry) (k : Nat)
    (proper : k < 24) (later : List Session) :
    ∃ content, ((sessions before []).bind (crashed.tornOn e k)).bind (sessions later) =
        some content ∧
      (Returns content (written before ++ crashed.frames ++ written later) ↔
        (written before ++ crashed.frames ++ written later).length < 2 ^ 31 ∧
          entryCodec.encodeAll (written later) <+:
            (entryCodec.encode e).take k ++ entryCodec.encodeAll (written later)) := by
  obtain ⟨block, type, appended⟩ := torn_appended before crashed e k later
  refine ⟨_, appended, returns_torn_iff _ type ?_⟩
  rw [List.length_take]
  omega

/-- Eight bytes of a torn entry are ignored until a later session writes behind them. -/
theorem torn_log_iff_eight :
    (∃ content, ((sessions [] []).bind ((shortSession 1).tornOn zeroEntry 8)).bind (sessions []) =
        some content ∧
      Returns content (written [] ++ (shortSession 1).frames ++ written [])) ∧
    ∃ content, ((sessions [] []).bind ((shortSession 1).tornOn zeroEntry 8)).bind
        (sessions [shortSession 2]) = some content ∧
      ¬ Returns content (written [] ++ (shortSession 1).frames ++ written [shortSession 2]) := by
  obtain ⟨first, firstTorn, alone⟩ := torn_log_iff [] (shortSession 1) zeroEntry 8 (by decide) []
  obtain ⟨second, secondTorn, behind⟩ :=
    torn_log_iff [] (shortSession 1) zeroEntry 8 (by decide) [shortSession 2]
  refine ⟨⟨first, firstTorn, alone.mpr ⟨by decide, List.nil_prefix⟩⟩, second, secondTorn, ?_⟩
  intro returned
  exact absurd (behind.mp returned).2 (by decide)

/-- One byte of a torn entry shifts the entry that is appended. -/
theorem torn_log_shifted :
    ∃ content, ((sessions [] []).bind
        ((Session.mk (fun _ => 0) 1 []).tornOn { zeroEntry with timestamp := 1 } 1)).bind
          (sessions [shortSession 2]) = some content ∧
      ¬ Returns content (written [] ++ [] ++ written [shortSession 2]) := by
  obtain ⟨block, type, appended⟩ := torn_appended [] (Session.mk (fun _ => 0) 1 [])
    { zeroEntry with timestamp := 1 } 1 [shortSession 2]
  refine ⟨_, appended, ?_⟩
  rw [returns_torn_iff (written [] ++ []) type (by decide)]
  rintro ⟨_, shifted⟩
  exact absurd shifted (by decide)

end Hcan.Data
