import Hcan.Data.Reader
import Hcan.Data.Writer

/-!
# Writer sessions and their reader

A log file is the header, one data block and the bytes behind it.  A session keeps this
shape: it appends its entries and rewrites the first 16 bytes of the data block, so the
file after any sessions is a function of all frames written so far.
-/

namespace Hcan.Data

open Hcan.Library Program ByteFile

@[irreducible]
def logFile (block : DataBlock) (body : List UInt8) : List UInt8 :=
  headerCodec.encode standardHeader ++ dataCodec.encode block ++ body

section Shape

variable {block : DataBlock} {body : List UInt8}

theorem logFile_length : (logFile block body).length = 40 + body.length := by
  unfold logFile
  rw [List.length_append, List.length_append, headerCodec.encode_length, dataCodec.encode_length]
  rfl

theorem logFile_drop : (logFile block body).drop 40 = body := by
  unfold logFile
  apply List.drop_left'
  rw [List.length_append, headerCodec.encode_length, dataCodec.encode_length]
  rfl

theorem logFile_append (more : List UInt8) :
    logFile block body ++ more = logFile block (body ++ more) := by
  unfold logFile
  rw [List.append_assoc _ body]

/-- The part of the data block that `write_data_block` writes. -/
def blockFront (block : DataBlock) : List UInt8 :=
  Codec.uint32.encode block.type ++ Codec.uint32.encode block.size ++
    Codec.uint64.encode block.firstTimestamp

theorem blockFront_length : (blockFront block).length = 16 := rfl

theorem dataCodec_encode :
    dataCodec.encode block = blockFront block ++ Codec.uint64.encode block.lastTimestamp := by
  change Codec.uint32.encode block.type ++ (Codec.uint32.encode block.size ++
    (Codec.uint64.encode block.firstTimestamp ++ Codec.uint64.encode block.lastTimestamp)) = _
  rw [blockFront, List.append_assoc, List.append_assoc]

/-- Writing the front of a block over a block leaves the last time stamp of the old one. -/
theorem overwrite_block (data : DataBlock) :
    overwrite (logFile block body) 16 ((dataCodec.encode data).take 16) =
      logFile { data with lastTimestamp := block.lastTimestamp } body := by
  have written : (dataCodec.encode data).take 16 = blockFront data := by
    rw [dataCodec_encode]
    exact List.take_left' blockFront_length
  have split : ∀ front : DataBlock, logFile { front with lastTimestamp := block.lastTimestamp }
      body = headerCodec.encode standardHeader ++ blockFront front ++
        (Codec.uint64.encode block.lastTimestamp ++ body) := by
    intro front
    unfold logFile
    rw [dataCodec_encode]
    simp only [List.append_assoc]
    rfl
  rw [written, split data, show logFile block body = _ from split block]
  exact overwrite_inside rfl

end Shape

section Session

variable {stale : Nat → UInt8} {block : DataBlock} {body : List UInt8} {pos : Nat}

theorem readHeader_ends {failed : String → ByteFile → Prop} :
    Ends (readRecord headerCodec stale) ⟨logFile block body, 0⟩
      (fun header last => header = standardHeader ∧ last = ⟨logFile block body, 16⟩) failed :=
  ends_readRecord_whole [] (by rw [logFile, List.append_assoc]; rfl) rfl

theorem readBlock_ends {failed : String → ByteFile → Prop} :
    Ends (readRecord dataCodec stale) ⟨logFile block body, 16⟩
      (fun data last => data = block ∧ last = ⟨logFile block body, 40⟩) failed :=
  ends_readRecord_whole (headerCodec.encode standardHeader) (by rw [logFile])
    (headerCodec.encode_length _).symm

/-- Setting up an empty file. -/
theorem setupFile_ends {content : List UInt8} (empty : content = []) (now : UInt64) :
    Ends (setupFile now) ⟨content, 0⟩
      (fun _ last => last = ⟨logFile ⟨dataFileTypeData, 24, now, 0⟩ [], 40⟩)
      fun _ _ => False := by
  have header : overwrite content 0 (headerCodec.encode standardHeader) =
      headerCodec.encode standardHeader := by
    rw [empty]
    exact overwrite_end [] _
  refine (ends_write _).bind ?_
  rintro _ _ rfl
  apply (ends_write _).weaken
  rintro _ _ rfl
  rw [header, headerCodec.encode_length, dataCodec.encode_length, logFile, List.append_nil]
  exact congrArg (ByteFile.mk · 40) (overwrite_end (headerCodec.encode standardHeader) _)

/-- A log file passes the check. -/
theorem checkIfFileValid_ends (type : block.type = dataFileTypeData) :
    Ends (checkIfFileValid stale) ⟨logFile block body, pos⟩
      (fun _ last => last = ⟨logFile block body, (logFile block body).length⟩)
      fun _ _ => False := by
  refine (ends_seekSet 0).bind ?_
  rintro _ _ ⟨rfl, rfl⟩
  refine readHeader_ends.bind ?_
  rintro _ _ ⟨rfl, rfl⟩
  rw [if_neg (not_not_intro (show standardHeader.magic = dataFileMagic1 from rfl)),
    if_neg (not_not_intro (show standardHeader.magic2 = dataFileMagic2 from rfl)),
    if_neg (not_not_intro (show standardHeader.type = dataFileTypeHeader from rfl))]
  refine (ends_seekSet 16).bind ?_
  rintro _ _ ⟨rfl, rfl⟩
  refine readBlock_ends.bind ?_
  rintro _ _ ⟨rfl, rfl⟩
  rw [if_neg (not_not_intro type)]
  refine (ends_seekEnd (Nat.zero_le _)).bind ?_
  rintro _ _ ⟨rfl, rfl⟩
  exact ends_pure rfl

/-- Frames are appended at the end. -/
theorem writeFrames_ends (frames : List FrameEntry) {content : List UInt8} :
    Ends (writeFrames frames) ⟨content, content.length⟩
      (fun _ last => last = ⟨content ++ entryCodec.encodeAll frames,
        (content ++ entryCodec.encodeAll frames).length⟩) fun _ _ => False := by
  induction frames generalizing content with
  | nil =>
      apply ends_pure
      rw [entryCodec.encodeAll_nil, List.append_nil]
  | cons e frames ih =>
      refine (ends_write (entryCodec.encode e)).bind ?_
      rintro _ _ rfl
      rw [entryCodec.encodeAll_cons, overwrite_end, ← List.append_assoc, ← List.length_append]
      exact ih

/-- The first time stamp that `sync` finds: the one of the first entry, if any. -/
def syncedFirst (stale : Nat → UInt8) (body : List UInt8) : UInt64 :=
  if UInt64.ofNat (24 + body.length) > UInt64.ofNat dataCodec.size then
    (entryCodec.decode (body.take 24 ++
      (List.range' (body.take 24).length (24 - (body.take 24).length)).map stale)).timestamp
  else 0

/-- The data block after `sync`. -/
def syncedBlock (stale : Nat → UInt8) (block : DataBlock) (body : List UInt8) : DataBlock :=
  { block with
    size := (UInt64.ofNat (24 + body.length)).toUInt32
    firstTimestamp := syncedFirst stale body }

theorem syncTimestamps_ends (data : DataBlock) :
    Ends (syncTimestamps stale (UInt64.ofNat (24 + body.length)) data) ⟨logFile block body, 40⟩
      (fun result last => last.content = logFile block body ∧ result.type = data.type ∧
        result.size = data.size ∧ result.firstTimestamp = syncedFirst stale body)
      fun _ _ => False := by
  unfold syncTimestamps
  apply ends_ite
  · intro some
    have first : Ends (readRecord entryCodec stale) ⟨logFile block body, 40⟩
        (fun oldest last => last.content = logFile block body ∧
          oldest.timestamp = syncedFirst stale body) fun (_ : String) _ => False := by
      unfold syncedFirst
      rw [if_pos some]
      apply ends_get_bind
      dsimp only
      rw [logFile_drop]
      exact ⟨rfl, rfl⟩
    refine first.bind ?_
    rintro oldest ⟨_, _⟩ ⟨rfl, timestamp⟩
    refine (ends_seekEnd (by rw [logFile_length]; omega)).bind ?_
    rintro _ _ ⟨rfl, rfl⟩
    refine (ends_readRecord entryCodec stale).bind ?_
    rintro newest ⟨_, _⟩ rfl
    exact ends_pure ⟨rfl, rfl, rfl, timestamp⟩
  · intro none
    unfold syncedFirst
    rw [if_neg none]
    exact ends_pure ⟨rfl, rfl, rfl, rfl⟩

theorem writeDataBlock_ends (data : DataBlock) :
    Ends (writeDataBlock 16 data) ⟨logFile block body, pos⟩
      (fun _ last => last.content = logFile { data with lastTimestamp := block.lastTimestamp } body)
      fun _ _ => False := by
  refine (ends_seekSet 16).bind ?_
  rintro _ _ ⟨rfl, rfl⟩
  rw [if_neg (by decide)]
  apply (ends_write _).weaken
  rintro _ _ rfl
  exact overwrite_block data

/-- The destructor rewrites the data block in place. -/
theorem sync_ends :
    Ends (sync stale) ⟨logFile block body, pos⟩
      (fun _ last => last.content = logFile (syncedBlock stale block body) body)
      fun _ _ => False := by
  have size : UInt64.ofNat ((logFile block body).length - 0) - UInt64.ofNat 16 =
      UInt64.ofNat (24 + body.length) := by
    rw [logFile_length, show 40 + body.length - 0 = 24 + body.length + 16 by omega,
      UInt64.ofNat_add]
    exact UInt64.add_sub_cancel ..
  refine (ends_seekEnd (Nat.zero_le _)).bind ?_
  rintro _ _ ⟨rfl, rfl⟩
  refine (ends_seekSet 0).bind ?_
  rintro _ _ ⟨rfl, rfl⟩
  refine readHeader_ends.bind ?_
  rintro _ _ ⟨rfl, rfl⟩
  refine (ends_seekSet 16).bind ?_
  rintro _ _ ⟨rfl, rfl⟩
  refine readBlock_ends.bind ?_
  rintro _ _ ⟨rfl, rfl⟩
  dsimp only
  rw [size]
  refine (syncTimestamps_ends _).bind ?_
  rintro result ⟨_, _⟩ ⟨rfl, type, resultSize, first⟩
  refine (writeDataBlock_ends result).bind ?_
  rintro _ ⟨_, _⟩ rfl
  refine (ends_seekEnd (Nat.zero_le _)).bind ?_
  rintro _ _ ⟨rfl, rfl⟩
  apply ends_pure
  obtain ⟨_, _, _, _⟩ := result
  cases type
  cases resultSize
  cases first
  rfl

theorem openWriter_ends (now : UInt64) (type : block.type = dataFileTypeData) :
    Ends (openWriter stale now) ⟨logFile block body, 0⟩
      (fun _ last => last = ⟨logFile block body, (logFile block body).length⟩)
      fun _ _ => False := by
  apply ends_get_bind
  rw [if_pos (show (logFile block body).length > 0 by rw [logFile_length]; omega)]
  exact checkIfFileValid_ends type

/-- From the constructor on, a session appends its entries and updates the block. -/
theorem session_rest (block : DataBlock) (body : List UInt8) (session : Session) :
    Ends (do
        writeFrames session.frames
        sync session.stale) ⟨logFile block body, (logFile block body).length⟩
      (fun _ last => last.content = logFile
        (syncedBlock session.stale block (body ++ entryCodec.encodeAll session.frames))
        (body ++ entryCodec.encodeAll session.frames)) fun _ _ => False := by
  refine (writeFrames_ends session.frames).bind ?_
  rintro _ _ rfl
  rw [logFile_append]
  exact sync_ends

/-- The content that a specification of a session determines. -/
theorem on_of_ends {session : Session} {content result : List UInt8}
    (ends : Ends session.run ⟨content, 0⟩ (fun _ last => last.content = result)
      fun _ _ => False) : session.on content = some result := by
  obtain ⟨_, last, ran, rfl⟩ := ends.ok
  unfold Session.on
  rw [ran]

/-- A session on a log file. -/
theorem session_append (session : Session) (type : block.type = dataFileTypeData) :
    session.on (logFile block body) = some (logFile
      (syncedBlock session.stale block (body ++ entryCodec.encodeAll session.frames))
      (body ++ entryCodec.encodeAll session.frames)) := by
  apply on_of_ends
  refine (openWriter_ends session.now type).bind ?_
  rintro _ _ rfl
  exact session_rest block body session

theorem openWriter_empty_ends {content : List UInt8} (empty : content = []) (now : UInt64) :
    Ends (openWriter stale now) ⟨content, 0⟩
      (fun _ last => last = ⟨logFile ⟨dataFileTypeData, 24, now, 0⟩ [], 40⟩)
      fun _ _ => False := by
  apply ends_get_bind
  rw [if_neg (show ¬ content.length > 0 by rw [empty]; exact Nat.lt_irrefl 0)]
  exact setupFile_ends empty now

/-- The first session creates the file. -/
theorem session_create {content : List UInt8} (empty : content = []) (session : Session) :
    session.on content = some (logFile
      (syncedBlock session.stale ⟨dataFileTypeData, 24, session.now, 0⟩
        (entryCodec.encodeAll session.frames)) (entryCodec.encodeAll session.frames)) := by
  apply on_of_ends
  refine (openWriter_empty_ends empty session.now).bind ?_
  rintro _ _ rfl
  have length : (logFile ⟨dataFileTypeData, 24, session.now, 0⟩ []).length = 40 := logFile_length
  have rest := session_rest ⟨dataFileTypeData, 24, session.now, 0⟩ [] session
  rw [length, List.nil_append] at rest
  exact rest

end Session

/-! ## Runs of sessions -/

/-- What the file holds after sessions that wrote these frames: the block knows the
first of them, and the last time stamp is still the zero of its creation. -/
def closedBlock (frames : List FrameEntry) : DataBlock :=
  let size := UInt64.ofNat (24 + 24 * frames.length)
  { type := dataFileTypeData
    size := size.toUInt32
    firstTimestamp := if size > 24 then (frames.head?.map FrameEntry.timestamp).getD 0 else 0
    lastTimestamp := 0 }

def closedFile (frames : List FrameEntry) : List UInt8 :=
  logFile (closedBlock frames) (entryCodec.encodeAll frames)

theorem syncedFirst_encodeAll {stale : Nat → UInt8} {frames : List FrameEntry} :
    syncedFirst stale (entryCodec.encodeAll frames) = (closedBlock frames).firstTimestamp := by
  have length : (entryCodec.encodeAll frames).length = 24 * frames.length :=
    entryCodec.encodeAll_length frames
  unfold syncedFirst closedBlock
  rw [length, show UInt64.ofNat dataCodec.size = 24 from rfl]
  cases frames with
  | nil =>
      rw [if_neg (by decide)]
      rfl
  | cons e frames =>
      have front : (entryCodec.encodeAll (e :: frames)).take 24 = entryCodec.encode e :=
        List.take_left' (entryCodec.encode_length e)
      have whole : (entryCodec.encode e).length = 24 := entryCodec.encode_length e
      rw [front, whole, Nat.sub_self, List.range'_zero, List.map_nil, List.append_nil,
        entryCodec.decode_encode]
      rfl

theorem syncedBlock_encodeAll {stale : Nat → UInt8} {block : DataBlock} {frames : List FrameEntry}
    (type : block.type = dataFileTypeData) (last : block.lastTimestamp = 0) :
    syncedBlock stale block (entryCodec.encodeAll frames) = closedBlock frames := by
  have length : (entryCodec.encodeAll frames).length = 24 * frames.length :=
    entryCodec.encodeAll_length frames
  unfold syncedBlock
  rw [syncedFirst_encodeAll, length, type, last]
  rfl

/-- A session appends to the frames of the file. -/
theorem session_closedFile (session : Session) (frames : List FrameEntry) :
    session.on (closedFile frames) = some (closedFile (frames ++ session.frames)) := by
  unfold closedFile
  rw [session_append session rfl, ← entryCodec.encodeAll_append, syncedBlock_encodeAll rfl rfl]

theorem session_first (session : Session) :
    session.on [] = some (closedFile session.frames) := by
  rw [session_create rfl, syncedBlock_encodeAll rfl rfl]
  rfl

/-- The frames of sessions, in the order they were written. -/
def written (list : List Session) : List FrameEntry := list.flatMap Session.frames

/-- After any sessions on one file its content is a function of the frames written. -/
theorem sessions_closedFile (first : Session) (later : List Session) :
    sessions (first :: later) [] = some (closedFile (written (first :: later))) := by
  have appended : ∀ {later : List Session} {frames : List FrameEntry},
      sessions later (closedFile frames) = some (closedFile (frames ++ written later)) := by
    intro later
    induction later with
    | nil =>
        intro frames
        rw [sessions, written, List.flatMap_nil, List.append_nil]
    | cons session later ih =>
        intro frames
        rw [sessions, session_closedFile, Option.bind_some, ih, List.append_assoc]
        rfl
  rw [sessions, session_first, Option.bind_some, appended]
  rfl

end Hcan.Data
