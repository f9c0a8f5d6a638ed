import Hcan.Data.FileFormat
import Hcan.Library.ByteFile

/-!
# The log writer

`data_file_writer` on an open file: the constructor sets up or checks the file and
leaves its position at the end, a frame is appended, and the destructor brings the data
block up to date.  `stale` is what the records on the stack held before they were read.
-/

namespace Hcan.Data

open Hcan.Library Program ByteFile

abbrev Writer := Program ByteFile String

def invalidArgument : String := "Invalid argument"

/-- `strerror` where no system call has failed. -/
def success : String := "Success"

def standardHeader : HeaderBlock :=
  { type := dataFileTypeHeader
    size := UInt32.ofNat headerCodec.size
    magic := dataFileMagic1
    magic2 := dataFileMagic2 }

/-- `setup_file`; `now` is the time of day. -/
def setupFile (now : UInt64) : Writer PUnit := do
  write (headerCodec.encode standardHeader)
  write (dataCodec.encode
    { type := dataFileTypeData
      size := UInt32.ofNat dataCodec.size
      firstTimestamp := now
      lastTimestamp := 0 })

def checkIfFileValid (stale : Nat → UInt8) : Writer PUnit := do
  let _ ← seekSet 0
  let header ← readRecord headerCodec stale
  if header.magic ≠ dataFileMagic1 then throw "wrong DATA_FILE_MAGIC_1 value"
  else if header.magic2 ≠ dataFileMagic2 then throw "wrong DATA_FILE_MAGIC_2 value"
  else if header.type ≠ dataFileTypeHeader then throw "wrong header block type"
  else do
    let _ ← seekSet header.size.toNat
    let data ← readRecord dataCodec stale
    if data.type ≠ dataFileTypeData then throw "wrong data block type"
    else do
      let _ ← seekEnd invalidArgument 0
      pure ⟨⟩

/-- The constructor, on the file as `open` leaves it. -/
def openWriter (stale : Nat → UInt8) (now : UInt64) : Writer PUnit := do
  let file ← get
  if file.content.length > 0 then checkIfFileValid stale else setupFile now

/-- `write_frame` at the time `now`. -/
def writeFrame (now : UInt64) (src dst proto size : UInt16) (data : Vector UInt8 8) :
    Writer PUnit :=
  write (entryCodec.encode ⟨now, src, dst, proto, size, data⟩)

/-- Only as many bytes as the header block has are written of the data block. -/
def writeDataBlock (dataPos : Nat) (data : DataBlock) : Writer PUnit := do
  let pos ← seekSet dataPos
  -- the source compares with 1 where `lseek` fails with -1
  if pos = 1 then throw success
  else write ((dataCodec.encode data).take headerCodec.size)

/-- The two time stamps of a data block of `size` bytes. -/
def syncTimestamps (stale : Nat → UInt8) (size : UInt64) (data : DataBlock) :
    Writer DataBlock := do
  if size > UInt64.ofNat dataCodec.size then do
    let oldest ← readRecord entryCodec stale
    let _ ← seekEnd invalidArgument 24
    let newest ← readRecord entryCodec stale
    pure { data with
      firstTimestamp := oldest.timestamp
      lastTimestamp := newest.timestamp }
  else pure { data with firstTimestamp := 0, lastTimestamp := 0 }

def sync (stale : Nat → UInt8) : Writer PUnit := do
  let endPos ← seekEnd invalidArgument 0
  let _ ← seekSet 0
  let header ← readRecord headerCodec stale
  let dataPos ← seekSet header.size.toNat
  let data ← readRecord dataCodec stale
  let size := UInt64.ofNat endPos - UInt64.ofNat dataPos
  let data ← syncTimestamps stale size { data with size := size.toUInt32 }
  writeDataBlock dataPos data
  let _ ← seekEnd invalidArgument 0
  pure ⟨⟩

/-- What happens to a file between two times it is opened: the time of opening, the
frames with the times they were written at, and the old content of the stack. -/
structure Session where
  stale : Nat → UInt8
  now : UInt64
  frames : List FrameEntry

def writeFrames (frames : List FrameEntry) : Writer PUnit :=
  frames.forM fun e => writeFrame e.timestamp e.src e.dst e.proto e.size e.data

/-- From the constructor to the destructor. -/
def Session.run (session : Session) : Writer PUnit := do
  openWriter session.stale session.now
  writeFrames session.frames
  sync session.stale

/-- A session on a file with the given content; opening starts at its first byte. -/
def Session.on (session : Session) (content : List UInt8) : Option (List UInt8) :=
  match session.run ⟨content, 0⟩ with
  | some (.ok _, file) => some file.content
  | _ => none

/-- Sessions one after another on one file. -/
def sessions : List Session → List UInt8 → Option (List UInt8)
  | [], content => some content
  | session :: later, content => (session.on content).bind (sessions later)

end Hcan.Data
