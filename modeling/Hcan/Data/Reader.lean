import Hcan.Data.FileFormat

/-!
# The log reader

`data_file` maps a file and reads entries by their index.  Behind the end of the file a
mapped page holds zeros.
-/

namespace Hcan.Data

open Hcan.Library

/-- An open `data_file`: the bytes that are mapped. -/
structure DataFile where
  bytes : List UInt8

/-- A record in the mapping. -/
def DataFile.record {α : Type} (file : DataFile) (codec : Codec α) (pos : Nat) : α :=
  let bytes := (file.bytes.drop pos).take codec.size
  codec.decode (bytes ++ List.replicate (codec.size - bytes.length) 0)

/-- The constructor; an empty file cannot be mapped. -/
def dataFile (content : List UInt8) : Except String DataFile :=
  let file : DataFile := ⟨content⟩
  let header := file.record headerCodec 0
  let data := file.record dataCodec headerCodec.size
  if content.length = 0 then throw "Invalid argument"
  else if header.magic ≠ dataFileMagic1 then throw "wrong DATA_FILE_MAGIC_1 value"
  else if header.magic2 ≠ dataFileMagic2 then throw "wrong DATA_FILE_MAGIC_2 value"
  else if header.type ≠ dataFileTypeHeader then throw "wrong header block type"
  else if data.type ≠ dataFileTypeData then throw "wrong data block type"
  else pure file

/-- `count`: the quotient of 64-bit sizes as an `int`. -/
def DataFile.count (file : DataFile) : Int :=
  let size := UInt64.ofNat file.bytes.length - UInt64.ofNat headerCodec.size -
    UInt64.ofNat dataCodec.size
  Int.bmod (size / UInt64.ofNat entryCodec.size).toNat (2 ^ 32)

/-- `frame`. -/
def DataFile.frame (file : DataFile) (idx : Int) : Except String FrameEntry :=
  if idx < 0 ∨ idx > file.count - 1 then throw "frame index access out of bounds"
  else pure (file.record entryCodec
    (headerCodec.size + dataCodec.size + entryCodec.size * idx.toNat))

/-- A reader finds exactly the entries, in their order. -/
def Returns (content : List UInt8) (entries : List FrameEntry) : Prop :=
  ∃ file, dataFile content = .ok file ∧ file.count = entries.length ∧
    ∀ i (bound : i < entries.length), file.frame i = .ok entries[i]

end Hcan.Data
