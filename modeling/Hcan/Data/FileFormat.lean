import Hcan.Library.Bytes
import Hcan.Library.Codec

/-!
# The log file format

Version 1 of the data file: a header block, one data block and the frame entries.
The structs have no padding, and their words are stored little endian.
-/

namespace Hcan.Data

open Hcan.Library

def dataFileMagic1 : UInt32 := 0x12345678
def dataFileMagic2 : UInt32 := 0x20080404

def dataFileTypeHeader : UInt32 := 1
def dataFileTypeData : UInt32 := 2

structure HeaderBlock where
  type : UInt32
  size : UInt32
  magic : UInt32
  magic2 : UInt32
  deriving DecidableEq, Repr

structure DataBlock where
  type : UInt32
  size : UInt32
  firstTimestamp : UInt64
  lastTimestamp : UInt64
  deriving DecidableEq, Repr

structure FrameEntry where
  timestamp : UInt64
  src : UInt16
  dst : UInt16
  proto : UInt16
  size : UInt16
  data : Vector UInt8 8
  deriving DecidableEq, Repr

def headerCodec : Codec HeaderBlock :=
  (Codec.uint32.pair (Codec.uint32.pair (Codec.uint32.pair Codec.uint32))).rename
    (fun header => (header.type, header.size, header.magic, header.magic2))
    (fun fields => ⟨fields.1, fields.2.1, fields.2.2.1, fields.2.2.2⟩) (fun _ => rfl) fun _ => rfl

def dataCodec : Codec DataBlock :=
  (Codec.uint32.pair (Codec.uint32.pair (Codec.uint64.pair Codec.uint64))).rename
    (fun data => (data.type, data.size, data.firstTimestamp, data.lastTimestamp))
    (fun fields => ⟨fields.1, fields.2.1, fields.2.2.1, fields.2.2.2⟩) (fun _ => rfl) fun _ => rfl

def entryCodec : Codec FrameEntry :=
  (Codec.uint64.pair (Codec.uint16.pair (Codec.uint16.pair (Codec.uint16.pair
    (Codec.uint16.pair (Codec.bytes 8)))))).rename
    (fun e => (e.timestamp, e.src, e.dst, e.proto, e.size, e.data))
    (fun fields => ⟨fields.1, fields.2.1, fields.2.2.1, fields.2.2.2.1, fields.2.2.2.2.1,
      fields.2.2.2.2.2⟩) (fun _ => rfl) fun _ => rfl

@[simp] theorem headerCodec_size : headerCodec.size = 16 := rfl
@[simp] theorem dataCodec_size : dataCodec.size = 24 := rfl
@[simp] theorem entryCodec_size : entryCodec.size = 24 := rfl

end Hcan.Data
