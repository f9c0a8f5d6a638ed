import Hcan.Library.Bytes

/-!
# HCAN frames

The frame record of the CANIX layer and the service, command and multicast
numbers the modelled handlers compare with.  Bytes behind `size` are undefined
in a received frame; the frames built here carry zero there.
-/

namespace Hcan.Canix

structure CanixFrame where
  src : UInt16
  dst : UInt16
  proto : UInt8
  size : UInt8
  data : Vector UInt8 8
  deriving DecidableEq, Repr

def hcanProtoSfp : UInt8 := 1

def hcanSrvHes : UInt8 := 5
def hcanSrvEds : UInt8 := 7

def hcanMulticastControl : UInt16 := 35
def hcanMulticastInfo : UInt16 := 36

def hcanEdsGetNextBlock : UInt8 := 1
def hcanEdsGetNextBlockReplay : UInt8 := 2
def hcanEdsDefragment : UInt8 := 3
def hcanEdsAllocateBlock : UInt8 := 4
def hcanEdsAllocateBlockReplay : UInt8 := 5
def hcanEdsFreeBlock : UInt8 := 6
def hcanEdsFreeBlockReplay : UInt8 := 7
def hcanEdsReadFromBlock : UInt8 := 8
def hcanEdsReadFromBlockReplay : UInt8 := 9
def hcanEdsWriteToBlock : UInt8 := 10
def hcanEdsWriteToBlockReplay : UInt8 := 11
def hcanEdsFormat : UInt8 := 12

def hcanHesTasterDown : UInt8 := 1
def hcanHesTasterUp : UInt8 := 2
def hcanHesRolladenPositionSet : UInt8 := 20
def hcanHesRolladenPositionRequest : UInt8 := 21
def hcanHesRolladenPositionReplay : UInt8 := 22
def hcanHesRolladenDefinePosition : UInt8 := 23
def hcanHesRolladenPositionChangedInfo : UInt8 := 24
def hcanHesConfigReload : UInt8 := 100
def hcanHesConfigRamUsageRequest : UInt8 := 101
def hcanHesConfigRamUsageReplay : UInt8 := 102

/-- The 16-bit pointer that a frame carries as two bytes, high byte first. -/
def framePointer (hi lo : UInt8) : Nat := hi.toNat * 256 + lo.toNat

/-- The two bytes of a pointer, as the handlers store them in an answer. -/
def pointerHi (p : Nat) : UInt8 := UInt8.ofNat (p / 256)
def pointerLo (p : Nat) : UInt8 := UInt8.ofNat p

theorem framePointer_bytes {p : Nat} (bound : p < 65536) :
    framePointer (pointerHi p) (pointerLo p) = p := by
  have small : p / 256 < 256 := by omega
  simp only [framePointer, pointerHi, pointerLo, UInt8.toNat_ofNat', Nat.reducePow,
    Nat.mod_eq_of_lt small]
  omega

theorem framePointer_lt (hi lo : UInt8) : framePointer hi lo < 65536 := by
  have high := hi.toNat_lt
  have low := lo.toNat_lt
  unfold framePointer
  omega

end Hcan.Canix
