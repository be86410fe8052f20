import BlockImage.Bitmap
import BlockImage.Error

/-!
# The head of an image

What stands in front of the bitmap: the header that identifies the format, the geometry of the imaged device, and
the options that say how bitmap and data are stored.
-/
namespace BlockImage

/-- Identifies the format and its byte order. -/
structure Header where
  magic : Vector UInt8 15
  writerVersion : Vector UInt8 4
  formatVersion : Vector UInt8 4
  endianness : UInt16
  deriving DecidableEq, Repr

namespace Header

def current : Header where
  magic := #v[0x70, 0x61, 0x72, 0x74, 0x63, 0x6C, 0x6F, 0x6E, 0x65, 0x2D, 0x69, 0x6D, 0x61, 0x67, 0x65]
  writerVersion := #v[0x30, 0x31, 0x30, 0x30]
  formatVersion := #v[0x30, 0x30, 0x30, 0x32]
  endianness := 0xC0DE

end Header

/-- The geometry of an imaged device, as its probe reports it. -/
structure Descriptor where
  /-- A short name for what is on the device, padded with zero bytes. -/
  tag : Vector UInt8 15
  deviceSize : UInt64
  totalBlocks : UInt64
  /-- Allocated blocks as reported. -/
  usedBlocks : UInt64
  /-- Allocated blocks as counted from the bitmap. -/
  verifiedBlocks : UInt64
  blockSize : UInt32
  deriving DecidableEq, Repr

namespace Descriptor

/-- A descriptor for whole blocks that fill the device; of a long name the first fifteen bytes are kept. -/
def ofGeometry (name : String) (blockSize : UInt32) (totalBlocks usedBlocks : UInt64) : Descriptor where
  tag := Vector.ofFn fun place => Bytes.byteAt name.toUTF8 place.val
  deviceSize := totalBlocks * blockSize.toUInt64
  totalBlocks
  usedBlocks
  verifiedBlocks := usedBlocks
  blockSize

/-- The name in the tag, which ends at the first zero byte. -/
def name (descriptor : Descriptor) : String :=
  Text.decodeLossy (descriptor.tag.toList.takeWhile (· ≠ 0))

/-- The descriptor with its count of allocated blocks taken from a bitmap. -/
def verifiedBy (descriptor : Descriptor) (bitmap : Bitmap) : Descriptor :=
  { descriptor with verifiedBlocks := UInt64.ofNat bitmap.count }

/-- Refuses a geometry that does not add up; the first rule that fails is reported. -/
def validate (descriptor : Descriptor) : Except Error Unit := do
  let blockSize := descriptor.blockSize.toNat
  let total := descriptor.totalBlocks.toNat
  if blockSize = 0 then throw (.format .zeroBlockSize)
  if UInt64.size ≤ total * blockSize then throw (.format .deviceSizeOverflow)
  if total * blockSize ≠ descriptor.deviceSize.toNat then
    throw (.format (.deviceSize descriptor.deviceSize.toNat total blockSize))
  if total < descriptor.verifiedBlocks.toNat then
    throw (.format (.usedBlocks descriptor.verifiedBlocks.toNat total))

end Descriptor

/-- How the bitmap of an image is stored. -/
inductive BitmapEncoding
  | bit
  /-- One byte for each block, not zero where the block is allocated. -/
  | byte
  deriving DecidableEq, Repr, Inhabited

namespace BitmapEncoding

def code : BitmapEncoding → UInt8
  | .bit => 1
  | .byte => 8

def ofCode? (code : UInt8) : Option BitmapEncoding :=
  if code = 1 then some .bit else if code = 8 then some .byte else none

/-- Bytes of the stored bitmap, without its checksum. -/
def storedSize : BitmapEncoding → Nat → Nat
  | .bit, total => bitmapSize total
  | .byte, total => total

end BitmapEncoding

/-- How bitmap and data are stored. -/
structure Options where
  structSize : UInt32
  formatVersion : UInt16
  /-- Bits in a machine word where the image was written. -/
  cpuWidth : UInt16
  checksum : Checksum.Algorithm
  checksumSize : UInt16
  /-- Blocks that one tag covers; zero for no tags. -/
  blocksPerChecksum : UInt32
  /-- Whether the register starts anew after each tag. -/
  reseed : Bool
  encoding : BitmapEncoding
  deriving DecidableEq, Repr

namespace Options

def storedSize : Nat := 18

def current (checksum : Checksum.Algorithm) (blocksPerChecksum : UInt32) (reseed : Bool) : Options where
  structSize := UInt32.ofNat storedSize
  formatVersion := 2
  cpuWidth := 64
  checksum
  checksumSize := UInt16.ofNat checksum.tagSize
  blocksPerChecksum
  reseed
  encoding := .bit

end Options

/-- Everything in front of the bitmap. -/
structure Head where
  header : Header
  descriptor : Descriptor
  options : Options
  deriving DecidableEq, Repr

end BlockImage
