import BlockImage.Session

/-!
# Opening a source

A probe says what is on a device; an image says it of itself. In both cases the marked blocks are counted anew, and
that count is what a transfer goes by.
-/
namespace BlockImage

variable {ω : Type}

/-- Tells the geometry of a device and which of its blocks are allocated. -/
structure Probe (ω : Type) where
  name : String
  describe : Operation ω Descriptor
  allocation : Descriptor → Operation ω Bitmap

/-- A block size for devices about which nothing else is known. -/
structure RawBlocks where
  blockSize : UInt32 := 4096
  deriving DecidableEq, Repr

namespace RawBlocks

def ofSize (blockSize : UInt32) : Except Error RawBlocks :=
  if blockSize = 0 then throw (.config .zeroRawBlockSize) else return { blockSize }

/-- Counts every whole block of the device as allocated. -/
def probe (raw : RawBlocks) (source : Source ω) (grants : Nat → Bool := addressable) : Probe ω where
  name := "raw"
  describe := do
    let size ← source.length.adaptExcept .io
    (source.seek 0).adaptExcept .io
    let total := UInt64.ofNat (size / raw.blockSize.toNat)
    return Descriptor.ofGeometry "RAW" raw.blockSize total total
  allocation descriptor := do
    let bitmap ← ofExcept (Bitmap.create descriptor.totalBlocks.toNat grants)
    return bitmap.setAll

end RawBlocks

namespace Transfer

/-- Asks a probe for geometry and bitmap, and refuses answers that do not fit each other. -/
def probe (probe : Probe ω) : Transfer ω (Descriptor × Bitmap) :=
  settling do
    enter .probing
    let descriptor ← inWorld probe.describe
    let bitmap ← inWorld (probe.allocation descriptor)
    ofExcept descriptor.validate
    if bitmap.total ≠ descriptor.totalBlocks.toNat then
      throw (.format (.probedBitmap probe.name bitmap.total descriptor.totalBlocks.toNat))
    let descriptor := descriptor.verifiedBy bitmap
    recordBlocks descriptor
    return (descriptor, bitmap)

/-- Reads head and bitmap from the front of an image. -/
def readImage (image : Stream ω) : Transfer ω (Head × Bitmap) :=
  settling do
    enter .probing
    let grants := (← get).grants
    let head ← inWorld image.readHead
    let bitmap ← inWorld (image.readBitmap head.descriptor.totalBlocks.toNat head.options.encoding grants)
    let descriptor := head.descriptor.verifiedBy bitmap
    recordBlocks descriptor
    return ({ head with descriptor }, bitmap)

end Transfer

end BlockImage
