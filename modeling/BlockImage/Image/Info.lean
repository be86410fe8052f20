import BlockImage.Image.Front

/-!
What can be told of an image from its head and bitmap alone.
-/
namespace BlockImage

structure ImageInfo where
  head : Head
  bitmap : Bitmap
  /-- The failing checksum of the bitmap, where one was tolerated. -/
  corruption : Option Error
  deriving DecidableEq

namespace ImageInfo

/-- Allocated blocks counted from the bitmap. -/
def countedBlocks (info : ImageInfo) : Nat := info.bitmap.count

/-- Size that the whole image should have. -/
def expectedSize (info : ImageInfo) : Nat :=
  Layout.imageSize (info.head.descriptor.verifiedBy info.bitmap) info.head.options

/-- Whether the reported number of allocated blocks differs from the counted one. -/
def mismatch (info : ImageInfo) : Bool := info.head.descriptor.usedBlocks.toNat != info.countedBlocks

end ImageInfo

/-- Reads what can be told of an image. A failing checksum of the bitmap is an error unless it is tolerated. -/
def Stream.readInfo {ω : Type} (stream : Stream ω) (tolerate : Bool) (grants : Nat → Bool := addressable) :
    Operation ω ImageInfo := do
  let head ← stream.readHead
  let found ← stream.findBitmap head.descriptor.totalBlocks.toNat head.options.encoding grants
  unless tolerate do
    discard (ofExcept found.intact)
  return { head, bitmap := found.bitmap, corruption := found.corruption }

end BlockImage
