import BlockImage.Head.Codec

/-!
# Where things lie in an image

The head is followed by the bitmap with its checksum, and then by the data: the allocated blocks in ascending
order, with a tag after each full group of blocks and after a shorter last one.
-/
namespace BlockImage.Layout

def bitmapOffset : Nat := Head.storedSize

def dataOffset (total : Nat) (encoding : BitmapEncoding) : Nat :=
  bitmapOffset + encoding.storedSize total + 4

/-- Tags among `blocks` blocks of data. -/
def tagCount (blocks perTag : Nat) : Nat := if perTag = 0 then 0 else (blocks + perTag - 1) / perTag

/-- The size of a whole image, added as natural numbers. It stands for images whose size is a 64-bit word: a larger sum is
not taken modulo `UInt64.size` here, as that of `sessionMemory` is. -/
def imageSize (descriptor : Descriptor) (options : Options) : Nat :=
  dataOffset descriptor.totalBlocks.toNat options.encoding
    + descriptor.verifiedBlocks.toNat * descriptor.blockSize.toNat
    + tagCount descriptor.verifiedBlocks.toNat options.blocksPerChecksum.toNat * options.checksumSize.toNat

end BlockImage.Layout
