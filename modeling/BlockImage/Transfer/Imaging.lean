import BlockImage.Transfer.Group
import BlockImage.Transfer.Reading

/-!
# Writing an image

The target is only appended to: head, bitmap, and then the allocated blocks chunk by chunk with their tags.
-/
namespace BlockImage.Transfer

variable {ω : Type}

/-- The options of the images that a session writes. -/
def imageOptions (config : Config) : Options :=
  .current config.checksum config.blocksPerChecksum config.reseed

/-- Sizes of the working areas: what is read of a chunk, and what is written of it. -/
def imagingBuffers (config : Config) (blockSize : Nat) : List Nat :=
  let options := imageOptions config
  let capacity := config.chunkCapacity blockSize
  let tags := if options.tagged then capacity / options.blocksPerChecksum.toNat + 1 else 0
  [capacity * blockSize, capacity * blockSize + tags * options.checksum.tagSize]

/-- Blocks on their way into the image. -/
structure Packing where
  bytes : ByteArray := ByteArray.empty
  group : Group
  tags : Nat := 0

/-- Appends a block, and the tag of its group when that is full. -/
def Packing.add (options : Options) (packing : Packing) (block : ByteArray) : Packing :=
  let bytes := packing.bytes ++ block
  if options.tagged then
    let group := packing.group.add block
    if group.filled = options.blocksPerChecksum.toNat then
      { bytes := bytes ++ group.register.tag, group := group.next options, tags := packing.tags + 1 }
    else { packing with bytes, group }
  else { packing with bytes }

/-- The bytes of consecutive blocks in the image. -/
def pack (options : Options) (group : Group) (blocks : List ByteArray) : Packing :=
  blocks.foldl (Packing.add options) { group }

/-- How far the data of an image is written. -/
structure Written where
  group : Group
  /-- Where in the image the next byte goes. -/
  offset : Nat

def appendData (target : Sink ω) (written : Written) (bytes : ByteArray) : Transfer ω Unit :=
  call (target.writeAll bytes) (.write written.offset)

def imageChunk (owner : Owner) (source : Source ω) (target : Sink ω) (descriptor : Descriptor)
    (options : Options) (written : Written) (chunk : Chunk) : Transfer ω Written := do
  let blockSize := descriptor.blockSize.toNat
  checkRunning owner
  let data ← readRange source (chunk.first * blockSize) (chunk.count * blockSize)
  let packing := pack options written.group (Bytes.blocks blockSize data)
  -- Tags count once they are made up, also when the write of them then fails.
  tally fun summary => { summary with tags := summary.tags + packing.tags }
  appendData target written packing.bytes
  countBlocks chunk.count blockSize
  report owner descriptor.verifiedBlocks.toNat chunk.stop
  return { group := packing.group, offset := written.offset + packing.bytes.size }

/-- Appends the tag of a last group that is not full. -/
def closeGroup (target : Sink ω) (options : Options) (written : Written) : Transfer ω Unit := do
  if options.tagged ∧ 0 < written.group.filled then
    appendData target written written.group.register.tag
    tally fun summary => { summary with tags := summary.tags + 1 }

/-- Appends head, bitmap and data. -/
def writeParts (owner : Owner) (source : Source ω) (target : Sink ω) (descriptor : Descriptor)
    (bitmap : Bitmap) : Transfer ω Unit := do
  let config := (← get).session.config
  let options := imageOptions config
  let blockSize := descriptor.blockSize.toNat
  allocate (imagingBuffers config blockSize)
  inWorld (target.writeHead descriptor options)
  inWorld (target.writeBitmap bitmap)
  enter .transferring
  let start : Written := {
    group := .first options
    offset := Layout.dataOffset descriptor.totalBlocks.toNat options.encoding }
  let written ← (bitmap.chunks (config.chunkCapacity blockSize)).foldlM
    (imageChunk owner source target descriptor options) start
  closeGroup target options written

def writeImage (owner : Owner) (source : Source ω) (target : Sink ω) (descriptor : Descriptor)
    (bitmap : Bitmap) : Transfer ω Summary :=
  conclude target (writeParts owner source target descriptor bitmap)

end BlockImage.Transfer
