import BlockImage.Transfer.Reading

/-!
# Copying a partition

Every allocated block goes to the same offset of the target, and the blocks between them are left alone. Both sides
can be read back and compared.
-/
namespace BlockImage.Transfer

variable {ω : Type}

/-- Size of the working area of a copy. -/
def copyingBuffers (config : Config) (blockSize : Nat) : List Nat :=
  [config.chunkCapacity blockSize * blockSize]

def copyChunk (owner : Owner) (source : Source ω) (target : Target ω) (descriptor : Descriptor)
    (chunk : Chunk) : Transfer ω Unit := do
  let blockSize := descriptor.blockSize.toNat
  let offset := chunk.first * blockSize
  checkRunning owner
  let data ← readRange source offset (chunk.count * blockSize)
  match ← attempt (inWorld (target.writeAt offset data)) with
  | .ok () => pure ()
  | .error cause =>
    if (← get).session.config.skipWriteErrors then
      tally fun summary => { summary with skippedBlocks := summary.skippedBlocks + chunk.count }
    else throw (.write offset cause)
  -- A chunk that was skipped counts as moved all the same.
  countBlocks chunk.count blockSize
  report owner descriptor.verifiedBlocks.toNat chunk.stop

/-- Copies every allocated block. -/
def copyPartition (owner : Owner) (source : Source ω) (target : Target ω) (descriptor : Descriptor)
    (bitmap : Bitmap) : Transfer ω Summary :=
  conclude target.toSink do
    let config := (← get).session.config
    let blockSize := descriptor.blockSize.toNat
    allocate (copyingBuffers config blockSize)
    enter .transferring
    (bitmap.chunks (config.chunkCapacity blockSize)).forM (copyChunk owner source target descriptor)

/-- Sizes of the working areas of a comparison. -/
def verifyingBuffers (config : Config) (blockSize : Nat) : List Nat :=
  [config.chunkCapacity blockSize * blockSize, config.chunkCapacity blockSize * blockSize]

def verifyChunk (owner : Owner) (source copy : Source ω) (blockSize : Nat) (chunk : Chunk) :
    Transfer ω Unit := do
  let offset := chunk.first * blockSize
  let size := chunk.count * blockSize
  checkRunning owner
  let expected ← readRange source offset size
  let found ← call (copy.readAt offset size) (.read offset)
  if expected ≠ found then throw (.verifyMismatch chunk.first)

/-- Compares every allocated block of both sides. -/
def verifyPartition (owner : Owner) (source copy : Source ω) (descriptor : Descriptor) (bitmap : Bitmap) :
    Transfer ω Unit :=
  settling do
    enter .finalizing
    let config := (← get).session.config
    let blockSize := descriptor.blockSize.toNat
    allocate (verifyingBuffers config blockSize)
    (bitmap.chunks (config.chunkCapacity blockSize)).forM (verifyChunk owner source copy blockSize)
    enter .done

end BlockImage.Transfer
