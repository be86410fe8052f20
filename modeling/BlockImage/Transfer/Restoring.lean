import BlockImage.Bitmap.Scan
import BlockImage.Session
import BlockImage.Transfer.Group

/-!
# Restoring an image

The data of an image is read in order. Each read ends right behind the last tag that its blocks complete; the
blocks then go to the offsets that the bitmap names, and what lies between is left alone.
-/
namespace BlockImage.Transfer

variable {ω : Type}

/-- Sizes of the working areas: what is read at a time, and the blocks in it. -/
def restoringBuffers (config : Config) (blockSize : Nat) (options : Options) : List Nat :=
  let capacity := config.chunkCapacity blockSize
  let tags := if options.tagged then capacity / options.blocksPerChecksum.toNat + 2 else 0
  [capacity * blockSize + tags * options.checksum.tagSize, capacity * blockSize]

/-- Tags that the next `count` blocks complete when `filled` blocks of a group came before them. The last blocks of
an image complete their group also when it is not full. -/
def plannedTags (options : Options) (filled count : Nat) (last : Bool) : Nat :=
  let perTag := options.blocksPerChecksum.toNat
  if options.tagged then
    (filled + count) / perTag + (if last ∧ (filled + count) % perTag ≠ 0 then 1 else 0)
  else 0

/-- Compares a stored tag with the register, unless tags are to be ignored. -/
def checkTag (register : Checksum.Register) (stored : ByteArray) (block : Nat) : Transfer ω Unit := do
  unless (← get).session.config.ignoreChecksum do
    match Checksum.Register.readTag? register.algorithm stored with
    | none => pure ()
    | some tag =>
      if tag ≠ register.value then throw (.checksumMismatch block register.algorithm tag register.value)

/-- Blocks on their way out of the image. -/
structure Unpacking where
  blocks : ByteArray := ByteArray.empty
  group : Group
  /-- How many of the bytes read are used up. -/
  position : Nat := 0

/-- Takes the block with a given number off the bytes that were read, and the tag behind it if it completes its
group. -/
def takeBlock (head : Head) (data : ByteArray) (unpacking : Unpacking) (number : Nat) :
    Transfer ω Unpacking := do
  let options := head.options
  let stop := unpacking.position + head.descriptor.blockSize.toNat
  let block := data.extract unpacking.position stop
  let blocks := unpacking.blocks ++ block
  if options.tagged then
    let group := unpacking.group.add block
    if group.filled = options.blocksPerChecksum.toNat ∨ number + 1 = head.descriptor.verifiedBlocks.toNat then
      let tagStop := stop + options.checksum.tagSize
      checkTag group.register (data.extract stop tagStop) number
      tally fun summary => { summary with tags := summary.tags + 1 }
      return { blocks, group := group.next options, position := tagStop }
    else return { blocks, group, position := stop }
  else return { unpacking with blocks, position := stop }

/-- Takes consecutive blocks off the bytes that were read, beginning with a given number. -/
def unpack (head : Head) (group : Group) (data : ByteArray) (number count : Nat) : Transfer ω Unpacking :=
  (List.range count).foldlM (fun unpacking index => takeBlock head data unpacking (number + index)) { group }

/-- Writes one run of blocks; `position` tells where they begin in the bytes of the blocks. -/
def placeRun (target : Target ω) (blockSize : Nat) (blocks : ByteArray) (position : Nat) (run : Chunk) :
    Transfer ω Nat := do
  let stop := position + run.count * blockSize
  let offset := run.first * blockSize
  call (target.writeAt offset (blocks.extract position stop)) (.write offset)
  return stop

/-- Writes blocks to the next marked blocks from `cursor` on, and gives the cursor behind them. -/
def scatter (target : Target ω) (bitmap : Bitmap) (blockSize cursor count : Nat) (blocks : ByteArray) :
    Transfer ω Nat := do
  let runs := bitmap.runs cursor count
  discard (runs.foldlM (placeRun target blockSize blocks) 0)
  if Chunk.total runs < count then throw (.format .surplusBlocks)
  return (runs.getLast?.map Chunk.stop).getD cursor

/-- How far an image is restored. -/
structure Restored where
  group : Group
  done : Nat := 0
  /-- The block after the last one restored. -/
  cursor : Nat := 0
  /-- Where in the image the next byte comes from. -/
  offset : Nat

/-- Moves the next `count` blocks to the target. -/
def restoreChunk (owner : Owner) (image : Stream ω) (target : Target ω) (head : Head) (bitmap : Bitmap)
    (restored : Restored) (count : Nat) : Transfer ω Restored := do
  let blockSize := head.descriptor.blockSize.toNat
  let total := head.descriptor.verifiedBlocks.toNat
  checkRunning owner
  -- The tags among the next blocks are counted before they are read, so that one read fetches both.
  let tags := plannedTags head.options restored.group.filled count (restored.done + count = total)
  let size := count * blockSize + tags * head.options.checksum.tagSize
  let data ← call (image.readExactly size) (.read restored.offset)
  let unpacking ← unpack head restored.group data restored.done count
  let cursor ← scatter target bitmap blockSize restored.cursor count unpacking.blocks
  countBlocks count blockSize
  report owner total cursor
  return { group := unpacking.group, done := restored.done + count, cursor, offset := restored.offset + size }

/-- Restores the blocks that are left, at most `capacity` at a time. -/
def restoreFrom (owner : Owner) (image : Stream ω) (target : Target ω) (head : Head) (bitmap : Bitmap)
    (capacity : Nat) (left : Nat) (restored : Restored) : Transfer ω Unit := do
  if left = 0 then return ()
  else
    let count := min (max capacity 1) left
    let restored ← restoreChunk owner image target head bitmap restored count
    restoreFrom owner image target head bitmap capacity (left - count) restored
termination_by left

/-- Restores the blocks of an image whose head and bitmap have been read. -/
def restoreBlocks (owner : Owner) (image : Stream ω) (target : Target ω) (head : Head) (bitmap : Bitmap) :
    Transfer ω Summary :=
  conclude target.toSink do
    let config := (← get).session.config
    let descriptor := head.descriptor
    let blockSize := descriptor.blockSize.toNat
    allocate (restoringBuffers config blockSize head.options)
    enter .transferring
    restoreFrom owner image target head bitmap (config.chunkCapacity blockSize) descriptor.verifiedBlocks.toNat {
      group := .first head.options
      offset := Layout.dataOffset descriptor.totalBlocks.toNat head.options.encoding }

end BlockImage.Transfer
