import BlockImage.Error

/-!
Settings of a transfer session, and which of them a direction allows.
-/
namespace BlockImage

inductive Direction
  | toImage
  | toPartition
  | fromImage
  deriving DecidableEq, Repr

structure Config where
  /-- Bytes moved at a time, rounded down to whole blocks but at least one. -/
  bufferSize : Nat := 1048576
  checksum : Checksum.Algorithm := .crc32
  /-- Blocks that one tag covers; zero for no tags. -/
  blocksPerChecksum : UInt32 := 64
  /-- Whether the register starts anew after each tag. -/
  reseed : Bool := true
  /-- Whether sectors that cannot be read are replaced by zeros. -/
  rescue : Bool := false
  /-- Whether a copy goes on after a chunk that could not be written. -/
  skipWriteErrors : Bool := false
  /-- Whether tags are skipped rather than compared. -/
  ignoreChecksum : Bool := false
  /-- Whether both sides of a copy are compared afterwards. -/
  verify : Bool := false
  /-- Progress events that may wait to be looked at. -/
  progressCapacity : Nat := 32
  deriving DecidableEq, Repr

namespace Config

/-- Bytes that are tried on their own when a chunk cannot be read. -/
def sectorSize : Nat := 512

def chunkCapacity (config : Config) (blockSize : Nat) : Nat :=
  max (config.bufferSize / max blockSize 1) 1

/-- Refuses settings that make no sense for a direction; the first rule that fails is reported. -/
def validate (config : Config) (direction : Direction) : Except Error Unit := do
  if config.bufferSize = 0 then throw (.config .emptyBuffer)
  if direction = .toImage ∧ config.checksum.isLegacy then throw (.config .legacyChecksumWritten)
  if config.skipWriteErrors ∧ direction ≠ .toPartition then throw (.config .skippingOutsideCopy)

end Config

end BlockImage
