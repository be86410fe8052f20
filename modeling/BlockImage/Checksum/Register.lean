import BlockImage.Bytes.LittleEndian
import BlockImage.Checksum

/-!
A running register over the blocks of a stream, with the tag that is stored for it.
-/
namespace BlockImage.Checksum

/-- The running checksum of one data stream. -/
structure Register where
  algorithm : Algorithm
  /-- Where the register returns to when it is reseeded. -/
  start : UInt32 := seed
  value : UInt32 := start
  deriving DecidableEq, Repr

namespace Register

def fresh (algorithm : Algorithm) (start : UInt32 := seed) : Register := { algorithm, start }

def update (register : Register) (bytes : ByteArray) : Register :=
  { register with value := register.algorithm.fold register.value bytes }

def reset (register : Register) : Register := { register with value := register.start }

/-- The register as it is stored, or nothing for an algorithm without tags. -/
def tag (register : Register) : ByteArray :=
  (LittleEndian.encode register.algorithm.tagSize register.value.toNat).toByteArray

/-- The register value that a stored tag stands for. -/
def readTag? (algorithm : Algorithm) (stored : ByteArray) : Option UInt32 :=
  if algorithm.tagSize = 0 then none
  else some (UInt32.ofNat (LittleEndian.decode (stored.extract 0 algorithm.tagSize).data.toList))

@[simp] theorem size_tag (register : Register) : register.tag.size = register.algorithm.tagSize := by
  simp [tag]

end Register

end BlockImage.Checksum
