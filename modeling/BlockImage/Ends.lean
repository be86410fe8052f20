import BlockImage.Bytes
import BlockImage.Error

/-!
# The ends of a transfer

A transfer reads from one end and writes to another, one call at a time, and a call may move fewer bytes than
asked for or fail. Both ends are parts of one world `ω`, so they may also be two handles on the same file. A call
that fails still leaves the world it came to.
-/
namespace BlockImage

/-- A call on a device in a world `ω`. -/
abbrev Call (ω α : Type) := EStateM IoError ω α

/-- Bytes in order. A call gives at most as many bytes as asked for; none means that there are no more. -/
structure Stream (ω : Type) where
  read : Nat → Call ω ByteArray
  read_le : ∀ {wanted world bytes after}, read wanted world = .ok bytes after → bytes.size ≤ wanted

structure Source (ω : Type) extends Stream ω where
  seek : Nat → Call ω Unit
  /-- The position after the last byte. -/
  length : Call ω Nat

/-- Takes bytes in order. A call says how many of the bytes offered it took. -/
structure Sink (ω : Type) where
  write : ByteArray → Call ω Nat
  write_le : ∀ {bytes world taken after}, write bytes world = .ok taken after → taken ≤ bytes.size
  /-- Forces what was written to stable storage. -/
  sync : Call ω Unit

/-- Takes bytes at positions. -/
structure Target (ω : Type) extends Sink ω where
  seek : Nat → Call ω Unit

variable {ω : Type}

/-- Reads until `wanted` more bytes have come in behind those already `got`. -/
def Stream.readMore (stream : Stream ω) (got : ByteArray) (wanted : Nat) : Call ω ByteArray := do
  if wanted = 0 then return got
  else
    let bytes ← stream.read wanted
    if bytes.size = 0 then throw .endOfDevice
    else stream.readMore (got ++ bytes) (wanted - bytes.size)
termination_by wanted

def Stream.readExactly (stream : Stream ω) (wanted : Nat) : Call ω ByteArray :=
  stream.readMore ByteArray.empty wanted

def Source.readAt (source : Source ω) (offset wanted : Nat) : Call ω ByteArray := do
  source.seek offset
  source.readExactly wanted

def Sink.writeAll (sink : Sink ω) (bytes : ByteArray) : Call ω Unit := do
  if bytes.size = 0 then return ()
  else
    let taken ← sink.write bytes
    if taken = 0 then throw .nothingWritten
    else sink.writeAll (bytes.extract taken bytes.size)
termination_by bytes.size
decreasing_by
  simp only [ByteArray.size_extract]
  omega

def Target.writeAt (target : Target ω) (offset : Nat) (bytes : ByteArray) : Call ω Unit := do
  target.seek offset
  target.writeAll bytes

end BlockImage
