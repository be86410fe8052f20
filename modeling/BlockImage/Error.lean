import BlockImage.Checksum
import BlockImage.Text
import BlockImage.Text.Lossy

/-!
# Errors

Each error is a cause with the figures that explain it; `message` holds every wording.
-/
namespace BlockImage

/-- What an operation on a device or a file reports when it cannot move bytes. -/
inductive IoError
  /-- The device ended before the buffer was full. -/
  | endOfDevice
  /-- The device took no byte of what was left to write. -/
  | nothingWritten
  | notFound
  | alreadyExists
  | notADirectory
  | isADirectory
  /-- A name, or a path as a whole, has more bytes than it may have. -/
  | nameTooLong
  /-- A folder has no end to go to. -/
  | noEnd
  /-- A path holds a zero character, which no name can hold. -/
  | zeroInPath
  /-- More bytes were asked for than one file can hold. -/
  | fileTooLarge
  /-- A position below zero was asked for. -/
  | negativePosition
  /-- The thread that ran the session died. -/
  | workerLost
  | other (reason : String)
  deriving DecidableEq, Repr

def IoError.message : IoError → String
  | .endOfDevice => "failed to fill whole buffer"
  | .nothingWritten => "failed to write whole buffer"
  | .notFound => "No such file or directory (os error 2)"
  | .alreadyExists => "File exists (os error 17)"
  | .notADirectory => "Not a directory (os error 20)"
  | .isADirectory => "Is a directory (os error 21)"
  | .nameTooLong => "File name too long (os error 36)"
  | .noEnd => "Invalid argument (os error 22)"
  | .zeroInPath => "file name contained an unexpected NUL byte"
  | .fileTooLarge => "File too large (os error 27)"
  | .negativePosition => "seek before start of device"
  | .workerLost => "transfer worker panicked"
  | .other reason => reason

/-- A rule of the image format, or of what a probe may answer, that does not hold. -/
inductive FormatFault
  | headLength (actual expected : Nat)
  | headMissing
  | magic
  | version (stored : List UInt8)
  | optionsSize (stored : Nat) (expected : Nat)
  | checksumCode (stored : UInt16)
  | checksumSize (stored : Nat) (algorithm : Checksum.Algorithm)
  | encodingCode (stored : UInt8)
  | zeroBlockSize
  | deviceSizeOverflow
  | deviceSize (stored blocks blockSize : Nat)
  | usedBlocks (used total : Nat)
  | bitmapLength (actual expected blocks : Nat)
  | probedBitmap (probe : String) (blocks total : Nat)
  /-- More blocks are announced than the bitmap marks. -/
  | surplusBlocks
  | other (reason : String)
  deriving DecidableEq, Repr

def FormatFault.message : FormatFault → String
  | .headLength actual expected => s!"image head is {actual} bytes, expected {expected}"
  | .headMissing => "image is shorter than its header"
  | .magic => "bad image magic"
  | .version stored => "unsupported image format version " ++ Text.quoted (Text.decodeLossy stored)
  | .optionsSize stored expected => s!"options structure is {stored} bytes, expected {expected}"
  | .checksumCode stored => "unknown checksum algorithm " ++ Text.hexPadded 4 stored.toNat
  | .checksumSize stored algorithm => s!"checksum size {stored} does not match {algorithm.name}"
  | .encodingCode stored => "unknown bitmap encoding " ++ Text.hexPadded 2 stored.toNat
  | .zeroBlockSize => "block size is zero"
  | .deviceSizeOverflow => "device size overflows"
  | .deviceSize stored blocks blockSize =>
    s!"device size {stored} does not match {blocks} blocks of {blockSize} bytes"
  | .usedBlocks used total => s!"{used} used blocks exceed {total} total blocks"
  | .bitmapLength actual expected blocks =>
    s!"bitmap is {actual} bytes, expected {expected} for {blocks} blocks"
  | .probedBitmap probe blocks total =>
    s!"{probe} probe returned a bitmap of {blocks} blocks for {total} total blocks"
  | .surplusBlocks => "image holds more blocks than its bitmap marks"
  | .other reason => reason

/-- A setting that a session refuses to start with. -/
inductive ConfigFault
  | emptyBuffer
  | legacyChecksumWritten
  | skippingOutsideCopy
  | zeroRawBlockSize
  | other (reason : String)
  deriving DecidableEq, Repr

def ConfigFault.message : ConfigFault → String
  | .emptyBuffer => "I/O buffer size must be non-zero"
  | .legacyChecksumWritten => "the legacy CRC can only be read, not written"
  | .skippingOutsideCopy => "skipping write errors is only allowed for partition copies"
  | .zeroRawBlockSize => "raw block size must be non-zero"
  | .other reason => reason

/-- The parts of an image that a checksum guards on their own. -/
inductive Guarded
  | head
  | bitmap
  deriving DecidableEq, Repr

def Guarded.name : Guarded → String
  | .head => "image header"
  | .bitmap => "allocation bitmap"

inductive Error
  | format (fault : FormatFault)
  | endianness (found : UInt16)
  | corrupt (part : Guarded) (stored computed : UInt32)
  /-- A tag of the data stream does not fit the blocks of its group, the last of which is `block`. -/
  | checksumMismatch (block : Nat) (algorithm : Checksum.Algorithm) (stored computed : UInt32)
  | read (offset : Nat) (cause : IoError)
  | write (offset : Nat) (cause : IoError)
  | outOfRange (index total : Nat)
  | insufficientSpace (needed available : Nat)
  | insufficientMemory (needed available : Nat)
  | cancelled
  | targetExists (path : String)
  | config (fault : ConfigFault)
  | verifyMismatch (block : Nat)
  | io (cause : IoError)
  deriving DecidableEq, Repr

namespace Error

/-- A short word for the kind of failure. -/
def category : Error → String
  | format _ | endianness _ => "format"
  | corrupt .. => "corrupt"
  | checksumMismatch .. => "checksum-mismatch"
  | read .. => "read"
  | write .. => "write"
  | outOfRange .. => "out-of-range"
  | insufficientSpace .. => "insufficient-space"
  | insufficientMemory .. => "insufficient-memory"
  | cancelled => "cancelled"
  | targetExists _ => "target-exists"
  | config _ => "config"
  | verifyMismatch _ => "verify"
  | io _ => "io"

def message : Error → String
  | format fault => "invalid image format: " ++ fault.message
  | endianness found => "unsupported image endianness tag " ++ Text.hexPadded 4 found.toNat
  | corrupt part stored computed =>
    "corrupt " ++ part.name ++ ": stored crc " ++ Text.hexPadded 8 stored.toNat
      ++ ", computed " ++ Text.hexPadded 8 computed.toNat
  | checksumMismatch block algorithm stored computed =>
    s!"checksum mismatch in group ending at block {block} ({algorithm.name}): stored "
      ++ Text.hexPadded 8 stored.toNat ++ ", computed " ++ Text.hexPadded 8 computed.toNat
  | read offset cause => s!"read error at offset {offset}: {cause.message}"
  | write offset cause => s!"write error at offset {offset}: {cause.message}"
  | outOfRange index total => s!"block index {index} out of range for bitmap of {total} blocks"
  | insufficientSpace needed available =>
    s!"not enough space on target: need {needed} bytes, {available} available"
  | insufficientMemory needed available =>
    s!"not enough memory: need {needed} bytes, {available} available"
  | cancelled => "operation cancelled by user"
  | targetExists path => s!"target {path} already exists (overwrite not allowed)"
  | config fault => "invalid configuration: " ++ fault.message
  | verifyMismatch block =>
    s!"verification failed: allocated data differs in chunk starting at block {block}"
  | io cause => "I/O error: " ++ cause.message

/-- The failed device operation behind an error, if there is one. -/
def cause? : Error → Option IoError
  | read _ cause | write _ cause | io cause => some cause
  | _ => none

end Error

end BlockImage
