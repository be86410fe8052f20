import BlockImage.Bytes.LittleEndian
import BlockImage.Head

/-!
# The stored head

Header, descriptor and options lie in 94 bytes of fixed-width little-endian fields, and four bytes of checksum
follow. Decoding reads all fields first and then applies the rules of the format in a fixed order.
-/
namespace BlockImage.Head

/-- Bytes of header, descriptor and options. -/
def bodySize : Nat := 94

/-- Bytes of the stored head with its checksum. -/
def storedSize : Nat := bodySize + 4

/-- The fields of a head in the order in which they are stored. -/
def encodeBody (descriptor : Descriptor) (options : Options) : List UInt8 :=
  Header.current.magic.toList
    ++ Header.current.writerVersion.toList
    ++ Header.current.formatVersion.toList
    ++ LittleEndian.encode 2 Header.current.endianness.toNat
    ++ descriptor.tag.toList
    ++ LittleEndian.encode 8 descriptor.deviceSize.toNat
    ++ LittleEndian.encode 8 descriptor.totalBlocks.toNat
    ++ LittleEndian.encode 8 descriptor.usedBlocks.toNat
    ++ LittleEndian.encode 8 descriptor.verifiedBlocks.toNat
    ++ LittleEndian.encode 4 descriptor.blockSize.toNat
    ++ LittleEndian.encode 4 options.structSize.toNat
    ++ LittleEndian.encode 2 options.formatVersion.toNat
    ++ LittleEndian.encode 2 options.cpuWidth.toNat
    ++ LittleEndian.encode 2 options.checksum.code.toNat
    ++ LittleEndian.encode 2 options.checksumSize.toNat
    ++ LittleEndian.encode 4 options.blocksPerChecksum.toNat
    ++ [if options.reseed then 1 else 0, options.encoding.code]

def storedCrc (crc : UInt32) : ByteArray := (LittleEndian.encode 4 crc.toNat).toByteArray

def encode (descriptor : Descriptor) (options : Options) : ByteArray :=
  let body := (encodeBody descriptor options).toByteArray
  body ++ storedCrc (Checksum.ofBytes body)

/-- Takes fields off the front of the bytes that are left; missing bytes count as zero. -/
abbrev Fields := StateM (List UInt8)

def takeBytes (width : Nat) : Fields (Vector UInt8 width) := fun bytes =>
  (Vector.ofFn fun place => bytes.getD place.val 0, bytes.drop width)

def takeNat (width : Nat) : Fields Nat := fun bytes =>
  (LittleEndian.decode (bytes.take width), bytes.drop width)

/-- The fields of a stored head before any rule is applied to them. -/
structure Stored where
  header : Header
  descriptor : Descriptor
  structSize : UInt32
  formatVersion : UInt16
  cpuWidth : UInt16
  checksumCode : UInt16
  checksumSize : UInt16
  blocksPerChecksum : UInt32
  reseed : UInt8
  encodingCode : UInt8
  crc : UInt32
  deriving DecidableEq, Repr

def takeHeader : Fields Header := do
  let magic ← takeBytes 15
  let writerVersion ← takeBytes 4
  let formatVersion ← takeBytes 4
  let endianness ← takeNat 2
  return { magic, writerVersion, formatVersion, endianness := UInt16.ofNat endianness }

def takeDescriptor : Fields Descriptor := do
  let tag ← takeBytes 15
  let deviceSize ← takeNat 8
  let totalBlocks ← takeNat 8
  let usedBlocks ← takeNat 8
  let verifiedBlocks ← takeNat 8
  let blockSize ← takeNat 4
  return {
    tag
    deviceSize := UInt64.ofNat deviceSize
    totalBlocks := UInt64.ofNat totalBlocks
    usedBlocks := UInt64.ofNat usedBlocks
    verifiedBlocks := UInt64.ofNat verifiedBlocks
    blockSize := UInt32.ofNat blockSize }

def takeStored : Fields Stored := do
  let header ← takeHeader
  let descriptor ← takeDescriptor
  let structSize ← takeNat 4
  let formatVersion ← takeNat 2
  let cpuWidth ← takeNat 2
  let checksumCode ← takeNat 2
  let checksumSize ← takeNat 2
  let blocksPerChecksum ← takeNat 4
  let reseed ← takeNat 1
  let encodingCode ← takeNat 1
  let crc ← takeNat 4
  return {
    header
    descriptor
    structSize := UInt32.ofNat structSize
    formatVersion := UInt16.ofNat formatVersion
    cpuWidth := UInt16.ofNat cpuWidth
    checksumCode := UInt16.ofNat checksumCode
    checksumSize := UInt16.ofNat checksumSize
    blocksPerChecksum := UInt32.ofNat blocksPerChecksum
    reseed := UInt8.ofNat reseed
    encodingCode := UInt8.ofNat encodingCode
    crc := UInt32.ofNat crc }

/-- The fields of the head at the front of `bytes`. -/
def Stored.ofBytes (bytes : ByteArray) : Stored := (takeStored bytes.data.toList).1

/-- Applies the rules of the format to stored fields; `computed` is the checksum of the bytes they came from. -/
def Stored.check (stored : Stored) (computed : UInt32) : Except Error Head := do
  if stored.header.magic ≠ Header.current.magic then throw (.format .magic)
  if stored.header.endianness ≠ Header.current.endianness then
    throw (.endianness stored.header.endianness)
  if stored.header.formatVersion ≠ Header.current.formatVersion then
    throw (.format (.version stored.header.formatVersion.toList))
  -- The fields so far tell whether this is an image at all; those behind them mean something only under the checksum.
  if stored.crc ≠ computed then throw (.corrupt .head stored.crc computed)
  if stored.structSize.toNat ≠ Options.storedSize then
    throw (.format (.optionsSize stored.structSize.toNat Options.storedSize))
  let some checksum := Checksum.Algorithm.ofCode? stored.checksumCode
    | throw (.format (.checksumCode stored.checksumCode))
  if stored.checksumSize.toNat ≠ checksum.tagSize then
    throw (.format (.checksumSize stored.checksumSize.toNat checksum))
  let some encoding := BitmapEncoding.ofCode? stored.encodingCode
    | throw (.format (.encodingCode stored.encodingCode))
  stored.descriptor.validate
  return {
    header := stored.header
    descriptor := stored.descriptor
    options := {
      structSize := stored.structSize
      formatVersion := stored.formatVersion
      cpuWidth := stored.cpuWidth
      checksum
      checksumSize := stored.checksumSize
      blocksPerChecksum := stored.blocksPerChecksum
      reseed := stored.reseed ≠ 0
      encoding } }

def decode (bytes : ByteArray) : Except Error Head := do
  if bytes.size < storedSize then throw (.format (.headLength bytes.size storedSize))
  (Stored.ofBytes bytes).check (Checksum.ofBytes (bytes.extract 0 bodySize))

end BlockImage.Head
