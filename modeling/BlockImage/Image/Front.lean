import BlockImage.Ends
import BlockImage.Image.Layout

/-!
# The front of an image

Reading and writing the head and the bitmap. A bitmap whose checksum fails can still be looked at, but only by
those who ask for it.
-/
namespace BlockImage

/-- An operation in a world `ω` that may fail with an error of the library. -/
abbrev Operation (ω α : Type) := EStateM Error ω α

variable {ω : Type}

def Stream.readHead (stream : Stream ω) : Operation ω Head := do
  let bytes ← (stream.readExactly Head.storedSize).adaptExcept fun
    | .endOfDevice => .format .headMissing
    | cause => .read 0 cause
  ofExcept (Head.decode bytes)

def Sink.writeHead (sink : Sink ω) (descriptor : Descriptor) (options : Options) : Operation ω Unit :=
  (sink.writeAll (Head.encode descriptor options)).adaptExcept (.write 0)

def Sink.writeBitmap (sink : Sink ω) (bitmap : Bitmap) : Operation ω Unit := do
  (sink.writeAll bitmap.bytes).adaptExcept (.write Layout.bitmapOffset)
  (sink.writeAll (Head.storedCrc (Checksum.ofBytes bitmap.bytes))).adaptExcept
    (.write (Layout.bitmapOffset + bitmap.bytes.size))

/-- The bitmap that stored bytes record in either encoding. -/
def BitmapEncoding.decode (grants : Nat → Bool) (encoding : BitmapEncoding) (total : Nat) (bytes : ByteArray) :
    Except Error Bitmap :=
  match encoding with
  | .bit => Bitmap.ofBytes total bytes
  | .byte => do
    checkAllocation grants (bitmapSize total)
    return Bitmap.ofPred total fun index => Bytes.byteAt bytes index != 0

/-- A bitmap as it was found, with the error that its checksum gives, if any. -/
structure FoundBitmap where
  bitmap : Bitmap
  corruption : Option Error
  deriving DecidableEq

namespace FoundBitmap

/-- Judges a stored bitmap by the checksum stored behind it. -/
def ofStored (grants : Nat → Bool) (encoding : BitmapEncoding) (total : Nat) (bytes crc : ByteArray) :
    Except Error FoundBitmap := do
  let stored := UInt32.ofNat (LittleEndian.decode crc.data.toList)
  let computed := Checksum.ofBytes bytes
  let bitmap ← encoding.decode grants total bytes
  return { bitmap, corruption := if stored = computed then none else some (.corrupt .bitmap stored computed) }

/-- The bitmap, provided that its checksum holds. -/
def intact (found : FoundBitmap) : Except Error Bitmap :=
  match found.corruption with
  | some failure => throw failure
  | none => return found.bitmap

end FoundBitmap

/-- Reads a bitmap, and reports a failing checksum beside it. -/
def Stream.findBitmap (stream : Stream ω) (total : Nat) (encoding : BitmapEncoding)
    (grants : Nat → Bool := addressable) : Operation ω FoundBitmap := do
  let size := encoding.storedSize total
  ofExcept (checkAllocation grants size)
  let bytes ← (stream.readExactly size).adaptExcept (.read Layout.bitmapOffset)
  let crc ← (stream.readExactly 4).adaptExcept (.read (Layout.bitmapOffset + size))
  ofExcept (FoundBitmap.ofStored grants encoding total bytes crc)

/-- Reads a bitmap whose checksum holds. -/
def Stream.readBitmap (stream : Stream ω) (total : Nat) (encoding : BitmapEncoding)
    (grants : Nat → Bool := addressable) : Operation ω Bitmap := do
  let found ← stream.findBitmap total encoding grants
  ofExcept found.intact

end BlockImage
