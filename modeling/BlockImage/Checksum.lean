/-!
# Checksums of the data stream

A 32-bit register is folded over bytes, one table look-up per byte. The table holds, for each byte, what eight
shift steps of the reflected polynomial make of it; neither the register's start nor its end is inverted.
-/
namespace BlockImage.Checksum

/-- The reflected generator polynomial, without its leading term. -/
def polynomial : UInt32 := 0xEDB88320

/-- Every register starts here, and returns here after a tag when it is reseeded. -/
def seed : UInt32 := 0xFFFFFFFF

/-- One shift step: the polynomial is added when the bit shifted out is set. -/
def shiftBit (register : UInt32) : UInt32 :=
  if register &&& 1 = 0 then register >>> 1 else (register >>> 1) ^^^ polynomial

def shiftByte (register : UInt32) : UInt32 := Nat.repeat shiftBit 8 register

/-- What eight shift steps make of each byte value. -/
def table : Vector UInt32 256 := Vector.ofFn fun byte => shiftByte (UInt32.ofNat byte.val)

def step (register : UInt32) (byte : UInt8) : UInt32 :=
  have bound := (register.toUInt8 ^^^ byte).toNat_lt
  table[(register.toUInt8 ^^^ byte).toNat] ^^^ (register >>> 8)

/-- What is kept over the blocks of an image. -/
inductive Algorithm
  | none
  | crc32
  /-- Folds the first byte of a block once for every byte of the block. It is only ever read. -/
  | crc32Legacy
  deriving DecidableEq, Repr, Inhabited

namespace Algorithm

def tagSize : Algorithm → Nat
  | .none => 0
  | .crc32 | .crc32Legacy => 4

/-- The code stored in an image's options. -/
def code : Algorithm → UInt16
  | .none => 0
  | .crc32 => 0x20
  | .crc32Legacy => 0xFF

/-- The algorithm that a stored code names. -/
def ofCode? (code : UInt16) : Option Algorithm :=
  if code = 0 then some .none
  else if code = 0x20 then some .crc32
  else if code = 0xFF then some .crc32Legacy
  else Option.none

theorem ofCode?_eq_some_iff {code : UInt16} {algorithm : Algorithm} :
    ofCode? code = some algorithm ↔ algorithm.code = code := by
  unfold ofCode?
  constructor
  · intro found
    split at found
    · next h => cases found; exact h.symm
    · split at found
      · next h => cases found; exact h.symm
      · split at found
        · next h => cases found; exact h.symm
        · cases found
  · rintro rfl
    cases algorithm <;> decide

def name : Algorithm → String
  | .none => "none"
  | .crc32 => "crc32"
  | .crc32Legacy => "crc32-legacy"

def isLegacy (algorithm : Algorithm) : Bool := algorithm == .crc32Legacy

def fold (algorithm : Algorithm) (register : UInt32) (bytes : ByteArray) : UInt32 :=
  match algorithm with
  | .none => register
  | .crc32 => bytes.data.foldl step register
  | .crc32Legacy =>
    if h : 0 < bytes.size then Nat.repeat (step · bytes[0]) bytes.size register else register

end Algorithm

/-- The checksum that guards the head and the bitmap of an image. -/
def ofBytes (bytes : ByteArray) : UInt32 := Algorithm.crc32.fold seed bytes

end BlockImage.Checksum
