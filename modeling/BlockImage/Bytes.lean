/-!
# Bytes

Contents of devices and buffers. `byteAt` is the view: `overwrite` changes the bytes of the written range
only and fills a gap before it with zeros.
-/
namespace BlockImage.Bytes

instance decEq : DecidableEq ByteArray := fun left right =>
  decidable_of_iff (left.data = right.data) ByteArray.ext_iff.symm

/-- As many copies of one byte. -/
def filled (count : Nat) (byte : UInt8) : ByteArray := ⟨Array.replicate count byte⟩

@[simp] theorem size_filled (count : Nat) (byte : UInt8) : (filled count byte).size = count := Array.size_replicate

def zeros (count : Nat) : ByteArray := filled count 0

@[simp] theorem size_zeros (count : Nat) : (zeros count).size = count := size_filled count 0

/-- The byte at a position, zero where there is none. -/
def byteAt (bytes : ByteArray) (index : Nat) : UInt8 :=
  if h : index < bytes.size then bytes[index] else 0

theorem byteAt_mk (data : Array UInt8) (index : Nat) :
    byteAt ⟨data⟩ index = if h : index < data.size then data[index] else 0 := rfl

@[simp] theorem size_set (bytes : ByteArray) (index : Nat) (byte : UInt8) (inside : index < bytes.size) :
    (bytes.set index byte inside).size = bytes.size := by
  cases bytes with
  | mk data => exact Array.size_set _

theorem byteAt_set (bytes : ByteArray) (index other : Nat) (byte : UInt8) (inside : index < bytes.size) :
    byteAt (bytes.set index byte inside) other = if other = index then byte else byteAt bytes other := by
  cases bytes with
  | mk data =>
    have inside : index < data.size := inside
    change byteAt ⟨data.set index byte inside⟩ other = _
    by_cases same : other = index
    · subst same
      simp [byteAt_mk, inside]
    · by_cases within : other < data.size <;> simp [byteAt_mk, within, same, Ne.symm same]

theorem byteAt_filled (count : Nat) (byte : UInt8) (index : Nat) :
    byteAt (filled count byte) index = if index < count then byte else 0 := by
  simp only [filled, byteAt_mk, Array.size_replicate, Array.getElem_replicate, dite_eq_ite]

@[simp] theorem byteAt_zeros (count index : Nat) : byteAt (zeros count) index = 0 := by
  rw [zeros, byteAt_filled, ite_self]

theorem byteAt_of_size_le {bytes : ByteArray} {index : Nat} (outside : bytes.size ≤ index) :
    byteAt bytes index = 0 := by
  simp [byteAt, Nat.not_lt.mpr outside]

/-- `bytes` with `patch` laid over it from `start` on. -/
def overwrite (bytes : ByteArray) (start : Nat) (patch : ByteArray) : ByteArray :=
  if patch.size = 0 then bytes
  else patch.copySlice 0 (bytes ++ zeros (start - bytes.size)) start patch.size

/-- `bytes` cut, or extended with zeros, to exactly `size` bytes. -/
def resize (bytes : ByteArray) (size : Nat) : ByteArray :=
  bytes.extract 0 size ++ zeros (size - bytes.size)

@[simp] theorem size_resize (bytes : ByteArray) (size : Nat) : (resize bytes size).size = size := by
  simp only [resize, ByteArray.size_append, ByteArray.size_extract, size_zeros]
  omega

/-- The whole pieces of `width` bytes that `bytes` holds, in order. -/
def blocks (width : Nat) (bytes : ByteArray) : List ByteArray :=
  (List.range (bytes.size / width)).map fun i => bytes.extract (i * width) ((i + 1) * width)

end BlockImage.Bytes
