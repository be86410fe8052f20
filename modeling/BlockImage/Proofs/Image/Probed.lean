import BlockImage.Proofs.Bitmap.Marked
import BlockImage.Proofs.Image.Front

/-!
# Descriptors and bitmaps that fit

A session only ever gets a descriptor that adds up, with a bitmap over its blocks whose marked blocks it counts. That is
what a probe is held to, and what is read from the front of an image.
-/
namespace BlockImage

theorem Descriptor.validate_eq_ok_iff {descriptor : Descriptor} :
    descriptor.validate = .ok () ↔ descriptor.blockSize.toNat ≠ 0 ∧
      descriptor.totalBlocks.toNat * descriptor.blockSize.toNat < UInt64.size ∧
      descriptor.totalBlocks.toNat * descriptor.blockSize.toNat = descriptor.deviceSize.toNat ∧
      descriptor.verifiedBlocks.toNat ≤ descriptor.totalBlocks.toNat := by
  simp only [validate, bind, Except.bind, throw, throwThe, MonadExceptOf.throw, pure, Except.pure]
  constructor
  · -- Each rule in turn refuses what breaks it.
    intro valid
    split at valid
    · cases valid
    split at valid
    · cases valid
    split at valid
    · cases valid
    split at valid
    · cases valid
    next sized small exact' used =>
      exact ⟨sized, by omega, by omega, by omega⟩
  · rintro ⟨sized, small, exact', used⟩
    rw [if_neg sized, if_neg (by omega), if_neg (by omega), if_neg (by omega)]

/-- A count of the marked blocks fits in its field, so that storing it there does not cut it. -/
theorem Descriptor.verifiedBlocks_verifiedBy {descriptor : Descriptor} {bitmap : Bitmap}
    (total : bitmap.total = descriptor.totalBlocks.toNat) :
    (descriptor.verifiedBy bitmap).verifiedBlocks.toNat = bitmap.count := by
  have most := bitmap.length_marked_le
  have bound := descriptor.totalBlocks.toNat_lt
  change (UInt64.ofNat bitmap.count).toNat = bitmap.count
  rw [UInt64.toNat_ofNat', bitmap.count_eq_length_marked, Nat.mod_eq_of_lt (by omega)]

/-- A descriptor that adds up, with a bitmap over its blocks whose marked blocks it counts. -/
structure Probed (descriptor : Descriptor) (bitmap : Bitmap) : Prop where
  valid : descriptor.validate = .ok ()
  total : bitmap.total = descriptor.totalBlocks.toNat
  verified : descriptor.verifiedBlocks = UInt64.ofNat bitmap.count

namespace Probed

variable {descriptor : Descriptor} {bitmap : Bitmap}

theorem blockSize_pos (probed : Probed descriptor bitmap) : 0 < descriptor.blockSize.toNat :=
  Nat.pos_of_ne_zero (Descriptor.validate_eq_ok_iff.mp probed.valid).1

theorem deviceSize (probed : Probed descriptor bitmap) :
    bitmap.total * descriptor.blockSize.toNat = descriptor.deviceSize.toNat := by
  rw [probed.total]
  exact (Descriptor.validate_eq_ok_iff.mp probed.valid).2.2.1

theorem verifiedBy (probed : Probed descriptor bitmap) : descriptor.verifiedBy bitmap = descriptor := by
  rw [Descriptor.verifiedBy, ← probed.verified]

theorem verifiedBlocks (probed : Probed descriptor bitmap) :
    descriptor.verifiedBlocks.toNat = bitmap.marked.length := by
  have counted := Descriptor.verifiedBlocks_verifiedBy probed.total
  rwa [probed.verifiedBy, bitmap.count_eq_length_marked] at counted

/-- Counting the blocks of a bitmap over its blocks makes a valid descriptor fit it. -/
theorem of_valid {descriptor : Descriptor} (valid : descriptor.validate = .ok ())
    (total : bitmap.total = descriptor.totalBlocks.toNat) : Probed (descriptor.verifiedBy bitmap) bitmap where
  valid := by
    have most := bitmap.length_marked_le
    obtain ⟨sized, small, exact', _⟩ := Descriptor.validate_eq_ok_iff.mp valid
    refine Descriptor.validate_eq_ok_iff.mpr ⟨sized, small, exact', ?_⟩
    rw [Descriptor.verifiedBlocks_verifiedBy total, bitmap.count_eq_length_marked]
    exact total ▸ most
  total := total
  verified := rfl

end Probed

/-- All that restoring needs of a descriptor: its blocks hold bytes, and it counts the marked blocks of a bitmap over
them. Nothing is asked of the size of the device. -/
structure Measured (descriptor : Descriptor) (bitmap : Bitmap) : Prop where
  blockSize_pos : 0 < descriptor.blockSize.toNat
  small : descriptor.totalBlocks.toNat * descriptor.blockSize.toNat < UInt64.size
  total : bitmap.total = descriptor.totalBlocks.toNat
  count : descriptor.verifiedBlocks.toNat = bitmap.count

theorem Measured.verifiedBlocks {descriptor : Descriptor} {bitmap : Bitmap} (measured : Measured descriptor bitmap) :
    descriptor.verifiedBlocks.toNat = bitmap.marked.length := by
  rw [measured.count, bitmap.count_eq_length_marked]

theorem Probed.measured {descriptor : Descriptor} {bitmap : Bitmap} (probed : Probed descriptor bitmap) :
    Measured descriptor bitmap where
  blockSize_pos := probed.blockSize_pos
  small := (Descriptor.validate_eq_ok_iff.mp probed.valid).2.1
  total := probed.total
  count := by rw [probed.verifiedBlocks, bitmap.count_eq_length_marked]

/-- Three blocks of which the middle one is not allocated. -/
def Bitmap.sample : Bitmap := .ofPred 3 (· ≠ 1)

/-- The geometry of three blocks of one byte. -/
def Descriptor.sample : Descriptor := .ofGeometry "sample" 1 3 2

theorem Probed.sample : Probed .sample .sample where
  valid := rfl
  total := rfl
  verified := rfl

theorem Head.Stored.validate_of_check {stored : Stored} {computed : UInt32} {head : Head}
    (accepted : stored.check computed = .ok head) : head.descriptor.validate = .ok () := by
  have rules := check_eq_ok_iff.mp accepted
  rw [rules.built]
  exact rules.valid

theorem Head.validate_of_decode {bytes : ByteArray} {head : Head} (decoded : decode bytes = .ok head) :
    head.descriptor.validate = .ok () := by
  rw [decode] at decoded
  split at decoded
  · cases decoded
  · exact Stored.validate_of_check decoded

theorem BitmapEncoding.total_of_decode {grants : Nat → Bool} {encoding : BitmapEncoding} {total : Nat}
    {bytes : ByteArray} {bitmap : Bitmap} (decoded : encoding.decode grants total bytes = .ok bitmap) :
    bitmap.total = total := by
  -- Either decoder builds a bitmap over the blocks that it was asked for.
  cases encoding with
  | bit =>
    exact Bitmap.total_of_ofBytes decoded
  | byte =>
    rw [decode, Except.bind_eq_ok] at decoded
    obtain ⟨_, _, packed⟩ := decoded
    cases packed
    rfl

theorem BitmapEncoding.decode_mono {grants grants' : Nat → Bool} (more : ∀ size, grants size → grants' size)
    {encoding : BitmapEncoding} {total : Nat} {bytes : ByteArray} {bitmap : Bitmap}
    (decoded : encoding.decode grants total bytes = .ok bitmap) : encoding.decode grants' total bytes = .ok bitmap := by
  cases encoding with
  | bit => exact decoded
  | byte =>
    rw [decode, Except.bind_eq_ok] at decoded ⊢
    obtain ⟨_, granted, packed⟩ := decoded
    exact ⟨_, checkAllocation_mono more granted, packed⟩

theorem FoundBitmap.total_of_ofStored {grants : Nat → Bool} {encoding : BitmapEncoding} {total : Nat}
    {body crc : ByteArray} {found : FoundBitmap} (judged : ofStored grants encoding total body crc = .ok found) :
    found.bitmap.total = total := by
  rw [ofStored, Except.bind_eq_ok] at judged
  obtain ⟨bitmap, decoded, built⟩ := judged
  cases built
  exact BitmapEncoding.total_of_decode decoded

theorem FoundBitmap.eq_of_intact {found : FoundBitmap} {bitmap : Bitmap} (sound : found.intact = .ok bitmap) :
    found = { bitmap, corruption := none } := by
  obtain ⟨stored, corruption⟩ := found
  cases corruption with
  | some failure => cases sound
  | none =>
    cases sound
    rfl

theorem FoundBitmap.bitmap_of_intact {found : FoundBitmap} {bitmap : Bitmap} (sound : found.intact = .ok bitmap) :
    found.bitmap = bitmap := by
  rw [eq_of_intact sound]

end BlockImage
