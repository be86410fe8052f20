import BlockImage.Proofs.Bytes.Place
import BlockImage.Proofs.Image.Probed

/-!
# Images with other counts

The head of an image says twice how many blocks are allocated: as it was reported, and as it was counted. An image is
recounted by putting other numbers in both places and sealing the head anew. Its head is accepted as before, and differs
in these numbers only.
-/
namespace BlockImage

namespace Head

/-- Where the two numbers of allocated blocks begin in a stored head. -/
def countsOffset : Nat := 56

/-- Where the fields behind them begin. -/
def countsStop : Nat := countsOffset + 8 + 8

/-- What is sealed of a stored head, with other numbers of allocated blocks. -/
def recountedBody (stored : ByteArray) (used verified : UInt64) : ByteArray :=
  stored.extract 0 countsOffset ++ (LittleEndian.encode 8 used.toNat).toByteArray ++
    (LittleEndian.encode 8 verified.toNat).toByteArray ++ stored.extract countsStop bodySize

/-- A stored head with other numbers of allocated blocks, sealed anew. -/
def recount (stored : ByteArray) (used verified : UInt64) : ByteArray :=
  let body := recountedBody stored used verified
  body ++ storedCrc (Checksum.ofBytes body)

variable {stored : ByteArray} {used verified : UInt64}

/-- A number stands where it was put. -/
theorem number_middle (front back : ByteArray) (width value : Nat) :
    number (front ++ (LittleEndian.encode width value).toByteArray ++ back) front.size width =
      value % 1 <<< (8 * width) := by
  have size : (LittleEndian.encode width value).toByteArray.size = width := by
    rw [List.size_toByteArray, LittleEndian.length_encode]
  have middle := Bytes.extract_middle front (LittleEndian.encode width value).toByteArray back
  rw [size] at middle
  rw [number, middle, toList_toByteArray, LittleEndian.decode_encode]

section Recount

variable (size : stored.size = storedSize)

include size

theorem size_recountedBody : (recountedBody stored used verified).size = bodySize := by
  simp only [recountedBody, ByteArray.size_append, ByteArray.size_extract, List.size_toByteArray,
    LittleEndian.length_encode, size, countsOffset, countsStop, bodySize, storedSize]
  rfl

theorem size_recount : (recount stored used verified).size = storedSize := by
  rw [recount, ByteArray.size_append, size_recountedBody size, size_storedCrc, storedSize]

/-- Only the numbers and the checksum are replaced. -/
theorem byteAt_recount {index : Nat} (apart : index < countsOffset ∨ countsStop ≤ index ∧ index < bodySize) :
    Bytes.byteAt (recount stored used verified) index = Bytes.byteAt stored index := by
  have sizes : stored.size = 98 := size
  simp only [countsOffset, countsStop, bodySize] at apart
  simp only [recount, recountedBody, Bytes.byteAt_append, Bytes.byteAt_extract, ByteArray.size_append,
    ByteArray.size_extract, List.size_toByteArray, LittleEndian.length_encode, sizes, countsOffset, countsStop, bodySize]
  rcases apart with before | ⟨behind, within⟩
  · grind
  · grind

theorem usedBlocks_recount : number (recount stored used verified) countsOffset 8 = used.toNat := by
  have front : (stored.extract 0 countsOffset).size = countsOffset := by
    rw [ByteArray.size_extract, size]
    rfl
  have bound : used.toNat < 1 <<< (8 * 8) := used.toNat_lt
  rw [recount]
  generalize storedCrc _ = crc
  have there := number_middle (stored.extract 0 countsOffset) ((LittleEndian.encode 8 verified.toNat).toByteArray ++
    (stored.extract countsStop bodySize ++ crc)) 8 used.toNat
  rw [front, Nat.mod_eq_of_lt bound] at there
  simpa only [recountedBody, ByteArray.append_assoc] using there

theorem verifiedBlocks_recount : number (recount stored used verified) (countsOffset + 8) 8 = verified.toNat := by
  have front : (stored.extract 0 countsOffset ++ (LittleEndian.encode 8 used.toNat).toByteArray).size =
      countsOffset + 8 := by
    rw [ByteArray.size_append, ByteArray.size_extract, size, List.size_toByteArray, LittleEndian.length_encode]
    rfl
  have bound : verified.toNat < 1 <<< (8 * 8) := verified.toNat_lt
  rw [recount]
  generalize storedCrc _ = crc
  have there := number_middle (stored.extract 0 countsOffset ++ (LittleEndian.encode 8 used.toNat).toByteArray)
    (stored.extract countsStop bodySize ++ crc) 8 verified.toNat
  rw [front, Nat.mod_eq_of_lt bound] at there
  simpa only [recountedBody, ByteArray.append_assoc] using there

/-- A recounted head is sealed. -/
theorem crc_recount : UInt32.ofNat (number (recount stored used verified) bodySize 4) =
    Checksum.ofBytes ((recount stored used verified).extract 0 bodySize) := by
  have body : (recountedBody stored used verified).size = bodySize := size_recountedBody size
  have sealed : (recount stored used verified).extract 0 bodySize = recountedBody stored used verified := by
    rw [recount, ← body, ByteArray.extract_append_eq_left rfl]
  rw [sealed, recount]
  generalize Checksum.ofBytes _ = crc
  have there := number_middle (recountedBody stored used verified) ByteArray.empty 4 crc.toNat
  have bound : crc.toNat < 1 <<< (8 * 4) := crc.toNat_lt
  rw [body, Nat.mod_eq_of_lt bound, ByteArray.append_empty] at there
  rw [storedCrc, there, UInt32.ofNat_toNat]

theorem ofBytes_recount : Stored.ofBytes (recount stored used verified) = {
    Stored.ofBytes stored with
    descriptor := {
      (Stored.ofBytes stored).descriptor with
      usedBlocks := used
      verifiedBlocks := verified }
    crc := Checksum.ofBytes ((recount stored used verified).extract 0 bodySize) } := by
  -- What does not meet the two numbers and the checksum is as it was.
  have same {start width : Nat}
      (apart : start + width ≤ countsOffset ∨ countsStop ≤ start ∧ start + width ≤ bodySize) :
      Bytes.AgreeOn (recount stored used verified) stored start (start + width) := by
    intro index behind within
    exact byteAt_recount size (by omega)
  have numbers (start width : Nat)
      (apart : start + width ≤ countsOffset ∨ countsStop ≤ start ∧ start + width ≤ bodySize) :
      number (recount stored used verified) start width = number stored start width := number_eq_iff.mpr (same apart)
  have windows (start width : Nat)
      (apart : start + width ≤ countsOffset ∨ countsStop ≤ start ∧ start + width ≤ bodySize) :
      window (recount stored used verified) start width = window stored start width := window_eq_iff.mpr (same apart)
  have usedBlocks : number (recount stored used verified) 56 8 = used.toNat := usedBlocks_recount size
  have verifiedBlocks : number (recount stored used verified) 64 8 = verified.toNat := verifiedBlocks_recount size
  have crc : UInt32.ofNat (number (recount stored used verified) 94 4) = _ := crc_recount size
  rw [Stored.ofBytes_eq, Stored.ofBytes_eq stored]
  simp (disch := decide) only [numbers, windows, usedBlocks, verifiedBlocks, crc, UInt64.ofNat_toNat]

omit size in
/-- Other numbers break no rule, if no more blocks are said to be allocated than there are. -/
theorem Stored.Accepted.recount {stored : Stored} {computed : UInt32} {head : Head}
    (rules : stored.Accepted computed head) (used : UInt64) {verified : UInt64}
    (within : verified.toNat ≤ head.descriptor.totalBlocks.toNat) (crc : UInt32) :
    Stored.Accepted {
        stored with
        descriptor := { stored.descriptor with usedBlocks := used, verifiedBlocks := verified }
        crc } crc {
      head with
      descriptor := { head.descriptor with usedBlocks := used, verifiedBlocks := verified } } where
  magic := rules.magic
  endianness := rules.endianness
  version := rules.version
  crc := rfl
  structSize := rules.structSize
  checksum := rules.checksum
  checksumSize := rules.checksumSize
  encoding := rules.encoding
  valid := by
    obtain ⟨sized, small, fills, _⟩ := Descriptor.validate_eq_ok_iff.mp rules.valid
    rw [rules.built] at within
    exact Descriptor.validate_eq_ok_iff.mpr ⟨sized, small, fills, within⟩
  built := by
    have built := rules.built
    generalize head.options.checksum = checksum, head.options.encoding = encoding at built
    subst built
    rfl

/-- A recounted head is accepted as it was before, if no more blocks are said to be allocated than there are. -/
theorem decode_recount {head : Head} (accepted : decode stored = .ok head)
    (within : verified.toNat ≤ head.descriptor.totalBlocks.toNat) : decode (recount stored used verified) = .ok {
      head with
      descriptor := { head.descriptor with usedBlocks := used, verifiedBlocks := verified } } := by
  have short : ¬ storedSize < storedSize := Nat.lt_irrefl _
  rw [decode, size, if_neg short] at accepted
  rw [decode, size_recount size, if_neg short, ofBytes_recount size]
  exact Stored.check_eq_ok_iff.mpr ((Stored.check_eq_ok_iff.mp accepted).recount used within _)

end Recount

end Head

namespace Image

/-- An image with other numbers of allocated blocks in its head, which is sealed anew. -/
def recount (image : ByteArray) (used verified : UInt64) : ByteArray :=
  Head.recount (image.extract 0 Head.storedSize) used verified ++ image.extract Head.storedSize image.size

variable {image : ByteArray} {used verified : UInt64} (long : Head.storedSize ≤ image.size)

include long

theorem size_stored : (image.extract 0 Head.storedSize).size = Head.storedSize := by
  rw [ByteArray.size_extract, Nat.min_eq_left long, Nat.sub_zero]

theorem size_recount : (recount image used verified).size = image.size := by
  rw [recount, ByteArray.size_append, Head.size_recount (size_stored long), ByteArray.size_extract, Nat.min_self,
    Nat.add_sub_cancel' long]

theorem extract_recount : (recount image used verified).extract 0 Head.storedSize =
    Head.recount (image.extract 0 Head.storedSize) used verified := by
  rw [recount, ByteArray.extract_append_eq_left (Head.size_recount (size_stored long)).symm]

/-- Behind the head an image is not changed. -/
theorem byteAt_recount {index : Nat} (behind : Head.storedSize ≤ index) :
    Bytes.byteAt (recount image used verified) index = Bytes.byteAt image index := by
  rw [recount, Bytes.byteAt_append, Head.size_recount (size_stored long), if_neg (Nat.not_lt.mpr behind),
    Bytes.byteAt_extract, Nat.add_sub_cancel' behind]
  split
  next => rfl
  next outside => rw [Bytes.byteAt_of_size_le (Nat.not_lt.mp outside)]

end Image

end BlockImage
