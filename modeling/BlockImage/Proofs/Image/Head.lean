import BlockImage.Proofs.Checksum.Residue

/-!
# The stored head

Fields come back off the front of the bytes as they were stored, so a valid head survives being stored. The checksum
behind it leaves zero of the register, and a head that leaves anything else is refused.
-/
namespace BlockImage

@[simp] theorem toList_toByteArray (bytes : List UInt8) : bytes.toByteArray.data.toList = bytes := by
  rw [List.data_toByteArray]

@[simp] theorem Head.size_storedCrc (crc : UInt32) : (storedCrc crc).size = 4 := by
  rw [storedCrc, List.size_toByteArray, LittleEndian.length_encode]

theorem Head.decode_storedCrc (crc : UInt32) :
    UInt32.ofNat (LittleEndian.decode (storedCrc crc).data.toList) = crc := by
  have bound := crc.toNat_lt
  rw [storedCrc, toList_toByteArray, LittleEndian.decode_encode, Nat.mod_eq_of_lt (by omega)]
  exact UInt32.ofNat_toNat

/-- A register leaves zero behind its own stored form. -/
theorem Checksum.crc32_fold_storedCrc (register : UInt32) :
    Algorithm.crc32.fold register (Head.storedCrc register) = 0 :=
  (crc32_fold_eq_zero_iff (Head.size_storedCrc register)).mpr (Head.decode_storedCrc register)

namespace Head

section Fields

variable {width : Nat} {rest : List UInt8}

private theorem takeBytes_append (bytes : Vector UInt8 width) :
    takeBytes width (bytes.toList ++ rest) = (bytes, rest) := by
  have taken : (Vector.ofFn fun place : Fin width => (bytes.toList ++ rest).getD place.val 0) = bytes := by
    refine Vector.ext fun place inside => ?_
    rw [Vector.getElem_ofFn, List.getD_eq_getElem?_getD, List.getElem?_append_left (by simpa using inside)]
    simp [inside]
  have left : (bytes.toList ++ rest).drop width = rest := List.drop_left' (by simp)
  rw [takeBytes, taken, left]

private theorem takeNat_append (value : Nat) :
    takeNat width (LittleEndian.encode width value ++ rest) = (value % 1 <<< (8 * width), rest) := by
  have length := LittleEndian.length_encode width value
  rw [takeNat, List.take_left' length, List.drop_left' length, LittleEndian.decode_encode]

private theorem takeNat_cons (byte : UInt8) : takeNat 1 (byte :: rest) = (byte.toNat, rest) := rfl

end Fields

theorem length_encodeBody (descriptor : Descriptor) (options : Options) :
    (encodeBody descriptor options).length = bodySize := by
  simp [encodeBody, bodySize]

@[simp] theorem size_encode (descriptor : Descriptor) (options : Options) :
    (encode descriptor options).size = storedSize := by
  rw [encode, ByteArray.size_append, List.size_toByteArray, length_encodeBody, size_storedCrc, storedSize]

theorem crc32_fold_encode (descriptor : Descriptor) (options : Options) :
    Checksum.Algorithm.crc32.fold Checksum.seed (encode descriptor options) = 0 := by
  rw [encode, Checksum.crc32_fold_append]
  exact Checksum.crc32_fold_storedCrc _

def fields (descriptor : Descriptor) (options : Options) (crc : UInt32) : Stored where
  header := .current
  descriptor
  structSize := options.structSize
  formatVersion := options.formatVersion
  cpuWidth := options.cpuWidth
  checksumCode := options.checksum.code
  checksumSize := options.checksumSize
  blocksPerChecksum := options.blocksPerChecksum
  reseed := if options.reseed then 1 else 0
  encodingCode := options.encoding.code
  crc := crc

private theorem bind_fields {α β : Type} (first : Fields α) (next : α → Fields β) (bytes : List UInt8) :
    (first >>= next) bytes = next (first bytes).1 (first bytes).2 := rfl

private theorem pure_fields {α : Type} (value : α) (bytes : List UInt8) :
    (pure value : Fields α) bytes = (value, bytes) := rfl

private theorem takeStored_encodeBody (descriptor : Descriptor) (options : Options) (crc : UInt32)
    (rest : List UInt8) :
    (takeStored (encodeBody descriptor options ++ (LittleEndian.encode 4 crc.toNat ++ rest))).1 =
      fields descriptor options crc := by
  -- Numbers come back from as many bytes as their type has.
  have word16 (number : UInt16) : UInt16.ofNat (number.toNat % 1 <<< (8 * 2)) = number := by
    have bound : number.toNat < 1 <<< (8 * 2) := number.toNat_lt
    rw [Nat.mod_eq_of_lt bound, UInt16.ofNat_toNat]
  have word32 (number : UInt32) : UInt32.ofNat (number.toNat % 1 <<< (8 * 4)) = number := by
    have bound : number.toNat < 1 <<< (8 * 4) := number.toNat_lt
    rw [Nat.mod_eq_of_lt bound, UInt32.ofNat_toNat]
  have word64 (number : UInt64) : UInt64.ofNat (number.toNat % 1 <<< (8 * 8)) = number := by
    have bound : number.toNat < 1 <<< (8 * 8) := number.toNat_lt
    rw [Nat.mod_eq_of_lt bound, UInt64.ofNat_toNat]
  simp only [encodeBody, List.append_assoc, List.cons_append, List.nil_append, takeStored, takeHeader,
    takeDescriptor, bind_fields, pure_fields, takeBytes_append, takeNat_append, takeNat_cons, word16,
    word32, word64, UInt8.ofNat_toNat, fields]

theorem ofBytes_encode (descriptor : Descriptor) (options : Options) :
    Stored.ofBytes (encode descriptor options) =
      fields descriptor options (Checksum.ofBytes (encodeBody descriptor options).toByteArray) := by
  have listed : (encode descriptor options).data.toList = encodeBody descriptor options ++
      (LittleEndian.encode 4 (Checksum.ofBytes (encodeBody descriptor options).toByteArray).toNat ++ []) := by
    simp [encode, storedCrc]
  rw [Stored.ofBytes, listed, takeStored_encodeBody]

private theorem extract_encode (descriptor : Descriptor) (options : Options) :
    (encode descriptor options).extract 0 bodySize = (encodeBody descriptor options).toByteArray := by
  have size : (encodeBody descriptor options).toByteArray.size = bodySize := by
    rw [List.size_toByteArray, length_encodeBody]
  rw [encode, ← size, ByteArray.extract_append_eq_left rfl]

/-! ### Fields by their places -/

/-- The number that is stored in so many bytes from a place on. -/
def number (bytes : ByteArray) (start width : Nat) : Nat :=
  LittleEndian.decode (bytes.extract start (start + width)).data.toList

/-- The bytes from a place on; missing ones count as zero. -/
def window (bytes : ByteArray) (start width : Nat) : Vector UInt8 width :=
  Vector.ofFn fun place => Bytes.byteAt bytes (start + place.val)

section Places

variable {left right : ByteArray} {start width : Nat}

@[simp] theorem number_zero (bytes : ByteArray) (start : Nat) : number bytes start 0 = 0 := by
  simp [number, LittleEndian.decode]

theorem number_succ (bytes : ByteArray) (start width : Nat) :
    number bytes start (width + 1) = (Bytes.byteAt bytes start).toNat + 256 * number bytes (start + 1) width := by
  have taken (start width : Nat) :
      number bytes start width = LittleEndian.decode ((bytes.data.toList.drop start).take width) := by
    simp [number, ByteArray.data_extract]
  rw [taken, taken]
  by_cases inside : start < bytes.size
  · have listed : start < bytes.data.toList.length := inside
    rw [List.drop_eq_getElem_cons listed, List.take_succ_cons, LittleEndian.decode, Bytes.byteAt_of_lt inside]
    rfl
  · -- Behind the end there is nothing to take, and nothing counts as zero.
    have beyond (place : Nat) (behind : bytes.size ≤ place) : bytes.data.toList.drop place = [] :=
      List.drop_eq_nil_of_le behind
    rw [beyond start (by omega), beyond (start + 1) (by omega), Bytes.byteAt_of_size_le (by omega)]
    simp [LittleEndian.decode]

theorem number_lt (bytes : ByteArray) (start width : Nat) : number bytes start width < 1 <<< (8 * width) := by
  induction width generalizing start with
  | zero => simp
  | succ width ih =>
    have byte := (Bytes.byteAt bytes start).toNat_lt
    have rest := ih (start + 1)
    rw [number_succ, LittleEndian.range_succ]
    omega

/-! A number fits in a word of as many bytes. -/

@[simp] theorem toNat_number_one (bytes : ByteArray) (start : Nat) :
    (UInt8.ofNat (number bytes start 1)).toNat = number bytes start 1 :=
  Nat.mod_eq_of_lt (number_lt bytes start 1)

@[simp] theorem toNat_number_two (bytes : ByteArray) (start : Nat) :
    (UInt16.ofNat (number bytes start 2)).toNat = number bytes start 2 :=
  Nat.mod_eq_of_lt (number_lt bytes start 2)

@[simp] theorem toNat_number_four (bytes : ByteArray) (start : Nat) :
    (UInt32.ofNat (number bytes start 4)).toNat = number bytes start 4 :=
  Nat.mod_eq_of_lt (number_lt bytes start 4)

@[simp] theorem toNat_number_eight (bytes : ByteArray) (start : Nat) :
    (UInt64.ofNat (number bytes start 8)).toNat = number bytes start 8 :=
  Nat.mod_eq_of_lt (number_lt bytes start 8)

/-- Numbers are the same where their bytes are. -/
theorem number_eq_iff :
    number left start width = number right start width ↔ Bytes.AgreeOn left right start (start + width) := by
  induction width generalizing start with
  | zero =>
    simp only [number_zero, true_iff]
    intro index behind before
    omega
  | succ width ih =>
    have rest := @ih (start + 1)
    have first := (Bytes.byteAt left start).toNat_lt
    have second := (Bytes.byteAt right start).toNat_lt
    rw [number_succ, number_succ]
    constructor
    · -- A sum of a byte and a multiple of 256 determines both.
      intro same index behind before
      rcases Nat.eq_or_lt_of_le behind with rfl | later
      · exact UInt8.toNat_inj.mp (by omega)
      · exact rest.mp (by omega) index later (by omega)
    · intro same
      rw [same start (Nat.le_refl _) (by omega), rest.mpr (same.mono (by omega) (by omega))]

theorem window_eq_iff :
    window left start width = window right start width ↔ Bytes.AgreeOn left right start (start + width) := by
  constructor
  · intro same index behind before
    have inside : index - start < width := by omega
    have there := congrArg (·[index - start]) same
    simpa [window, Nat.add_sub_cancel' behind] using there
  · intro same
    apply Vector.ext
    intro place inside
    simpa [window] using same (start + place) (by omega) (by omega)

theorem toArray_window {bytes : ByteArray} {start width : Nat} (within : start + width ≤ bytes.size) :
    (window bytes start width).toArray = (bytes.extract start (start + width)).data := by
  apply Array.ext
  · rw [Vector.size_toArray, ByteArray.size_data, ByteArray.size_extract]
    omega
  · intro index first second
    have inside : index < (bytes.extract start (start + width)).size := second
    have before : start + index < start + width := by
      rw [Vector.size_toArray] at first
      omega
    rw [← ByteArray.getElem_eq_getElem_data (h := inside), ← Bytes.byteAt_of_lt inside, Bytes.byteAt_extract,
      if_pos before]
    simp [window]

/-- Where no byte is missing, the bytes at a place are given ones if they are cut out there. -/
theorem window_eq_given_iff {bytes : ByteArray} (within : start + width ≤ bytes.size) (given : Vector UInt8 width) :
    window bytes start width = given ↔ bytes.extract start (start + width) = ⟨given.toArray⟩ := by
  rw [← Vector.toArray_inj, toArray_window within, ByteArray.ext_iff]

end Places

private theorem takeNat_drop (bytes : ByteArray) (start width : Nat) :
    takeNat width (bytes.data.toList.drop start) =
      (number bytes start width, bytes.data.toList.drop (start + width)) := by
  simp [takeNat, number, ByteArray.data_extract, List.drop_drop]

private theorem takeBytes_drop (bytes : ByteArray) (start width : Nat) :
    takeBytes width (bytes.data.toList.drop start) =
      (window bytes start width, bytes.data.toList.drop (start + width)) := by
  have same : (fun place : Fin width => (bytes.data.toList.drop start).getD place.val 0) =
      fun place => Bytes.byteAt bytes (start + place.val) := by
    funext place
    rw [List.getD_eq_getElem?_getD, List.getElem?_drop, Array.getElem?_toList, Bytes.byteAt_mk]
    split
    next inside => rw [Array.getElem?_eq_getElem inside, Option.getD_some]
    next outside => rw [Array.getElem?_eq_none (Nat.le_of_not_lt outside), Option.getD_none]
  rw [takeBytes, window, same, List.drop_drop]

/-- The fields of a head by the places they are stored in. -/
theorem Stored.ofBytes_eq (bytes : ByteArray) : Stored.ofBytes bytes = {
    header := {
      magic := window bytes 0 15
      writerVersion := window bytes 15 4
      formatVersion := window bytes 19 4
      endianness := UInt16.ofNat (number bytes 23 2) }
    descriptor := {
      tag := window bytes 25 15
      deviceSize := UInt64.ofNat (number bytes 40 8)
      totalBlocks := UInt64.ofNat (number bytes 48 8)
      usedBlocks := UInt64.ofNat (number bytes 56 8)
      verifiedBlocks := UInt64.ofNat (number bytes 64 8)
      blockSize := UInt32.ofNat (number bytes 72 4) }
    structSize := UInt32.ofNat (number bytes 76 4)
    formatVersion := UInt16.ofNat (number bytes 80 2)
    cpuWidth := UInt16.ofNat (number bytes 82 2)
    checksumCode := UInt16.ofNat (number bytes 84 2)
    checksumSize := UInt16.ofNat (number bytes 86 2)
    blocksPerChecksum := UInt32.ofNat (number bytes 88 4)
    reseed := UInt8.ofNat (number bytes 92 1)
    encodingCode := UInt8.ofNat (number bytes 93 1)
    crc := UInt32.ofNat (number bytes 94 4) } := by
  have front : bytes.data.toList = bytes.data.toList.drop 0 := rfl
  rw [Stored.ofBytes, front]
  simp only [takeStored, takeHeader, takeDescriptor, bind_fields, pure_fields, takeNat_drop, takeBytes_drop]

/-- The fields lie in the first bytes. -/
theorem Stored.ofBytes_congr {left right : ByteArray} (same : Bytes.AgreeOn left right 0 storedSize) :
    Stored.ofBytes left = Stored.ofBytes right := by
  have numbers (start width : Nat) (within : start + width ≤ storedSize) :
      number left start width = number right start width := number_eq_iff.mpr (same.mono (Nat.zero_le _) within)
  have windows (start width : Nat) (within : start + width ≤ storedSize) :
      window left start width = window right start width := window_eq_iff.mpr (same.mono (Nat.zero_le _) within)
  rw [Stored.ofBytes_eq, Stored.ofBytes_eq right]
  simp (disch := decide) only [numbers, windows]

/-- What follows a head is not looked at. -/
theorem decode_append {bytes : ByteArray} (long : storedSize ≤ bytes.size) (rest : ByteArray) :
    decode (bytes ++ rest) = decode bytes := by
  have same := Bytes.AgreeOn.append_left bytes rest
  have longer : storedSize ≤ (bytes ++ rest).size := by
    rw [ByteArray.size_append]
    omega
  have within : bodySize ≤ storedSize := by decide
  rw [decode, decode, if_neg (Nat.not_lt.mpr longer), if_neg (Nat.not_lt.mpr long),
    Stored.ofBytes_congr (same.mono (Nat.le_refl _) long),
    (same.mono (Nat.le_refl _) (Nat.le_trans within long)).extract_eq (Nat.le_trans within longer)
      (Nat.le_trans within long)]

/-! ### Heads that are accepted -/

/-- The head that stored fields make up, once their codes are known. -/
def Stored.head (stored : Stored) (checksum : Checksum.Algorithm) (encoding : BitmapEncoding) : Head where
  header := stored.header
  descriptor := stored.descriptor
  options := {
    structSize := stored.structSize
    formatVersion := stored.formatVersion
    cpuWidth := stored.cpuWidth
    checksum
    checksumSize := stored.checksumSize
    blocksPerChecksum := stored.blocksPerChecksum
    reseed := stored.reseed ≠ 0
    encoding }

/-- Stored fields keep all the rules of the format and make up a head. -/
structure Stored.Accepted (stored : Stored) (computed : UInt32) (head : Head) : Prop where
  magic : stored.header.magic = Header.current.magic
  endianness : stored.header.endianness = Header.current.endianness
  version : stored.header.formatVersion = Header.current.formatVersion
  crc : stored.crc = computed
  structSize : stored.structSize.toNat = Options.storedSize
  checksum : Checksum.Algorithm.ofCode? stored.checksumCode = some head.options.checksum
  checksumSize : stored.checksumSize.toNat = head.options.checksum.tagSize
  encoding : BitmapEncoding.ofCode? stored.encodingCode = some head.options.encoding
  valid : stored.descriptor.validate = .ok ()
  built : head = stored.head head.options.checksum head.options.encoding

theorem Stored.check_eq_ok_iff {stored : Stored} {computed : UInt32} {head : Head} :
    stored.check computed = .ok head ↔ stored.Accepted computed head := by
  constructor
  · intro accepted
    simp only [check, bind, Except.bind, throw, throwThe, MonadExceptOf.throw, pure, Except.pure] at accepted
    -- Every rule refuses what breaks it, so all of them were kept.
    split at accepted
    · cases accepted
    next magic =>
    split at accepted
    · cases accepted
    next endianness =>
    split at accepted
    · cases accepted
    next version =>
    split at accepted
    · cases accepted
    next crc =>
    split at accepted
    · cases accepted
    next structSize =>
    split at accepted
    next checksum named =>
      split at accepted
      · cases accepted
      next checksumSize =>
      split at accepted
      next encoding coded =>
        cases valid : stored.descriptor.validate with
        | error failure => rw [valid] at accepted; cases accepted
        | ok _ =>
          rw [valid] at accepted
          cases accepted
          simp only [ne_eq, Decidable.not_not] at magic endianness version crc structSize checksumSize
          exact ⟨magic, endianness, version, crc, structSize, named, checksumSize, coded, valid, rfl⟩
      next => cases accepted
    next => cases accepted
  · rintro ⟨magic, endianness, version, crc, structSize, named, checksumSize, coded, valid, built⟩
    simp only [check, magic, endianness, version, crc, structSize, named, checksumSize, coded, valid, ne_eq,
      not_true_eq_false, if_false, bind, Except.bind, pure, Except.pure]
    exact congrArg Except.ok built.symm

theorem Stored.check_fields {descriptor : Descriptor} {options : Options} (valid : descriptor.validate = .ok ())
    (structSize : options.structSize.toNat = Options.storedSize)
    (checksumSize : options.checksumSize.toNat = options.checksum.tagSize) (crc : UInt32) :
    (fields descriptor options crc).check crc = .ok { header := .current, descriptor, options } := by
  apply Stored.check_eq_ok_iff.mpr
  exact {
    magic := rfl
    endianness := rfl
    version := rfl
    crc := rfl
    structSize
    checksum := Checksum.Algorithm.ofCode?_eq_some_iff.mpr rfl
    checksumSize
    encoding := by cases encoded : options.encoding <;> simp [fields, encoded] <;> rfl
    valid
    built := by
      obtain ⟨_, _, _, _, _, _, reseed, _⟩ := options
      cases reseed <;> rfl }

/-- A valid head survives being stored. -/
theorem decode_encode {descriptor : Descriptor} {options : Options} (valid : descriptor.validate = .ok ())
    (structSize : options.structSize.toNat = Options.storedSize)
    (checksumSize : options.checksumSize.toNat = options.checksum.tagSize) :
    decode (encode descriptor options) = .ok { header := .current, descriptor, options } := by
  have whole : ¬ storedSize < storedSize := Nat.lt_irrefl _
  rw [decode, size_encode, if_neg whole, ofBytes_encode, extract_encode]
  exact Stored.check_fields valid structSize checksumSize _

/-- A head whose checksum is wrong is refused, if not for another reason, then for that. -/
theorem decode_of_fold_ne_zero {bytes : ByteArray} (size : bytes.size = storedSize)
    (wrong : Checksum.Algorithm.crc32.fold Checksum.seed bytes ≠ 0) :
    ∃ failure, decode bytes = .error failure ∧ (failure.category = "format" ∨ failure.category = "corrupt") := by
  -- The last four bytes are the stored checksum, and the others are what it covers.
  have cut : bytes = bytes.extract 0 bodySize ++ bytes.extract bodySize storedSize := by
    rw [← ByteArray.extract_eq_extract_append_extract bodySize (Nat.zero_le _) (by decide),
      Bytes.extract_eq_self (Nat.le_of_eq size)]
  have tail : (bytes.extract bodySize storedSize).size = 4 := by
    rw [ByteArray.size_extract, size]
    rfl
  rw [cut, Checksum.crc32_fold_append] at wrong
  have differs := mt (Checksum.crc32_fold_eq_zero_iff tail).mpr wrong
  -- The field of the checksum holds what the last four bytes stand for.
  have crc : (Stored.ofBytes bytes).crc =
      UInt32.ofNat (LittleEndian.decode (bytes.extract bodySize storedSize).data.toList) := by
    rw [Stored.ofBytes_eq]
    rfl
  have unlike : (Stored.ofBytes bytes).crc ≠ Checksum.ofBytes (bytes.extract 0 bodySize) := by
    rw [crc]
    exact differs
  rw [decode, if_neg (by omega), Stored.check]
  -- Three rules stand in front of the one about the checksum; each of them refuses the head as malformed.
  simp only [bind, Except.bind, throw, throwThe, MonadExceptOf.throw, pure, Except.pure]
  split
  · exact ⟨_, rfl, .inl rfl⟩
  split
  · exact ⟨_, rfl, .inl rfl⟩
  split
  · exact ⟨_, rfl, .inl rfl⟩
  exact ⟨_, rfl, .inr rfl⟩

end Head

end BlockImage
