import BlockImage.Proofs.Image.Decoding
import BlockImage.Proofs.Image.Opening
import Mathlib.Data.Nat.Find

/-!
# What damage does to an image

Damage within four consecutive bytes leaves its trace in the checksum that covers the first byte it alters: that of the
head, that of the bitmap, or the tag of a group of blocks. A tag and the bytes of its group lie behind each other, so
together they leave zero of the register that the group began with, unless they are damaged.
-/
namespace BlockImage

namespace Bytes

/-- Two byte strings of one size differ at an offset, and apart from that in nothing but the next three bytes. -/
structure DamagedFrom (damaged sound : ByteArray) (first : Nat) : Prop extends DifferWithin damaged sound first where
  differ : byteAt damaged first ≠ byteAt sound first

variable {damaged sound : ByteArray} {start first : Nat}

theorem DifferWithin.exists_damagedFrom (window : DifferWithin damaged sound start) (different : damaged ≠ sound) :
    ∃ first, DamagedFrom damaged sound first := by
  have some : ∃ place, byteAt damaged place ≠ byteAt sound place := by
    refine Classical.byContradiction fun none => different (ext_byteAt window.size fun place => ?_)
    exact Decidable.byContradiction fun differs => none ⟨place, differs⟩
  -- The damage begins at the least offset at which they differ, and the window does not begin behind it.
  refine ⟨Nat.find some, ⟨window.size, fun index different => ?_⟩, Nat.find_spec some⟩
  have within := window.window index different
  have begins := window.window _ (Nat.find_spec some)
  have behind : Nat.find some ≤ index := Nat.find_min' some different
  omega

namespace DamagedFrom

theorem extract_ne (damage : DamagedFrom damaged sound first) {begin stop : Nat} (behind : begin ≤ first)
    (before : first < stop) : damaged.extract begin stop ≠ sound.extract begin stop := by
  intro same
  apply damage.differ
  have place := congrArg (byteAt · (first - begin)) same
  simp only [byteAt_extract] at place
  rwa [Nat.add_sub_cancel' behind, if_pos before, if_pos before] at place

theorem lt_size (damage : DamagedFrom damaged sound first) : first < sound.size := by
  refine Decidable.byContradiction fun beyond => damage.differ ?_
  rw [byteAt_of_size_le (by rw [damage.size]; omega), byteAt_of_size_le (by omega)]

/-- Behind a front that is not damaged the damage begins earlier by the size of the front. -/
theorem behind (damage : DamagedFrom damaged sound first) {front : Nat} (passed : front ≤ first) :
    DamagedFrom (damaged.extract front damaged.size) (sound.extract front sound.size) (first - front) := by
  have within := damage.lt_size
  refine ⟨damage.size ▸ damage.toDifferWithin.extract front damaged.size, ?_⟩
  rw [byteAt_extract, byteAt_extract, Nat.add_sub_cancel' passed, if_pos within,
    if_pos (by rw [damage.size]; exact within)]
  exact damage.differ

/-- A checksum over the first difference does not stay the same. -/
theorem crc32_fold_ne (damage : DamagedFrom damaged sound first) {begin stop : Nat} (behind : begin ≤ first)
    (before : first < stop) (register : UInt32) :
    Checksum.Algorithm.crc32.fold register (damaged.extract begin stop) ≠
      Checksum.Algorithm.crc32.fold register (sound.extract begin stop) :=
  fun same => damage.extract_ne behind before
    (Checksum.eq_of_crc32_fold (damage.toDifferWithin.extract begin stop) same)

end DamagedFrom

end Bytes

/-! ### Groups in the data -/

namespace Head

variable {head : Head} {stream other : ByteArray} {number : Nat}

/-- The first block of the group that a block is in. -/
def groupStart (head : Head) (number : Nat) : Nat :=
  number / head.options.blocksPerChecksum.toNat * head.options.blocksPerChecksum.toNat

theorem groupStart_le : head.groupStart number ≤ number := Nat.div_mul_le_self _ _

/-- Within a group no tag follows before the last block. -/
theorem not_closes_of_groupStart_le {earlier : Nat} (within : head.groupStart number ≤ earlier)
    (before : earlier < number) (inside : number < head.total) : ¬ head.Closes earlier := by
  rintro ⟨tagged, zero | last⟩
  · have wide := Layout.perTag_pos tagged
    have parts := Nat.div_add_mod (earlier + 1) head.options.blocksPerChecksum.toNat
    have start := Nat.div_add_mod number head.options.blocksPerChecksum.toNat
    have rest := Nat.mod_lt number wide
    rw [groupStart, Nat.mul_comm] at within
    have more : number / head.options.blocksPerChecksum.toNat + 1 ≤
        (earlier + 1) / head.options.blocksPerChecksum.toNat :=
      Nat.lt_of_mul_lt_mul_left (a := head.options.blocksPerChecksum.toNat) (by omega)
    have product := Nat.mul_le_mul_left head.options.blocksPerChecksum.toNat more
    rw [Nat.mul_succ] at product
    omega
  · omega

theorem startOf_groupStart_add (inside : number < head.total) {count : Nat}
    (within : head.groupStart number + count ≤ number) :
    head.startOf (head.groupStart number + count) = head.startOf (head.groupStart number) + count * head.width := by
  induction count with
  | zero => simp
  | succ count ih =>
    have goes := not_closes_of_groupStart_le (Nat.le_add_right _ count) (by omega) inside
    rw [← Nat.add_assoc, startOf_succ (by omega), if_neg goes, ih (by omega), Nat.add_mul]
    omega

theorem join_group (inside : number < head.total) {count : Nat} (within : head.groupStart number + count ≤ number + 1) :
    Bytes.join (((head.blocksIn stream).drop (head.groupStart number)).take count) =
      stream.extract (head.startOf (head.groupStart number))
        (head.startOf (head.groupStart number) + count * head.width) := by
  induction count with
  | zero => simp
  | succ count ih =>
    have bound : head.groupStart number + count < (head.blocksIn stream).length := by
      rw [length_blocksIn]
      omega
    have item : ((head.blocksIn stream).drop (head.groupStart number))[count]? =
        some (head.blockIn stream (head.groupStart number + count)) := by
      rw [List.getElem?_drop, List.getElem?_eq_getElem bound, getElem_blocksIn]
    rw [List.take_add_one, item, Option.toList_some, Bytes.join_append, ih (by omega), Bytes.join_cons, Bytes.join_nil,
      ByteArray.append_empty, blockIn, startOf_groupStart_add inside (by omega), Nat.add_mul, Nat.one_mul,
      ← Nat.add_assoc]
    exact (ByteArray.extract_eq_extract_append_extract _ (by omega) (by omega)).symm

/-- The register with which the group of a block begins. -/
def groupSeed (head : Head) (stream : ByteArray) (number : Nat) : UInt32 :=
  head.options.checksum.ofBlocks (Layout.held head.options (head.blocksIn stream) (head.groupStart number))

def groupIn (head : Head) (stream : ByteArray) (number : Nat) : ByteArray :=
  stream.extract (head.startOf (head.groupStart number)) (head.startOf (number + 1))

/-- A tag covers what the register holds before its group, and the group. -/
theorem covered_eq (tagged : head.options.tagged = true) (blocks : List ByteArray) (number : Nat) :
    Layout.covered head.options blocks number = Layout.held head.options blocks (head.groupStart number) ++
      (blocks.drop (head.groupStart number)).take (number + 1 - head.groupStart number) := by
  have within : head.groupStart number ≤ number := groupStart_le
  have same : head.groupStart number / head.options.blocksPerChecksum.toNat * head.options.blocksPerChecksum.toNat =
      head.groupStart number := by
    rw [groupStart, Nat.mul_div_cancel _ (Layout.perTag_pos tagged)]
  rw [Layout.covered, Layout.held, same]
  cases head.options.reseed with
  | true =>
    -- Behind a tag the register starts anew, so it holds nothing before the group.
    have none : (blocks.take (head.groupStart number)).drop (head.groupStart number) = [] :=
      List.drop_of_length_le (by rw [List.length_take]; omega)
    rw [if_pos rfl, if_pos rfl, none, List.nil_append, List.drop_take, groupStart]
  | false =>
    -- The register runs on, so it holds all blocks before the group.
    have parts : number + 1 = head.groupStart number + (number + 1 - head.groupStart number) := by omega
    have cut := @List.take_add _ blocks (head.groupStart number) (number + 1 - head.groupStart number)
    rw [← parts] at cut
    exact cut

/-- A tag fits exactly when the group and the tag leave zero of the register that the group began with. -/
theorem fits_iff (crc32 : head.options.checksum = .crc32) (inside : number < head.total) (closes : head.Closes number)
    (whole : head.startOf (number + 1) ≤ stream.size) :
    head.Fits stream number ↔
      Checksum.Algorithm.crc32.fold (head.groupSeed stream number) (head.groupIn stream number) = 0 := by
  have within : head.groupStart number ≤ number := groupStart_le
  have tagSize : head.options.checksum.tagSize = 4 := by rw [crc32]; rfl
  have next : head.startOf (number + 1) = head.startOf number + head.width + 4 := by
    rw [startOf_succ inside, if_pos closes, tagSize]
  have tag : (head.tagIn stream number).size = 4 := by
    rw [tagIn, ByteArray.size_extract, tagSize]
    omega
  have last : head.startOf (head.groupStart number) + (number + 1 - head.groupStart number) * head.width =
      head.startOf number + head.width := by
    have whole := @startOf_groupStart_add _ _ inside (number - head.groupStart number) (by omega)
    have count : number + 1 - head.groupStart number = number - head.groupStart number + 1 := by omega
    rw [Nat.add_sub_cancel' within] at whole
    rw [whole, count, Nat.add_mul]
    omega
  -- The blocks and the tag lie behind each other.
  have parts : head.groupIn stream number = Bytes.join (((head.blocksIn stream).drop (head.groupStart number)).take
      (number + 1 - head.groupStart number)) ++ head.tagIn stream number := by
    rw [join_group inside (by omega), groupIn, tagIn, tagSize, last, next]
    refine ByteArray.extract_eq_extract_append_extract _ ?_ (by omega)
    rw [← last]
    exact Nat.le_add_right _ _
  rw [parts, Checksum.crc32_fold_append, Checksum.crc32_fold_eq_zero_iff tag, Fits, storedIn, registerIn,
    Layout.register, covered_eq closes.1, Checksum.Algorithm.ofBlocks, List.foldl_append, crc32, Checksum.foldl_crc32,
    groupSeed, crc32]
  rfl

section Damaged

variable {damaged sound : ByteArray} {first stop : Nat}

private theorem extract_congr (agree : damaged.extract 0 stop = sound.extract 0 stop) {begin until' : Nat}
    (before : until' ≤ stop) : damaged.extract begin until' = sound.extract begin until' := by
  have cut (bytes : ByteArray) : (bytes.extract 0 stop).extract begin until' = bytes.extract begin until' := by
    rw [ByteArray.extract_extract, Nat.zero_add, Nat.zero_add, Nat.min_eq_left before]
  rw [← cut damaged, ← cut sound, agree]

/-- What comes before a group decides on the register that the group begins with. -/
theorem groupSeed_congr (inside : number < head.total)
    (agree : damaged.extract 0 (head.startOf (head.groupStart number)) =
      sound.extract 0 (head.startOf (head.groupStart number))) :
    head.groupSeed damaged number = head.groupSeed sound number := by
  have within : head.groupStart number ≤ number := groupStart_le
  have taken : (head.blocksIn damaged).take (head.groupStart number) =
      (head.blocksIn sound).take (head.groupStart number) := by
    rw [blocksIn, blocksIn, ← List.map_take, ← List.map_take, List.take_range, Nat.min_eq_left (by omega)]
    refine List.map_congr_left fun block member => ?_
    have before : block < head.groupStart number := List.mem_range.mp member
    have reach : head.startOf (block + 1) ≤ head.startOf (head.groupStart number) := startOf_mono before (by omega)
    rw [startOf_succ (by omega)] at reach
    exact extract_congr agree (by omega)
  rw [groupSeed, groupSeed, Layout.held, Layout.held, taken]

/-- The first tag that does not fit is that of the group in which the damage begins. -/
theorem exists_misfit (crc32 : head.options.checksum = .crc32) (tagged : head.options.tagged = true)
    (size : sound.size = head.startOf head.total)
    (fits : ∀ number < head.total, head.Closes number → head.Fits sound number)
    (damage : Bytes.DamagedFrom damaged sound first) :
    ∃ number, head.Misfit damaged number ∧ head.startOf (head.groupStart number) ≤ first ∧
      first < head.startOf (number + 1) := by
  have below : first < head.startOf head.total := size ▸ damage.lt_size
  have some : head.total - 1 + 1 = head.total := by
    have positive : head.total ≠ 0 := fun none => by simp [none] at below
    omega
  -- Of the tags behind the first difference, the first one is that of its group.
  have covering : ∃ number, head.Closes number ∧ first < head.startOf (number + 1) :=
    ⟨head.total - 1, ⟨tagged, .inr some⟩, some ▸ below⟩
  obtain ⟨number, ⟨closes, behind⟩, within, least⟩ : ∃ number,
      (head.Closes number ∧ first < head.startOf (number + 1)) ∧ number ≤ head.total - 1 ∧
        ∀ other < number, ¬ (head.Closes other ∧ first < head.startOf (other + 1)) :=
    ⟨Nat.find covering, Nat.find_spec covering, Nat.find_min' covering ⟨⟨tagged, .inr some⟩, some ▸ below⟩,
      fun _ before => Nat.find_min covering before⟩
  have inside : number < head.total := by omega
  have reach (other : Nat) (before : other ≤ number) : head.startOf (other + 1) ≤ sound.size :=
    size ▸ startOf_mono (by omega) (Nat.le_refl _)
  have earlier (other : Nat) (before : other < number) (closed : head.Closes other) : head.startOf (other + 1) ≤ first :=
    Nat.le_of_not_lt fun after => least other before ⟨closed, after⟩
  have groupBefore : head.startOf (head.groupStart number) ≤ first := by
    cases groupStart : head.groupStart number with
    | zero => simp
    | succ last =>
      -- Before the group stands the tag of the group before it, which the damage does not reach.
      have whole : (last + 1) % head.options.blocksPerChecksum.toNat = 0 := by
        rw [← groupStart, Head.groupStart, Nat.mul_mod_left]
      have bound : head.groupStart number ≤ number := groupStart_le
      exact earlier last (by omega) ⟨tagged, .inl whole⟩
  refine ⟨number, ⟨inside, closes, ?_, ?_⟩, groupBefore, behind⟩
  · -- The group begins with the same register and does not leave zero of it any more.
    rw [fits_iff crc32 inside closes (damage.size ▸ reach number (Nat.le_refl _)),
      groupSeed_congr inside (damage.extract_eq (.inl groupBefore)),
      ← (fits_iff crc32 inside closes (reach number (Nat.le_refl _))).mp (fits number inside closes)]
    exact damage.crc32_fold_ne groupBefore behind _
  · -- The groups before it are not damaged.
    intro other before closed
    have passed := earlier other before closed
    have start : head.startOf (head.groupStart other) ≤ head.startOf (other + 1) :=
      startOf_mono (Nat.le_succ_of_le groupStart_le) (by omega)
    have sound' := (fits_iff crc32 (by omega) closed (reach other (Nat.le_of_lt before))).mp
      (fits other (by omega) closed)
    rw [fits_iff crc32 (by omega) closed (damage.size ▸ reach other (Nat.le_of_lt before)),
      groupSeed_congr (by omega) (damage.extract_eq (.inl (by omega))), groupIn,
      damage.extract_eq (.inl passed)]
    exact sound'

end Damaged

end Head

/-! ### The front of a damaged image -/

namespace Image

variable {grants : Nat → Bool} {config : Config} {descriptor : Descriptor} {bitmap : Bitmap} {bytes data : ByteArray}
  {first : Nat}

/-- Damage that begins in the head makes the head be refused. -/
theorem front_of_damaged_head
    (damage : Bytes.DamagedFrom bytes (Layout.front (Transfer.imageOptions config) descriptor bitmap ++ data) first)
    (early : first < Head.storedSize) :
    ∃ failure, front grants bytes = .error failure ∧ (failure.category = "format" ∨ failure.category = "corrupt") := by
  have sound : (Layout.front (Transfer.imageOptions config) descriptor bitmap ++ data).extract 0 Head.storedSize =
      Head.encode descriptor (Transfer.imageOptions config) := by
    rw [Layout.front, ByteArray.append_assoc, ByteArray.append_assoc]
    exact ByteArray.extract_append_eq_left (Head.size_encode ..).symm
  have whole : Head.storedSize ≤ bytes.size := by
    rw [damage.size, ByteArray.size_append, Layout.front, ByteArray.size_append, ByteArray.size_append, Head.size_encode]
    omega
  have size : (bytes.extract 0 Head.storedSize).size = Head.storedSize := by
    rw [ByteArray.size_extract]
    omega
  have wrong : Checksum.Algorithm.crc32.fold Checksum.seed (bytes.extract 0 Head.storedSize) ≠ 0 := by
    rw [← Head.crc32_fold_encode descriptor (Transfer.imageOptions config), ← sound]
    exact damage.crc32_fold_ne (Nat.zero_le _) early _
  obtain ⟨failure, refused, category⟩ := Head.decode_of_fold_ne_zero size wrong
  refine ⟨failure, ?_, category⟩
  rw [front, head, piece_ok (Nat.zero_add _ ▸ whole), Nat.zero_add]
  simp only [bind, Except.bind, refused]

theorem front_of_fold_ne_zero (headed : head bytes = .ok (.written config descriptor))
    (room : grants (bitmapSize descriptor.totalBlocks.toNat))
    (whole : Head.storedSize + bitmapSize descriptor.totalBlocks.toNat + 4 ≤ bytes.size)
    (wrong : Checksum.Algorithm.crc32.fold Checksum.seed (bytes.extract Head.storedSize
      (Head.storedSize + bitmapSize descriptor.totalBlocks.toNat + 4)) ≠ 0) :
    ∃ stored computed, front grants bytes = .error (.corrupt .bitmap stored computed) := by
  let width := bitmapSize descriptor.totalBlocks.toNat
  let body := bytes.extract Head.storedSize (Head.storedSize + width)
  let crc := bytes.extract (Head.storedSize + width) (Head.storedSize + width + 4)
  have sizes : body.size = width ∧ crc.size = 4 := by
    simp only [body, crc, ByteArray.size_extract]
    omega
  -- The stored checksum is not that of the bitmap in front of it.
  have unlike : UInt32.ofNat (LittleEndian.decode crc.data.toList) ≠ Checksum.ofBytes body := by
    have parts : body ++ crc = bytes.extract Head.storedSize (Head.storedSize + width + 4) :=
      (ByteArray.extract_eq_extract_append_extract _ (by omega) (by omega)).symm
    rw [← parts, Checksum.crc32_fold_append] at wrong
    exact mt (Checksum.crc32_fold_eq_zero_iff sizes.2).mpr wrong
  have granted : checkAllocation grants width = .ok () := checkAllocation_of_granted room
  have packed : Bitmap.ofBytes descriptor.totalBlocks.toNat body =
      .ok (.ofPred descriptor.totalBlocks.toNat (bitAt body)) := Bitmap.ofBytes_of_size sizes.1
  -- The bitmap is found all the same, with its corruption beside it.
  have judged : found grants (Head.written config descriptor).descriptor.totalBlocks.toNat
      (Head.written config descriptor).options.encoding bytes = .ok {
        bitmap := .ofPred descriptor.totalBlocks.toNat (bitAt body)
        corruption := some (.corrupt .bitmap (UInt32.ofNat (LittleEndian.decode crc.data.toList))
          (Checksum.ofBytes body)) } := by
    have former (failure : Error) : piece bytes Layout.bitmapOffset width failure = .ok body :=
      piece_ok (Nat.le_trans (Nat.le_add_right _ 4) whole) _
    have latter (failure : Error) : piece bytes (Layout.bitmapOffset + width) 4 failure = .ok crc := piece_ok whole _
    change found grants descriptor.totalBlocks.toNat .bit bytes = _
    simp only [found, BitmapEncoding.storedSize, width] at granted former latter ⊢
    simp only [granted, former, latter, FoundBitmap.ofStored, BitmapEncoding.decode, packed, if_neg unlike, bind,
      Except.bind, pure, Except.pure]
  refine ⟨UInt32.ofNat (LittleEndian.decode crc.data.toList), Checksum.ofBytes body, ?_⟩
  simp only [front, headed, judged, bind, Except.bind]
  rfl

theorem head_of_damaged (probed : Probed descriptor bitmap)
    (damage : Bytes.DamagedFrom bytes (Layout.front (Transfer.imageOptions config) descriptor bitmap ++ data) first)
    (behind : Head.storedSize ≤ first) : head bytes = .ok (.written config descriptor) := by
  have long := damage.lt_size
  -- The damage lies behind the head, which is thus what was encoded.
  have same : bytes.extract 0 Head.storedSize = Head.encode descriptor (Transfer.imageOptions config) := by
    rw [damage.extract_eq (.inl behind), Layout.front, ByteArray.append_assoc, ByteArray.append_assoc]
    exact ByteArray.extract_append_eq_left (Head.size_encode ..).symm
  rw [← damage.size] at long
  have parts : bytes = Head.encode descriptor (Transfer.imageOptions config) ++
      bytes.extract Head.storedSize bytes.size := by
    rw [← same, ← ByteArray.extract_eq_extract_append_extract Head.storedSize (Nat.zero_le _) (by omega),
      Bytes.extract_eq_self (Nat.le_refl _)]
  rw [parts]
  exact head_encode probed _

/-- Damage that begins in the bitmap or its checksum makes the bitmap be refused. -/
theorem front_of_damaged_bitmap (probed : Probed descriptor bitmap)
    (room : grants (bitmapSize descriptor.totalBlocks.toNat))
    (damage : Bytes.DamagedFrom bytes (Layout.front (Transfer.imageOptions config) descriptor bitmap ++ data) first)
    (behind : Head.storedSize ≤ first)
    (early : first < Layout.dataOffset descriptor.totalBlocks.toNat (Transfer.imageOptions config).encoding) :
    ∃ stored computed, front grants bytes = .error (.corrupt .bitmap stored computed) := by
  -- Bitmap and checksum lie behind each other and leave zero of the register unless they are damaged.
  let guarded := bitmap.bytes ++ Head.storedCrc (Checksum.ofBytes bitmap.bytes)
  have size : guarded.size = bitmapSize descriptor.totalBlocks.toNat + 4 := by
    rw [ByteArray.size_append, Head.size_storedCrc, bitmap.size_bytes, probed.total]
  have split : Layout.front (Transfer.imageOptions config) descriptor bitmap ++ data =
      Head.encode descriptor (Transfer.imageOptions config) ++ guarded ++ data := by
    rw [Layout.front, ← ByteArray.append_assoc (a := Head.encode descriptor (Transfer.imageOptions config))]
  have sound : (Layout.front (Transfer.imageOptions config) descriptor bitmap ++ data).extract Head.storedSize
      (Head.storedSize + bitmapSize descriptor.totalBlocks.toNat + 4) = guarded := by
    have middle := Bytes.extract_middle (Head.encode descriptor (Transfer.imageOptions config)) guarded data
    rwa [Head.size_encode, size, ← split, ← Nat.add_assoc] at middle
  have whole : Head.storedSize + bitmapSize descriptor.totalBlocks.toNat + 4 ≤ bytes.size := by
    rw [damage.size, split, ByteArray.size_append, ByteArray.size_append, Head.size_encode, size]
    omega
  have zero : Checksum.Algorithm.crc32.fold Checksum.seed guarded = 0 := by
    rw [Checksum.crc32_fold_append]
    exact Checksum.crc32_fold_storedCrc _
  refine front_of_fold_ne_zero (head_of_damaged probed damage behind) room whole ?_
  rw [← zero, ← sound]
  exact damage.crc32_fold_ne behind early _

/-- Damage that begins in the data leaves the front as it was. -/
theorem eq_front_append_of_damaged (probed : Probed descriptor bitmap)
    (damage : Bytes.DamagedFrom bytes (Layout.front (Transfer.imageOptions config) descriptor bitmap ++ data) first)
    (behind : Layout.dataOffset descriptor.totalBlocks.toNat (Transfer.imageOptions config).encoding ≤ first) :
    bytes = Layout.front (Transfer.imageOptions config) descriptor bitmap ++ bytes.extract
      (Layout.dataOffset descriptor.totalBlocks.toNat (Transfer.imageOptions config).encoding) bytes.size := by
  have size := @size_front_written config _ _ probed
  have long := damage.lt_size
  have same : bytes.extract 0 (Layout.dataOffset descriptor.totalBlocks.toNat (Transfer.imageOptions config).encoding) =
      Layout.front (Transfer.imageOptions config) descriptor bitmap := by
    rw [damage.extract_eq (.inl behind)]
    exact ByteArray.extract_append_eq_left size.symm
  rw [← damage.size] at long
  rw [← same, ← ByteArray.extract_eq_extract_append_extract _ (Nat.zero_le _) (by omega),
    Bytes.extract_eq_self (Nat.le_refl _)]

/-- From the front of a damaged image nothing is taken but what was written, and that only where the data is damaged. -/
theorem opened_of_damaged {opened : Head × Bitmap} (probed : Probed descriptor bitmap)
    (damage : Bytes.DamagedFrom bytes (Layout.front (Transfer.imageOptions config) descriptor bitmap ++ data) first)
    (taken : front grants bytes = .ok opened) :
    Layout.dataOffset descriptor.totalBlocks.toNat (Transfer.imageOptions config).encoding ≤ first ∧
      opened = (.written config descriptor, bitmap) := by
  -- Damage before the data makes the head or the bitmap be refused, and then nothing is taken.
  by_cases inHead : first < Head.storedSize
  · obtain ⟨failure, refused, _⟩ := front_of_damaged_head damage inHead
    rw [refused] at taken
    cases taken
  by_cases inBitmap : first < Layout.dataOffset descriptor.totalBlocks.toNat (Transfer.imageOptions config).encoding
  · have room := room_of_front (head_of_damaged probed damage (by omega)) taken
    obtain ⟨stored, computed, refused⟩ := front_of_damaged_bitmap probed room damage (by omega) inBitmap
    rw [refused] at taken
    cases taken
  have behind := Nat.le_of_not_lt inBitmap
  rw [eq_front_append_of_damaged probed damage behind] at taken
  exact ⟨behind, eq_of_front_written probed taken⟩

/-- Damage that begins in the data leaves a tag that does not fit, and the first such tag tells the group. -/
theorem exists_misfit_of_damaged (probed : Probed descriptor bitmap) (crc32 : config.checksum = .crc32)
    (grouped : 0 < config.blocksPerChecksum.toNat) {blocks : List ByteArray}
    (length : blocks.length = (Head.written config descriptor).total)
    (sizes : ∀ block ∈ blocks, block.size = (Head.written config descriptor).width)
    (damage : Bytes.DamagedFrom bytes (Layout.front (Transfer.imageOptions config) descriptor bitmap ++
      Layout.data (Head.written config descriptor).options blocks) first)
    (behind : Layout.dataOffset descriptor.totalBlocks.toNat (Transfer.imageOptions config).encoding ≤ first) :
    ∃ damaged number, bytes = Layout.front (Transfer.imageOptions config) descriptor bitmap ++ damaged ∧
      damaged.size = (Head.written config descriptor).startOf (Head.written config descriptor).total ∧
      (Head.written config descriptor).Misfit damaged number ∧
      Layout.dataOffset descriptor.totalBlocks.toNat (Transfer.imageOptions config).encoding +
        (Head.written config descriptor).startOf ((Head.written config descriptor).groupStart number) ≤ first ∧
      first < Layout.dataOffset descriptor.totalBlocks.toNat (Transfer.imageOptions config).encoding +
        (Head.written config descriptor).startOf (number + 1) := by
  let offset := Layout.dataOffset descriptor.totalBlocks.toNat (Transfer.imageOptions config).encoding
  let sound := Layout.data (Head.written config descriptor).options blocks
  have size : sound.size = (Head.written config descriptor).startOf (Head.written config descriptor).total :=
    Head.size_data length sizes
  have frontSize : (Layout.front (Transfer.imageOptions config) descriptor bitmap).size = offset :=
    size_front_written probed
  have rest : (Layout.front (Transfer.imageOptions config) descriptor bitmap ++ sound).extract offset
      (Layout.front (Transfer.imageOptions config) descriptor bitmap ++ sound).size = sound := by
    rw [ByteArray.size_append, ← frontSize]
    exact ByteArray.extract_append_eq_right rfl rfl
  -- Seen from behind the front, the damage is one of the data.
  have damage' := damage.behind behind
  rw [rest] at damage'
  have tagged : (Head.written config descriptor).options.tagged = true := by
    simp [Head.written, Transfer.imageOptions, Options.current, Options.tagged, crc32, grouped,
      Checksum.Algorithm.tagSize]
  have fits (number : Nat) (inside : number < (Head.written config descriptor).total)
      (closes : (Head.written config descriptor).Closes number) : (Head.written config descriptor).Fits sound number :=
    Head.fits_data length sizes (length ▸ inside) closes
  obtain ⟨number, misfit, begun, before⟩ := Head.exists_misfit crc32 tagged size fits damage'
  refine ⟨bytes.extract offset bytes.size, number, eq_front_append_of_damaged probed damage behind, ?_, misfit,
    by omega, by omega⟩
  rw [damage'.size, size]

end Image

end BlockImage
