import BlockImage.Proofs.Device
import BlockImage.Proofs.Image.Opening

/-!
# Stored bitmaps

What is stored of a bitmap, in either encoding, tells for each block whether it is allocated, and nothing else is read
from it: padding does not matter, nor which byte stands for an allocated block. A bitmap that was written is read back,
one with another checksum is found with its corruption, and one that is cut short is missed where it ends.
-/
namespace BlockImage

/-- Bitmaps that come about by creating, taking in and changing them. What is taken in lies in memory already. -/
inductive Bitmap.Reachable (grants : Nat → Bool) : Bitmap → Prop
  | create {total : Nat} {bitmap : Bitmap} (made : create total grants = .ok bitmap) : Reachable grants bitmap
  | ofBytes {total : Nat} {bytes : ByteArray} {bitmap : Bitmap} (held : grants bytes.size)
    (made : ofBytes total bytes = .ok bitmap) : Reachable grants bitmap
  | set {bitmap after : Bitmap} {index : Nat} (reached : Reachable grants bitmap)
    (made : bitmap.set index = .ok after) : Reachable grants after
  | clear {bitmap after : Bitmap} {index : Nat} (reached : Reachable grants bitmap)
    (made : bitmap.clear index = .ok after) : Reachable grants after
  | setAll {bitmap : Bitmap} (reached : Reachable grants bitmap) : Reachable grants bitmap.setAll

variable {grants : Nat → Bool}

namespace Bitmap

theorem total_of_set {bitmap after : Bitmap} {index : Nat} (made : bitmap.set index = .ok after) :
    after.total = bitmap.total := by
  rw [set] at made
  split at made
  · cases made
    rfl
  · cases made

theorem total_of_clear {bitmap after : Bitmap} {index : Nat} (made : bitmap.clear index = .ok after) :
    after.total = bitmap.total := by
  rw [clear] at made
  split at made
  · cases made
    rfl
  · cases made

/-- There is room for as many bytes as a bitmap holds. -/
theorem Reachable.room {bitmap : Bitmap} (reachable : bitmap.Reachable grants) : grants (bitmapSize bitmap.total) := by
  induction reachable with
  | @create total bitmap made =>
    rw [Bitmap.create, Except.bind_eq_ok] at made
    obtain ⟨_, granted, built⟩ := made
    cases built
    exact granted_of_checkAllocation granted
  | @ofBytes total bytes bitmap held made =>
    rw [Bitmap.ofBytes] at made
    split at made
    next size =>
      cases made
      exact size ▸ held
    next => cases made
  | set reached made ih =>
    rw [total_of_set made]
    exact ih
  | clear reached made ih =>
    rw [total_of_clear made]
    exact ih
  | setAll reached ih => exact ih

end Bitmap

namespace BitmapEncoding

/-- Whether stored bytes mark a block as allocated: by a bit of its own, or by a byte that is not zero. -/
def marks : BitmapEncoding → ByteArray → Nat → Bool
  | .bit, raw, block => (Bytes.byteAt raw (block / 8)).toNat.testBit (block % 8)
  | .byte, raw, block => Bytes.byteAt raw block != 0

variable {encoding : BitmapEncoding} {total : Nat} {raw : ByteArray}

/-- There is memory for the stored bytes of a bitmap, and for the bitmap that is made of them. -/
structure Fits (encoding : BitmapEncoding) (grants : Nat → Bool) (total : Nat) : Prop where
  stored : grants (encoding.storedSize total)
  packed : grants (bitmapSize total)

/-- What is decoded are the marks of the blocks that there are. -/
theorem decode_eq (fits : encoding.Fits grants total) (size : raw.size = encoding.storedSize total) :
    encoding.decode grants total raw = .ok (Bitmap.ofPred total (encoding.marks raw)) := by
  cases encoding with
  | bit =>
    have size : raw.size = bitmapSize total := size
    exact Bitmap.ofBytes_of_size size
  | byte =>
    rw [decode, checkAllocation_of_granted fits.packed]
    rfl

theorem fits_of_decode {bitmap : Bitmap} (stored : grants (encoding.storedSize total))
    (decoded : encoding.decode grants total raw = .ok bitmap) : encoding.Fits grants total where
  stored := stored
  packed := by
    cases encoding with
    | bit => exact stored
    | byte =>
      rw [decode, Except.bind_eq_ok] at decoded
      obtain ⟨_, granted, _⟩ := decoded
      exact granted_of_checkAllocation granted

end BitmapEncoding

/-- Bitmaps over the same blocks are equal if the same of these are marked. -/
theorem Bitmap.ofPred_congr {total : Nat} {first second : Nat → Bool}
    (same : ∀ block < total, first block = second block) :
    ofPred total first = ofPred total second := by
  apply ext_get
  · rfl
  · intro block
    rw [get_ofPred, get_ofPred]
    by_cases inside : block < total
    · rw [same block inside]
    · simp [inside]

/-- What is found of stored bytes with a checksum behind them. -/
def FoundBitmap.of (encoding : BitmapEncoding) (total : Nat) (raw : ByteArray) (crc : UInt32) : FoundBitmap where
  bitmap := .ofPred total (encoding.marks raw)
  corruption :=
    if crc = Checksum.ofBytes raw then none else some (.corrupt .bitmap crc (Checksum.ofBytes raw))

theorem FoundBitmap.corruption_of {encoding : BitmapEncoding} {total : Nat} {raw : ByteArray} {crc : UInt32}
    (differs : crc ≠ Checksum.ofBytes raw) : (FoundBitmap.of encoding total raw crc).corruption =
      some (.corrupt .bitmap crc (Checksum.ofBytes raw)) := if_neg differs

theorem FoundBitmap.ofStored_storedCrc {encoding : BitmapEncoding} {total : Nat} {raw : ByteArray}
    (fits : encoding.Fits grants total) (size : raw.size = encoding.storedSize total) (crc : UInt32) :
    ofStored grants encoding total raw (Head.storedCrc crc) = .ok (.of encoding total raw crc) := by
  rw [ofStored, Head.decode_storedCrc, BitmapEncoding.decode_eq fits size]
  rfl

namespace Image

variable {encoding : BitmapEncoding} {total : Nat} {raw : ByteArray}

theorem foundBehind_stored (fits : encoding.Fits grants total)
    (size : raw.size = encoding.storedSize total) (crc : UInt32) {passed : Nat} {front : ByteArray}
    (before : front.size = passed) (rest : ByteArray) :
    foundBehind grants passed total encoding (front ++ raw ++ Head.storedCrc crc ++ rest) =
      .ok (.of encoding total raw crc) := by
  let bytes := front ++ raw ++ Head.storedCrc crc ++ rest
  have split : bytes = front ++ raw ++ (Head.storedCrc crc ++ rest) := ByteArray.append_assoc
  have ends : (front ++ raw).size = passed + encoding.storedSize total := by
    rw [ByteArray.size_append, before, size]
  have body := piece_middle split before size (.read Layout.bitmapOffset .endOfDevice)
  have sealed : piece bytes (passed + encoding.storedSize total) 4
      (.read (Layout.bitmapOffset + encoding.storedSize total) .endOfDevice) = .ok (Head.storedCrc crc) :=
    piece_middle rfl ends (Head.size_storedCrc crc) _
  rw [foundBehind, checkAllocation_of_granted fits.stored, body, sealed]
  exact FoundBitmap.ofStored_storedCrc fits size crc

/-- The offset of the part in which a stored bitmap ends if only so many bytes are there: that of the bitmap, or that of
the checksum behind it. -/
def cutOffset (encoding : BitmapEncoding) (total amount : Nat) : Nat :=
  if amount < encoding.storedSize total then 98 else 98 + encoding.storedSize total

theorem foundBehind_short (room : grants (encoding.storedSize total)) {bytes : ByteArray}
    (short : bytes.size < encoding.storedSize total + 4) :
    foundBehind grants 0 total encoding bytes = .error (.read (cutOffset encoding total bytes.size) .endOfDevice) := by
  rw [foundBehind, checkAllocation_of_granted room, cutOffset]
  split
  next cut =>
    rw [piece_error (by omega)]
    rfl
  next whole =>
    rw [piece_ok (by omega), piece_error (by omega)]
    rfl

end Image

namespace Device

variable {encoding : BitmapEncoding} {total : Nat} {device : Device}

/-- What a device says of a bitmap at its position is what its bytes from there on say of it. -/
theorem findBitmap_leads (steady : device.faults.Steady) (total : Nat) (encoding : BitmapEncoding)
    (grants : Nat → Bool) :
    Leads (source.toStream.findBitmap total encoding grants device)
      (fun found after => Image.foundBehind grants 0 total encoding device.view.left = .ok found ∧
        after.view = device.view.skip (encoding.storedSize total + 4))
      fun failure _ => Image.foundBehind grants 0 total encoding device.view.left = .error failure := by
  let excused : Error → Prop := fun _ => False
  have unread (offset : Nat) (cause : IoError) (never : False) : excused (.read offset cause) := never
  have stands : device.view = device.view.skip 0 := rfl
  have leads := source_reads_steady.findBitmapBehind unread total encoding grants steady stands (Nat.zero_le _)
  refine leads.mono ?_ ?_
  · intro found after ⟨_, judged, _, moved⟩
    rw [Nat.zero_add] at moved
    exact ⟨judged, moved⟩
  · intro failure after ⟨_, _, told⟩
    rcases told with never | judged
    · exact never.elim
    · exact judged

/-- A bitmap that is found is read if its checksum holds, and found with its corruption otherwise. -/
theorem readBitmap_of_found (steady : device.faults.Steady) {found : FoundBitmap}
    (judged : Image.foundBehind grants 0 total encoding device.view.left = .ok found) :
    ∃ after, after.view = device.view.skip (encoding.storedSize total + 4) ∧
      source.toStream.findBitmap total encoding grants device = .ok found after ∧
      source.toStream.readBitmap total encoding grants device =
        match found.corruption with
        | none => .ok found.bitmap after
        | some failure => .error failure after := by
  have leads := findBitmap_leads steady total encoding grants
  rw [judged] at leads
  cases result : source.toStream.findBitmap total encoding grants device with
  | error failure after => cases leads.of_error result
  | ok other after =>
    obtain ⟨same, moved⟩ := leads.of_ok result
    cases same
    refine ⟨after, moved, rfl, ?_⟩
    rw [Stream.readBitmap, bind_of_ok result, FoundBitmap.intact]
    cases found.corruption <;> rfl

theorem readBitmap_of_error (steady : device.faults.Steady) {failure : Error}
    (judged : Image.foundBehind grants 0 total encoding device.view.left = .error failure) :
    failureOf (source.toStream.findBitmap total encoding grants device) = some failure ∧
      failureOf (source.toStream.readBitmap total encoding grants device) = some failure := by
  have leads := findBitmap_leads steady total encoding grants
  rw [judged] at leads
  cases result : source.toStream.findBitmap total encoding grants device with
  | ok other after => cases (leads.of_ok result).1
  | error other after =>
    have same := leads.of_error result
    cases same
    rw [Stream.readBitmap, bind_of_error result]
    exact ⟨rfl, rfl⟩

theorem writeBitmap_leads (steady : device.faults.Steady) (bitmap : Bitmap) :
    ∃ after, target.toSink.writeBitmap bitmap device = .ok () after ∧
      after.view = device.view.put (bitmap.bytes ++ Head.storedCrc (Checksum.ofBytes bitmap.bytes)) := by
  have leads := target_writes_steady.writeBitmap bitmap device steady
  cases result : target.toSink.writeBitmap bitmap device with
  | ok _ after => exact ⟨after, rfl, (leads.of_ok result).2⟩
  | error failure after =>
    -- No call fails, so neither part of the bitmap can be what was put partly.
    rcases (leads.of_error result).2 with body | crc
    · obtain ⟨cause, _, never⟩ := body.told
      exact never.elim
    · obtain ⟨cause, _, never⟩ := crc.told
      exact never.elim

/-- A device that does not fail stands in front of a stored bitmap: the bytes that record it in some encoding, for which
there is memory, a checksum, and whatever follows. -/
structure Stores (device : Device) (grants : Nat → Bool) (encoding : BitmapEncoding) (total : Nat) (raw : ByteArray)
    (crc : UInt32) (rest : ByteArray) : Prop where
  steady : device.faults.Steady
  fits : encoding.Fits grants total
  size : raw.size = encoding.storedSize total
  left : device.view.left = raw ++ Head.storedCrc crc ++ rest

theorem Stores.found {raw : ByteArray} {crc : UInt32} {rest : ByteArray}
    (stores : device.Stores grants encoding total raw crc rest) :
    Image.foundBehind grants 0 total encoding device.view.left = .ok (.of encoding total raw crc) := by
  have found := Image.foundBehind_stored stores.fits stores.size crc ByteArray.size_empty rest
  rwa [ByteArray.empty_append, ← stores.left] at found

/-- With the checksum of its bytes a stored bitmap is read. -/
theorem Stores.readBitmap {raw rest : ByteArray}
    (stores : device.Stores grants encoding total raw (Checksum.ofBytes raw) rest) :
    ∃ after, after.view = device.view.skip (raw.size + 4) ∧
      source.toStream.readBitmap total encoding grants device = .ok (.ofPred total (encoding.marks raw)) after := by
  obtain ⟨after, moved, _, read⟩ := readBitmap_of_found stores.steady stores.found
  rw [FoundBitmap.of, if_pos rfl] at read
  rw [← stores.size] at moved
  exact ⟨after, moved, read⟩

end Device

/-- A bitmap records what it marks, bit by bit. -/
theorem Bitmap.ofPred_marks (bitmap : Bitmap) :
    ofPred bitmap.total (BitmapEncoding.bit.marks bitmap.bytes) = bitmap := by
  have read := bitmap.ofBytes_bytes
  rw [ofBytes_of_size bitmap.size_bytes] at read
  exact Except.ok.inj read

open Device in
/-- A stored bitmap decodes to the allocation it records. One that was written is read back, whatever follows it. Any
bytes of the right number are read with their checksum, and mark the blocks as their encoding says; with another
checksum they are only found, with the corruption. The same allocation gives the same bitmap in either encoding, and
where bytes are missing, both ways to read fail at the offset of the part that is cut. -/
theorem stored_bitmaps_decode :
    (∀ (grants : Nat → Bool) (bitmap : Bitmap), bitmap.Reachable grants →
      ∃ written : ByteArray, written.size = bitmap.bytes.size + 4 ∧
      (∀ device : Device, device.faults.Steady → ∃ after,
        target.toSink.writeBitmap bitmap device = .ok () after ∧ after.view = device.view.put written) ∧
      ∀ (rest : ByteArray) (device : Device), device.faults.Steady → device.view.left = written ++ rest → ∃ after,
        source.toStream.readBitmap bitmap.total .bit grants device = .ok bitmap after ∧
          after.view = device.view.skip written.size) ∧
    (∀ (grants : Nat → Bool) (encoding : BitmapEncoding) (total : Nat) (raw : ByteArray) (crc : UInt32)
      (rest : ByteArray) (device : Device),
      device.Stores grants encoding total raw crc rest → ∃ bitmap : Bitmap, bitmap.total = total ∧
        (∀ block < total, bitmap.read block = .ok (encoding.marks raw block)) ∧
        (crc = Checksum.ofBytes raw → ∃ after,
          source.toStream.readBitmap total encoding grants device = .ok bitmap after) ∧
        (crc ≠ Checksum.ofBytes raw → ∃ after,
          source.toStream.readBitmap total encoding grants device =
            .error (.corrupt .bitmap crc (Checksum.ofBytes raw)) after ∧
          source.toStream.findBitmap total encoding grants device =
            .ok { bitmap, corruption := some (.corrupt .bitmap crc (Checksum.ofBytes raw)) } after)) ∧
    (∀ (grants : Nat → Bool) (total : Nat) (encoding other : BitmapEncoding) (raw others rest more : ByteArray)
      (device second : Device),
      device.Stores grants encoding total raw (Checksum.ofBytes raw) rest →
      second.Stores grants other total others (Checksum.ofBytes others) more →
      (∀ block < total, encoding.marks raw block = other.marks others block) →
      ∃ bitmap after later, source.toStream.readBitmap total encoding grants device = .ok bitmap after ∧
        source.toStream.readBitmap total other grants second = .ok bitmap later) ∧
    ∀ (grants : Nat → Bool) (encoding : BitmapEncoding) (total : Nat) (device : Device), device.faults.Steady →
      grants (encoding.storedSize total) → device.view.left.size < encoding.storedSize total + 4 →
      failureOf (source.toStream.findBitmap total encoding grants device) =
          some (.read (Image.cutOffset encoding total device.view.left.size) .endOfDevice) ∧
        failureOf (source.toStream.readBitmap total encoding grants device) =
          some (.read (Image.cutOffset encoding total device.view.left.size) .endOfDevice) := by
  refine ⟨?_, ?_, ?_, ?_⟩
  · intro grants bitmap reachable
    refine ⟨bitmap.bytes ++ Head.storedCrc (Checksum.ofBytes bitmap.bytes), ?_, ?_, ?_⟩
    · rw [ByteArray.size_append, Head.size_storedCrc]
    · intro device steady
      exact writeBitmap_leads steady bitmap
    · intro rest device steady left
      have stores : device.Stores grants .bit bitmap.total bitmap.bytes (Checksum.ofBytes bitmap.bytes) rest :=
        { steady, fits := ⟨reachable.room, reachable.room⟩, size := bitmap.size_bytes, left }
      obtain ⟨after, moved, read⟩ := stores.readBitmap
      rw [bitmap.ofPred_marks] at read
      rw [ByteArray.size_append, Head.size_storedCrc]
      exact ⟨after, read, moved⟩
  · intro grants encoding total raw crc rest device stores
    obtain ⟨after, _, found, read⟩ := readBitmap_of_found stores.steady stores.found
    rw [FoundBitmap.of] at found read
    refine ⟨.ofPred total (encoding.marks raw), rfl, ?_, ?_, ?_⟩
    · intro block inside
      have marked : (Bitmap.ofPred total (encoding.marks raw)).get block = encoding.marks raw block := by
        rw [Bitmap.get_ofPred, decide_eq_true inside, Bool.true_and]
      rw [← marked]
      exact if_pos inside
    · intro same
      rw [if_pos same] at read
      exact ⟨after, read⟩
    · intro differs
      rw [if_neg differs] at found read
      exact ⟨after, read, found⟩
  · intro grants total encoding other raw others rest more device second stores stored same
    obtain ⟨after, _, read⟩ := stores.readBitmap
    obtain ⟨later, _, reread⟩ := stored.readBitmap
    rw [← Bitmap.ofPred_congr same] at reread
    exact ⟨_, after, later, read, reread⟩
  · intro grants encoding total device steady room short
    exact readBitmap_of_error steady (Image.foundBehind_short room short)

/-- A device that gives two bytes at a time, in front of a stored bitmap. -/
def Device.storing (raw : ByteArray) (crc : UInt32) (rest : ByteArray) : Device where
  bytes := raw ++ Head.storedCrc crc ++ rest
  faults := .short 2

theorem Device.storing_stores {encoding : BitmapEncoding} {total : Nat} {raw : ByteArray}
    (fits : encoding.Fits grants total) (size : raw.size = encoding.storedSize total) (crc : UInt32)
    (rest : ByteArray) : (storing raw crc rest).Stores grants encoding total raw crc rest where
  steady := Faults.short_steady (by decide)
  fits := fits
  size := size
  left := Bytes.extract_eq_self (Nat.le_refl _)

theorem Bitmap.sample_reachable (granted : grants 1) : Bitmap.sample.Reachable grants := by
  have held : grants (⟨#[0xFD]⟩ : ByteArray).size := granted
  have made : ofBytes 3 ⟨#[0xFD]⟩ = .ok sample := by
    rw [ofBytes_of_size (by decide)]
    exact congrArg Except.ok (ofPred_congr (by decide))
  exact .ofBytes held made

/-- Of a machine with little memory: no more than three bytes at a time are granted. -/
def upToThree (size : Nat) : Bool := size ≤ 3

open Device in
theorem stored_bitmaps_decode_sample :
    (∃ written : ByteArray, ∃ after last,
      target.toSink.writeBitmap .sample { bytes := .empty, faults := .short 1 } = .ok () after ∧
        source.toStream.readBitmap 3 .bit upToThree { bytes := written ++ ⟨#[9]⟩, faults := .short 2 } =
          .ok .sample last) ∧
    (∃ bitmap after,
      source.toStream.findBitmap 3 .byte upToThree (storing ⟨#[7, 0, 1]⟩ (Checksum.ofBytes ⟨#[7, 0, 1]⟩ + 1) .empty) =
        .ok {
          bitmap
          corruption := some
            (.corrupt .bitmap (Checksum.ofBytes ⟨#[7, 0, 1]⟩ + 1) (Checksum.ofBytes ⟨#[7, 0, 1]⟩)) } after) ∧
    (∃ bitmap after later,
      source.toStream.readBitmap 3 .bit upToThree (storing ⟨#[0xFD]⟩ (Checksum.ofBytes ⟨#[0xFD]⟩) .empty) =
          .ok bitmap after ∧
        source.toStream.readBitmap 3 .byte upToThree (storing ⟨#[7, 0, 1]⟩ (Checksum.ofBytes ⟨#[7, 0, 1]⟩) ⟨#[9]⟩) =
          .ok bitmap later) ∧
    failureOf (source.toStream.readBitmap 3 .byte upToThree { bytes := ⟨#[7, 0, 1, 5]⟩, faults := .short 2 }) =
      some (.read 101 .endOfDevice) := by
  obtain ⟨writes, decodes, agrees, fails⟩ := stored_bitmaps_decode
  have bitFits : BitmapEncoding.bit.Fits upToThree 3 := ⟨by decide, by decide⟩
  have byteFits : BitmapEncoding.byte.Fits upToThree 3 := ⟨by decide, by decide⟩
  have byteSize : (⟨#[7, 0, 1]⟩ : ByteArray).size = BitmapEncoding.byte.storedSize 3 := by decide
  have bitSize : (⟨#[0xFD]⟩ : ByteArray).size = BitmapEncoding.bit.storedSize 3 := by decide
  refine ⟨?_, ?_, ?_, ?_⟩
  · obtain ⟨written, _, put, taken⟩ := writes upToThree .sample (Bitmap.sample_reachable (by decide))
    obtain ⟨after, wrote, _⟩ := put { bytes := .empty, faults := .short 1 } (Faults.short_steady (by decide))
    obtain ⟨last, read, _⟩ := taken ⟨#[9]⟩ { bytes := written ++ ⟨#[9]⟩, faults := .short 2 }
      (Faults.short_steady (by decide)) (Bytes.extract_eq_self (Nat.le_refl _))
    exact ⟨written, after, last, wrote, read⟩
  · obtain ⟨bitmap, _, _, _, corrupt⟩ := decodes _ _ _ _ _ _ _
      (storing_stores byteFits byteSize (Checksum.ofBytes ⟨#[7, 0, 1]⟩ + 1) .empty)
    obtain ⟨after, _, found⟩ := corrupt (by simp)
    exact ⟨bitmap, after, found⟩
  · exact agrees _ 3 .bit .byte _ _ _ _ _ _ (storing_stores bitFits bitSize _ _)
      (storing_stores byteFits byteSize _ _) (by decide)
  · let device : Device := { bytes := ⟨#[7, 0, 1, 5]⟩, faults := .short 2 }
    have size : device.view.left.size = 4 := View.size_left _
    have told :=
      (fails upToThree .byte 3 device (Faults.short_steady (by decide)) byteFits.stored (by rw [size]; decide)).2
    rw [size] at told
    exact told

end BlockImage
