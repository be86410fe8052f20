import BlockImage.Proofs.Image.Head
import BlockImage.Proofs.Session
import BlockImage.Session.Probe

/-!
# The front of an image

`Image.front` is what the bytes of an image say of its head and bitmap, as a function of the bytes alone. Reading the
front of a stream, in whatever pieces the stream gives it, comes to that.
-/
namespace BlockImage

namespace View

def left (view : View) : ByteArray := view.bytes.extract view.position view.bytes.size

@[simp] theorem size_left (view : View) : view.left.size = view.bytes.size - view.position := by
  rw [left, ByteArray.size_extract, Nat.min_self]

theorem take_skip (view : View) (start count : Nat) :
    (view.skip start).take count = view.left.extract start (start + count) := by
  refine Bytes.ext_byteAt ?_ fun index => ?_
  · rw [size_take, ByteArray.size_extract, size_left]
    simp only [bytes_skip, position_skip]
    omega
  · rw [take, left, Bytes.byteAt_extract, Bytes.byteAt_extract, Bytes.byteAt_extract]
    simp only [bytes_skip, position_skip]
    -- Past the end of the bytes both sides read zero.
    by_cases inside : view.position + start + index < view.bytes.size
    · grind
    · have outside : Bytes.byteAt view.bytes (view.position + start + index) = 0 :=
        Bytes.byteAt_of_size_le (by omega)
      have place : view.position + (start + index) = view.position + start + index := by omega
      simp [place, outside]

/-- Behind a front that was skipped, the rest is left. -/
theorem left_skip {view : View} {front rest : ByteArray} (split : view.left = front ++ rest) :
    (view.skip front.size).left = rest := by
  have size := congrArg ByteArray.size split
  rw [size_left, ByteArray.size_append] at size
  have behind : view.left.extract front.size (front.size + rest.size) = rest := by
    rw [split]
    exact ByteArray.extract_append_eq_right rfl rfl
  rw [left, ByteArray.extract_extract, Nat.min_eq_right (by omega)] at behind
  exact behind

end View

namespace Image

/-- A piece of the bytes, or the failure that stands for their end. -/
def piece (bytes : ByteArray) (start count : Nat) (failure : Error) : Except Error ByteArray :=
  if start + count ≤ bytes.size then .ok (bytes.extract start (start + count)) else .error failure

theorem piece_ok {bytes : ByteArray} {start count : Nat} (within : start + count ≤ bytes.size) (failure : Error) :
    piece bytes start count failure = .ok (bytes.extract start (start + count)) := if_pos within

theorem piece_error {bytes : ByteArray} {start count : Nat} (beyond : bytes.size < start + count) (failure : Error) :
    piece bytes start count failure = .error failure := if_neg (Nat.not_le.mpr beyond)

def head (bytes : ByteArray) : Except Error Head :=
  piece bytes 0 Head.storedSize (.format .headMissing) >>= Head.decode

/-- The bitmap behind the head, judged by its checksum. -/
def found (grants : Nat → Bool) (total : Nat) (encoding : BitmapEncoding) (bytes : ByteArray) :
    Except Error FoundBitmap := do
  let size := encoding.storedSize total
  checkAllocation grants size
  let body ← piece bytes Layout.bitmapOffset size (.read Layout.bitmapOffset .endOfDevice)
  let crc ← piece bytes (Layout.bitmapOffset + size) 4 (.read (Layout.bitmapOffset + size) .endOfDevice)
  FoundBitmap.ofStored grants encoding total body crc

/-- The bitmap behind bytes that were passed, with the errors that its place in an image gives it. -/
def foundBehind (grants : Nat → Bool) (passed total : Nat) (encoding : BitmapEncoding) (bytes : ByteArray) :
    Except Error FoundBitmap := do
  let size := encoding.storedSize total
  checkAllocation grants size
  let body ← piece bytes passed size (.read Layout.bitmapOffset .endOfDevice)
  let crc ← piece bytes (passed + size) 4 (.read (Layout.bitmapOffset + size) .endOfDevice)
  FoundBitmap.ofStored grants encoding total body crc

/-- Head and bitmap as a session takes them from an image. -/
def front (grants : Nat → Bool) (bytes : ByteArray) : Except Error (Head × Bitmap) := do
  let head ← head bytes
  let found ← found grants head.descriptor.totalBlocks.toNat head.options.encoding bytes
  let bitmap ← found.intact
  return ({ head with descriptor := head.descriptor.verifiedBy bitmap }, bitmap)

end Image

variable {ω β : Type} {kept : ω → Prop} {view : ω → View} {rest : ω → β} {fails : IoError → Prop}
  {excused : Error → Prop}

/-! ### Writing a front -/

/-- A write of bytes to an offset of an image failed when the first of them were put. -/
structure PartlyPut (fails : IoError → Prop) (before : View) (offset : Nat) (bytes : ByteArray) (failure : Error)
    (seen : View) : Prop where
  told : ∃ cause, failure = .write offset cause ∧ fails cause
  put : ∃ amount ≤ bytes.size, seen = before.put (bytes.extract 0 amount)

section Writing

variable {sink : Sink ω}

theorem Sink.Writes.writeHead (writes : sink.Writes kept view rest fails) (descriptor : Descriptor) (options : Options)
    (world : ω) (held : kept world) :
    Leads (sink.writeHead descriptor options world)
      (fun _ after => kept after ∧ view after = (view world).put (Head.encode descriptor options))
      fun failure after => kept after ∧
        PartlyPut fails (view world) 0 (Head.encode descriptor options) failure (view after) := by
  rw [Sink.writeHead, leads_adaptExcept]
  refine (writes.writeAll _ world held).mono ?_ ?_
  · rintro _ after ⟨frame, placed⟩
    exact ⟨frame.kept, placed⟩
  · rintro cause after ⟨frame, fault, put⟩
    exact ⟨frame.kept, ⟨cause, rfl, fault⟩, put⟩

theorem Sink.Writes.writeBitmap (writes : sink.Writes kept view rest fails) (bitmap : Bitmap) (world : ω)
    (held : kept world) :
    Leads (sink.writeBitmap bitmap world)
      (fun _ after => kept after ∧
        view after = (view world).put (bitmap.bytes ++ Head.storedCrc (Checksum.ofBytes bitmap.bytes)))
      fun failure after => kept after ∧
        (PartlyPut fails (view world) Layout.bitmapOffset bitmap.bytes failure (view after) ∨
          PartlyPut fails ((view world).put bitmap.bytes) (Layout.bitmapOffset + bitmap.bytes.size)
            (Head.storedCrc (Checksum.ofBytes bitmap.bytes)) failure (view after)) := by
  rw [Sink.writeBitmap, leads_bind, leads_adaptExcept]
  refine (writes.writeAll _ world held).mono ?_ ?_
  · rintro _ between ⟨frame, body⟩
    rw [leads_adaptExcept]
    refine (writes.writeAll _ between frame.kept).mono ?_ ?_
    · rintro _ after ⟨later, crc⟩
      exact ⟨later.kept, by rw [crc, body, View.put_put]⟩
    · rintro cause after ⟨later, fault, put⟩
      rw [body] at put
      exact ⟨later.kept, .inr ⟨⟨cause, rfl, fault⟩, put⟩⟩
  · rintro cause after ⟨frame, fault, put⟩
    exact ⟨frame.kept, .inl ⟨⟨cause, rfl, fault⟩, put⟩⟩

end Writing

/-! ### Reading a front -/

section Reading

variable {stream : Stream ω} {start : View}

private theorem Stream.Reads.readPiece (reads : stream.Reads kept view rest fails) {passed : Nat} (wanted : Nat)
    {world : ω} (stands : view world = start.skip passed) (before : passed ≤ start.left.size) (held : kept world) :
    Leads (stream.readExactly wanted world)
      (fun bytes after => Frame kept rest world after ∧ bytes = start.left.extract passed (passed + wanted) ∧
        passed + wanted ≤ start.left.size ∧ view after = start.skip (passed + wanted))
      fun cause after => Frame kept rest world after ∧ (view after).bytes = start.bytes ∧
        (fails cause ∨ cause = .endOfDevice ∧ start.left.size < passed + wanted) := by
  rcases Nat.eq_zero_or_pos wanted with rfl | some
  · -- Nothing is wanted, so nothing is read, even where the position lies past the end.
    have nothing : start.left.extract passed (passed + 0) = ByteArray.empty :=
      ByteArray.extract_eq_empty_iff.mpr (Nat.min_le_left ..)
    rw [Stream.readExactly, Stream.readMore, if_pos rfl, leads_pure, nothing]
    exact ⟨.refl held, rfl, before, stands⟩
  rw [View.size_left] at before
  refine (reads.readExactly wanted world held).mono ?_ ?_
  · rintro bytes after ⟨frame, given, size, moved⟩
    rw [stands] at given moved
    rw [View.skip_skip] at moved
    refine ⟨frame, by rw [given, View.take_skip], ?_, moved⟩
    rw [given, View.size_take, View.bytes_skip, View.position_skip] at size
    rw [View.size_left]
    omega
  · rintro cause after ⟨frame, same, fault | ⟨ended, short⟩⟩
    · rw [stands] at same
      exact ⟨frame, same, .inl fault⟩
    · rw [stands] at same short
      simp only [View.bytes_skip, View.position_skip] at short
      rw [View.size_left]
      exact ⟨frame, same, .inr ⟨ended, by omega⟩⟩

theorem Stream.Reads.readHead (reads : stream.Reads kept view rest fails)
    (unread : ∀ offset cause, fails cause → excused (.read offset cause))
    (missing : fails .endOfDevice → excused (.format .headMissing)) (world : ω) (held : kept world) :
    Leads (stream.readHead world)
      (fun head after => Frame kept rest world after ∧ Image.head (view world).left = .ok head ∧
        Head.storedSize ≤ (view world).left.size ∧ view after = (view world).skip Head.storedSize)
      fun failure after => Frame kept rest world after ∧ (view after).bytes = (view world).bytes ∧
        (excused failure ∨ Image.head (view world).left = .error failure) := by
  have stands : view world = (view world).skip 0 := rfl
  rw [Stream.readHead, leads_bind, leads_adaptExcept, Image.head]
  refine (reads.readPiece Head.storedSize stands (Nat.zero_le _) held).mono ?_ ?_
  · rintro bytes after ⟨frame, given, within, moved⟩
    rw [Image.piece_ok within, leads_ofExcept, ← given]
    rw [Nat.zero_add] at within moved
    -- All the bytes are there, so the answer is that of decoding them.
    cases decoded : Head.decode bytes with
    | ok head => exact ⟨frame, decoded, within, moved⟩
    | error failure => exact ⟨frame, by rw [moved]; rfl, .inr decoded⟩
  · rintro cause after ⟨frame, same, fault | ⟨rfl, short⟩⟩
    · refine ⟨frame, same, .inl ?_⟩
      -- An end of the device stands for an image without a head.
      split
      · exact missing fault
      · exact unread 0 _ fault
    · rw [Image.piece_error short]
      exact ⟨frame, same, .inr rfl⟩

/-- Reading a bitmap gives what the bytes behind those passed say of it. -/
theorem Stream.Reads.findBitmapBehind (reads : stream.Reads kept view rest fails)
    (unread : ∀ offset cause, fails cause → excused (.read offset cause)) (total : Nat) (encoding : BitmapEncoding)
    (grants : Nat → Bool) {passed : Nat} {world : ω} (held : kept world) (stands : view world = start.skip passed)
    (before : passed ≤ start.left.size) :
    Leads (stream.findBitmap total encoding grants world)
      (fun found after => Frame kept rest world after ∧
        Image.foundBehind grants passed total encoding start.left = .ok found ∧
        passed + encoding.storedSize total + 4 ≤ start.left.size ∧
        view after = start.skip (passed + encoding.storedSize total + 4))
      fun failure after => Frame kept rest world after ∧ (view after).bytes = start.bytes ∧
        (excused failure ∨ Image.foundBehind grants passed total encoding start.left = .error failure) := by
  rw [Stream.findBitmap, leads_bind, leads_ofExcept, Image.foundBehind]
  cases checkAllocation grants (encoding.storedSize total) with
  | error failure => exact ⟨.refl held, by rw [stands]; rfl, .inr rfl⟩
  | ok granted =>
    -- First the bitmap, then the checksum behind it; an end within either of them is a failure at its offset.
    rw [leads_bind, leads_adaptExcept]
    refine (reads.readPiece (encoding.storedSize total) stands before held).mono ?_ ?_
    · rintro body between ⟨frame, given, within, moved⟩
      rw [leads_bind, leads_adaptExcept, Image.piece_ok within, ← given]
      refine (reads.readPiece 4 moved within frame.kept).mono ?_ ?_
      · rintro crc after ⟨later, given, whole, moved⟩
        rw [leads_ofExcept, Image.piece_ok whole, ← given]
        cases judged : FoundBitmap.ofStored grants encoding total body crc with
        | ok found => exact ⟨frame.trans later, judged, whole, moved⟩
        | error failure => exact ⟨frame.trans later, by rw [moved]; rfl, .inr judged⟩
      · rintro cause after ⟨later, same, fault | ⟨rfl, short⟩⟩
        · exact ⟨frame.trans later, same, .inl (unread _ _ fault)⟩
        · rw [Image.piece_error short]
          exact ⟨frame.trans later, same, .inr rfl⟩
    · rintro cause after ⟨frame, same, fault | ⟨rfl, short⟩⟩
      · exact ⟨frame, same, .inl (unread _ _ fault)⟩
      · rw [Image.piece_error short]
        exact ⟨frame, same, .inr rfl⟩

/-- Reading the bitmap behind the head gives what the bytes say of it. -/
theorem Stream.Reads.findBitmap (reads : stream.Reads kept view rest fails)
    (unread : ∀ offset cause, fails cause → excused (.read offset cause)) (total : Nat) (encoding : BitmapEncoding)
    (grants : Nat → Bool) {world : ω} (held : kept world) (stands : view world = start.skip Head.storedSize)
    (before : Head.storedSize ≤ start.left.size) :
    Leads (stream.findBitmap total encoding grants world)
      (fun found after => Frame kept rest world after ∧ Image.found grants total encoding start.left = .ok found ∧
        Layout.dataOffset total encoding ≤ start.left.size ∧
        view after = start.skip (Layout.dataOffset total encoding))
      fun failure after => Frame kept rest world after ∧ (view after).bytes = start.bytes ∧
        (excused failure ∨ Image.found grants total encoding start.left = .error failure) :=
  reads.findBitmapBehind unread total encoding grants held stands before

end Reading

end BlockImage
