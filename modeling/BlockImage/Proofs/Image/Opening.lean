import BlockImage.Proofs.Bytes.Place
import BlockImage.Proofs.Image.Probed
import BlockImage.Proofs.Transfer.Imaging

/-!
# Opening an image

A session takes from the front of a stream what `Image.front` says of its bytes. What it took once it takes again where
more bytes follow, and of an image that was written it takes back the head and the bitmap.
-/
namespace BlockImage

/-- The head of the images that a session writes. -/
def Head.written (config : Config) (descriptor : Descriptor) : Head where
  header := .current
  descriptor
  options := Transfer.imageOptions config

namespace Transfer

theorem checksumSize_imageOptions (config : Config) :
    (imageOptions config).checksumSize.toNat = config.checksum.tagSize := by
  change (UInt16.ofNat config.checksum.tagSize).toNat = config.checksum.tagSize
  cases config.checksum <;> rfl

variable {ω β : Type} {kept : ω → Prop} {view : ω → View} {rest : ω → β} {fails : IoError → Prop}
  {excused : Error → Prop} {image : Stream ω}

/-- A probe is believed if it answers with a geometry that adds up and a bitmap over its blocks. -/
theorem probe_leads {prober : Probe ω} {run : Run ω} {described : Descriptor → ω → Prop}
    {allocated : Descriptor → Bitmap → ω → Prop} (describe : Leads (prober.describe run.world) described fun _ _ => True)
    (allocation : ∀ geometry world, described geometry world →
      Leads (prober.allocation geometry world) (allocated geometry) fun _ _ => True) :
    Leads (probe prober run)
      (fun answer after => Probed answer.1 answer.2 ∧
        (∃ geometry, answer.1 = geometry.verifiedBy answer.2 ∧ allocated geometry answer.2 after.world) ∧
        after.running = run.running ∧ after.session.config = run.session.config ∧ after.grants = run.grants)
      fun _ _ => True := by
  rw [probe, leads_settling, leads_bind, leads_enter, leads_bind, leads_inWorld]
  refine describe.mono (fun geometry world told => ?_) fun _ _ _ => trivial
  rw [leads_bind, leads_inWorld]
  refine (allocation geometry world told).mono (fun bitmap last found => ?_) fun _ _ _ => trivial
  rw [leads_bind, leads_ofExcept]
  cases valid : geometry.validate with
  | error failure => trivial
  | ok _ =>
    -- A bitmap over another number of blocks is refused.
    change Leads ((if _ then throw _ else _ : Transfer ω _) _) _ _
    split
    next => trivial
    next total => exact ⟨Probed.of_valid valid (Decidable.of_not_not total), ⟨geometry, rfl, found⟩, rfl, rfl, rfl⟩

theorem probed_of_probe {prober : Probe ω} {run after : Run ω} {descriptor : Descriptor} {bitmap : Bitmap}
    (answered : probe prober run = .ok (descriptor, bitmap) after) : Probed descriptor bitmap := by
  have any {α : Type} (result : EStateM.Result Error ω α) : Leads result (fun _ _ => True) fun _ _ => True :=
    .of_all (fun _ _ => trivial) fun _ _ => trivial
  exact ((probe_leads (any _) fun geometry world _ => any (prober.allocation geometry world)).of_ok answered).1

/-- What is taken from the front of any stream fits. -/
theorem probed_of_readImage {run after : Run ω} {head : Head} {bitmap : Bitmap}
    (opened : readImage image run = .ok (head, bitmap) after) : Probed head.descriptor bitmap := by
  have leads : Leads (readImage image run) (fun answer _ => Probed answer.1.descriptor answer.2) fun _ _ => True := by
    rw [readImage, leads_settling, leads_bind, leads_enter, leads_bind, leads_get, leads_bind, leads_inWorld,
      Stream.readHead, leads_bind]
    refine Leads.of_all (fun bytes world => ?_) fun _ _ => trivial
    rw [leads_ofExcept]
    cases decoded : Head.decode bytes with
    | error failure => trivial
    | ok stored =>
      simp only [leads_bind, leads_inWorld, Stream.readBitmap, Stream.findBitmap]
      -- Whatever the stream gives, only what is made of it counts.
      refine Leads.of_all (fun _ _ => Leads.of_all (fun body _ => Leads.of_all (fun crc _ => ?_) ?_) ?_) ?_
      all_goals try exact fun _ _ => trivial
      rw [leads_ofExcept]
      cases judged :
        FoundBitmap.ofStored run.grants stored.options.encoding stored.descriptor.totalBlocks.toNat body crc with
      | error failure => trivial
      | ok found =>
        simp only [leads_ofExcept]
        cases sound : found.intact with
        | error failure => trivial
        | ok marked =>
          refine Probed.of_valid (Head.validate_of_decode decoded) ?_
          rw [← FoundBitmap.bitmap_of_intact sound, FoundBitmap.total_of_ofStored judged]
  exact leads.of_ok opened

/-- What a probe leaves alone is left alone by asking it, whether or not it is believed. -/
theorem probe_keeps {prober : Probe ω} {run : Run ω}
    (describe : ∀ world, kept world →
      Leads (prober.describe world) (fun _ after => kept after) fun _ after => kept after)
    (allocation : ∀ geometry world, kept world →
      Leads (prober.allocation geometry world) (fun _ after => kept after) fun _ after => kept after)
    (held : kept run.world) :
    Leads (probe prober run) (fun answer after => Probed answer.1 answer.2 ∧ kept after.world)
      fun _ after => kept after.world := by
  have asked : Leads (probe prober run) (fun _ after => kept after.world) fun _ after => kept after.world := by
    rw [probe, leads_settling, leads_bind, leads_enter, leads_bind, leads_inWorld]
    refine (describe run.world held).mono (fun geometry world held => ?_) fun _ _ held => held
    rw [leads_bind, leads_inWorld]
    refine (allocation geometry world held).mono (fun bitmap last held => ?_) fun _ _ held => held
    rw [leads_bind, leads_ofExcept]
    cases geometry.validate with
    | error failure => exact held
    | ok _ =>
      change Leads ((if _ then throw _ else _ : Transfer ω _) _) _ _
      split
      · exact held
      · exact held
  cases answered : probe prober run with
  | ok answer after => exact ⟨probed_of_probe answered, asked.of_ok answered⟩
  | error failure after => exact asked.of_error answered

/-- Taking head and bitmap from a stream leaves alone what reading the stream does. -/
theorem readImage_keeps (apart : image.Apart kept rest) (run : Run ω) (held : kept run.world) :
    Leads (readImage image run)
      (fun opened after => Probed opened.1.descriptor opened.2 ∧ Frame kept rest run.world after.world)
      fun _ after => Frame kept rest run.world after.world := by
  have read : Leads (readImage image run) (fun _ after => Frame kept rest run.world after.world)
      fun _ after => Frame kept rest run.world after.world := by
    rw [readImage, leads_settling, leads_bind, leads_enter, leads_bind, leads_get, leads_bind, leads_inWorld,
      Stream.readHead, leads_bind, leads_adaptExcept]
    refine (apart.readExactly _ run.world held).mono ?_ fun _ _ frame => frame
    rintro bytes headed ⟨frame, _⟩
    rw [leads_ofExcept]
    cases Head.decode bytes with
    | error failure => exact frame
    | ok head =>
      simp only [leads_bind, leads_inWorld, Stream.readBitmap, Stream.findBitmap, leads_adaptExcept, leads_ofExcept]
      cases checkAllocation run.grants (head.options.encoding.storedSize head.descriptor.totalBlocks.toNat) with
      | error failure => exact frame
      | ok _ =>
        refine (apart.readExactly _ headed frame.kept).mono ?_ fun _ _ later => frame.trans later
        rintro body mapped ⟨later, _⟩
        refine (apart.readExactly _ mapped later.kept).mono ?_ fun _ _ last => frame.trans (later.trans last)
        rintro crc ended ⟨last, _⟩
        have whole := frame.trans (later.trans last)
        cases FoundBitmap.ofStored run.grants head.options.encoding head.descriptor.totalBlocks.toNat body crc with
        | error failure => exact whole
        | ok found =>
          dsimp only
          cases found.intact with
          | error failure => exact whole
          | ok bitmap => exact whole
  cases opened : readImage image run with
  | ok answer after => exact ⟨probed_of_readImage opened, read.of_ok opened⟩
  | error failure after => exact read.of_error opened

/-- What a session takes from the front of a stream is what the bytes say. -/
theorem readImage_leads (reads : image.Reads kept view rest fails)
    (unread : ∀ offset cause, fails cause → excused (.read offset cause))
    (missing : fails .endOfDevice → excused (.format .headMissing)) (run : Run ω) (held : kept run.world) :
    Leads (readImage image run)
      (fun opened after => Image.front run.grants (view run.world).left = .ok opened ∧
        Frame kept rest run.world after.world ∧
        view after.world = (view run.world).skip
          (Layout.dataOffset opened.1.descriptor.totalBlocks.toNat opened.1.options.encoding) ∧
        after.running = run.running ∧ after.session.config = run.session.config ∧ after.grants = run.grants)
      fun failure _ => excused failure ∨ Image.front run.grants (view run.world).left = .error failure := by
  rw [readImage, leads_settling, leads_bind, leads_enter, leads_bind, leads_get, leads_bind, leads_inWorld]
  refine (reads.readHead unread missing run.world held).mono ?_ ?_
  · -- The head is there, and tells how many bytes hold the bitmap.
    rintro head world ⟨frame, headed, within, moved⟩
    rw [leads_bind, leads_inWorld, Stream.readBitmap, leads_bind]
    refine (reads.findBitmap unread _ _ _ frame.kept moved within).mono ?_ ?_
    · rintro found last ⟨later, judged, whole, moved⟩
      rw [leads_ofExcept]
      cases intact : found.intact with
      | error failure =>
        refine .inr ?_
        simp only [Image.front, headed, judged, intact, bind, Except.bind]
      | ok bitmap =>
        refine ⟨?_, frame.trans later, moved, rfl, rfl, rfl⟩
        simp only [Image.front, headed, judged, intact, bind, Except.bind, pure, Except.pure]
    · rintro failure last ⟨_, _, allowed | refused⟩
      · exact .inl allowed
      · refine .inr ?_
        simp only [Image.front, headed, refused, bind, Except.bind]
  · rintro failure world ⟨_, _, allowed | refused⟩
    · exact .inl allowed
    · refine .inr ?_
      simp only [Image.front, refused, bind, Except.bind]

/-- Whatever the faults of a device are, what is taken of it is the front of the bytes that are left. -/
theorem readImage_leads_front (reads : image.Reads kept view rest fun _ => True) {run : Run ω} (held : kept run.world) :
    Leads (readImage image run) (fun opened _ => Image.front run.grants (view run.world).left = .ok opened)
      fun _ _ => True :=
  (@readImage_leads _ _ _ _ _ _ (fun _ => True) _ reads (fun _ _ _ => trivial) (fun _ => trivial) run held).mono
    (fun _ _ opened => opened.1) fun _ _ _ => trivial

end Transfer

/-! ### The front as a function of the bytes -/

namespace Image

variable {grants : Nat → Bool} {bytes : ByteArray} {opened : Head × Bitmap}

theorem piece_eq_ok_iff {start count : Nat} {failure : Error} {piece' : ByteArray} :
    piece bytes start count failure = .ok piece' ↔
      start + count ≤ bytes.size ∧ piece' = bytes.extract start (start + count) := by
  rw [piece]
  split
  next within => simp [within, eq_comm]
  next beyond => simp [beyond]

theorem piece_append {start count : Nat} {failure : Error} {piece' : ByteArray}
    (taken : piece bytes start count failure = .ok piece') (more : ByteArray) :
    piece (bytes ++ more) start count failure = .ok piece' := by
  rw [piece_eq_ok_iff] at taken ⊢
  obtain ⟨within, rfl⟩ := taken
  rw [Bytes.extract_append_of_le within, ByteArray.size_append]
  exact ⟨by omega, rfl⟩

theorem piece_middle {front middle back : ByteArray} {start count : Nat} (split : bytes = front ++ middle ++ back)
    (before : front.size = start) (size : middle.size = count) (failure : Error) :
    piece bytes start count failure = .ok middle := by
  subst split before size
  rw [piece_eq_ok_iff, Bytes.extract_middle, ByteArray.size_append, ByteArray.size_append]
  exact ⟨by omega, rfl⟩

theorem front_eq_ok_iff : front grants bytes = .ok opened ↔ ∃ headed found',
    head bytes = .ok headed ∧
    found grants headed.descriptor.totalBlocks.toNat headed.options.encoding bytes = .ok found' ∧
    found'.intact = .ok opened.2 ∧
    opened = ({ headed with descriptor := headed.descriptor.verifiedBy opened.2 }, opened.2) := by
  simp only [front, Except.bind_eq_ok]
  constructor
  · rintro ⟨headed, read, judged, total, bitmap, sound, built⟩
    cases built
    exact ⟨headed, judged, read, total, sound, rfl⟩
  · rintro ⟨headed, judged, read, total, sound, built⟩
    exact ⟨headed, read, judged, total, opened.2, sound, by rw [built]; rfl⟩

/-- What is taken is taken also where more bytes follow. -/
theorem front_append (taken : front grants bytes = .ok opened) (more : ByteArray) :
    front grants (bytes ++ more) = .ok opened := by
  rw [front_eq_ok_iff] at taken ⊢
  obtain ⟨headed, judged, read, total, sound, built⟩ := taken
  -- Both parts are cut out of the front, which more bytes behind it do not change.
  refine ⟨headed, judged, ?_, ?_, sound, built⟩
  · rw [head, Except.bind_eq_ok] at read ⊢
    obtain ⟨stored, taken, decoded⟩ := read
    exact ⟨stored, piece_append taken more, decoded⟩
  · simp only [found, Except.bind_eq_ok] at total ⊢
    obtain ⟨granted, allowed, body, first, crc, second, stored⟩ := total
    exact ⟨granted, allowed, body, piece_append first more, crc, piece_append second more, stored⟩

/-- What is taken is taken also where there is more memory. -/
theorem front_mono {grants' : Nat → Bool} (more : ∀ size, grants size → grants' size)
    (taken : front grants bytes = .ok opened) : front grants' bytes = .ok opened := by
  rw [front_eq_ok_iff] at taken ⊢
  obtain ⟨headed, judged, read, total, sound, built⟩ := taken
  refine ⟨headed, judged, read, ?_, sound, built⟩
  simp only [found, FoundBitmap.ofStored, Except.bind_eq_ok] at total ⊢
  obtain ⟨granted, allowed, body, first, crc, second, bitmap, decoded, stored⟩ := total
  exact ⟨granted, checkAllocation_mono more allowed, body, first, crc, second, bitmap,
    BitmapEncoding.decode_mono more decoded, stored⟩

/-- The memory decides whether a front is taken, but not what is taken then. -/
theorem front_unique {grants' : Nat → Bool} {opened' : Head × Bitmap} (taken : front grants bytes = .ok opened)
    (taken' : front grants' bytes = .ok opened') : opened = opened' := by
  have all : front (fun _ => true) bytes = .ok opened := front_mono (fun _ _ => rfl) taken
  have all' : front (fun _ => true) bytes = .ok opened' := front_mono (fun _ _ => rfl) taken'
  exact Except.ok.inj (all.symm.trans all')

/-- What is taken reaches to where the data begins. -/
theorem dataOffset_le_of_front (taken : front grants bytes = .ok opened) :
    Layout.dataOffset opened.1.descriptor.totalBlocks.toNat opened.1.options.encoding ≤ bytes.size := by
  obtain ⟨headed, judged, read, total, sound, built⟩ := front_eq_ok_iff.mp taken
  simp only [found, Except.bind_eq_ok] at total
  obtain ⟨_, _, body, _, crc, second, _⟩ := total
  rw [built]
  exact (piece_eq_ok_iff.mp second).1

/-! ### The front of an image that was written -/

section Written

variable {config : Config} {descriptor : Descriptor} {bitmap : Bitmap}

theorem size_front_written (probed : Probed descriptor bitmap) :
    (Layout.front (Transfer.imageOptions config) descriptor bitmap).size =
      Layout.dataOffset descriptor.totalBlocks.toNat (Transfer.imageOptions config).encoding :=
  Layout.size_front _ probed.total

/-- What is left behind the front of an image. -/
theorem left_behind_front {view : View} {rest : ByteArray} (probed : Probed descriptor bitmap)
    (stands : view.left = Layout.front (Transfer.imageOptions config) descriptor bitmap ++ rest) :
    (view.skip (Layout.dataOffset descriptor.totalBlocks.toNat (Transfer.imageOptions config).encoding)).left = rest := by
  rw [← size_front_written probed]
  exact View.left_skip stands

theorem head_encode (probed : Probed descriptor bitmap) (rest : ByteArray) :
    head (Head.encode descriptor (Transfer.imageOptions config) ++ rest) = .ok (.written config descriptor) := by
  have split : Head.encode descriptor (Transfer.imageOptions config) ++ rest =
      ByteArray.empty ++ Head.encode descriptor (Transfer.imageOptions config) ++ rest := by
    rw [ByteArray.empty_append]
  rw [head, Except.bind_eq_ok]
  refine ⟨_, piece_middle split ByteArray.size_empty (Head.size_encode ..) _, ?_⟩
  exact Head.decode_encode probed.valid rfl (Transfer.checksumSize_imageOptions config)

theorem head_front (probed : Probed descriptor bitmap) (rest : ByteArray) :
    head (Layout.front (Transfer.imageOptions config) descriptor bitmap ++ rest) = .ok (.written config descriptor) := by
  rw [Layout.front, ByteArray.append_assoc, ByteArray.append_assoc]
  exact head_encode probed _

/-- Of an image that was written head and bitmap are taken back. -/
theorem front_written (probed : Probed descriptor bitmap) (room : grants (bitmapSize bitmap.total))
    (rest : ByteArray) :
    front grants (Layout.front (Transfer.imageOptions config) descriptor bitmap ++ rest) =
      .ok (.written config descriptor, bitmap) := by
  let crc := Head.storedCrc (Checksum.ofBytes bitmap.bytes)
  have size : bitmap.bytes.size = bitmapSize descriptor.totalBlocks.toNat := by
    rw [bitmap.size_bytes, probed.total]
  -- Bitmap and checksum are cut out where they were put.
  have body (failure : Error) : piece (Layout.front (Transfer.imageOptions config) descriptor bitmap ++ rest)
      Layout.bitmapOffset (bitmapSize descriptor.totalBlocks.toNat) failure = .ok bitmap.bytes := by
    have split : Layout.front (Transfer.imageOptions config) descriptor bitmap ++ rest =
        Head.encode descriptor (Transfer.imageOptions config) ++ bitmap.bytes ++ (crc ++ rest) := by
      simp only [Layout.front, ByteArray.append_assoc, crc]
    exact piece_middle split (Head.size_encode ..) size failure
  have tail (failure : Error) : piece (Layout.front (Transfer.imageOptions config) descriptor bitmap ++ rest)
      (Layout.bitmapOffset + bitmapSize descriptor.totalBlocks.toNat) 4 failure = .ok crc := by
    refine piece_middle rfl ?_ (Head.size_storedCrc _) failure
    rw [ByteArray.size_append, Head.size_encode, size]
    rfl
  have granted : checkAllocation grants (bitmapSize descriptor.totalBlocks.toNat) = .ok () :=
    checkAllocation_of_granted (probed.total ▸ room)
  have judged : found grants descriptor.totalBlocks.toNat .bit
      (Layout.front (Transfer.imageOptions config) descriptor bitmap ++ rest) = .ok { bitmap, corruption := none } := by
    have same : Bitmap.ofBytes descriptor.totalBlocks.toNat bitmap.bytes = .ok bitmap := by
      rw [← probed.total, Bitmap.ofBytes_bytes]
    simp only [found, BitmapEncoding.storedSize, granted, body, tail, FoundBitmap.ofStored, BitmapEncoding.decode, same,
      crc, Head.decode_storedCrc, if_true, bind, Except.bind, pure, Except.pure]
  refine front_eq_ok_iff.mpr ⟨_, _, head_front probed rest, judged, rfl, ?_⟩
  change _ =
    (({ Head.written config descriptor with descriptor := descriptor.verifiedBy bitmap }, bitmap) : Head × Bitmap)
  rw [probed.verifiedBy, Head.written]

/-- What is taken behind the head of an image that was written was granted the memory for the bitmap. -/
theorem room_of_front {opened : Head × Bitmap} (headed : head bytes = .ok (.written config descriptor))
    (taken : front grants bytes = .ok opened) : grants (bitmapSize descriptor.totalBlocks.toNat) := by
  obtain ⟨stored, judged, read, total, _⟩ := front_eq_ok_iff.mp taken
  rw [headed] at read
  cases read
  simp only [found, Except.bind_eq_ok] at total
  obtain ⟨_, granted, _⟩ := total
  exact granted_of_checkAllocation granted

theorem eq_of_front_written {opened : Head × Bitmap} (probed : Probed descriptor bitmap) {rest : ByteArray}
    (taken : front grants (Layout.front (Transfer.imageOptions config) descriptor bitmap ++ rest) = .ok opened) :
    opened = (.written config descriptor, bitmap) := by
  have room : grants (bitmapSize bitmap.total) := probed.total ▸ room_of_front (head_front probed rest) taken
  rw [front_written probed room] at taken
  exact (Except.ok.inj taken).symm

end Written

end Image

end BlockImage
