import BlockImage.Proofs.Image.Damage
import BlockImage.Proofs.Transfer.RoundTrip

/-!
# Damaged and cut images are refused

Whoever opens an image and restores it meets a failure where the image is damaged within four consecutive bytes, and the
failure tells where the damage begins. Of an image that is cut anywhere nobody gets to the end.
-/
namespace BlockImage

/-- The bytes that a device got between two states. -/
def Device.appended (before after : Device) : ByteArray := after.bytes.extract before.position after.position

namespace Transfer

def readAndRestore {ω : Type} (owner : Owner) (image : Stream ω) (target : Target ω) : Transfer ω Summary := do
  let (head, bitmap) ← readImage image
  restoreBlocks owner image target head bitmap

section

variable {ω : Type} {kept : ω → Prop} {input output : ω → View} {fails : IoError → Prop} {owner : Owner}
  {excused : Error → Prop} {image : Stream ω} {target : Target ω}

/-- Where the data begins behind the front of an image. -/
def dataView (origin : View) (head : Head) : View :=
  origin.skip (Layout.dataOffset head.descriptor.totalBlocks.toNat head.options.encoding)

/-- What opening and restoring an image comes to is decided by the bytes. -/
theorem readAndRestore_leads (reads : image.Reads kept input output fails)
    (writes : target.Writes kept output input fails)
    (unread : ∀ offset cause, fails cause → excused (.read offset cause))
    (missing : fails .endOfDevice → excused (.format .headMissing))
    (unwritten : ∀ offset cause, fails cause → excused (.write offset cause)) (run : Run ω) (held : kept run.world)
    (spares : owner.Spares excused run.running)
    (granted : ∀ head bitmap, Image.front run.grants (input run.world).left = .ok (head, bitmap) →
      ∀ size ∈ restoringBuffers run.session.config head.width head.options,
        ¬ run.grants size → excused (.insufficientMemory size 0)) :
    Leads (readAndRestore owner image target run)
      (fun _ _ => ∃ head bitmap, Image.front run.grants (input run.world).left = .ok (head, bitmap) ∧
        head.startOf head.total ≤ (dataView (input run.world) head).left.size ∧
        Accepted head (dataView (input run.world) head).left run.session.config.ignoreChecksum 0 head.total)
      fun failure _ => excused failure ∨ Image.front run.grants (input run.world).left = .error failure ∨
        ∃ head bitmap, Image.front run.grants (input run.world).left = .ok (head, bitmap) ∧
          Fails excused head run.session.config.ignoreChecksum (dataView (input run.world) head) failure := by
  have opens := readImage_leads reads unread missing run held
  rw [readAndRestore, leads_bind]
  -- What is restored is under the head that was opened, so the cases are those of the opening.
  cases answered : readImage image run with
  | error failure after =>
    rcases opens.of_error answered with allowed | refused
    · exact .inl allowed
    · exact .inr (.inl refused)
  | ok opened after =>
    obtain ⟨head, bitmap⟩ := opened
    obtain ⟨taken, frame, moved, running, config, same⟩ := opens.of_ok answered
    have measured := (probed_of_readImage answered).measured
    have restores := restoreBlocks_leads reads writes unread unwritten measured after frame.kept (running ▸ spares)
      (config ▸ same ▸ granted head bitmap taken)
    rw [config, moved] at restores
    refine restores.mono ?_ ?_
    · rintro summary final ⟨_, _, whole, _, _, accepted⟩
      exact ⟨head, bitmap, taken, whole, accepted⟩
    · exact fun failure final broke => .inr (.inr ⟨head, bitmap, taken, broke.1⟩)

end

/-- Only one failure names the first tag that does not fit. -/
theorem Rejected.eq_mismatchAt {head : Head} {stream : ByteArray} {ignores : Bool} {stop number : Nat} {failure : Error}
    (rejected : Rejected head stream ignores 0 stop failure) (misfit : head.Misfit stream number) :
    failure = mismatchAt head stream number := by
  obtain ⟨compares, other, _, _, closes, unfit, accepted, rfl⟩ := rejected
  -- A tag before the first misfit fits, and one behind it would not have been reached.
  rcases Nat.lt_trichotomy other number with before | rfl | behind
  · exact absurd (misfit.earlier other before closes) unfit
  · rfl
  · rcases accepted number (Nat.zero_le _) behind misfit.closes with ignored | fits
    · rw [compares] at ignored
      cases ignored
    · exact absurd fits misfit.unfit

/-- What a session appended to its target when it imaged a device without failure is an image. -/
theorem image_of_writeImage {σ : Type} {owner : Owner} {source : Source σ} {descriptor : Descriptor} {bitmap : Bitmap}
    {run after : Run (σ × Device)} {summary : Summary} (probed : Probed descriptor bitmap)
    (wrote : writeImage owner source.ofFirst Device.target.ofSecond.toSink descriptor bitmap run = .ok summary after) :
    ∃ blocks, blocks.length = (Head.written run.session.config descriptor).total ∧
      (∀ block ∈ blocks, block.size = (Head.written run.session.config descriptor).width) ∧
      run.world.2.appended after.world.2 = Layout.front (imageOptions run.session.config) descriptor bitmap ++
        Layout.data (Head.written run.session.config descriptor).options blocks := by
  obtain ⟨blocks, length, sizes, placed, _⟩ := wrote_of_writeImage probed wrote
  refine ⟨blocks, length, sizes, ?_⟩
  have bytes := congrArg View.bytes placed
  have position := congrArg View.position placed
  rw [View.bytes_put] at bytes
  rw [View.position_put] at position
  change after.world.2.bytes.extract run.world.2.position after.world.2.position = _
  change after.world.2.bytes = _ at bytes
  change after.world.2.position = run.world.2.position + _ at position
  rw [bytes, position]
  exact Bytes.extract_overwrite _ _ _

/-- The failure tells where the damage begins: in the head, in the bitmap, or in which group of blocks. -/
structure Betrays (config : Config) (descriptor : Descriptor) (first : Nat) (failure : Error) : Prop where
  head : first < Head.storedSize → failure.category = "format" ∨ failure.category = "corrupt"
  bitmap : Head.storedSize ≤ first →
    first < Layout.dataOffset descriptor.totalBlocks.toNat (imageOptions config).encoding →
    ∃ stored computed, failure = .corrupt .bitmap stored computed
  data : Layout.dataOffset descriptor.totalBlocks.toNat (imageOptions config).encoding ≤ first →
    ∃ block stored computed, failure = .checksumMismatch block .crc32 stored computed ∧
      block < (Head.written config descriptor).total ∧ (Head.written config descriptor).Closes block ∧
      Layout.dataOffset descriptor.totalBlocks.toNat (imageOptions config).encoding +
        (Head.written config descriptor).startOf ((Head.written config descriptor).groupStart block) ≤ first ∧
      first < Layout.dataOffset descriptor.totalBlocks.toNat (imageOptions config).encoding +
        (Head.written config descriptor).startOf (block + 1)

section Damaged

variable {config : Config} {descriptor : Descriptor} {bitmap : Bitmap} {blocks : List ByteArray}
  {grants : Nat → Bool} {bytes rest : ByteArray} {first : Nat} {origin : View}

theorem left_dataView (probed : Probed descriptor bitmap)
    (split : origin.left = Layout.front (imageOptions config) descriptor bitmap ++ rest) :
    (dataView origin (.written config descriptor)).left = rest :=
  Image.left_behind_front probed split

variable (probed : Probed descriptor bitmap) (crc32 : config.checksum = .crc32)
  (grouped : 0 < config.blocksPerChecksum.toNat) (length : blocks.length = (Head.written config descriptor).total)
  (sizes : ∀ block ∈ blocks, block.size = (Head.written config descriptor).width)
  (damage : Bytes.DamagedFrom origin.left (Layout.front (imageOptions config) descriptor bitmap ++
    Layout.data (Head.written config descriptor).options blocks) first)

include probed crc32 grouped length sizes damage

/-- Whatever is taken from the front of a damaged image, some tag does not fit. -/
theorem not_accepted_of_damaged {head : Head} {marked : Bitmap}
    (taken : Image.front grants origin.left = .ok (head, marked)) :
    ¬ Accepted head (dataView origin head).left false 0 head.total := by
  obtain ⟨behind, same⟩ := Image.opened_of_damaged probed damage taken
  obtain ⟨data, number, split, _, misfit, _⟩ :=
    Image.exists_misfit_of_damaged probed crc32 grouped length sizes damage behind
  cases same
  intro accepted
  rw [left_dataView probed split] at accepted
  rcases accepted number (Nat.zero_le _) misfit.inside misfit.closes with ignored | fits
  · cases ignored
  · exact misfit.unfit fits

/-- The reason why a damaged image is refused tells where the damage begins. -/
theorem betrays_of_damaged (room : grants (bitmapSize descriptor.totalBlocks.toNat)) {failure : Error}
    (reason : Image.front grants origin.left = .error failure ∨ ∃ head marked,
      Image.front grants origin.left = .ok (head, marked) ∧
      Fails (fun _ => False) head false (dataView origin head) failure) : Betrays config descriptor first failure := by
  constructor
  · -- The head is refused before anything else is looked at.
    intro inHead
    obtain ⟨other, refused, category⟩ := Image.front_of_damaged_head damage inHead
    rw [refused] at reason
    rcases reason with same | ⟨_, _, taken, _⟩
    · cases same
      exact category
    · cases taken
  · -- The head is as it was, and the bitmap is refused.
    intro behind inBitmap
    obtain ⟨stored, computed, refused⟩ := Image.front_of_damaged_bitmap probed room damage behind inBitmap
    rw [refused] at reason
    rcases reason with same | ⟨_, _, taken, _⟩
    · cases same
      exact ⟨stored, computed, rfl⟩
    · cases taken
  · -- The front is as it was, and some tag does not fit.
    intro behind
    obtain ⟨data, number, split, size, misfit, begun, before⟩ :=
      Image.exists_misfit_of_damaged probed crc32 grouped length sizes damage behind
    have front : Image.front grants origin.left = .ok (.written config descriptor, bitmap) := by
      rw [split]
      exact Image.front_written probed (probed.total ▸ room) data
    rw [front] at reason
    rcases reason with refused | ⟨_, _, taken, broke⟩
    · cases refused
    cases taken
    rw [Fails, left_dataView probed split] at broke
    rcases broke with fault | ⟨_, _, short⟩ | rejected
    · exact fault.elim
    · omega
    · have algorithm : (Head.written config descriptor).options.checksum = .crc32 := crc32
      rw [rejected.eq_mismatchAt misfit, mismatchAt, algorithm]
      exact ⟨number, _, _, rfl, misfit.inside, misfit.closes, begun, before⟩

end Damaged

/-- Nobody takes from a cut image what the image does not begin with, so the data is missing an end. -/
theorem not_whole_of_cut {config : Config} {descriptor : Descriptor} {bitmap : Bitmap} {blocks : List ByteArray}
    {grants : Nat → Bool} {origin : View} {stop : Nat} (probed : Probed descriptor bitmap)
    (length : blocks.length = (Head.written config descriptor).total)
    (sizes : ∀ block ∈ blocks, block.size = (Head.written config descriptor).width)
    (short : stop < (Layout.front (imageOptions config) descriptor bitmap ++
      Layout.data (Head.written config descriptor).options blocks).size)
    (cut : origin.left = (Layout.front (imageOptions config) descriptor bitmap ++
      Layout.data (Head.written config descriptor).options blocks).extract 0 stop)
    {head : Head} {marked : Bitmap} (taken : Image.front grants origin.left = .ok (head, marked)) :
    ¬ head.startOf head.total ≤ (dataView origin head).left.size := by
  let image := Layout.front (imageOptions config) descriptor bitmap ++
    Layout.data (Head.written config descriptor).options blocks
  have whole : image = origin.left ++ image.extract stop image.size := by
    rw [cut, ← ByteArray.extract_eq_extract_append_extract stop (Nat.zero_le _) (Nat.le_of_lt short),
      Bytes.extract_eq_self (Nat.le_refl _)]
  have size : origin.left.size = stop := by
    rw [cut, ByteArray.size_extract]
    omega
  -- The front that was taken is that of the whole image, since more bytes do not change it.
  have all := Image.front_append taken (image.extract stop image.size)
  rw [← whole] at all
  have reach := Image.dataOffset_le_of_front taken
  cases Image.eq_of_front_written probed all
  have offset : (Layout.front (imageOptions config) descriptor bitmap).size = Layout.dataOffset
      (Head.written config descriptor).descriptor.totalBlocks.toNat (Head.written config descriptor).options.encoding :=
    Image.size_front_written probed
  rw [ByteArray.size_append, Head.size_data length sizes, offset] at short
  rw [View.size_left] at size reach ⊢
  rw [dataView, View.bytes_skip, View.position_skip]
  dsimp only at reach
  omega

/-- Damage within four bytes of an image whose blocks are covered by checksums never goes unnoticed, and where nothing
else is amiss the failure tells where it begins. Of no image does a proper part do. -/
theorem damage_detected {σ : Type} {owner : Owner} {source : Source σ} {descriptor : Descriptor} {bitmap : Bitmap}
    {run after : Run (σ × Device)} {summary : Summary} (probed : Probed descriptor bitmap)
    (wrote : writeImage owner source.ofFirst Device.target.ofSecond.toSink descriptor bitmap run = .ok summary after) :
    (run.session.config.checksum = .crc32 → 0 < run.session.config.blocksPerChecksum.toNat →
      ∀ damaged start, Bytes.DifferWithin damaged (run.world.2.appended after.world.2) start →
        damaged ≠ run.world.2.appended after.world.2 →
        ∃ first, Bytes.DamagedFrom damaged (run.world.2.appended after.world.2) first ∧
          ∀ restorer (back : Run (Device × Device)), back.session.config.ignoreChecksum = false →
            back.world.1.view.left = damaged →
            ∃ failure final,
              readAndRestore restorer Device.source.ofFirst.toStream Device.target.ofSecond back =
                .error failure final ∧
              (Restorable restorer back.session.config back.grants (.written run.session.config descriptor) bitmap
                  back.world.1 back.world.2 →
                back.running = true → Betrays run.session.config descriptor first failure)) ∧
    ∀ stop < (run.world.2.appended after.world.2).size, ∀ restorer (back : Run (Device × Device)),
      back.world.1.view.left = (run.world.2.appended after.world.2).extract 0 stop →
      ∃ failure final,
        readAndRestore restorer Device.source.ofFirst.toStream Device.target.ofSecond back = .error failure final := by
  obtain ⟨blocks, length, sizes, image⟩ := image_of_writeImage probed wrote
  rw [image]
  -- Whatever the devices do, a transfer that succeeds has taken what the bytes say.
  have unread (restorer : Owner) (back : Run (Device × Device)) :=
    @readAndRestore_leads _ _ _ _ _ restorer (fun _ => True) _ _
      (Device.source_ofFirst_reads_all back.world.1.bytes).toReads
      (Device.target_ofSecond_writes_beside _) (fun _ _ _ => trivial) (fun _ => trivial) (fun _ _ _ => trivial) back rfl
      (.inl trivial) fun _ _ _ _ _ _ => trivial
  constructor
  · intro crc32 grouped damaged start window different
    obtain ⟨first, damage⟩ := window.exists_damagedFrom different
    refine ⟨first, damage, fun restorer back compares stands => ?_⟩
    subst stands
    -- Without failure all tags would have been accepted, and some tag does not fit.
    have leads := (unread restorer back).mono (fun _ _ reached => by
      obtain ⟨head, marked, taken, _, accepted⟩ := reached
      rw [compares] at accepted
      exact not_accepted_of_damaged probed crc32 grouped length sizes damage taken accepted) fun _ _ broke => broke
    obtain ⟨failure, final, broke, _⟩ := leads.exists_error
    refine ⟨failure, final, broke, fun ready running => ?_⟩
    have room : back.grants (bitmapSize descriptor.totalBlocks.toNat) := probed.total ▸ ready.room
    refine betrays_of_damaged probed crc32 grouped length sizes damage room ?_
    -- No call fails and the memory is granted, so only the bytes can be the reason.
    have spared : restorer.Spares (fun _ => False) back.running := .inr ⟨ready.quiet, running⟩
    have strict := readAndRestore_leads Device.SteadyPair.reads.toReads Device.SteadyPair.writes
      (fun _ _ fault => fault.elim) (fun fault => fault.elim) (fun _ _ fault => fault.elim) back
      ⟨ready.readable, ready.writable, rfl⟩ spared (fun head marked taken size member refused => by
        cases (Image.opened_of_damaged probed damage taken).2
        exact absurd (ready.granted size member) refused)
    rcases strict.of_error broke with fault | reason
    · exact fault.elim
    · rw [compares] at reason
      exact reason
  · -- Success would take the whole data, of which the end is missing.
    intro stop short restorer back cut
    have leads := (unread restorer back).mono (fun _ _ reached => by
      obtain ⟨head, marked, taken, whole, _⟩ := reached
      exact not_whole_of_cut probed length sizes short cut taken whole) fun _ _ broke => broke
    obtain ⟨failure, final, broke, _⟩ := leads.exists_error
    exact ⟨failure, final, broke⟩

theorem damage_detected_sample : ∃ summary after,
    writeImage {} Device.source.ofFirst Device.target.ofSecond.toSink .sample .sample sampleImaging = .ok summary after ∧
      (∃ failure final, readAndRestore {} Device.source.ofFirst.toStream Device.target.ofSecond (sampleRestoring
          (Bytes.overwrite (sampleImaging.world.2.appended after.world.2) 0 ⟨#[0]⟩)) = .error failure final ∧
        (failure.category = "format" ∨ failure.category = "corrupt")) ∧
      ∃ failure final, readAndRestore {} Device.source.ofFirst.toStream Device.target.ofSecond (sampleRestoring
          ((sampleImaging.world.2.appended after.world.2).extract 0 1)) = .error failure final := by
  obtain ⟨summary, after, wrote, _⟩ := writeImage_of_imageable sampleImaging sampleImaging_imageable rfl
  obtain ⟨blocks, _, _, image⟩ := image_of_writeImage Probed.sample wrote
  have head : (Head.encode .sample (imageOptions sampleImaging.session.config)).size = 98 := Head.size_encode ..
  have size : 98 ≤ (sampleImaging.world.2.appended after.world.2).size := by
    rw [image, Layout.front, ByteArray.size_append, ByteArray.size_append, ByteArray.size_append, head]
    omega
  -- The first byte is that of the magic.
  have magic : Bytes.byteAt (sampleImaging.world.2.appended after.world.2) 0 = 0x70 := by
    have body : (Head.encodeBody .sample (imageOptions sampleImaging.session.config)).toByteArray.size = 94 := by
      rw [List.size_toByteArray, Head.length_encodeBody]
      rfl
    rw [image, Layout.front, ByteArray.append_assoc, ByteArray.append_assoc, Bytes.byteAt_append, if_pos (by omega),
      Head.encode, Bytes.byteAt_append, if_pos (by omega)]
    rfl
  have window : Bytes.DifferWithin (Bytes.overwrite (sampleImaging.world.2.appended after.world.2) 0 ⟨#[0]⟩)
      (sampleImaging.world.2.appended after.world.2) 0 := by
    refine ⟨?_, fun index different => ?_⟩
    · rw [Bytes.size_overwrite, if_neg (by decide)]
      change max _ (0 + 1) = _
      omega
    · rw [Bytes.byteAt_overwrite] at different
      split at different
      next inside =>
        change _ ∧ index < 0 + 1 at inside
        omega
      next => exact absurd rfl different
  have different : Bytes.overwrite (sampleImaging.world.2.appended after.world.2) 0 ⟨#[0]⟩ ≠
      sampleImaging.world.2.appended after.world.2 := by
    intro same
    have first := congrArg (Bytes.byteAt · 0) same
    simp only [Bytes.byteAt_overwrite, magic] at first
    cases first
  obtain ⟨detected, cut⟩ := damage_detected Probed.sample wrote
  obtain ⟨first, damage, found⟩ := detected rfl (by decide) _ 0 window different
  obtain ⟨failure, final, refused, betrays⟩ := found {} (sampleRestoring _) rfl (Bytes.extract_eq_self (Nat.le_refl _))
  have early := window.window first damage.differ
  refine ⟨summary, after, wrote, ⟨failure, final, refused, ?_⟩, ?_⟩
  · refine (betrays (sampleRestoring_restorable _) rfl).head ?_
    change first < 98
    omega
  · exact cut 1 (by omega) {} (sampleRestoring _) (Bytes.extract_eq_self (Nat.le_refl _))

end Transfer

end BlockImage
