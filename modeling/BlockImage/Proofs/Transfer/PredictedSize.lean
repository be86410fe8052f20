import BlockImage.Proofs.Image.Info
import BlockImage.Proofs.Transfer.Detection

/-!
# The predicted size of an image

The size of an image is computed from head and bitmap before a byte of it is written. Whenever imaging ends without
failure, that many bytes were put, the data begins where the layout says, and as many tags were written as the formula
counts. Those who tell of the image or restore it count groups and tags in their own ways and come to the same size.
-/
namespace BlockImage.Transfer

variable {descriptor : Descriptor} {bitmap : Bitmap} {blocks : List ByteArray}

/-- Tags are written if the algorithm has any, and without groups there are none to count. -/
theorem writtenTags_eq (config : Config) (count : Nat) : writtenTags config count =
    if 0 < config.checksum.tagSize then Layout.tagCount count config.blocksPerChecksum.toNat else 0 := by
  have tagged : (imageOptions config).tagged =
      (decide (0 < config.blocksPerChecksum.toNat) && decide (0 < config.checksum.tagSize)) := rfl
  rw [writtenTags, tagged]
  by_cases grouped : 0 < config.blocksPerChecksum.toNat
  · simp [grouped]
  · have ungrouped : config.blocksPerChecksum.toNat = 0 := Nat.eq_zero_of_not_pos grouped
    simp [ungrouped, Layout.tagCount]

/-- Behind its front an image holds the data. -/
theorem extract_data (config : Config) (total : bitmap.total = descriptor.totalBlocks.toNat) :
    (Layout.image (imageOptions config) descriptor bitmap blocks).extract
        (Layout.dataOffset descriptor.totalBlocks.toNat .bit)
        (Layout.image (imageOptions config) descriptor bitmap blocks).size =
      Layout.data (imageOptions config) blocks := by
  have front : (Layout.front (imageOptions config) descriptor bitmap).size =
      Layout.dataOffset descriptor.totalBlocks.toNat .bit := Layout.size_front _ total
  rw [Layout.image_eq, ByteArray.size_append, ← front]
  exact ByteArray.extract_append_eq_right rfl rfl

/-- What is told of an image on a device is that it has its own size, and how many blocks its bitmap marks. -/
theorem readInfo_of_image {config : Config} (probed : Probed descriptor bitmap)
    {grants : Nat → Bool} (room : grants (bitmapSize bitmap.total))
    (length : blocks.length = (Head.written config descriptor).total)
    (sizes : ∀ block ∈ blocks, block.size = (Head.written config descriptor).width) {device : Device}
    (steady : device.faults.Steady)
    (stands : device.view.left = Layout.image (imageOptions config) descriptor bitmap blocks) (tolerate : Bool) :
    ∃ info after, Device.source.toStream.readInfo tolerate grants device = .ok info after ∧
      info.expectedSize = device.view.left.size ∧ info.countedBlocks = bitmap.count := by
  have front : Image.front grants device.view.left = .ok (.written config descriptor, bitmap) := by
    rw [stands, Layout.image_eq]
    exact Image.front_written probed room _
  obtain ⟨info, after, told, same, _⟩ :=
    (Device.source_reads_steady.toReads.readInfo front steady tolerate).exists_ok
  have size : info.expectedSize = Layout.imageSize descriptor (imageOptions config) :=
    ImageInfo.expectedSize_of_opened same
  have marked : bitmap = info.bitmap := congrArg Prod.snd same
  refine ⟨info, after, told, ?_, ?_⟩
  · rw [size, stands, size_image probed length sizes]
  · rw [marked, ImageInfo.countedBlocks]

section Restoring

variable {config : Config} {restorer : Owner} {back : Run (Device × Device)}

/-- However the devices fail, a restore that ends without failure has read the whole image. -/
theorem readAndRestore_consumes (probed : Probed descriptor bitmap)
    (stands : back.world.1.view.left = Layout.image (imageOptions config) descriptor bitmap blocks) {summary : Summary}
    {final : Run (Device × Device)}
    (restored : readAndRestore restorer Device.source.ofFirst.toStream Device.target.ofSecond back = .ok summary final) :
    final.world.1.view = back.world.1.view.skip (Layout.imageSize descriptor (imageOptions config)) := by
  let excused : Error → Prop := fun _ => True
  have unread (offset : Nat) (cause : IoError) (_ : True) : excused (.read offset cause) := trivial
  have unwritten (offset : Nat) (cause : IoError) (_ : True) : excused (.write offset cause) := trivial
  have reads := Device.source_ofFirst_reads_all back.world.1.bytes
  have writes := Device.target_ofSecond_writes_beside back.world.1.bytes
  obtain ⟨⟨head, marked⟩, opened, taken, finished⟩ := bind_eq_ok.mp restored
  have opens := readImage_leads reads.toReads unread (fun _ => trivial) back rfl
  obtain ⟨front, frame, moved, _⟩ := opens.of_ok taken
  -- What was opened are the head and the bitmap that were written.
  rw [stands, Layout.image_eq] at front
  cases Image.eq_of_front_written probed front
  have spares : restorer.Spares excused opened.running := .inl trivial
  have measured : Measured (Head.written config descriptor).descriptor bitmap := probed.measured
  have restores := restoreBlocks_leads reads.toReads writes unread unwritten measured opened frame.kept spares
    fun _ _ _ => trivial
  obtain ⟨_, done⟩ := restores.of_ok finished
  rw [done.input, moved, View.skip_skip, imageSize_written]
  rfl

/-- Where nothing stands in the way, an image that was written is restored. -/
theorem readAndRestore_of_restorable (probed : Probed descriptor bitmap)
    (ready : Restorable restorer back.session.config back.grants (.written config descriptor) bitmap back.world.1
      back.world.2)
    (running : back.running = true) (length : blocks.length = (Head.written config descriptor).total)
    (sizes : ∀ block ∈ blocks, block.size = (Head.written config descriptor).width)
    (stands : back.world.1.view.left = Layout.image (imageOptions config) descriptor bitmap blocks) :
    ∃ summary final,
      readAndRestore restorer Device.source.ofFirst.toStream Device.target.ofSecond back = .ok summary final := by
  obtain ⟨opened, answered, _, _, same, still, data⟩ := readImage_of_restorable probed ready stands
  obtain ⟨summary, final, finished, _⟩ := restoreBlocks_of_restorable probed still (same.trans running)
    (length.trans probed.verifiedBlocks) sizes data
  exact ⟨summary, final, bind_eq_ok.mpr ⟨_, opened, answered, finished⟩⟩

end Restoring

/-- Whenever imaging ends without failure, as many bytes were put as was predicted, the data begins where the layout
says, and the tags are those of the formula. What is told of the image is its size and how many blocks are marked. A
restore that ends without failure has read all of it, and where nothing stands in the way, it does. -/
theorem image_size_is_predicted {σ : Type} {owner : Owner} {source : Source σ} {run after : Run (σ × Device)}
    {summary : Summary} (probed : Probed descriptor bitmap)
    (wrote : writeImage owner source.ofFirst Device.target.ofSecond.toSink descriptor bitmap run = .ok summary after) :
    ∃ image : ByteArray, after.world.2.view = run.world.2.view.put image ∧
      image.size = Layout.imageSize descriptor (imageOptions run.session.config) ∧
      (∃ blocks, blocks.length = bitmap.count ∧ (∀ block ∈ blocks, block.size = descriptor.blockSize.toNat) ∧
        image.extract (Layout.dataOffset descriptor.totalBlocks.toNat .bit) image.size =
          Layout.data (imageOptions run.session.config) blocks) ∧
      summary.tags = run.session.summary.tags +
        (if 0 < run.session.config.checksum.tagSize then
          Layout.tagCount descriptor.verifiedBlocks.toNat run.session.config.blocksPerChecksum.toNat
        else 0) ∧
      (∀ (device : Device) (tolerate : Bool) (grants : Nat → Bool), device.faults.Steady → device.view.left = image →
        grants (bitmapSize bitmap.total) →
        ∃ info last, Device.source.toStream.readInfo tolerate grants device = .ok info last ∧
          info.expectedSize = image.size ∧ info.countedBlocks = bitmap.count) ∧
      ∀ (restorer : Owner) (back : Run (Device × Device)), back.world.1.view.left = image →
        (∀ restored final,
          readAndRestore restorer Device.source.ofFirst.toStream Device.target.ofSecond back = .ok restored final →
          final.world.1.view = back.world.1.view.skip image.size) ∧
        (Restorable restorer back.session.config back.grants (.written run.session.config descriptor) bitmap
            back.world.1 back.world.2 → back.running = true →
          ∃ restored final,
            readAndRestore restorer Device.source.ofFirst.toStream Device.target.ofSecond back =
              .ok restored final) := by
  obtain ⟨blocks, length, sizes, placed, tags⟩ := wrote_of_writeImage probed wrote
  have size := size_image probed length sizes
  refine ⟨Layout.image (imageOptions run.session.config) descriptor bitmap blocks, placed, size, ?_, ?_, ?_, ?_⟩
  · refine ⟨blocks, ?_, sizes, extract_data _ probed.total⟩
    rw [length, bitmap.count_eq_length_marked]
    exact probed.verifiedBlocks
  · rw [tags, writtenTags_eq]
    rfl
  · intro device tolerate grants steady stands room
    rw [← stands]
    exact readInfo_of_image probed room length sizes steady stands tolerate
  · intro restorer back stands
    constructor
    · intro restored final finished
      rw [size]
      exact readAndRestore_consumes probed stands finished
    · intro ready running
      exact readAndRestore_of_restorable probed ready running length sizes stands

theorem image_size_is_predicted_sample : ∃ summary after image,
    writeImage {} Device.source.ofFirst Device.target.ofSecond.toSink .sample .sample sampleImaging = .ok summary after ∧
      after.world.2.view = sampleImaging.world.2.view.put image ∧ image.size = 113 ∧ summary.tags = 2 ∧
      (∃ info last,
        Device.source.toStream.readInfo false addressable { bytes := image, faults := .short 3 } = .ok info last ∧
          info.expectedSize = 113 ∧ info.countedBlocks = 2) ∧
      ∃ restored final,
        readAndRestore {} Device.source.ofFirst.toStream Device.target.ofSecond (sampleRestoring image) =
          .ok restored final ∧
        final.world.1.position = 113 := by
  obtain ⟨summary, after, wrote, _⟩ := writeImage_of_imageable sampleImaging sampleImaging_imageable rfl
  obtain ⟨image, placed, size, _, tags, told, restores⟩ := image_size_is_predicted Probed.sample wrote
  have predicted : Layout.imageSize .sample (imageOptions sampleImaging.session.config) = 113 := by decide
  rw [predicted] at size
  have stands : ({ bytes := image, faults := .short 3 } : Device).view.left = image :=
    Bytes.extract_eq_self (Nat.le_refl _)
  obtain ⟨info, last, taken, expected, counted⟩ :=
    told { bytes := image, faults := .short 3 } false addressable (Faults.short_steady (by decide)) stands (by decide)
  obtain ⟨consumes, succeeds⟩ := restores {} (sampleRestoring image) stands
  obtain ⟨restored, final, finished⟩ := succeeds (sampleRestoring_restorable image) rfl
  refine ⟨summary, after, image, wrote, placed, size, tags, ?_, restored, final, finished, ?_⟩
  · refine ⟨info, last, taken, expected.trans size, counted.trans ?_⟩
    decide
  · have moved := congrArg View.position (consumes restored final finished)
    rw [size] at moved
    exact moved

end BlockImage.Transfer
