import BlockImage.Proofs.Transfer.Copying
import BlockImage.Proofs.Transfer.ImagingContent

/-!
# Rescue loses only unreadable sectors

With rescue neither imaging nor copying fails with a read. Both transfer what is rescued of the device, and count its lost
sectors as bad. Where blocks consist of whole sectors, what is lost does not depend on the size of the buffer.
-/
namespace BlockImage

/-- Each marked block as a chunk of its own. -/
def Bitmap.singles (bitmap : Bitmap) : List Chunk := bitmap.marked.map fun block => ⟨block, 1⟩

theorem Bitmap.singles_ascending (bitmap : Bitmap) :
    bitmap.singles.Pairwise fun chunk later => chunk.stop ≤ later.first := by
  rw [singles, List.pairwise_map]
  exact (bitmap.markedFrom_ascending 0).imp fun below => below

namespace Transfer

/-! ### Devices with bad places -/

/-- Of some chunks `content` holds what a device with bad places does, with zeros for the sectors that cannot be read. -/
structure Rescues (bytes : ByteArray) (bad : Nat → Bool) (width : Nat) (chunks : List Chunk) (content : ByteArray) :
    Prop where
  whole : ∀ chunk ∈ chunks, readable bytes.size bad (chunk.first * width) (chunk.count * width) = true →
    content.extract (chunk.first * width) (chunk.stop * width) =
      bytes.extract (chunk.first * width) (chunk.stop * width)
  sectors : ∀ chunk ∈ chunks, ∀ sector ∈ sectors (chunk.count * width),
    content.extract (chunk.first * width + sector.1) (chunk.first * width + sector.1 + sector.2) =
      if readable bytes.size bad (chunk.first * width + sector.1) sector.2 then
        bytes.extract (chunk.first * width + sector.1) (chunk.first * width + sector.1 + sector.2)
      else Bytes.zeros sector.2

theorem rescues_rescued {bytes : ByteArray} {size width : Nat} {bad : Nat → Bool} {chunks : List Chunk}
    (ascending : chunks.Pairwise fun chunk later => chunk.stop ≤ later.first)
    (inside : ∀ chunk ∈ chunks, chunk.stop * width ≤ size) :
    Rescues bytes bad width chunks (rescued bytes size bad width chunks) := by
  have within (chunk : Chunk) (member : chunk ∈ chunks) : chunk.stop * width ≤ (Bytes.padded bytes size).size := by
    rw [Bytes.size_padded]
    exact Nat.le_trans (inside chunk member) (Nat.le_max_right _ _)
  constructor
  · exact fun chunk member => extract_rescued_of_readable ascending member (within chunk member)
  · exact fun chunk member sector among => extract_rescued ascending member (within chunk member) among

section

variable {σ : Type}

/-- Imaging never fails with a read, and writes the image of `content` as far as it comes. -/
structure ImagesContent (owner : Owner) (source : Source σ) (descriptor : Descriptor) (bitmap : Bitmap)
    (content : ByteArray) (lost : Nat) (start : Run (σ × Device)) : Prop where
  through : ∀ summary after,
    writeImage owner source.ofFirst Device.target.ofSecond.toSink descriptor bitmap start = .ok summary after →
      after.world.2.view = start.world.2.view.put (imageOf start.session.config descriptor bitmap content) ∧
      summary.badSectors = start.session.summary.badSectors + lost
  broken : ∀ failure after,
    writeImage owner source.ofFirst Device.target.ofSecond.toSink descriptor bitmap start = .error failure after →
      (∀ offset cause, failure ≠ .read offset cause) ∧ ∃ front,
        Bytes.StartsWith (imageOf start.session.config descriptor bitmap content) front ∧
        after.world.2.view = start.world.2.view.put front
  succeeds : LeftAlone owner start (imagingBuffers start.session.config descriptor.blockSize.toNat) →
    start.world.2.faults.Steady → ∃ summary after,
      writeImage owner source.ofFirst Device.target.ofSecond.toSink descriptor bitmap start = .ok summary after

/-- Copying never fails with a read, and lays `content` over the target as far as it comes. -/
structure CopiesContent (owner : Owner) (source : Source σ) (descriptor : Descriptor) (bitmap : Bitmap)
    (content : ByteArray) (lost : Nat) (start : Run (σ × Device)) : Prop where
  through : ∀ summary after,
    copyPartition owner source.ofFirst Device.target.ofSecond descriptor bitmap start = .ok summary after →
      Laid descriptor.blockSize.toNat content start.world.2.bytes (copyAttempts descriptor bitmap content start)
        after.world.2.bytes ∧
      summary.badSectors = start.session.summary.badSectors + lost
  broken : ∀ failure after,
    copyPartition owner source.ofFirst Device.target.ofSecond descriptor bitmap start = .error failure after →
      (∀ offset cause, failure ≠ .read offset cause) ∧ ∃ passed left,
        bitmap.chunks (start.session.config.chunkCapacity descriptor.blockSize.toNat) = passed ++ left ∧
        Laid descriptor.blockSize.toNat content start.world.2.bytes
          (attempts descriptor.blockSize.toNat content passed start.world.2) after.world.2.bytes
  succeeds : LeftAlone owner start (copyingBuffers start.session.config descriptor.blockSize.toNat) →
    (∀ call, start.world.2.faults.onSync call = none) → Exact owner source descriptor bitmap content start

variable {source : Source σ} {kept : σ → Prop} {content : ByteArray} {lost : Chunk → List (Nat × Nat)} {owner : Owner}
  {descriptor : Descriptor} {bitmap : Bitmap} {start : Run (σ × Device)}
  (gives : (source.ofFirst : Source (σ × Device)).GivesContent (fun world => kept world.1) Prod.snd start.session.config
    descriptor.blockSize.toNat
    (· ∈ bitmap.chunks (start.session.config.chunkCapacity descriptor.blockSize.toNat)) content lost)
  (inside : ∀ chunk ∈ bitmap.chunks (start.session.config.chunkCapacity descriptor.blockSize.toNat),
    chunk.stop * descriptor.blockSize.toNat ≤ content.size)
  (held : kept start.world.1)

include gives inside held

theorem imagesContent_of_givesContent (wide : 0 < descriptor.blockSize.toNat) :
    ImagesContent owner source descriptor bitmap content
      ((bitmap.chunks (start.session.config.chunkCapacity descriptor.blockSize.toNat)).flatMap lost).length start := by
  have writes : Device.target.ofSecond.Writes (fun world : σ × Device => kept world.1 ∧ True) (fun world => world.2.view)
      (fun _ => ()) fun _ => True :=
    Device.target_ofSecond_writes (fun world _ => world.2.faults.within_all) (fun _ _ held _ => held) fun _ _ => rfl
  have leads := @writeImage_leads_of_content _ _ _ _ _ _ owner (fun failure => ∀ offset cause, failure ≠ .read offset cause)
    _ _ descriptor bitmap content lost start writes.toWrites nofun (gives.beside (fun _ => True) Device.view) inside wide
    ⟨held, trivial⟩ (.inl nofun) nofun
  constructor
  · exact fun summary after is => leads.of_ok is
  · exact fun failure after is => leads.of_error is
  · intro alone steady
    have writes : Device.target.ofSecond.Writes (fun world : σ × Device => kept world.1 ∧ world.2.faults.Steady)
        (fun world => world.2.view) (fun _ => ()) fun _ => False :=
      Device.target_ofSecond_writes (fun world held => held.2.within _)
        (fun _ _ held same => ⟨held.1, same ▸ held.2⟩) fun _ _ => rfl
    have leads := @writeImage_leads_of_content _ _ _ _ _ _ owner (fun _ => False) _ _ descriptor bitmap content lost start
      writes.toWrites (fun _ _ fault => fault) (gives.beside (fun device => device.faults.Steady) Device.view) inside wide
      ⟨held, steady⟩ (.inr ⟨alone.quiet, alone.running⟩)
      fun size member refused => absurd (alone.granted size member) refused
    obtain ⟨summary, after, is, _⟩ := (leads.mono (fun _ _ done => done) fun _ _ broke => broke.1).exists_ok
    exact ⟨summary, after, is⟩

theorem copiesContent_of_givesContent :
    CopiesContent owner source descriptor bitmap content
      ((bitmap.chunks (start.session.config.chunkCapacity descriptor.blockSize.toNat)).flatMap lost).length start := by
  have ascending := bitmap.chunks_ascending (start.session.config.chunkCapacity descriptor.blockSize.toNat)
  have leads := @copyPartition_leads σ kept owner (fun failure => ∀ offset cause, failure ≠ .read offset cause) descriptor
    content lost start source _ bitmap gives rfl held (.inl nofun) nofun nofun
  constructor
  · intro summary after is
    obtain ⟨_, _, badSectors, bytes, _⟩ := leads.of_ok is
    refine ⟨?_, badSectors⟩
    rw [bytes]
    exact laid_attempts ascending inside start.world.2
  · intro failure after is
    obtain ⟨⟨passed, left, split, bytes⟩, ended⟩ := leads.of_error is
    refine ⟨?_, passed, left, split, ?_⟩
    · rcases ended with allowed | gaveUp
      · exact allowed
      · obtain ⟨_, _, _, _, _, _, _, rfl, _⟩ := gaveUp.first
        nofun
    · rw [bytes]
      rw [split] at ascending inside
      exact laid_attempts (List.pairwise_append.mp ascending).1
        (fun chunk member => inside chunk (List.mem_append_left _ member)) start.world.2
  · intro alone syncs
    exact exact_of_givesContent gives held inside alone syncs

end

/-- What a session with rescue brings in of the allocated blocks of a device with bad places. -/
def rescuedContent (config : Config) (descriptor : Descriptor) (bitmap : Bitmap) (bytes : ByteArray)
    (bad : Nat → Bool) : ByteArray :=
  rescued bytes (bitmap.total * descriptor.blockSize.toNat) bad descriptor.blockSize.toNat
    (bitmap.chunks (config.chunkCapacity descriptor.blockSize.toNat))

/-- How many sectors it loses of them. -/
def lostCount (config : Config) (descriptor : Descriptor) (bitmap : Bitmap) (bytes : ByteArray) (bad : Nat → Bool) :
    Nat :=
  (lostSectors bytes.size bad descriptor.blockSize.toNat
    (bitmap.chunks (config.chunkCapacity descriptor.blockSize.toNat))).length

/-- Where blocks consist of whole sectors, the same is lost block by block as with chunks of any capacity. -/
theorem lostSectors_singles {size width : Nat} {bad : Nat → Bool} (aligned : Config.sectorSize ∣ width) (bitmap : Bitmap)
    (capacity : Nat) : lostSectors size bad width (bitmap.chunks capacity) =
      lostSectors size bad width bitmap.singles := by
  rw [lostSectors_eq_flatMap aligned, lostSectors, Bitmap.singles, List.flatMap_map]
  congr 1
  funext block
  rw [Nat.one_mul]

theorem rescued_singles {bytes : ByteArray} {size width : Nat} {bad : Nat → Bool} (aligned : Config.sectorSize ∣ width)
    (bitmap : Bitmap) (capacity : Nat) : rescued bytes size bad width (bitmap.chunks capacity) =
      rescued bytes size bad width bitmap.singles := by
  rw [rescued, lostSectors_singles aligned, rescued]

/-- With rescue a device with bad places is transferred but for its unreadable sectors, for which there are zeros, and
these are counted. Where blocks consist of whole sectors, these are the same for every size of the buffer. -/
theorem rescue_loses_only_unreadable_sectors {σ : Type} {source : Source σ} {kept : σ → Prop} {bytes : ByteArray}
    {bad : Nat → Bool} (outside : source.ReadsOutside kept bytes bad) (owner : Owner) {descriptor : Descriptor}
    (wide : 0 < descriptor.blockSize.toNat) (bitmap : Bitmap) {start : Run (σ × Device)} (held : kept start.world.1)
    (rescues : start.session.config.rescue = true) :
    Rescues bytes bad descriptor.blockSize.toNat
        (bitmap.chunks (start.session.config.chunkCapacity descriptor.blockSize.toNat))
        (rescuedContent start.session.config descriptor bitmap bytes bad) ∧
      ImagesContent owner source descriptor bitmap (rescuedContent start.session.config descriptor bitmap bytes bad)
        (lostCount start.session.config descriptor bitmap bytes bad) start ∧
      CopiesContent owner source descriptor bitmap (rescuedContent start.session.config descriptor bitmap bytes bad)
        (lostCount start.session.config descriptor bitmap bytes bad) start ∧
      (Config.sectorSize ∣ descriptor.blockSize.toNat → ∀ bufferSize,
        let config := { start.session.config with bufferSize }
        rescuedContent config descriptor bitmap bytes bad =
            rescuedContent start.session.config descriptor bitmap bytes bad ∧
          imageOf config descriptor bitmap (rescuedContent config descriptor bitmap bytes bad) =
            imageOf start.session.config descriptor bitmap
              (rescuedContent start.session.config descriptor bitmap bytes bad) ∧
          lostCount config descriptor bitmap bytes bad =
            (lostSectors bytes.size bad descriptor.blockSize.toNat bitmap.singles).length ∧
          Rescues bytes bad descriptor.blockSize.toNat bitmap.singles
            (rescuedContent config descriptor bitmap bytes bad)) := by
  let width := descriptor.blockSize.toNat
  let chunks := bitmap.chunks (start.session.config.chunkCapacity width)
  have ascending := bitmap.chunks_ascending (start.session.config.chunkCapacity width)
  have below {block : Nat} (marks : bitmap.get block = true) : (block + 1) * width ≤ bitmap.total * width :=
    Nat.mul_le_mul_right _ (Bitmap.lt_total_of_get marks)
  have inside : ∀ chunk ∈ chunks, chunk.stop * width ≤ bitmap.total * width := by
    intro chunk member
    obtain ⟨block, marks, last⟩ := Bitmap.exists_last_of_mem_chunks member
    exact last ▸ below marks
  have gives := @givesContent_rescued (bitmap.total * width) width bad chunks σ Device source kept bytes outside
    start.session.config ascending
    (fun chunk member => by rw [Bytes.size_padded]; exact Nat.le_trans (inside chunk member) (Nat.le_max_right _ _))
    fun _ _ => .inr rescues
  have within : ∀ chunk ∈ chunks, chunk.stop * width ≤
      (rescuedContent start.session.config descriptor bitmap bytes bad).size :=
    fun chunk member => Nat.le_trans (inside chunk member) (size_le_size_rescued bytes)
  have same (aligned : Config.sectorSize ∣ width) (bufferSize : Nat) :
      rescuedContent { start.session.config with bufferSize } descriptor bitmap bytes bad =
        rescuedContent start.session.config descriptor bitmap bytes bad := by
    rw [rescuedContent, rescued_singles aligned, rescuedContent, rescued_singles aligned]
  refine ⟨rescues_rescued ascending inside, imagesContent_of_givesContent gives within held wide,
    copiesContent_of_givesContent gives within held, fun aligned bufferSize => ⟨same aligned bufferSize, ?_, ?_, ?_⟩⟩
  · exact congrArg (imageOf start.session.config descriptor bitmap) (same aligned bufferSize)
  · rw [lostCount, lostSectors_singles aligned]
  · rw [rescuedContent, rescued_singles aligned]
    refine rescues_rescued bitmap.singles_ascending fun chunk member => ?_
    obtain ⟨block, marked, rfl⟩ := List.mem_map.mp member
    exact below (Bitmap.mem_marked.mp marked)

/-- A device of two blocks of two sectors each, of which one byte cannot be read. -/
def sampleSpoilt : Device where
  bytes := Bytes.zeros 2048
  faults := ({ unreadable := [⟨700, 701⟩] } : BadMedium).faults

/-- A session that images it with rescue. -/
def sampleRescuing : Run (Device × Device) where
  session := { direction := .toImage, config := { rescue := true } }
  world := (sampleSpoilt, { bytes := ByteArray.empty, faults := .short 100 })

theorem rescue_loses_one_sector_sample : ∃ summary after,
    writeImage {} Device.source.ofFirst Device.target.ofSecond.toSink (.ofGeometry "sample" 1024 2 2)
        (.ofPred 2 fun _ => true) sampleRescuing = .ok summary after ∧ summary.badSectors = 1 := by
  have medium : ({ unreadable := [⟨700, 701⟩] } : BadMedium).faults.SpoiltAt
      ({ unreadable := [⟨700, 701⟩] } : BadMedium).spoils := BadMedium.faults_spoiltAt (by decide) nofun
  have outside := Device.readsOutside medium (Bytes.zeros 2048)
  obtain ⟨_, images, _, _⟩ := @rescue_loses_only_unreadable_sectors _ _ _ _ _ outside {} (.ofGeometry "sample" 1024 2 2)
    (by decide) (.ofPred 2 fun _ => true) sampleRescuing ⟨rfl, rfl⟩ rfl
  have alone : LeftAlone {} sampleRescuing (imagingBuffers sampleRescuing.session.config 1024) :=
    ⟨Owner.quiet_default, rfl, by decide⟩
  obtain ⟨summary, after, is⟩ := images.succeeds alone (Faults.short_steady (by decide))
  exact ⟨summary, after, is, (images.through summary after is).2.trans (by decide +kernel)⟩

end Transfer

end BlockImage
